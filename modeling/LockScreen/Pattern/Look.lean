namespace LockScreen.Pattern

inductive Look where
  | textStart
  | textEnd
  | lineStart
  | lineEnd
  | returnStart
  | returnEnd
  | wordEdge
  | noWordEdge
  | wordStart
  | wordEnd
  | wordStartHalf
  | wordEndHalf
deriving DecidableEq, Repr

def isWordCharacter (c : Char) : Bool :=
  c.isAlphanum || c = '_'

def Look.holds (look : Look) (before behind : Option Char) : Bool :=
  let wordBefore := before.any isWordCharacter
  let wordBehind := behind.any isWordCharacter
  match look with
  | textStart => before.isNone
  | textEnd => behind.isNone
  | lineStart => before.isNone || before = some '\n'
  | lineEnd => behind.isNone || behind = some '\n'
  | returnStart =>
    before.isNone || before = some '\n' || (before = some '\r' && behind ≠ some '\n')
  | returnEnd => behind.isNone || behind = some '\r' || (behind = some '\n' && before ≠ some '\r')
  | wordEdge => wordBefore != wordBehind
  | noWordEdge => wordBefore == wordBehind
  | wordStart => !wordBefore && wordBehind
  | wordEnd => wordBefore && !wordBehind
  | wordStartHalf => !wordBefore
  | wordEndHalf => !wordBehind

end LockScreen.Pattern
