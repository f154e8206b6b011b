import LockScreen.Pattern.Expression
import LockScreen.Pattern.Fault
import LockScreen.Pattern.Tree

namespace LockScreen.Pattern

structure Mode where
  caseless : Bool
  multiLine : Bool
  dotAll : Bool
  swapGreed : Bool
  unicode : Bool
  carriageReturns : Bool
deriving DecidableEq, Repr

namespace Mode

def usual : Mode := ⟨false, false, false, false, true, false⟩

def set (mode : Mode) (setting : Flag × Bool) : Mode :=
  match setting.1 with
  | .caseless => { mode with caseless := setting.2 }
  | .multiLine => { mode with multiLine := setting.2 }
  | .dotAll => { mode with dotAll := setting.2 }
  | .unicode => { mode with unicode := setting.2 }
  | .carriageReturns => { mode with carriageReturns := setting.2 }
  | .swapGreed => { mode with swapGreed := setting.2 }
  | .spacious => mode

def setAll (mode : Mode) (settings : FlagSettings) : Mode :=
  settings.foldl set mode

end Mode

def refusal {α : Type} (reason : Reason) (span : Span) : Except Fault α :=
  .error ⟨reason, span, none⟩

def AsciiClass.set : AsciiClass → CharSet
  | alnum => .ofPairs [('0', '9'), ('A', 'Z'), ('a', 'z')]
  | alpha => .ofPairs [('A', 'Z'), ('a', 'z')]
  | ascii => .ofPairs [('\x00', '\x7f')]
  | blank => .ofPairs [('\t', '\t'), (' ', ' ')]
  | cntrl => .ofPairs [('\x00', '\x1f'), ('\x7f', '\x7f')]
  | digit => .ofPairs [('0', '9')]
  | graph => .ofPairs [('!', '~')]
  | lower => .ofPairs [('a', 'z')]
  | print => .ofPairs [(' ', '~')]
  | punct => .ofPairs [('!', '/'), (':', '@'), ('[', '`'), ('\x7b', '~')]
  | space => .ofPairs [('\t', '\r'), (' ', ' ')]
  | upper => .ofPairs [('A', 'Z')]
  | word => .ofPairs [('0', '9'), ('A', 'Z'), ('_', '_'), ('a', 'z')]
  | xdigit => .ofPairs [('0', '9'), ('A', 'F'), ('a', 'f')]

def Shorthand.asciiClass : Shorthand → AsciiClass
  | digit => .digit
  | space => .space
  | word => .word

structure ClassSet where
  set : CharSet
  /-- Whether it is known that no letter is in it without that of the other case. -/
  closed : Bool

namespace ClassSet

def empty : ClassSet := ⟨.empty, true⟩

def add (cls : ClassSet) (set : CharSet) : ClassSet := ⟨cls.set.union set, false⟩

def union (cls other : ClassSet) : ClassSet :=
  if other.set.isEmpty ∨ cls.set = other.set then cls
  else ⟨cls.set.union other.set, cls.closed && other.closed⟩

def intersection (cls other : ClassSet) : ClassSet :=
  if cls.set.isEmpty then cls
  else if other.set.isEmpty then empty
  else ⟨cls.set.intersection other.set, cls.closed && other.closed⟩

def difference (cls other : ClassSet) : ClassSet :=
  if cls.set.isEmpty ∨ other.set.isEmpty then cls
  else ⟨cls.set.difference other.set, cls.closed && other.closed⟩

def symmetricDifference (cls other : ClassSet) : ClassSet :=
  (cls.union other).difference (cls.intersection other)

def complement (cls : ClassSet) : ClassSet :=
  ⟨cls.set.complement, cls.closed || cls.set.isEmpty⟩

end ClassSet

namespace Meaning

def folded (mode : Mode) (span : Span) (cls : ClassSet) : Except Fault ClassSet :=
  if !mode.caseless || cls.closed then .ok cls
  else if !mode.unicode then .ok ⟨cls.set.eitherCase, true⟩
  else if cls.set.isEmpty then .ok .empty
  else refusal .caselessUnicode span

def bounded (mode : Mode) (span : Span) (cls : ClassSet) : Except Fault ClassSet :=
  if !mode.unicode && !cls.set.isAscii then refusal .invalidUtf8 span else .ok cls

def finished (mode : Mode) (span : Span) (negated : Bool) (cls : ClassSet) :
    Except Fault ClassSet := do
  let cls ← folded mode span cls
  bounded mode span (if negated then cls.complement else cls)

def asciiClass (mode : Mode) (span : Span) (kind : AsciiClass) (negated : Bool) :
    Except Fault ClassSet :=
  finished mode span negated ⟨kind.set, false⟩

def shorthand (mode : Mode) (span : Span) (kind : Shorthand) (negated : Bool) :
    Except Fault ClassSet :=
  let cls : ClassSet := ⟨kind.asciiClass.set, false⟩
  if mode.unicode then refusal .unknownShorthand span
  else bounded mode span (if negated then cls.complement else cls)

def plainName (name : List Char) : List Char :=
  let plain (text : List Char) : List Char :=
    (text.filter fun c => c.toNat < 0x80 && !" _-".toList.contains c).map Char.toLower
  match name with
  | 'i' :: 's' :: rest | 'I' :: 'S' :: rest | 'i' :: 'S' :: rest | 'I' :: 's' :: rest =>
    if plain rest = ['c'] then ['i', 's', 'c'] else plain rest
  | name => plain name

def valueNames : List (List Char) := [['c', 'f'], ['s', 'c'], ['l', 'c']]

def property (mode : Mode) (span : Span) (property : Property) : Except Fault ClassSet :=
  if !mode.unicode then refusal .unicodeClass span
  else
    match property with
    | .named name =>
      if valueNames.contains (plainName name) then refusal .unknownPropertyValue span
      else refusal .unknownProperty span
    | .valued .. => refusal .unknownProperty span

/-- Without Unicode, a byte that is no character of ASCII is half a character. -/
def checkByte (mode : Mode) (literal : Literal) : Except Fault Unit :=
  if !mode.unicode && literal.byte && 0x80 ≤ literal.char.toNat then
    refusal .invalidUtf8 literal.span
  else .ok ()

def member (mode : Mode) (literal : Literal) : Except Fault Char := do
  checkByte mode literal
  if !mode.unicode && 0x80 ≤ literal.char.toNat then refusal .unicodeClass literal.span
  return literal.char

def combined (mode : Mode) (operation : SetOperation) (left right : Span × ClassSet) :
    Except Fault ClassSet := do
  let other ← folded mode right.1 right.2
  let cls ← folded mode left.1 left.2
  match operation with
  | .intersection => return cls.intersection other
  | .difference => return cls.difference other
  | .symmetricDifference => return cls.symmetricDifference other

mutual

def addTo (mode : Mode) (cls : ClassSet) : ClassTree → Except Fault ClassSet
  | .empty _ => return cls
  | .literal literal => return cls.add (.single (← member mode literal))
  | .range _ first last => do
    let lowest ← member mode first
    let highest ← member mode last
    return cls.add (.between lowest highest)
  | .ascii span kind negated => return cls.union (← asciiClass mode span kind negated)
  | .property span asked _ => return cls.union (← property mode span asked)
  | .shorthand span kind negated => return cls.union (← shorthand mode span kind negated)
  | .bracketed span negated inside => do
    return cls.union (← finished mode span negated (← addTo mode .empty inside))
  | .union _ items => addAllTo mode cls items
  | .operation _ operation left right => do
    let first ← addTo mode .empty left
    let second ← addTo mode .empty right
    return cls.union (← combined mode operation (left.span, first) (right.span, second))

def addAllTo (mode : Mode) (cls : ClassSet) : List ClassTree → Except Fault ClassSet
  | [] => return cls
  | item :: rest => do addAllTo mode (← addTo mode cls item) rest

end

def oneOf (mode : Mode) (cls : ClassSet) : Expression :=
  .ofSet (!mode.unicode) cls.set

def literal (mode : Mode) (literal : Literal) : Except Fault Expression := do
  checkByte mode literal
  if !mode.caseless then return .literal [literal.char]
  return oneOf mode (← folded mode literal.span ⟨.single literal.char, false⟩)

def dot (mode : Mode) (span : Span) : Except Fault Expression :=
  if !mode.unicode then refusal .invalidUtf8 span
  else if mode.dotAll then .ok (.ofSet false (.allBut []))
  else if mode.carriageReturns then .ok (.ofSet false (.allBut ['\n', '\r']))
  else .ok (.ofSet false (.allBut ['\n']))

def edge (mode : Mode) (look : Look) : Expression :=
  if mode.unicode then .foreign look else .look look

def assertion (mode : Mode) : Assertion → Expression
  | .lineStart =>
    .look (if !mode.multiLine then .textStart
      else if mode.carriageReturns then .returnStart else .lineStart)
  | .lineEnd =>
    .look (if !mode.multiLine then .textEnd
      else if mode.carriageReturns then .returnEnd else .lineEnd)
  | .textStart => .look .textStart
  | .textEnd => .look .textEnd
  | .wordEdge => edge mode .wordEdge
  | .noWordEdge => edge mode .noWordEdge
  | .wordStart => edge mode .wordStart
  | .wordEnd => edge mode .wordEnd
  | .wordStartHalf => edge mode .wordStartHalf
  | .wordEndHalf => edge mode .wordEndHalf

mutual

/-- The meaning of a part, and the flags behind it. -/
def ofTree (mode : Mode) : Tree → Except Fault (Expression × Mode)
  | .empty _ => return (.empty, mode)
  | .flags _ settings => return (.empty, mode.setAll settings)
  | .literal char => return (← literal mode char, mode)
  | .dot span => return (← dot mode span, mode)
  | .assertion _ asked => return (assertion mode asked, mode)
  | .property span asked _ => return (oneOf mode (← property mode span asked), mode)
  | .shorthand span kind negated => return (oneOf mode (← shorthand mode span kind negated), mode)
  | .bracketed span negated inside => do
    return (oneOf mode (← finished mode span negated (← addTo mode .empty inside)), mode)
  | .repetition _ least most greedy inside => do
    let (expression, mode) ← ofTree mode inside
    return (expression.repeated least most (greedy != mode.swapGreed), mode)
  | .group _ none inside => return (.captured (← ofTree mode inside).1, mode)
  | .group _ (some settings) inside => return ((← ofTree (mode.setAll settings) inside).1, mode)
  | .sequence _ parts => do
    let (expressions, mode) ← ofTrees mode parts
    return (.inSequence expressions, mode)
  | .alternation _ branches => do
    let (expressions, mode) ← ofTrees mode branches
    return (.inChoice expressions, mode)

def ofTrees (mode : Mode) : List Tree → Except Fault (List Expression × Mode)
  | [] => return ([], mode)
  | tree :: rest => do
    let (expression, mode) ← ofTree mode tree
    let (others, mode) ← ofTrees mode rest
    return (expression :: others, mode)

end

end Meaning

end LockScreen.Pattern
