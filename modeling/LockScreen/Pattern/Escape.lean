import LockScreen.Pattern.Reader
import LockScreen.Pattern.Tree
import LockScreen.Text.Numeral

namespace LockScreen.Pattern

open LockScreen.Text

inductive Atom where
  | literal (literal : Literal)
  | assertion (span : Span) (assertion : Assertion)
  | property (span : Span) (property : Property) (negated : Bool)
  | shorthand (span : Span) (kind : Shorthand) (negated : Bool)

namespace Atom

def span : Atom → Span
  | literal char => char.span
  | assertion span _ | property span .. | shorthand span .. => span

def tree : Atom → Tree
  | literal char => .literal char
  | assertion span asked => .assertion span asked
  | property span asked negated => .property span asked negated
  | shorthand span kind negated => .shorthand span kind negated

def classTree (atom : Atom) : Reader ClassTree :=
  match atom with
  | literal char => return .literal char
  | property span asked negated => return .property span asked negated
  | shorthand span kind negated => return .shorthand span kind negated
  | assertion span _ => Reader.refuse .badClassEscape span

def boundary (atom : Atom) : Reader Literal :=
  match atom with
  | literal char => return char
  | atom => Reader.refuse .rangeWithoutLiteral atom.span

end Atom

namespace Escape

open Reader

def isSpecial (c : Char) : Bool :=
  "\\.+*?()|[]\x7b\x7d^$#&-~".toList.contains c

def isPlain (c : Char) : Bool :=
  isSpecial c || (c.toNat < 0x80 && !c.isAlphanum && c ≠ '<' && c ≠ '>')

def control? : Char → Option Char
  | 'a' => some '\x07'
  | 'f' => some '\x0c'
  | 't' => some '\t'
  | 'n' => some '\n'
  | 'r' => some '\r'
  | 'v' => some '\x0b'
  | _ => none

def assertion? : Char → Option Assertion
  | 'A' => some .textStart
  | 'z' => some .textEnd
  | 'b' => some .wordEdge
  | 'B' => some .noWordEdge
  | '<' => some .wordStart
  | '>' => some .wordEnd
  | _ => none

def shorthand? : Char → Option (Shorthand × Bool)
  | 'd' => some (.digit, false)
  | 's' => some (.space, false)
  | 'w' => some (.word, false)
  | 'D' => some (.digit, true)
  | 'S' => some (.space, true)
  | 'W' => some (.word, true)
  | _ => none

def hexWidth? : Char → Option Nat
  | 'x' => some 2
  | 'u' => some 4
  | 'U' => some 8
  | _ => none

def scalar? (n : Nat) : Option Char :=
  if n < 0xd800 ∨ (0xdfff < n ∧ n < 0x110000) then some (Char.ofNat n) else none

def scalar (n : Nat) (span : Span) : Reader Char :=
  match scalar? n with
  | some c => return c
  | none => refuse .badScalar span

def hexDigit (c : Char) : Reader Nat := do
  match Numeral.digit? 16 c with
  | some digit => return digit
  | none => refuse .badHexDigit (← nextSpan)

def fixedDigits : Nat → Nat → Reader Nat
  | 0, value => return value
  | count + 1, value => do
    match ← next? with
    | none => refuse .endInEscape (← here)
    | some c =>
      let digit ← hexDigit c
      stepAndSkip
      fixedDigits count (value * 16 + digit)

/-- The characters up to a closing brace, each seen by a test, which leaves the cursor before the
brace. `opened` is the place of a complaint that there is none. -/
def untilBrace {α : Type} (opened : Reader Span) (test : Char → Reader α) :
    Nat → List α → Reader (List α)
  | 0, done => return done.reverse
  | fuel + 1, done => do
    match ← next? with
    | none => refuse .endInEscape (← opened)
    | some '}' => return done.reverse
    | some c =>
      let found ← test c
      stepAndSkip
      untilBrace opened test fuel (found :: done)

def bracedScalar (start : Place) : Reader Atom := do
  let brace ← nextSpan
  stepAndSkip
  let digits ← untilBrace (since brace.start) hexDigit ((← get).rest.length + 1) []
  let stop ← place
  stepAndSkip
  if digits.isEmpty then refuse .emptyHex (← since brace.start)
  let c ← scalar (digits.foldl (fun value digit => value * 16 + digit) 0) ⟨brace.stop, stop⟩
  return .literal ⟨c, ← since start, false⟩

def numbered (start : Place) (width : Nat) : Reader Atom := do
  stepAndSkip
  match ← next? with
  | none => refuse .endInEscape (← here)
  | some '{' => bracedScalar start
  | some _ =>
    let digits ← place
    let value ← fixedDigits width 0
    let c ← scalar value (← since digits)
    return .literal ⟨c, ← since start, width = 2⟩

def split? (mark : List Char) : List Char → Option (List Char × List Char)
  | [] => none
  | c :: rest =>
    if mark.isPrefixOf (c :: rest) then some ([], (c :: rest).drop mark.length)
    else (split? mark rest).map fun (before, behind) => (c :: before, behind)

def propertyOf (text : List Char) : Property :=
  match (split? ['!', '='] text).or ((split? [':'] text).or (split? ['='] text)) with
  | some (name, value) => .valued name value
  | none => .named text

def property (start : Place) (negated : Bool) : Reader Atom := do
  stepAndSkip
  match ← next? with
  | none => refuse .endInEscape (← here)
  | some '{' =>
    stepAndSkip
    let text ← untilBrace here (fun c => return c) ((← get).rest.length + 1) []
    step
    return .property (← since start) (propertyOf text) negated
  | some '\\' => refuse .badProperty (← nextSpan)
  | some c =>
    stepAndSkip
    return .property (← since start) (.named [c]) negated

def isBoundaryLetter (c : Char) : Bool :=
  c.isAlpha || c = '-'

def boundaryWord : Nat → List Char → Reader (List Char)
  | 0, done => return done.reverse
  | fuel + 1, done => do
    match ← next? with
    | some c =>
      if isBoundaryLetter c then
        stepAndSkip
        boundaryWord fuel (c :: done)
      else return done.reverse
    | none => return done.reverse

def boundaryOf? (word : List Char) : Option Assertion :=
  [("start", Assertion.wordStart), ("end", .wordEnd), ("start-half", .wordStartHalf),
    ("end-half", .wordEndHalf)].lookup (String.ofList word)

/-- An edge of a word may be told apart by a word in braces. Braces that do not begin with a letter
or a hyphen are a repetition, and the cursor stays before them. -/
def wordEdge (start : Place) : Reader Atom := do
  let before ← get
  match before.rest with
  | '{' :: _ =>
    stepAndSkip
    match ← next? with
    | none => refuse .endInBoundary (← since start)
    | some c =>
      if isBoundaryLetter c then
        let first ← place
        let word ← boundaryWord ((← get).rest.length + 1) []
        let stop ← place
        if (← next?) ≠ some '}' then refuse .unclosedBoundary (← since before.place)
        step
        match boundaryOf? word with
        | some assertion => return .assertion (← since start) assertion
        | none => refuse .unknownBoundary ⟨first, stop⟩
      else
        set before
        return .assertion (← since start) .wordEdge
  | _ => return .assertion (← since start) .wordEdge

def short (start : Place) (c : Char) : Reader Atom := do
  step
  let span ← since start
  if isPlain c then return .literal ⟨c, span, false⟩
  match control? c, assertion? c with
  | some control, _ => return .literal ⟨control, span, false⟩
  | none, some .wordEdge => wordEdge start
  | none, some assertion => return .assertion span assertion
  | none, none => refuse .unknownEscape span

def read : Reader Atom := do
  let start ← place
  step
  match ← next? with
  | none => refuse .endInEscape (← since start)
  | some c =>
    if c.isDigit then refuse .backreference ⟨start, (← nextSpan).stop⟩
    match hexWidth? c, shorthand? c with
    | some width, _ => numbered start width
    | none, some (kind, negated) =>
      step
      return .shorthand (← since start) kind negated
    | none, none =>
      if c = 'p' ∨ c = 'P' then property start (c = 'P') else short start c

end Escape

end LockScreen.Pattern
