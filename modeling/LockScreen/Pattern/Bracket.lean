import LockScreen.Pattern.Escape

namespace LockScreen.Pattern.Bracket

open Reader

def asciiClassOf? (name : List Char) : Option AsciiClass :=
  [("alnum", AsciiClass.alnum), ("alpha", .alpha), ("ascii", .ascii), ("blank", .blank),
    ("cntrl", .cntrl), ("digit", .digit), ("graph", .graph), ("lower", .lower), ("print", .print),
    ("punct", .punct), ("space", .space), ("upper", .upper), ("word", .word),
    ("xdigit", .xdigit)].lookup (String.ofList name)

def asciiClassIn? (text : List Char) : Option (AsciiClass × Bool × Nat) :=
  let named (negated : Bool) (rest : List Char) : Option (AsciiClass × Bool × Nat) :=
    let name := rest.takeWhile (· ≠ ':')
    match asciiClassOf? name, rest.drop name.length with
    | some kind, ':' :: ']' :: _ => some (kind, negated, name.length + if negated then 5 else 4)
    | _, _ => none
  match text with
  | '[' :: ':' :: '^' :: rest => named true rest
  | '[' :: ':' :: rest => named false rest
  | _ => none

def asciiClass? : Reader (Option ClassTree) := do
  let start ← place
  match asciiClassIn? (← get).rest with
  | none => return none
  | some (kind, negated, length) =>
    modify fun cursor => Nat.repeat Cursor.step length cursor
    return some (.ascii (← since start) kind negated)

def unionOf (start : Place) : List ClassTree → ClassTree
  | [] => .empty (.point start)
  | [item] => item
  | last :: others =>
    let items := (last :: others).reverse
    .union (.hull ((items.head?.map ClassTree.span).getD (.point start)) last.span) items

def applied (pending : Option (SetOperation × ClassTree)) (right : ClassTree) : ClassTree :=
  match pending with
  | none => right
  | some (operation, left) => .operation (.hull left.span right.span) operation left right

def operation? : List Char → Option SetOperation
  | '&' :: '&' :: _ => some .intersection
  | '-' :: '-' :: _ => some .difference
  | '~' :: '~' :: _ => some .symmetricDifference
  | _ => none

def atom : Reader Atom := do
  match ← next? with
  | some '\\' => Escape.read
  | next =>
    let span ← nextSpan
    step
    return .literal ⟨next.getD '\x00', span, false⟩

/-- A character, a class, or a range from one character to another. `opened` is the bracket to
complain about if the pattern ends. -/
def item (opened : Span) : Reader ClassTree := do
  let first ← atom
  skip
  match ← next? with
  | none => refuse .unclosedClass opened
  | some c =>
    let behind := (← get).second?
    if c ≠ '-' ∨ behind = some ']' ∨ behind = some '-' then first.classTree
    else
      stepAndSkip
      if (← next?).isNone then refuse .unclosedClass opened
      let last ← atom
      let span := first.span.hull last.span
      let lowest ← first.boundary
      let highest ← last.boundary
      if highest.char < lowest.char then refuse .badRange span
      return .range span lowest highest

def hyphens (start : Place) : Nat → List ClassTree → Reader (List ClassTree)
  | 0, items => return items
  | fuel + 1, items => do
    if (← next?) ≠ some '-' then return items
    let span ← nextSpan
    stepAndSkip
    if (← next?).isNone then refuse .unclosedClass (.point start)
    hyphens start fuel (.literal ⟨'-', span, false⟩ :: items)

/-- A bracket that was opened: whether it is negated, its own stretch, where its items start, and
the first of them. A closing bracket that comes first stands for itself. -/
def opening : Reader (Bool × Span × Place × List ClassTree) := do
  let start ← place
  let proceed : Reader Unit := do
    stepAndSkip
    if (← next?).isNone then refuse .unclosedClass (← since start)
  proceed
  let negated := (← next?) = some '^'
  if negated then proceed
  let inside ← place
  let items ← hyphens start ((← get).rest.length + 1) []
  if items.isEmpty ∧ (← next?) = some ']' then
    let span ← nextSpan
    proceed
    return (negated, ← since start, inside, [.literal ⟨']', span, false⟩])
  return (negated, ← since start, inside, items)

mutual

def read : Nat → Reader ClassTree
  | 0 => do refuse .unclosedClass (← here)
  | fuel + 1 => do
    let (negated, opened, inside, items) ← opening
    let content ← contents opened fuel inside items none
    step
    return .bracketed (← since opened.start) negated content

/-- The items of a class up to its closing bracket, and what was to be done with those before. -/
def contents (opened : Span) : Nat → Place → List ClassTree →
    Option (SetOperation × ClassTree) → Reader ClassTree
  | 0, _, _, _ => refuse .unclosedClass opened
  | fuel + 1, start, items, pending => do
    skip
    match (← get).rest with
    | [] => refuse .unclosedClass opened
    | ']' :: _ => return applied pending (unionOf start items)
    | '[' :: _ =>
      match ← asciiClass? with
      | some named => contents opened fuel start (named :: items) pending
      | none =>
        let nested ← read fuel
        contents opened fuel start (nested :: items) pending
    | rest =>
      match operation? rest with
      | some operation =>
        step
        step
        contents opened fuel (← place) []
          (some (operation, applied pending (unionOf start items)))
      | none =>
        let next ← item opened
        contents opened fuel start (next :: items) pending

end

end LockScreen.Pattern.Bracket
