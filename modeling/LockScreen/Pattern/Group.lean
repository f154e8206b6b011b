import LockScreen.Pattern.Reader
import LockScreen.Pattern.Tree
import LockScreen.Text.Letter

namespace LockScreen.Pattern.Group

open Reader LockScreen.Text

inductive Opening where
  | flags (span : Span) (settings : FlagSettings)
  | group (span : Span) (settings : Option FlagSettings)

def flagOf? : Char → Option Flag
  | 'i' => some .caseless
  | 'm' => some .multiLine
  | 's' => some .dotAll
  | 'U' => some .swapGreed
  | 'u' => some .unicode
  | 'R' => some .carriageReturns
  | 'x' => some .spacious
  | _ => none

def flagOrHyphen (c : Char) (span : Span) : Reader (Option Flag) :=
  if c = '-' then return none
  else
    match flagOf? c with
    | some flag => return some flag
    | none => refuse .unknownFlag span

def settingsOf (on : Bool) : List (Option Flag × Span) → FlagSettings
  | [] => []
  | (none, _) :: rest => settingsOf false rest
  | (some flag, _) :: rest => (flag, on) :: settingsOf on rest

def flags : Nat → List (Option Flag × Span) → Reader (List (Option Flag × Span))
  | 0, items => return items
  | fuel + 1, items => do
    match ← next? with
    | none => refuse .endInFlags (← here)
    | some c =>
      if c = ':' ∨ c = ')' then
        match items with
        | (none, span) :: _ => refuse .danglingNegation span
        | items => return items
      else
        let span ← nextSpan
        let item ← flagOrHyphen c span
        match items.lookup item with
        | some earlier =>
          throw ⟨if item.isNone then .repeatedNegation else .duplicateFlag, span, some earlier⟩
        | none =>
          step
          flags fuel ((item, span) :: items)

def isNameCharacter (c : Char) (first : Bool) : Bool :=
  if first then c = '_' || isLetter c
  else c = '_' || c = '.' || c = '[' || c = ']' || isLetterOrNumeral c

def nameCharacters : Nat → List Char → Reader (List Char)
  | 0, done => return done.reverse
  | fuel + 1, done => do
    match ← next? with
    | none => return done.reverse
    | some c =>
      if c = '>' then return done.reverse
      if !isNameCharacter c done.isEmpty then refuse .badNameCharacter (← nextSpan)
      step
      nameCharacters fuel (c :: done)

def name : Reader Unit := do
  let start ← place
  let name ← nameCharacters ((← get).rest.length + 1) []
  let span ← since start
  if (← next?).isNone then refuse .endInName (← here)
  step
  if name.isEmpty then refuse .emptyName (.point start)
  match (← get).names.lookup name with
  | some earlier => throw ⟨.duplicateName, span, some earlier⟩
  | none => modify fun cursor => { cursor with names := (name, span) :: cursor.names }

/-- What a question mark behind a parenthesis says. `question` is its place. -/
def withFlags (opened question : Span) : Reader Opening := do
  if (← next?).isNone then refuse .unclosedGroup opened
  let items ← flags ((← get).rest.length + 1) []
  let settings := settingsOf true items.reverse
  let closes := (← next?) = some ')'
  step
  if closes then
    if settings.isEmpty then refuse .nothingToRepeat question
    return .flags (← since opened.start) settings
  else return .group opened (some settings)

def takeOne : List String → Reader Bool
  | [] => return false
  | text :: rest => do
    if ← take text then return true
    takeOne rest

def opening : Reader Opening := do
  let opened ← nextSpan
  stepAndSkip
  if ← takeOne ["?=", "?!", "?<=", "?<!"] then refuse .lookAround (← since opened.start)
  let question ← here
  if ← takeOne ["?P<", "?<"] then
    name
    return .group opened none
  else if ← take "?" then withFlags opened question
  else return .group opened none

end LockScreen.Pattern.Group
