import LockScreen.Pattern.Reader
import LockScreen.Pattern.Tree
import LockScreen.Text.Numeral

namespace LockScreen.Pattern.Repetition

open Reader LockScreen.Text

def countLimit : Nat := 4294967296

def target (parts : List Tree) : Reader (Tree × List Tree) := do
  match parts with
  | [] | .empty _ :: _ | .flags .. :: _ => refuse .nothingToRepeat (← here)
  | part :: others => return (part, others)

def repeated (part : Tree) (others : List Tree) (least : Nat) (most : Option Nat) (greedy : Bool) :
    Reader (List Tree) :=
  return .repetition ⟨part.span.start, ← place⟩ least most greedy part :: others

def isGreedy : Reader Bool := return !(← take "?")

def byRange (least : Nat) (most : Option Nat) (parts : List Tree) : Reader (List Tree) := do
  let (part, others) ← target parts
  step
  let greedy ← isGreedy
  repeated part others least most greedy

def skipBlanks (move : Reader Unit) : Nat → Reader Unit
  | 0 => return ()
  | fuel + 1 => do
    match ← next? with
    | some c =>
      if isBlank c then
        move
        skipBlanks move fuel
    | none => return ()

def digits : Nat → List Char → Reader (List Char)
  | 0, done => return done.reverse
  | fuel + 1, done => do
    match ← next? with
    | some c =>
      if c.isDigit then
        stepAndSkip
        digits fuel (c :: done)
      else return done.reverse
    | none => return done.reverse

/-- A count with blanks around it. That there is none is a fault only where a count is needed. -/
def count : Reader (Except Fault Nat) := do
  let fuel := (← get).rest.length + 1
  skipBlanks step fuel
  let start ← place
  let found ← digits fuel []
  let span ← since start
  skipBlanks stepAndSkip fuel
  match Numeral.unsigned 10 countLimit found with
  | .ok value => return .ok value
  | .error .empty => return .error ⟨.emptyRepetitionCount, span, none⟩
  | .error _ => return .error ⟨.badDecimal, span, none⟩

def ended : Reader Bool := return (← next?).isNone

def range (start : Place) : Reader (Nat × Option Nat) := do
  stepAndSkip
  if ← ended then refuse .unclosedCount (← since start)
  let first ← count
  if ← ended then refuse .unclosedCount (← since start)
  if (← next?) = some ',' then
    stepAndSkip
    if ← ended then refuse .unclosedCount (← since start)
    if (← next?) = some '}' then return (← liftM first, none)
    let least ← liftM first
    let most ← liftM (← count)
    return (least, some most)
  else
    let times ← liftM first
    return (times, some times)

def counted (parts : List Tree) : Reader (List Tree) := do
  let start ← place
  let (part, others) ← target parts
  let (least, most) ← range start
  if (← next?) ≠ some '}' then refuse .unclosedCount (← since start)
  stepAndSkip
  let greedy ← isGreedy
  if most.any (· < least) then refuse .badRepetitionRange (← since start)
  repeated part others least most greedy

end LockScreen.Pattern.Repetition
