import LockScreen.Pattern.CharSet
import LockScreen.Pattern.Look

/-!
What a pattern means. Expressions are built in a plain form: texts next to each other are one text,
sequences and choices are not nested directly, a choice between characters is a set, and what all
branches of a choice begin with stands in front of it.
-/

namespace LockScreen.Pattern

inductive Expression where
  | literal (text : List Char)
  | oneOf (ofBytes : Bool) (set : CharSet)
  | look (look : Look)
  /-- Something asked of the edges of words of any script. Nothing is known of these, so it never
  holds. -/
  | foreign (look : Look)
  /-- Something repeated, as often as possible or, if not greedy, as seldom. -/
  | repetition (least : Nat) (most : Option Nat) (greedy : Bool) (inside : Expression)
  | captured (inside : Expression)
  | sequence (parts : List Expression)
  | choice (branches : List Expression)

namespace Expression

def empty : Expression := .sequence []

def nothing : Expression := .oneOf true .empty

mutual

/-- Whether two expressions are built alike. A part that can be told from others is like no
other. -/
def isLike : Expression → Expression → Bool
  | .literal text, .literal other => text == other
  | .oneOf ofBytes set, .oneOf otherOfBytes other => ofBytes == otherOfBytes && set == other
  | .look asked, .look other | .foreign asked, .foreign other => asked == other
  | .repetition least most greedy inside, .repetition otherLeast otherMost otherGreedy other =>
    least == otherLeast && most == otherMost && greedy == otherGreedy && isLike inside other
  | .sequence parts, .sequence others | .choice parts, .choice others => areAlike parts others
  | _, _ => false

def areAlike : List Expression → List Expression → Bool
  | [], [] => true
  | part :: rest, other :: others => isLike part other && areAlike rest others
  | _, _ => false

end

mutual

def isVoid : Expression → Bool
  | .literal _ | .oneOf .. => false
  | .look _ | .foreign _ => true
  | .repetition _ most _ inside => most = some 0 || inside.isVoid
  | .captured inside => inside.isVoid
  | .sequence parts => areVoid parts
  | .choice branches => areVoid branches

def areVoid : List Expression → Bool
  | [] => true
  | part :: rest => part.isVoid && areVoid rest

end

mutual

def leastLength : Expression → Option Nat
  | .literal text => some text.length
  | .oneOf _ set => if set.isEmpty then none else some 1
  | .look _ | .foreign _ => some 0
  | .repetition least _ _ inside => inside.leastLength.map (least * ·)
  | .captured inside => inside.leastLength
  | .sequence parts => leastOfAll parts
  | .choice branches => leastOfAny branches

def leastOfAll : List Expression → Option Nat
  | [] => some 0
  | part :: rest => do return (← part.leastLength) + (← leastOfAll rest)

def leastOfAny : List Expression → Option Nat
  | [] => none
  | [branch] => branch.leastLength
  | branch :: rest => do return Nat.min (← branch.leastLength) (← leastOfAny rest)

end

mutual

def isAtStart : Expression → Bool
  | .look asked => asked = .textStart
  | .literal _ | .oneOf .. | .foreign _ => false
  | .repetition least _ _ inside => 0 < least && inside.isAtStart
  | .captured inside => inside.isAtStart
  | .sequence parts => beginAtStart parts
  | .choice branches => areAtStart branches

def beginAtStart : List Expression → Bool
  | [] => false
  | part :: rest => part.isAtStart || (part.isVoid && beginAtStart rest)

def areAtStart : List Expression → Bool
  | [] => true
  | branch :: rest => branch.isAtStart && areAtStart rest

end

mutual

def isAtEnd : Expression → Bool
  | .look asked => asked = .textEnd
  | .literal _ | .oneOf .. | .foreign _ => false
  | .repetition least _ _ inside => 0 < least && inside.isAtEnd
  | .captured inside => inside.isAtEnd
  | .sequence parts => endAtEnd parts
  | .choice branches => areAtEnd branches

def endAtEnd : List Expression → Bool
  | [] => false
  | part :: rest => endAtEnd rest || (part.isAtEnd && areVoid rest)

def areAtEnd : List Expression → Bool
  | [] => true
  | branch :: rest => branch.isAtEnd && areAtEnd rest

end

mutual

def isForeign : Expression → Bool
  | .foreign _ => true
  | .literal _ | .oneOf .. | .look _ => false
  | .repetition _ _ _ inside | .captured inside => inside.isForeign
  | .sequence parts | .choice parts => isAnyForeign parts

def isAnyForeign : List Expression → Bool
  | [] => false
  | part :: rest => part.isForeign || isAnyForeign rest

end

def ofSet (ofBytes : Bool) (set : CharSet) : Expression :=
  if set.isEmpty then nothing
  else
    match set.single? with
    | some c => .literal [c]
    | none => .oneOf ofBytes set

/-- Something repeated. What only matches the empty text is not repeated more than once. -/
def repeated (least : Nat) (most : Option Nat) (greedy : Bool) (inside : Expression) : Expression :=
  let (least, most) :=
    if inside.isVoid then (Nat.min least 1, some (Nat.min (most.getD 1) 1)) else (least, most)
  if most = some 0 then empty
  else if least = 1 ∧ most = some 1 then inside
  else .repetition least most greedy inside

def parts : Expression → List Expression
  | .sequence parts => parts
  | expression => [expression]

def branches : Expression → List Expression
  | .choice branches => branches
  | expression => [expression]

def joined : List Expression → List Expression
  | [] => []
  | .literal text :: rest =>
    match joined rest with
    | .literal more :: others => .literal (text ++ more) :: others
    | others => .literal text :: others
  | part :: rest => part :: joined rest

def inSequence (expressions : List Expression) : Expression :=
  match joined (expressions.flatMap parts) with
  | [part] => part
  | parts => .sequence parts

def char? : Expression → Option Char
  | .literal [c] => some c
  | _ => none

def set? : Expression → Option CharSet
  | .oneOf _ set => some set
  | _ => none

def choiceAsSet? (branches : List Expression) : Option Expression :=
  match branches.mapM char?, branches.mapM set? with
  | some chars, _ => some (.ofSet false (.ofChars chars))
  | none, some sets => some (.ofSet false (sets.foldl .union .empty))
  | none, none => none

def flatChoice : List Expression → Expression
  | [] => nothing
  | [branch] => branch
  | branches => (choiceAsSet? branches).getD (.choice branches)

def sharedStart : List Expression → List Expression → List Expression
  | part :: rest, other :: others => if part.isLike other then part :: sharedStart rest others else []
  | _, _ => []

def sequence? : Expression → Option (List Expression)
  | .sequence (part :: rest) => some (part :: rest)
  | _ => none

def commonStart (branches : List Expression) : List Expression :=
  match branches.mapM sequence? with
  | some (first :: others) => others.foldl sharedStart first
  | _ => []

def inChoice (expressions : List Expression) : Expression :=
  let all := expressions.flatMap branches
  let start := commonStart all
  if all.length < 2 ∨ start.isEmpty then flatChoice all
  else
    let behind := all.map fun branch => inSequence (branch.parts.drop start.length)
    inSequence (start ++ [flatChoice (behind.flatMap branches)])

end Expression

end LockScreen.Pattern
