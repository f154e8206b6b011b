import LockScreen.Pattern.ByteRun
import LockScreen.Pattern.Expression
import LockScreen.Pattern.LiteralTree
import LockScreen.Text.Utf8

namespace LockScreen.Pattern

open LockScreen.Text

inductive Direction where
  | forwards
  | backwards
deriving DecidableEq, Repr

def stateRoom : Nat := 32

def rangeRoom : Nat := 8

def jumpRoom : Nat := 4

def forkRoom (ways : Nat) : Nat := stateRoom + ways * jumpRoom

def switchRoom (ways : Nat) : Nat := stateRoom + ways * rangeRoom

/-- The room of a set with characters beyond ASCII. Forwards, states with the same ways on are
shared; backwards, those with the same way back. -/
def wideRoom (direction : Direction) (runs : List ByteRun) : Nat :=
  match direction with
  | .forwards =>
    (ByteRun.remainders 4 runs).eraseDups.foldl
      (fun room state => room + switchRoom (ByteRun.branches state).length) stateRoom
  | .backwards =>
    stateRoom + forkRoom runs.length +
      (runs.flatMap ByteRun.beginnings).eraseDups.length * stateRoom

def setRoom (direction : Direction) (set : CharSet) : Nat :=
  if set.isAscii then stateRoom + switchRoom set.ranges.length
  else wideRoom direction (ByteRun.ofSet set)

namespace LiteralTree

def groupRoom : Nat → Nat
  | 0 => 0
  | 1 => stateRoom
  | ways => switchRoom ways

mutual

/-- The room below a place, and of the place itself unless it is a leaf. Between two groups of ways
there is a way to the end. -/
def room : LiteralTree → Nat
  | .node closed current =>
    let filled := (closed.filter (!·.isEmpty)).length + if current.isEmpty then 0 else 1
    if filled = 0 then 0
    else forkRoom (filled + closed.length) + roomOfGroups closed + roomOfGroup current +
      groupRoom current.length

def roomOfGroups : List (List (UInt8 × LiteralTree)) → Nat
  | [] => 0
  | group :: rest => roomOfGroup group + groupRoom group.length + roomOfGroups rest

def roomOfGroup : List (UInt8 × LiteralTree) → Nat
  | [] => 0
  | (_, tree) :: rest => room tree + roomOfGroup rest

end

end LiteralTree

namespace Expression

def text? : Expression → Option (List Char)
  | .literal text => some text
  | _ => none

def bytesToRead (direction : Direction) (text : List Char) : List UInt8 :=
  let bytes := Utf8.encode (String.ofList text)
  match direction with
  | .forwards => bytes
  | .backwards => bytes.reverse

def textsRoom (direction : Direction) (texts : List (List Char)) : Nat :=
  stateRoom + (LiteralTree.ofTexts (texts.map (bytesToRead direction))).room

def repetitionRoom (room : Nat) (least : Nat) (most : Option Nat) (isSolid : Bool) : Nat :=
  match most with
  | none =>
    if least = 0 ∧ !isSolid then room + forkRoom 2 + forkRoom 2 + stateRoom
    else Nat.max 1 least * room + forkRoom 2
  | some most =>
    if least = most then least * room
    else if least = 0 ∧ most = 1 then room + forkRoom 2 + stateRoom
    else Nat.max stateRoom (least * room) + stateRoom + (most - least) * (room + forkRoom 2)

mutual

def room (direction : Direction) : Expression → Nat
  | .literal text => (bytesToRead direction text).length * stateRoom
  | .oneOf _ set => setRoom direction set
  | .look _ | .foreign _ => stateRoom
  | .repetition least most _ inside =>
    repetitionRoom (inside.room direction) least most (inside.leastLength.any (0 < ·))
  | .captured inside =>
    match direction with
    | .forwards => inside.room direction + 2 * stateRoom
    | .backwards => inside.room direction
  | .sequence parts => if parts.isEmpty then stateRoom else roomOfAll direction parts
  | .choice branches =>
    match branches.mapM text? with
    | some texts => textsRoom direction texts
    | none => forkRoom branches.length + stateRoom + roomOfAll direction branches

def roomOfAll (direction : Direction) : List Expression → Nat
  | [] => 0
  | part :: rest => part.room direction + roomOfAll direction rest

end

def isAnchored (direction : Direction) (expression : Expression) : Bool :=
  match direction with
  | .forwards => expression.isAtStart
  | .backwards => expression.isAtEnd

def skipRoom (direction : Direction) (expression : Expression) : Nat :=
  if expression.isAnchored direction then stateRoom else forkRoom 2 + stateRoom + switchRoom 1

def endsRoom : Direction → Nat
  | .forwards => 3 * stateRoom
  | .backwards => stateRoom

def totalRoom (direction : Direction) (expression : Expression) : Nat :=
  expression.skipRoom direction + endsRoom direction + expression.room direction

end Expression

end LockScreen.Pattern
