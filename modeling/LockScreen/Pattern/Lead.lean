import LockScreen.Pattern.Expression
import LockScreen.Text.Utf8

namespace LockScreen.Pattern

open LockScreen.Text

/-- A text that matches begin with, and whether such a match ends with it. -/
structure Lead where
  bytes : List UInt8
  whole : Bool
deriving DecidableEq, Repr

namespace Lead

def ofText (text : List Char) : Lead := ⟨Utf8.encode (String.ofList text), true⟩

def cut (length : Nat) (lead : Lead) : Lead :=
  if length < lead.bytes.length then ⟨lead.bytes.take length, false⟩ else lead

def opened (lead : Lead) : Lead := { lead with whole := false }

end Lead

/-- The leads of an expression, those of the preferred matches first; `none` if there are
too many. -/
abbrev Leads := Option (List Lead)

namespace Leads

def start : Leads := some [⟨[], true⟩]

def countLimit : Nat := 250

def lengthLimit : Nat := 100

def setLimit : Nat := 10

def repetitionLimit : Nat := 10

def areOpen (leads : Leads) : Bool :=
  leads.all fun list => list.all (!·.whole)

def opened (leads : Leads) : Leads :=
  leads.map (·.map Lead.opened)

def distinct : List Lead → List Lead
  | [] => []
  | lead :: rest =>
    match distinct rest with
    | [] => [lead]
    | next :: others =>
      if lead.bytes = next.bytes then ⟨lead.bytes, lead.whole && next.whole⟩ :: others
      else lead :: next :: others

/-- The leads of a choice between two. If there are too many, they are cut to a few bytes first. -/
def union : Leads → Leads → Leads
  | some leads, some others =>
    let short (list : List Lead) : List Lead := distinct (list.map (·.cut 4))
    if leads.length + others.length ≤ countLimit then some (distinct (leads ++ others))
    else if (short leads).length + (short others).length ≤ countLimit then
      some (distinct (short leads ++ short others))
    else none
  | _, _ => none

def extended (others : List Lead) (lead : Lead) : List Lead :=
  if lead.whole then others.map fun other => ⟨lead.bytes ++ other.bytes, other.whole⟩ else [lead]

def cross : Leads → Leads → Leads
  | none, _ => none
  | some leads, others =>
    match others.filter fun list => leads.length * list.length ≤ countLimit with
    | some list => some ((distinct (leads.flatMap (extended list))).map (·.cut lengthLimit))
    | none => if leads.any (·.bytes.isEmpty) then none else opened (some leads)

def crossTimes (leads : Leads) : Nat → Leads → Leads
  | 0, before => before
  | count + 1, before =>
    if areOpen before then before else crossTimes leads count (cross before leads)

def repeated (least : Nat) (most : Option Nat) (greedy : Bool) (leads : Leads) : Leads :=
  if least = 0 then
    let leads := if most = some 1 then leads else leads.opened
    if greedy then leads.union start else start.union leads
  else
    let first := crossTimes leads (Nat.min least repetitionLimit) start
    if most = some least ∧ least ≤ repetitionLimit then first else first.opened

def ofSet (set : CharSet) : Leads :=
  let size := set.ranges.foldl (fun size range => size + (range.last + 1 - range.first)) 0
  if setLimit < size then none
  else
    some (set.ranges.flatMap fun range =>
      (List.range (range.last + 1 - range.first)).map fun i => .ofText [Char.ofNat (range.first + i)])

mutual

def ofExpression : Expression → Leads
  | .literal text => some [(Lead.ofText text).cut lengthLimit]
  | .oneOf _ set => ofSet set
  | .look _ | .foreign _ => start
  | .repetition least most greedy inside => (ofExpression inside).repeated least most greedy
  | .captured inside => ofExpression inside
  | .sequence parts => ofSequence start parts
  | .choice branches => ofChoice (some []) branches

def ofSequence (before : Leads) : List Expression → Leads
  | [] => before
  | part :: rest =>
    if before.areOpen then before else ofSequence (before.cross (ofExpression part)) rest

def ofChoice (before : Leads) : List Expression → Leads
  | [] => before
  | branch :: rest => ofChoice (before.union (ofExpression branch)) rest

end

def preferred (leads : List Lead) : List Lead :=
  leads.foldl (fun kept lead =>
    if kept.any fun earlier => earlier.bytes.isPrefixOf lead.bytes then kept else kept ++ [lead]) []

def common : List Lead → List UInt8
  | [] => []
  | lead :: rest =>
    rest.foldl (fun bytes other =>
      ((bytes.zip other.bytes).takeWhile fun pair => pair.1 = pair.2).map (·.1)) lead.bytes

def isCommonByte (byte : UInt8) : Bool :=
  0x80 ≤ byte || "\n\r (),-./0129:_abcdefghilmnoprstuvxy|".toList.any fun c => c.toNat = byte.toNat

def cuts : List (Nat × Nat) := [(5, 10), (4, 10), (3, 64), (2, 64), (1, 10)]

def cutDown (leads : List Lead) : List (Nat × Nat) → List Lead
  | [] => leads
  | (length, limit) :: rest =>
    if leads.length ≤ limit then leads else cutDown (preferred (leads.map (·.cut length))) rest

/-- The leads that are worth looking for. One rare byte is better than several texts with it, and
what many have in common than the texts themselves. -/
def worthwhile (leads : List Lead) : List Lead :=
  let kept := preferred leads
  let shared := common kept
  let few := kept.all (·.whole) && kept.length ≤ 16
  if 1 < leads.length && shared.length ≤ 3 && shared.head?.any (!isCommonByte ·) then
    kept.map (·.cut 1)
  else
    let kept :=
      if 4 < shared.length || (1 < shared.length && !few) then
        distinct (kept.map (·.cut shared.length))
      else kept
    let short := cutDown kept cuts
    if short.any (·.bytes.length ≤ 2) || 64 < short.length then kept else short

end Leads

namespace Expression

mutual

def isPlain : Expression → Bool
  | .literal _ | .oneOf .. => true
  | .look _ | .foreign _ | .captured _ => false
  | .repetition _ _ _ inside => inside.isPlain
  | .sequence parts | .choice parts => arePlain parts

def arePlain : List Expression → Bool
  | [] => true
  | part :: rest => part.isPlain && arePlain rest

end

def isFewTexts (expression : Expression) : Bool :=
  expression.isPlain &&
    match Leads.ofExpression expression with
    | some leads =>
      !leads.isEmpty && leads.all (!·.bytes.isEmpty) && (Leads.worthwhile leads).all (·.whole)
    | none => false

end Expression

end LockScreen.Pattern
