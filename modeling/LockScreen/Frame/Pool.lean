import LockScreen.Log

/-!
Frames, which are the pixels of a whole output row by row from the top, and a fixed set of
frame-sized slots. A slot is filled while it is free, is in use from then on, and can be read until
its handle is released; the handle of a slot is its index.
-/

namespace LockScreen.Frame

def bytesPerPixel : Nat := 4

def product? (a b : UInt64) : Option UInt64 :=
  if a.toNat * b.toNat < UInt64.size then some (a * b) else none

/-- The bytes of a frame, if a word holds their number. -/
def length? (width height : UInt32) : Option UInt64 := do
  let pixels ← product? width.toUInt64 height.toUInt64
  product? pixels 4

inductive Verdict where
  | kept
  | dropped
  | crashed
deriving DecidableEq, Repr

abbrev Filler (σ : Type) := ByteArray → σ → Verdict × ByteArray × σ

inductive Acquisition where
  | granted (handle : UInt64)
  | refused
  | crashed
deriving DecidableEq, Repr

def Acquisition.handle? : Acquisition → Option UInt64
  | granted handle => some handle
  | _ => none

def logTarget : String := "lockbridge::buffer"

structure Slot where
  pixels : ByteArray
  inUse : Bool

structure Pool where
  frameLength : Nat
  slots : List Slot

namespace Pool

def blank (size : Nat) : ByteArray :=
  ⟨Array.replicate size 0⟩

def ofSize (size slots : Nat) : Pool :=
  ⟨size, List.replicate slots ⟨blank size, false⟩⟩

/-- No block of memory has so many bytes. -/
def blockLimit : Nat := 9223372036854775808

/-- A pool for the frames of an output. The thread that asks for one does not survive it if the
number of their bytes has no word, or if a slot cannot be had. -/
def new? (width height : UInt32) (slots : Nat) : Option Pool := do
  let size ← length? width height
  if slots ≠ 0 ∧ blockLimit ≤ size.toNat then none else some (ofSize size.toNat slots)

def firstFree (index : Nat) : List Slot → Option (Nat × ByteArray)
  | [] => none
  | slot :: rest => if slot.inUse then firstFree (index + 1) rest else some (index, slot.pixels)

def setSlot (pool : Pool) (index : Nat) (slot : Slot) : Pool :=
  { pool with slots := pool.slots.set index slot }

/-- Fills the first free slot. Only a frame that is kept takes the slot; whatever was written stays
in it all the same. -/
def fillNext {σ : Type} (pool : Pool) (fill : Filler σ) (state : σ) :
    Acquisition × Pool × σ × List Log.Line :=
  match firstFree 0 pool.slots with
  | none =>
    (.refused, pool, state,
      [⟨.debug, logTarget, s!"All {pool.slots.length} slots busy, dropping frame"⟩])
  | some (index, pixels) =>
    match fill pixels state with
    | (.kept, pixels, state) =>
      (.granted (UInt64.ofNat index), pool.setSlot index ⟨pixels, true⟩, state, [])
    | (.dropped, pixels, state) => (.refused, pool.setSlot index ⟨pixels, false⟩, state, [])
    | (.crashed, pixels, state) => (.crashed, pool.setSlot index ⟨pixels, false⟩, state, [])

def frame? (pool : Pool) (handle : UInt64) : Option ByteArray :=
  match pool.slots[handle.toNat]? with
  | some slot => if slot.inUse then some slot.pixels else none
  | none => none

def release (pool : Pool) (handle : UInt64) : Pool :=
  match pool.slots[handle.toNat]? with
  | some slot => pool.setSlot handle.toNat { slot with inUse := false }
  | none => pool

def inUse (pool : Pool) : Nat :=
  pool.slots.countP Slot.inUse

end Pool

end LockScreen.Frame
