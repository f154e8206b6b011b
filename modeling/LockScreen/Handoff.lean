import LockScreen.Text.Utf8

/-!
Buffers that are handed across the channel. A buffer is a block of memory and the deallocator that
goes with it; it has one owner at a time, or none but a handle that waits to be claimed. The heap
keeps a ledger of all deallocator calls, so that a block freed twice would show.
-/

namespace LockScreen.Handoff

open LockScreen.Text

inductive Deallocator where
  | standard
  | foreign
deriving DecidableEq, Repr

structure Buffer where
  block : Option Nat
  length : Nat
  deallocator : Option Deallocator
deriving DecidableEq, Repr

structure Heap where
  next : Nat
  blocks : List (Nat × List UInt8)
  /-- Buffers without an owner, by the handles that stand for them. -/
  handles : List (Nat × Buffer)
  freed : List (Deallocator × Nat)
deriving DecidableEq, Repr

def addressLimit : Nat := 18446744073709551616

namespace Heap

def new : Heap := ⟨1, [], [], []⟩

/-- Copies bytes into a new block, a zero behind them. Fails if there is no address left for the
block and for a handle. -/
def allocate? (heap : Heap) (bytes : List UInt8) : Option (Buffer × Heap) :=
  if addressLimit ≤ heap.next + 1 then none
  else
    some (⟨some heap.next, bytes.length, some .standard⟩,
      { heap with next := heap.next + 1, blocks := (heap.next, bytes ++ [0]) :: heap.blocks })

def contents (heap : Heap) (address : Nat) : List UInt8 :=
  (heap.blocks.lookup address).getD []

def payload (heap : Heap) (buffer : Buffer) : List UInt8 :=
  match buffer.block with
  | none => []
  | some address => (heap.contents address).take buffer.length

def terminator? (heap : Heap) (buffer : Buffer) : Option UInt8 :=
  buffer.block.bind fun address => (heap.contents address)[buffer.length]?

def expose (heap : Heap) (buffer : Buffer) : Nat × Heap :=
  (heap.next,
    { heap with next := heap.next + 1, handles := (heap.next, buffer) :: heap.handles })

def peek (heap : Heap) (handle : Nat) : Option Buffer :=
  heap.handles.lookup handle

/-- Takes over the buffer of a handle. The null handle stands for none. -/
def claim (heap : Heap) (handle : Nat) : Option Buffer × Heap :=
  match heap.peek handle with
  | none => (none, heap)
  | some buffer =>
    (some buffer, { heap with handles := heap.handles.filter fun entry => entry.1 != handle })

/-- The owner lets go of a buffer: its deallocator gets its block, if it has both. -/
def discard (heap : Heap) (buffer : Buffer) : Heap :=
  match buffer.deallocator, buffer.block with
  | some deallocator, some address =>
    { heap with
      blocks := heap.blocks.filter fun entry => entry.1 != address
      freed := heap.freed ++ [(deallocator, address)] }
  | _, _ => heap

def free (heap : Heap) (handle : Nat) : Heap :=
  match heap.claim handle with
  | (none, heap) => heap
  | (some buffer, heap) => heap.discard buffer

def revise (heap : Heap) (handle : Nat) (change : Buffer → Buffer) : Heap :=
  { heap with
    handles := heap.handles.map fun entry =>
      if entry.1 = handle then (entry.1, change entry.2) else entry }

end Heap

def Buffer.describe (buffer : Buffer) : String :=
  s!"ForeignBuffer \x7b len: {buffer.length} \x7d"

end LockScreen.Handoff
