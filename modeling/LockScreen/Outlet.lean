import LockScreen.Handoff
import LockScreen.Wire.Pipe

namespace LockScreen

open LockScreen.Text LockScreen.Wire

structure Outlet where
  pipe : Pipe
  heap : Handoff.Heap

inductive SubmitError where
  | noMemory
  | channel (fault : Wire.Error)
deriving DecidableEq, Repr

def SubmitError.message : SubmitError → String
  | .noMemory => "auth buffer allocation failed"
  | .channel fault => fault.message

inductive Delivery where
  | record (record : Record)
  | secret (bytes : List UInt8) (second : UInt64)
deriving DecidableEq, Repr

namespace Outlet

def new : Outlet := ⟨.new, .new⟩

/-- Hands a secret over to the reader of the pipe, which owns it from then on. A secret that could
not be sent is released here. -/
def submit (outlet : Outlet) (secret : String) :
    Except SubmitError Unit × Outlet × List Log.Line :=
  match outlet.heap.allocate? (Utf8.encode secret) with
  | none => (.error .noMemory, outlet, [])
  | some (buffer, heap) =>
    let (handle, heap) := heap.expose buffer
    match outlet.pipe.send ⟨.authSubmit, UInt64.ofNat handle, 0⟩ with
    | (.ok (), pipe, lines) => (.ok (), ⟨pipe, heap⟩, lines)
    | (.error fault, pipe, lines) => (.error (.channel fault), ⟨pipe, heap.free handle⟩, lines)

def frameReady (outlet : Outlet) (handle : UInt64) :
    Except Wire.Error Unit × Outlet × List Log.Line :=
  let (result, pipe, lines) := outlet.pipe.send ⟨.renderer, handle, 0⟩
  (result, { outlet with pipe }, lines)

/-- Takes over what a record brought. A secret is released once its bytes are read. -/
def unpack (heap : Handoff.Heap) (record : Record) : Delivery × Handoff.Heap :=
  match record.kind, heap.claim record.first.toNat with
  | .authSubmit, (some buffer, claimed) =>
    (.secret (heap.payload buffer) record.second, claimed.discard buffer)
  | _, _ => (.record record, heap)

def receive (outlet : Outlet) : Except Wire.Error (Option Delivery) × Outlet × List Log.Line :=
  match outlet.pipe.receive with
  | (.ok (some record), pipe, lines) =>
    let (delivery, heap) := unpack outlet.heap record
    (.ok (some delivery), ⟨pipe, heap⟩, lines)
  | (.ok none, pipe, lines) => (.ok none, { outlet with pipe }, lines)
  | (.error fault, pipe, lines) => (.error fault, { outlet with pipe }, lines)

def receiveSome : (fuel : Nat) → Outlet → List Delivery × Outlet
  | 0, outlet => ([], outlet)
  | fuel + 1, outlet =>
    match outlet.receive with
    | (.ok (some delivery), outlet, _) =>
      let (deliveries, outlet) := receiveSome fuel outlet
      (delivery :: deliveries, outlet)
    | (_, outlet, _) => ([], outlet)

def receiveAll (outlet : Outlet) : List Delivery × Outlet :=
  receiveSome (outlet.pipe.queue.length + 1) outlet

def closeReader (outlet : Outlet) : Outlet :=
  { outlet with pipe := outlet.pipe.closeReader }

end Outlet

end LockScreen
