import LockScreen.Frame.Pool
import LockScreen.Report
import LockScreen.Text.Numeral

/-!
Reading a framebuffer into a frame. The graphics library counts rows from the bottom and a frame
from the top, so row `y` of the frame comes from row `height - 1 - y` of the framebuffer.
-/

namespace LockScreen.Frame

open LockScreen.Text

/-- A framebuffer that can be read row by row once it is bound. -/
structure PixelSource (σ : Type) where
  width : UInt32
  height : UInt32
  bind : σ → Except UInt32 Unit × σ
  /-- The bytes of a row, counted from the bottom, given how many are wanted. -/
  readRow : σ → UInt32 → Nat → ByteArray × σ
  takeError : σ → UInt32 × σ
  unbind : σ → σ

inductive ReadbackError where
  | incomplete (status : UInt32)
  | gl (code : UInt32)
  | bufferTooSmall (need got : Nat)
deriving DecidableEq, Repr

def ReadbackError.message : ReadbackError → String
  | .incomplete status => s!"framebuffer incomplete: status=0x{Numeral.hex status.toNat}"
  | .gl code => s!"glReadPixels failed with error: 0x{Numeral.hex code.toNat}"
  | .bufferTooSmall need got => s!"destination holds {got} bytes, frame needs {need}"

def overlay (bytes under : ByteArray) : ByteArray :=
  bytes.extract 0 under.size ++ under.extract bytes.size under.size

def readRows {σ : Type} (source : PixelSource σ) (rowLength : Nat) (target : ByteArray) :
    (rows y : Nat) → (done : ByteArray) → σ → ByteArray × σ
  | 0, _, done, state => (done, state)
  | rows + 1, y, done, state =>
    let (bytes, state) := source.readRow state (source.height - 1 - UInt32.ofNat y) rowLength
    let row := overlay bytes (target.extract (y * rowLength) ((y + 1) * rowLength))
    readRows source rowLength target rows (y + 1) (done ++ row) state

/-- Reads a whole frame of so many bytes over the front of a destination. Nothing is bound for an
empty frame, and whatever was bound is unbound again. -/
def readBytes {σ : Type} (source : PixelSource σ) (need : Nat) (target : ByteArray) (state : σ) :
    Except ReadbackError Unit × ByteArray × σ :=
  if target.size < need then (.error (.bufferTooSmall need target.size), target, state)
  else if need = 0 then (.ok (), target, state)
  else
    match source.bind state with
    | (.error status, state) => (.error (.incomplete status), target, state)
    | (.ok (), state) =>
      let rowLength := source.width.toNat * bytesPerPixel
      let (front, state) :=
        readRows source rowLength target (need / rowLength) 0 ByteArray.empty state
      let pixels := front ++ target.extract front.size target.size
      let (code, state) := source.takeError state
      let state := source.unbind state
      (if code = 0 then .ok () else .error (.gl code), pixels, state)

/-- Reads a whole frame over the front of a destination, unless the number of its bytes has
no word. -/
def read {σ : Type} (source : PixelSource σ) (target : ByteArray) (state : σ) :
    Ending ReadbackError × ByteArray × σ :=
  match length? source.width source.height with
  | none => (.crashed, target, state)
  | some need =>
    let (result, pixels, state) := readBytes source need.toNat target state
    (.ofExcept result, pixels, state)

end LockScreen.Frame
