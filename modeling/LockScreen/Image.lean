import LockScreen.Frame.Pool

namespace LockScreen

structure Image where
  width : UInt32
  height : UInt32
  pixels : ByteArray

namespace Image

def reorder (frame : ByteArray) : (pixels position : Nat) → ByteArray → ByteArray
  | 0, _, done => done
  | pixels + 1, position, done =>
    let byte (offset : Nat) : UInt8 := frame[position + offset]?.getD 0
    reorder frame pixels (position + 4)
      ((((done.push (byte 2)).push (byte 1)).push (byte 0)).push (byte 3))

def ofFrame (width height : UInt32) (frame : ByteArray) : Image :=
  ⟨width, height, reorder frame (frame.size / Frame.bytesPerPixel) 0 ByteArray.empty⟩

def pixel (image : Image) (index : Nat) : List UInt8 :=
  (image.pixels.extract (index * Frame.bytesPerPixel) ((index + 1) * Frame.bytesPerPixel)).toList

def addToRuns (runs : List (Nat × List UInt8)) (pixel : List UInt8) : List (Nat × List UInt8) :=
  match runs with
  | (count, last) :: rest =>
    if last = pixel then (count + 1, last) :: rest else (1, pixel) :: runs
  | [] => [(1, pixel)]

def runs (image : Image) : List (Nat × List UInt8) :=
  ((List.range (image.pixels.size / Frame.bytesPerPixel)).foldl
    (fun runs index => addToRuns runs (image.pixel index)) []).reverse

/-- Why an image has no file form. -/
inductive Fault where
  | noWidth
  | noHeight
deriving DecidableEq, Repr

def Fault.message : Fault → String
  | .noWidth => "Zero width not allowed"
  | .noHeight => "Zero height not allowed"

def fault? (image : Image) : Option Fault :=
  if image.width = 0 then some .noWidth
  else if image.height = 0 then some .noHeight
  else none

end Image

end LockScreen
