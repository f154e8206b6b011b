import LockScreen.Graphics.Command

namespace LockScreen.Graphics

structure Rect where
  x : Int
  y : Int
  width : Int
  height : Int
deriving DecidableEq, Repr

def Rect.contains (rect : Rect) (x y : Int) : Bool :=
  rect.x ≤ x && x < rect.x + rect.width && rect.y ≤ y && y < rect.y + rect.height

structure Canvas where
  pixel : Int → Int → Color
  scissoring : Bool
  scissor : Rect
  clearColor : Color

namespace Canvas

def void : Color := ⟨0, 0, 0, 0⟩

def new : Canvas := ⟨fun _ _ => void, false, ⟨0, 0, 0, 0⟩, void⟩

def reaches (canvas : Canvas) (x y : Int) : Bool :=
  !canvas.scissoring || canvas.scissor.contains x y

def fill (canvas : Canvas) : Canvas :=
  if canvas.scissoring then
    { canvas with
      pixel := fun x y =>
        if canvas.scissor.contains x y then canvas.clearColor else canvas.pixel x y }
  else { canvas with pixel := fun _ _ => canvas.clearColor }

def perform (canvas : Canvas) : Command → Canvas
  | .scissorTest on => { canvas with scissoring := on }
  | .scissor x y width height =>
    { canvas with scissor := ⟨x.toInt, y.toInt, width.toInt, height.toInt⟩ }
  | .clearColor color => { canvas with clearColor := color }
  | .clear _ => canvas.fill
  | _ => canvas

def performAll (canvas : Canvas) (commands : List Command) : Canvas :=
  commands.foldl perform canvas

def byte (component : UInt32) : UInt8 :=
  (Float32.ofBits component * 255 + 0.5).floor.toUInt8

def appendPixels (canvas : Canvas) (row : Int) : (count : Nat) → (column : Int) → ByteArray → ByteArray
  | 0, _, bytes => bytes
  | count + 1, column, bytes =>
    let color := canvas.pixel column row
    appendPixels canvas row count (column + 1)
      ((((bytes.push (byte color.blue)).push (byte color.green)).push (byte color.red)).push
        (byte color.alpha))

def rowBytes (canvas : Canvas) (row width : Nat) : ByteArray :=
  appendPixels canvas row width 0 ByteArray.empty

end Canvas

end LockScreen.Graphics
