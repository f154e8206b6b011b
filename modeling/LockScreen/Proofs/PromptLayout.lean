import LockScreen.Graphics.Canvas
import LockScreen.Prompt

/-!
Where the parts of the prompt are drawn, in integers without a bound: a bar across the frame and a
row of square blocks above it. For frames that are not too large all signed numbers of a drawing are
these.
-/

namespace LockScreen.Proofs.PromptLayout

open LockScreen.Graphics

section Shapes

variable (width height count : Nat)

def barHeight : Nat := max (height / 40) 2

def side : Nat := max (height / 30) 4

def gap : Nat := side height / 2

def stride : Nat := side height + gap height

def rowWidth : Nat := count * side height + (count - 1) * gap height

/-- The column of the first block. It is negative if the row is wider than the frame. -/
def start : Int := ((width : Int) - rowWidth height count).tdiv 2

def bar : Rect := ⟨0, (height / 2 : Nat) - barHeight height * 4, width, barHeight height⟩

def block (index : Nat) : Rect :=
  ⟨start width height count + index * stride height, (height / 2 : Nat), side height, side height⟩

end Shapes

section Numbers

def Fits (value : Int) : Prop :=
  -2147483648 ≤ value ∧ value < 2147483648

variable {a b : Int32} {x y : Int}

def IsExactly (number : Option Int32) (value : Int) : Prop :=
  ∃ held, number = some held ∧ held.toInt = value

end Numbers

section Bounds

variable {height count : Nat}

end Bounds

section Exactness

variable {width height : UInt32} {count : Nat}

section Sizes

variable (hheight : height.toNat ≤ 1073741824)
include hheight

end Sizes

section Row

variable (hheight : height.toNat ≤ 1073741824) (hcount : count ≤ 32)
include hheight hcount

variable (hwidth : width.toNat < 2147483648)
include hwidth

end Row

end Exactness

end LockScreen.Proofs.PromptLayout
