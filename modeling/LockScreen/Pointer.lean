import LockScreen.Key.Modifiers

namespace LockScreen

inductive Button where
  | left
  | right
  | middle
  | back
  | forward
  | extra
deriving DecidableEq, Repr

namespace Button

/-- The button of an evdev code. Two codes stand for Back and two for Forward. -/
def ofCode? (code : UInt32) : Option Button :=
  match code.toNat with
  | 0x110 => some left
  | 0x111 => some right
  | 0x112 => some middle
  | 0x113 => some back
  | 0x114 => some forward
  | 0x115 => some forward
  | 0x116 => some back
  | 0x117 => some extra
  | _ => none

def name : Button → String
  | left => "Left"
  | right => "Right"
  | middle => "Middle"
  | back => "Back"
  | forward => "Forward"
  | extra => "Extra"

def bit : Button → UInt32
  | left => 0x01
  | right => 0x02
  | middle => 0x04
  | back => 0x08
  | forward => 0x10
  | extra => 0x40

end Button

structure Buttons where
  left : Bool
  right : Bool
  middle : Bool
  back : Bool
  forward : Bool
  extra : Bool
deriving DecidableEq, Repr

namespace Buttons

def none : Buttons := ⟨false, false, false, false, false, false⟩

def held (buttons : Buttons) : Button → Bool
  | .left => buttons.left
  | .right => buttons.right
  | .middle => buttons.middle
  | .back => buttons.back
  | .forward => buttons.forward
  | .extra => buttons.extra

def set (buttons : Buttons) (value : Bool) : Button → Buttons
  | .left => { buttons with left := value }
  | .right => { buttons with right := value }
  | .middle => { buttons with middle := value }
  | .back => { buttons with back := value }
  | .forward => { buttons with forward := value }
  | .extra => { buttons with extra := value }

def bits (buttons : Buttons) : UInt32 :=
  let weight (button : Button) : UInt32 := if buttons.held button then button.bit else 0
  weight .left ||| weight .right ||| weight .middle ||| weight .back ||| weight .forward |||
    weight .extra

theorem held_set (buttons : Buttons) (value : Bool) (changed button : Button) :
    (buttons.set value changed).held button =
      if button = changed then value else buttons.held button := by
  cases changed <;> cases button <;> rfl

end Buttons

/-- Whether a button went down or up. Every tag other than 1 is a release. -/
inductive ButtonState where
  | released
  | pressed
deriving DecidableEq, Repr

def ButtonState.ofTag (tag : UInt64) : ButtonState :=
  if tag = 1 then .pressed else .released

inductive PointerAction where
  | move
  | press
  | release
deriving DecidableEq, Repr

/-- A pointer event as the scene gets it. Coordinates are the bits of doubles and pass unchanged. -/
structure PointerEvent where
  action : PointerAction
  x : UInt64
  y : UInt64
  button : Option Button
  buttons : Buttons
  modifiers : Modifiers
deriving DecidableEq, Repr

structure Pointer where
  x : UInt64
  y : UInt64
  buttons : Buttons
deriving DecidableEq, Repr

namespace Pointer

def new : Pointer := ⟨0, 0, .none⟩

def move (pointer : Pointer) (x y : UInt64) : Pointer × PointerEvent :=
  ({ pointer with x, y }, ⟨.move, x, y, none, pointer.buttons, .none⟩)

/-- A button goes down or up at the last position. A code of no known button changes nothing, but is
reported. -/
def press (pointer : Pointer) (code : UInt32) (state : ButtonState) : Pointer × PointerEvent :=
  let button := Button.ofCode? code
  let down := state = .pressed
  let buttons :=
    match button with
    | some button => pointer.buttons.set down button
    | none => pointer.buttons
  ({ pointer with buttons },
    ⟨if down then .press else .release, pointer.x, pointer.y, button, buttons, .none⟩)

end Pointer

end LockScreen
