import LockScreen.Key.Code
import LockScreen.Pointer

namespace LockScreen

inductive KeyState where
  | released
  | pressed
  | repeated
deriving DecidableEq, Repr

def KeyState.name : KeyState → String
  | .released => "Released"
  | .pressed => "Pressed"
  | .repeated => "Repeated"

def KeyState.ofTag? (tag : UInt64) : Option KeyState :=
  match tag.toNat with
  | 0 => some .released
  | 1 => some .pressed
  | 2 => some .repeated
  | _ => none

inductive KeyAction where
  | press
  | release
deriving DecidableEq, Repr

structure KeyEvent where
  action : KeyAction
  key : Key
  modifiers : Modifiers
  text : String
  code : UInt32
  autoRepeat : Bool
deriving DecidableEq, Repr

inductive AuthState where
  | pending
  | failed
  | success
deriving DecidableEq, Repr

def AuthState.name : AuthState → String
  | .pending => "Pending"
  | .failed => "Failed"
  | .success => "Success"

inductive SceneEvent where
  | key (event : KeyEvent)
  | pointer (event : PointerEvent)
  | auth (state : AuthState)
deriving DecidableEq, Repr

end LockScreen
