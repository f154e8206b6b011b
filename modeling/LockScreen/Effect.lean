import LockScreen.Log
import LockScreen.Wire.Record

namespace LockScreen

open LockScreen.Wire

/-- Calls on the keymaps and states of a keymap library. Keymaps are numbered as they are compiled,
and a state has the number of its keymap. -/
inductive KeymapCall where
  | keymapNew (id : Nat) (text : String)
  | keymapRefused (text : String)
  | stateNew (id : Nat)
  | stateReleased (id : Nat)
  | keymapReleased (id : Nat)
  | key (code : UInt32) (down : Bool)
  | masks (masks : Masks)
deriving DecidableEq, Repr

inductive Effect where
  | log (line : Log.Line)
  | keymap (call : KeymapCall)
  | closed (descriptor : Nat)
  | killed
deriving DecidableEq, Repr

namespace Effect

def line? : Effect → Option Log.Line
  | log line => some line
  | _ => none

def keymapCall? : Effect → Option KeymapCall
  | keymap call => some call
  | _ => none

end Effect

end LockScreen
