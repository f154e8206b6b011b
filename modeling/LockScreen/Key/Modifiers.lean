namespace LockScreen

inductive Modifier where
  | shift
  | control
  | alt
  | logo
deriving DecidableEq, Repr

structure Modifiers where
  shift : Bool
  control : Bool
  alt : Bool
  logo : Bool
deriving DecidableEq, Repr

namespace Modifiers

def none : Modifiers := ⟨false, false, false, false⟩

def ofPredicate (active : Modifier → Bool) : Modifiers :=
  ⟨active .shift, active .control, active .alt, active .logo⟩

def bits (modifiers : Modifiers) : UInt32 :=
  (if modifiers.shift then 0x02000000 else 0) ||| (if modifiers.control then 0x04000000 else 0) |||
    (if modifiers.alt then 0x08000000 else 0) ||| (if modifiers.logo then 0x10000000 else 0)

/-- Bits that stand for no modifier are dropped. -/
def ofBits (bits : UInt32) : Modifiers :=
  ⟨bits &&& 0x02000000 != 0, bits &&& 0x04000000 != 0, bits &&& 0x08000000 != 0,
    bits &&& 0x10000000 != 0⟩

end Modifiers

end LockScreen
