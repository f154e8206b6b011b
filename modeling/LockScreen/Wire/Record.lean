import LockScreen.Wire.Error
import LockScreen.Wire.LittleEndian

namespace LockScreen.Wire

inductive Kind where
  | wayland
  /-- A frame is ready; the first parameter is its buffer handle. -/
  | renderer
  /-- First parameter a shared memory descriptor, second its length in bytes. -/
  | keyboardKeymap
  /-- First parameter an evdev key code, second the state of the key. -/
  | keyboardKey
  /-- The four xkb masks, two to a parameter. -/
  | keyboardModifiers
  /-- First parameter the interval between repeats, second the delay before the first, in ms. -/
  | keyboardRepeatInfo
  /-- Surface coordinates as the bits of two doubles. -/
  | pointerMotion
  /-- First parameter a button code, second the state of the button. -/
  | pointerButton
  /-- First parameter the handle of a buffer that holds the secret. -/
  | authSubmit
  | authPending
  | authFail
  | authSuccess
deriving DecidableEq, Repr

namespace Kind

def tag : Kind → UInt64
  | wayland => 1
  | renderer => 2
  | keyboardKeymap => 3
  | keyboardKey => 4
  | keyboardModifiers => 5
  | keyboardRepeatInfo => 6
  | pointerMotion => 7
  | pointerButton => 8
  | authSubmit => 9
  | authPending => 10
  | authFail => 11
  | authSuccess => 12

def ofTag (tag : UInt64) : Except Error Kind :=
  match tag.toNat with
  | 1 => .ok wayland
  | 2 => .ok renderer
  | 3 => .ok keyboardKeymap
  | 4 => .ok keyboardKey
  | 5 => .ok keyboardModifiers
  | 6 => .ok keyboardRepeatInfo
  | 7 => .ok pointerMotion
  | 8 => .ok pointerButton
  | 9 => .ok authSubmit
  | 10 => .ok authPending
  | 11 => .ok authFail
  | 12 => .ok authSuccess
  | _ => .error (.unknownKind tag)

def name : Kind → String
  | wayland => "Wayland"
  | renderer => "Renderer"
  | keyboardKeymap => "KeyboardKeymap"
  | keyboardKey => "KeyboardKey"
  | keyboardModifiers => "KeyboardModifiers"
  | keyboardRepeatInfo => "KeyboardRepeatInfo"
  | pointerMotion => "PointerMotion"
  | pointerButton => "PointerButton"
  | authSubmit => "AuthSubmit"
  | authPending => "AuthPending"
  | authFail => "AuthFail"
  | authSuccess => "AuthSuccess"

theorem ofTag_tag (kind : Kind) : ofTag kind.tag = .ok kind := by
  cases kind <;> rfl

end Kind

structure Record where
  kind : Kind
  first : UInt64
  second : UInt64
deriving DecidableEq, Repr

structure Masks where
  depressed : UInt32
  latched : UInt32
  locked : UInt32
  group : UInt32
deriving DecidableEq, Repr

namespace Masks

def join (upper lower : UInt32) : UInt64 :=
  upper.toUInt64 <<< 32 ||| lower.toUInt64

def upper (word : UInt64) : UInt32 :=
  (word >>> 32).toUInt32

def lower (word : UInt64) : UInt32 :=
  word.toUInt32

def pack (masks : Masks) : UInt64 × UInt64 :=
  (join masks.depressed masks.latched, join masks.locked masks.group)

def unpack (first second : UInt64) : Masks where
  depressed := upper first
  latched := lower first
  locked := upper second
  group := lower second

end Masks

namespace Record

def encode (record : Record) : List UInt8 :=
  LittleEndian.toBytes 8 record.kind.tag.toNat ++ LittleEndian.toBytes 8 record.first.toNat ++
    LittleEndian.toBytes 8 record.second.toNat

def word (bytes : List UInt8) : UInt64 :=
  UInt64.ofNat (LittleEndian.ofBytes (bytes.take 8))

/-- Reads one record. Any other number of bytes is a channel out of step, never the start of a
record to be continued later. -/
def decode (bytes : List UInt8) : Except Error Record :=
  if bytes.length = recordLength then do
    let kind ← Kind.ofTag (word bytes)
    return ⟨kind, word (bytes.drop 8), word (bytes.drop 16)⟩
  else .error (.partialRecord bytes.length)

def modifiers (masks : Masks) : Record :=
  ⟨.keyboardModifiers, masks.pack.1, masks.pack.2⟩

def motion (x y : UInt64) : Record :=
  ⟨.pointerMotion, x, y⟩

@[simp] theorem length_encode (record : Record) : record.encode.length = recordLength := by
  simp [encode, recordLength]

end Record

end LockScreen.Wire
