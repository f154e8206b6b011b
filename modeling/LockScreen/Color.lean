import LockScreen.Text.Numeral

namespace LockScreen

open LockScreen.Text

structure Color where
  red : UInt32
  green : UInt32
  blue : UInt32
  alpha : UInt32
deriving DecidableEq, Repr

namespace Color

def one : UInt32 := 0x3f800000

def places (byte : Nat) : Nat :=
  if 255 ≤ byte then 0 else 8 - byte.log2

/-- A byte as a component, in 255ths: the bits of the nearest single-precision number. No quotient
is half way between two of them. -/
def component (byte : UInt8) : UInt32 :=
  if byte = 0 then 0
  else
    let places := places byte.toNat
    let significand := (byte.toNat <<< (places + 24) + 255) / 510
    UInt32.ofNat ((126 - places) <<< 23 + significand)

def opaque255 (red green blue : UInt8) : Color :=
  ⟨component red, component green, component blue, one⟩

def white : Color := ⟨one, one, one, one⟩

/-- The byte that two characters spell in hexadecimal, the largest one if they spell none. -/
def pair (digits : List Char) : UInt8 :=
  match Numeral.unsigned 16 256 digits with
  | .ok value => UInt8.ofNat value
  | .error _ => 255

def ofDigits (digits : List Char) : Color :=
  opaque255 (pair (digits.take 2)) (pair ((digits.drop 2).take 2)) (pair (digits.drop 4))

def isAscii (c : Char) : Bool :=
  c.toNat < 128

def parse (text : String) : Color :=
  let digits := text.toList.dropWhile (· = '#')
  if digits.length = 6 && digits.all isAscii then ofDigits digits else white

def lavender : Color := ⟨0x3f4ccccd, 0x3f4ccccd, 0x3f666666, one⟩

def amber : Color := ⟨0x3f666666, 0x3f333333, 0x3e4ccccd, one⟩

def scarlet : Color := ⟨0x3f666666, 0x3e4ccccd, 0x3e4ccccd, one⟩

def emerald : Color := ⟨0x3e4ccccd, 0x3f4ccccd, 0x3e99999a, one⟩

end Color

end LockScreen
