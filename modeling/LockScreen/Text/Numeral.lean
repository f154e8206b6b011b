namespace LockScreen.Text.Numeral

def digit? (base : Nat) (c : Char) : Option Nat :=
  let value :=
    if '0' ≤ c ∧ c ≤ '9' then some (c.toNat - '0'.toNat)
    else if 'a' ≤ c ∧ c ≤ 'z' then some (c.toNat - 'a'.toNat + 10)
    else if 'A' ≤ c ∧ c ≤ 'Z' then some (c.toNat - 'A'.toNat + 10)
    else none
  value.filter (· < base)

def digits? (base : Nat) (acc : Nat) : List Char → Option Nat
  | [] => some acc
  | c :: rest => (digit? base c).bind fun d => digits? base (acc * base + d) rest

inductive Fault where
  | empty
  | invalidDigit
  | tooLarge
deriving DecidableEq, Repr

def Fault.message : Fault → String
  | .empty => "cannot parse integer from empty string"
  | .invalidDigit => "invalid digit found in string"
  | .tooLarge => "number too large to fit in target type"

/-- Reads digits while the value stays below `bound`. The first fault from the left counts, so
digits that leave the range win over a bad character behind them. -/
def bounded (base bound : Nat) (acc : Nat) : List Char → Except Fault Nat
  | [] => .ok acc
  | c :: rest =>
    match digit? base c with
    | none => .error .invalidDigit
    | some d =>
      if acc * base + d < bound then bounded base bound (acc * base + d) rest
      else .error .tooLarge

def unsigned (base bound : Nat) : List Char → Except Fault Nat
  | [] => .error .empty
  | ['+'] => .error .invalidDigit
  | '+' :: rest => bounded base bound 0 rest
  | text => bounded base bound 0 text

def hex (n : Nat) : String :=
  String.ofList (Nat.toDigits 16 n)

def hexPadded (width n : Nat) : String :=
  let digits := Nat.toDigits 16 n
  String.ofList (List.replicate (width - digits.length) '0' ++ digits)

end LockScreen.Text.Numeral

namespace LockScreen.Text.Hex

def encode (bytes : List UInt8) : String :=
  String.join (bytes.map fun byte => Numeral.hexPadded 2 byte.toNat)

/-- The bytes that pairs of digits spell. A pair that is no number counts as 0, and a digit without
a partner is left out. -/
def decode : List Char → List UInt8
  | first :: second :: rest =>
    UInt8.ofNat ((Numeral.digits? 16 0 [first, second]).getD 0) :: decode rest
  | _ => []

end LockScreen.Text.Hex
