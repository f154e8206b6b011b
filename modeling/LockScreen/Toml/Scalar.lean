import LockScreen.Text.Numeral
import LockScreen.Toml.Item
import LockScreen.Toml.Layout

namespace LockScreen.Toml.Scalar

open LockScreen.Text

def isPart (c : Char) : Bool :=
  c.isAlphanum || c = '+' || c = '-' || c = '_' || c = '.' || c = ':'

/-- Digits of a base, at least one, and at most one underscore between two of them. -/
def digits? (base : Nat) : List Char → Option (List Char)
  | [] => none
  | [c] => if (Numeral.digit? base c).isSome then some [c] else none
  | c :: '_' :: rest =>
    if (Numeral.digit? base c).isSome then (digits? base rest).map (c :: ·) else none
  | c :: rest =>
    if (Numeral.digit? base c).isSome then (digits? base rest).map (c :: ·) else none

def wholeDigits? (text : List Char) : Option (List Char) :=
  match text with
  | ['0'] => some ['0']
  | '0' :: _ => none
  | _ => digits? 10 text

def valueOf (base : Nat) (digits : List Char) : Nat :=
  (Numeral.digits? base 0 digits).getD 0

def sign : List Char → Bool × List Char
  | '-' :: rest => (true, rest)
  | '+' :: rest => (false, rest)
  | text => (false, text)

def integerLimit : Nat := 9223372036854775808

def integerOf (negative : Bool) (magnitude : Nat) : Option Item :=
  if negative then
    if magnitude ≤ integerLimit then some (.integer (-(magnitude : Int))) else none
  else if magnitude < integerLimit then some (.integer magnitude)
  else none

def based (base : Nat) (text : List Char) : Option Item :=
  (digits? base text).bind fun digits => integerOf false (valueOf base digits)

def integer? : List Char → Option Item
  | '0' :: 'x' :: rest => based 16 rest
  | '0' :: 'o' :: rest => based 8 rest
  | '0' :: 'b' :: rest => based 2 rest
  | text =>
    let (negative, rest) := sign text
    (wholeDigits? rest).bind fun digits => integerOf negative (valueOf 10 digits)

/-- Whether digits times a power of ten, given by its exponent, round to a finite double: they stay
below the largest double and half a unit in its last place. -/
def isFinite (digits : Nat) (exponent : Int) : Bool :=
  if digits = 0 then true
  else
    let places : Int := (Nat.toDigits 10 digits).length + exponent
    if 310 < places then false
    else if places < 300 then true
    else
      let bound := Nat.pow 2 1024 - Nat.pow 2 970
      if 0 ≤ exponent then digits * Nat.pow 10 exponent.toNat < bound
      else digits < bound * Nat.pow 10 (-exponent).toNat

def exponent? (text : Option (List Char)) : Option Int :=
  match text with
  | none => some 0
  | some text =>
    let (negative, rest) := sign text
    (digits? 10 rest).map fun digits =>
      if negative then -(valueOf 10 digits : Int) else valueOf 10 digits

def cut (mark : Char → Bool) (text : List Char) : List Char × Option (List Char) :=
  match text.dropWhile fun c => !mark c with
  | [] => (text, none)
  | _ :: rest => (text.takeWhile fun c => !mark c, some rest)

def real? (text : List Char) : Option Item :=
  let (negative, unsigned) := sign text
  if unsigned = ['i', 'n', 'f'] ∨ unsigned = ['n', 'a', 'n'] then some .real
  else
    let (mantissa, exponentText) := cut (fun c => c = 'e' || c = 'E') unsigned
    let (wholeText, fractionText) := cut (· = '.') mantissa
    match wholeDigits? wholeText, exponent? exponentText, fractionText.map (digits? 10) with
    | some _, some _, some none => none
    | some whole, some exponent, fraction =>
      let fraction := (fraction.bind id).getD []
      if exponentText.isNone && fractionText.isNone then none
      else if !negative && !isFinite (valueOf 10 (whole ++ fraction)) (exponent - fraction.length)
      then none
      else some .real
    | _, _, _ => none

def field (count low high : Nat) (text : List Char) : Option (List Char) :=
  let digits := text.take count
  if digits.length = count ∧ digits.all Char.isDigit ∧ low ≤ valueOf 10 digits ∧
      valueOf 10 digits ≤ high then some (text.drop count)
  else none

def exactly (c : Char) : List Char → Option (List Char)
  | [] => none
  | first :: rest => if first = c then some rest else none

def isLeap (year : Nat) : Bool :=
  year % 4 = 0 && (year % 100 ≠ 0 || year % 400 = 0)

def daysIn (year month : Nat) : Nat :=
  if month = 2 then (if isLeap year then 29 else 28)
  else if month = 4 ∨ month = 6 ∨ month = 9 ∨ month = 11 then 30
  else 31

def date? (text : List Char) : Option (List Char) := do
  let rest ← (field 4 0 9999 text).bind (exactly '-')
  let year := valueOf 10 (text.take 4)
  let month := valueOf 10 (rest.take 2)
  let rest ← (field 2 1 12 rest).bind (exactly '-')
  field 2 1 (daysIn year month) rest

def fraction? : List Char → Option (List Char)
  | '.' :: rest =>
    match rest.takeWhile Char.isDigit with
    | [] => none
    | _ :: _ => some (rest.dropWhile Char.isDigit)
  | text => some text

def time? (text : List Char) : Option (List Char) := do
  let rest ← (field 2 0 23 text).bind (exactly ':')
  let rest ← (field 2 0 59 rest).bind (exactly ':')
  let rest ← field 2 0 60 rest
  fraction? rest

def offset? : List Char → Option (List Char)
  | [] => some []
  | c :: rest =>
    if c = 'Z' ∨ c = 'z' then some rest
    else if c = '+' ∨ c = '-' then do
      let rest ← (field 2 0 23 rest).bind (exactly ':')
      field 2 0 59 rest
    else none

def isZoned (text : List Char) : Bool :=
  (time? text).bind offset? = some []

def moment? (text : List Char) : Option Item :=
  match date? text with
  | some [] => some .moment
  | some (c :: rest) =>
    if (c = 'T' ∨ c = 't') ∧ isZoned rest = true then some .moment else none
  | none => if time? text = some [] then some .moment else none

def ofRun (text : List Char) : Option Item :=
  if text = ['t', 'r', 'u', 'e'] then some (.boolean true)
  else if text = ['f', 'a', 'l', 's', 'e'] then some (.boolean false)
  else
    match moment? text with
    | some item => some item
    | none =>
      match integer? text with
      | some item => some item
      | none => real? text

/-- An unquoted value. The time of a date may follow it behind one space. -/
def read (text : List Char) : Option (Item × List Char) :=
  let run := text.takeWhile isPart
  let rest := text.dropWhile isPart
  match rest with
  | ' ' :: more =>
    if date? run = some [] ∧ isZoned (more.takeWhile isPart) = true then
      some (.moment, more.dropWhile isPart)
    else (ofRun run).map (·, rest)
  | _ => (ofRun run).map (·, rest)

end LockScreen.Toml.Scalar
