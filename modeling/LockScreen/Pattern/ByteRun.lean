import LockScreen.Pattern.CharSet

namespace LockScreen.Pattern

/-- Bytes in a row, each of a range. -/
abbrev ByteRun := List (Nat × Nat)

namespace ByteRun

def bytes (n : Nat) : List Nat :=
  let next (shift : Nat) : Nat := 0x80 + n / shift % 64
  if n < 0x80 then [n]
  else if n < 0x800 then [0xc0 + n / 64, next 1]
  else if n < 0x10000 then [0xe0 + n / 4096, next 64, next 1]
  else [0xf0 + n / 262144, next 4096, next 64, next 1]

def widths : List Nat := [0x7f, 0x7ff, 0xffff]

/-- The last number of the first part, if the bytes of a range of equally long numbers do not vary
independently of each other. `unit` is how many numbers share all bytes but the last ones. -/
def splitAt? (first last unit : Nat) : Option Nat :=
  if first / unit = last / unit then none
  else if first % unit ≠ 0 then some (first / unit * unit + unit - 1)
  else if last % unit ≠ unit - 1 then some (last / unit * unit - 1)
  else none

def cut? (first last : Nat) : Option Nat :=
  match widths.find? fun width => first ≤ width && width < last with
  | some width => some width
  | none =>
    if last < 0x80 then none
    else
      ((splitAt? first last 64).or (splitAt? first last 4096)).or (splitAt? first last 262144)

def ofRange : Nat → Nat → Nat → List ByteRun
  | 0, first, last => [(bytes first).zip (bytes last)]
  | fuel + 1, first, last =>
    match cut? first last with
    | some middle => ofRange fuel first middle ++ ofRange fuel (middle + 1) last
    | none => [(bytes first).zip (bytes last)]

def cutLimit : Nat := 16

def surrogates : CharRange := ⟨0xd800, 0xdfff⟩

def ofSet (set : CharSet) : List ByteRun :=
  (set.ranges.flatMap (·.without surrogates)).flatMap fun range =>
    ofRange cutLimit range.first range.last

def branches : List ByteRun → List ((Nat × Nat) × List ByteRun)
  | [] => []
  | [] :: rest => branches rest
  | (first :: tail) :: rest =>
    match branches rest with
    | (next, tails) :: others =>
      if next = first then (first, tail :: tails) :: others
      else (first, [tail]) :: (next, tails) :: others
    | [] => [(first, [tail])]

def remainders : Nat → List ByteRun → List (List ByteRun)
  | 0, _ => []
  | depth + 1, all =>
    if all.all List.isEmpty then []
    else all :: (branches all).flatMap fun branch => remainders depth branch.2

def beginnings : ByteRun → List ByteRun
  | [] => []
  | first :: rest => [first] :: (beginnings rest).map (first :: ·)

end ByteRun

end LockScreen.Pattern
