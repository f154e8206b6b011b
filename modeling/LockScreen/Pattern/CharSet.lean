namespace LockScreen.Pattern

structure CharRange where
  first : Nat
  last : Nat
deriving DecidableEq, Repr

namespace CharRange

def meet (range other : CharRange) : List CharRange :=
  let first := Nat.max range.first other.first
  let last := Nat.min range.last other.last
  if first ≤ last then [⟨first, last⟩] else []

def without (range other : CharRange) : List CharRange :=
  if (range.meet other).isEmpty then [range]
  else
    (if range.first < other.first then [⟨range.first, other.first - 1⟩] else []) ++
      if other.last < range.last then [⟨other.last + 1, range.last⟩] else []

end CharRange

structure CharSet where
  ranges : List CharRange
deriving DecidableEq, Repr

namespace CharSet

def greatest : Nat := 0x10ffff

def empty : CharSet := ⟨[]⟩

def all : CharSet := ⟨[⟨0, greatest⟩]⟩

def isEmpty (set : CharSet) : Bool := set.ranges.isEmpty

def isAscii (set : CharSet) : Bool :=
  set.ranges.all fun range => range.last < 0x80

def contains (set : CharSet) (c : Char) : Bool :=
  set.ranges.any fun range => range.first ≤ c.toNat && c.toNat ≤ range.last

/-- Puts a range among others, and together with those that it meets. -/
def insert (range : CharRange) : List CharRange → List CharRange
  | [] => [range]
  | next :: rest =>
    if range.last + 1 < next.first then range :: next :: rest
    else if next.last + 1 < range.first then next :: insert range rest
    else insert ⟨Nat.min range.first next.first, Nat.max range.last next.last⟩ rest

def ofRanges (ranges : List CharRange) : CharSet :=
  ⟨ranges.foldr insert []⟩

def single (c : Char) : CharSet := ⟨[⟨c.toNat, c.toNat⟩]⟩

def between (first last : Char) : CharSet := ⟨[⟨first.toNat, last.toNat⟩]⟩

def single? (set : CharSet) : Option Char :=
  match set.ranges with
  | [range] => if range.first = range.last then some (Char.ofNat range.first) else none
  | _ => none

def union (set other : CharSet) : CharSet :=
  ofRanges (set.ranges ++ other.ranges)

def intersection (set other : CharSet) : CharSet :=
  ⟨set.ranges.flatMap fun range => other.ranges.flatMap range.meet⟩

def remove (set : CharSet) (range : CharRange) : CharSet :=
  ⟨set.ranges.flatMap fun part => part.without range⟩

def difference (set other : CharSet) : CharSet :=
  other.ranges.foldl remove set

def next (n : Nat) : Nat := if n = 0xd7ff then 0xe000 else n + 1

def previous (n : Nat) : Nat := if n = 0xe000 then 0xd7ff else n - 1

/-- What lies between two ranges. Ranges without any character between them count as overlapping by
one. -/
def gap (last first : Nat) : CharRange :=
  ⟨Nat.min (next last) (previous first), Nat.max (next last) (previous first)⟩

def gapsBehind (last : Nat) : List CharRange → List CharRange
  | [] => if last < greatest then [⟨next last, greatest⟩] else []
  | range :: rest => gap last range.first :: gapsBehind range.last rest

def complement (set : CharSet) : CharSet :=
  match set.ranges with
  | [] => all
  | range :: rest =>
    ⟨(if 0 < range.first then [⟨0, previous range.first⟩] else []) ++ gapsBehind range.last rest⟩

def moved (within : CharRange) (up down : Nat) (range : CharRange) : List CharRange :=
  (range.meet within).map fun part => ⟨part.first + up - down, part.last + up - down⟩

def eitherCase (set : CharSet) : CharSet :=
  ofRanges (set.ranges ++ set.ranges.flatMap (moved ⟨0x41, 0x5a⟩ 0x20 0) ++
    set.ranges.flatMap (moved ⟨0x61, 0x7a⟩ 0 0x20))

def ofPairs (pairs : List (Char × Char)) : CharSet :=
  ofRanges (pairs.map fun pair => ⟨pair.1.toNat, pair.2.toNat⟩)

def ofChars (chars : List Char) : CharSet :=
  ofPairs (chars.map fun c => (c, c))

def allBut (excluded : List Char) : CharSet :=
  (ofChars excluded).complement

end CharSet

end LockScreen.Pattern
