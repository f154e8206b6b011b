namespace LockScreen.Text.Utf8

def encode (text : String) : List UInt8 :=
  text.toUTF8.data.toList

def decode? (bytes : List UInt8) : Option String :=
  String.fromUTF8? ⟨bytes.toArray⟩

structure Fault where
  index : Nat
  length : Option Nat
deriving DecidableEq, Repr

def Fault.message (fault : Fault) : String :=
  match fault.length with
  | some n => s!"invalid utf-8 sequence of {n} bytes from index {fault.index}"
  | none => s!"incomplete utf-8 byte sequence from index {fault.index}"

/-- How a sequence that starts with a given byte goes on: the ranges of its continuation bytes.
`none` for a byte that starts no sequence. -/
def continuations (lead : UInt8) : Option (List (UInt8 × UInt8)) :=
  if lead < 0x80 then some []
  else if lead < 0xC2 then none
  else if lead < 0xE0 then some [(0x80, 0xBF)]
  else if lead = 0xE0 then some [(0xA0, 0xBF), (0x80, 0xBF)]
  else if lead = 0xED then some [(0x80, 0x9F), (0x80, 0xBF)]
  else if lead < 0xF0 then some [(0x80, 0xBF), (0x80, 0xBF)]
  else if lead = 0xF0 then some [(0x90, 0xBF), (0x80, 0xBF), (0x80, 0xBF)]
  else if lead < 0xF4 then some [(0x80, 0xBF), (0x80, 0xBF), (0x80, 0xBF)]
  else if lead = 0xF4 then some [(0x80, 0x8F), (0x80, 0xBF), (0x80, 0xBF)]
  else none

/-- Scans bytes from `index` on; `pending` are the ranges that the sequence begun at `start` still
needs. -/
def scan (index start : Nat) (pending : List (UInt8 × UInt8)) : List UInt8 → Option Fault
  | [] => if pending.isEmpty then none else some ⟨start, none⟩
  | byte :: rest =>
    match pending with
    | (low, high) :: more =>
      if low ≤ byte ∧ byte ≤ high then scan (index + 1) start more rest
      else some ⟨start, some (index - start)⟩
    | [] =>
      match continuations byte with
      | some ranges => scan (index + 1) index ranges rest
      | none => some ⟨index, some 1⟩

def fault? (bytes : List UInt8) : Option Fault :=
  scan 0 0 [] bytes

/-- The last place at or before a given one where no character is cut. It is found by stepping back
a byte at a time; a step back from the start would be one too far. -/
def boundary? (text : String) (place : Nat) : Option text.Pos :=
  if h : String.Pos.Raw.IsValid text ⟨place⟩ then some (text.pos ⟨place⟩ h)
  else
    match place with
    | 0 => none
    | place + 1 => boundary? text place

theorem isSome_boundary? (text : String) (place : Nat) : (boundary? text place).isSome := by
  induction place with
  | zero =>
    have hstart : String.Pos.Raw.IsValid text ⟨0⟩ := String.Pos.Raw.isValid_zero
    rw [boundary?, dif_pos hstart]
    rfl
  | succ place ih =>
    rw [boundary?]
    split
    · rfl
    · exact ih

def truncate (text : String) (limit : Nat) : String :=
  if text.utf8ByteSize ≤ limit then text
  else (text.sliceTo ((boundary? text limit).get (isSome_boundary? text limit))).copy

end LockScreen.Text.Utf8
