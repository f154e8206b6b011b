namespace LockScreen

inductive MapFault where
  | tooLong
  | badDescriptor
  | outOfMemory
  | denied
  | noDevice
deriving DecidableEq, Repr

def MapFault.message : MapFault → String
  | .tooLong => "memory map length overflows isize"
  | .badDescriptor => "Bad file descriptor (os error 9)"
  | .outOfMemory => "Cannot allocate memory (os error 12)"
  | .denied => "Permission denied (os error 13)"
  | .noDevice => "No such device (os error 19)"

inductive SharedFile where
  /-- An object that reads as zeros past its end, as far as it is mapped. -/
  | memory (content : List UInt8)
  /-- An object of which only the pages that hold some of it can be read. -/
  | paged (content : List UInt8)
  | unmappable (fault : MapFault)
deriving DecidableEq, Repr

/-- Bytes that were mapped: those of the object, and how many zeros are read behind them. To read on
behind the zeros, where they do not fill the mapping, is the end of the process. -/
structure Mapping where
  content : List UInt8
  zeros : Nat
  filled : Bool

namespace Mapping

def bytes (mapping : Mapping) : List UInt8 :=
  mapping.content ++ List.replicate mapping.zeros 0

/-- What stands before the first zero, if it can be read up to there. -/
def text? (mapping : Mapping) : Option (List UInt8) :=
  let text := mapping.content.takeWhile (· ≠ 0)
  if text.length < mapping.content.length ∨ 0 < mapping.zeros ∨ mapping.filled then some text
  else none

end Mapping

namespace SharedFile

def lengthLimit : Nat := 9223372036854775808

def spaceLimit : Nat := 140737488351232

def pageLength : Nat := 4096

def wholePages (length : Nat) : Nat :=
  (length + pageLength - 1) / pageLength * pageLength

def mapContent (content : List UInt8) (size reach : Nat) : Except MapFault Mapping :=
  if spaceLimit ≤ size then .error .outOfMemory
  else .ok ⟨content.take size, Nat.min size reach - content.length, size ≤ reach⟩

def map (file : SharedFile) (size : Nat) : Except MapFault Mapping :=
  if lengthLimit ≤ size then .error .tooLong
  else
    match file with
    | unmappable fault => .error fault
    | memory content => mapContent content size size
    | paged content => mapContent content size (wholePages content.length)

end SharedFile

end LockScreen
