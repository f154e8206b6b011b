import LockScreen.Report
import LockScreen.Text.Utf8

namespace LockScreen

open LockScreen.Text

inductive FileContent where
  | missing
  | obstructed
  | overlong
  | unnameable
  | directory
  | regular (bytes : List UInt8)
deriving DecidableEq, Repr

namespace FileContent

def isThere : FileContent → Bool
  | missing | obstructed | overlong | unnameable => false
  | directory | regular _ => true

def notFound : String := "No such file or directory (os error 2)"

def notADirectory : String := "Not a directory (os error 20)"

def isADirectory : String := "Is a directory (os error 21)"

def nameTooLong : String := "File name too long (os error 36)"

def zeroInName : String := "file name contained an unexpected NUL byte"

def readBytes : FileContent → Except String (List UInt8)
  | missing => .error notFound
  | obstructed => .error notADirectory
  | overlong => .error nameTooLong
  | unnameable => .error zeroInName
  | directory => .error isADirectory
  | regular bytes => .ok bytes

def readText (content : FileContent) : Except String String :=
  match content.readBytes with
  | .error cause => .error cause
  | .ok bytes =>
    match Utf8.decode? bytes with
    | some text => .ok text
    | none => .error "stream did not contain valid UTF-8"

end FileContent

end LockScreen
