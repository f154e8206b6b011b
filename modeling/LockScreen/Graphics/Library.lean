import LockScreen.Report
import LockScreen.Text.Numeral

namespace LockScreen.Graphics

open LockScreen.Text

inductive LibraryFault where
  | missing
  | outdated (minor : Nat)
deriving DecidableEq, Repr

def LibraryFault.report : LibraryFault → Report
  | .missing =>
    ⟨"Failed to load EGL library",
      ["libEGL.so: cannot open shared object file: No such file or directory"]⟩
  | .outdated minor =>
    ⟨"Failed to create EGL instance",
      [s!"Invalid EGL API version (required 1_5, provided 1_{minor})"]⟩

structure LibraryVersion where
  major : Nat
  minor : Nat
  embedded : Bool
deriving DecidableEq, Repr

namespace LibraryVersion

def embeddedMark : List Char := ['O', 'p', 'e', 'n', 'G', 'L', ' ', 'E', 'S', ' ']

def digitsOf (text : List Char) : Nat :=
  (Numeral.digits? 10 0 text).getD 0

/-- Reads a text such as `OpenGL ES 3.0` with anything behind a further blank. -/
def parse (text : String) : LibraryVersion :=
  let characters := text.toList
  let embedded := embeddedMark.isPrefixOf characters
  let behind := if embedded then characters.drop embeddedMark.length else characters
  let version := behind.takeWhile (· ≠ ' ')
  ⟨digitsOf (version.takeWhile (· ≠ '.')), digitsOf ((version.dropWhile (· ≠ '.')).drop 1),
    embedded⟩

end LibraryVersion

end LockScreen.Graphics
