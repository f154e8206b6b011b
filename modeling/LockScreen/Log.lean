import LockScreen.Text.Lines
import LockScreen.Text.Utf8

namespace LockScreen.Log

open LockScreen.Text

inductive Level where
  | error
  | warn
  | info
  | debug
  | trace
deriving DecidableEq, Repr

def Level.name : Level → String
  | .error => "ERROR"
  | .warn => "WARN"
  | .info => "INFO"
  | .debug => "DEBUG"
  | .trace => "TRACE"

def sameLetters (first second : List Char) : Bool :=
  first.map Char.toLower = second.map Char.toLower

def Level.named? (word : List Char) : Option Level :=
  [error, warn, info, debug, trace].find? fun level => sameLetters word level.name.toList

/-- How talkative a level is: an error counts 1, a trace 5. -/
def Level.verbosity : Level → Nat
  | .error => 1
  | .warn => 2
  | .info => 3
  | .debug => 4
  | .trace => 5

structure Line where
  level : Level
  target : String
  message : String
deriving DecidableEq, Repr

def Line.head (line : Line) : String :=
  (rows line.message).headD ""

def Line.further (line : Line) : List String :=
  (rows line.message).tail.map ("    " ++ ·)

def Line.printed (line : Line) : List String :=
  let level := line.level.name
  let column := level ++ String.ofList (List.replicate (5 - level.length) ' ')
  s!"[{column} {line.target}] {line.head}" :: line.further

/-- A text handed over as NUL-terminated bytes. A missing text and one that is not UTF-8 are logged
under a marker, so that a line is never lost. -/
def textOrMarker (bytes : Option (List UInt8)) : String :=
  match bytes with
  | none => "<null>"
  | some bytes => (Utf8.decode? (bytes.takeWhile (· ≠ 0))).getD "<invalid utf8>"

def lineOfBytes (level : Level) (tag message : Option (List UInt8)) : Line :=
  ⟨level, textOrMarker tag, textOrMarker message⟩

end LockScreen.Log
