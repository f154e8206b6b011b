import LockScreen.Log
import LockScreen.Text.Lines

/-!
Which log lines are shown. A specification such as `warn,lockbridge::gpu=debug` names levels for
targets and all targets that begin like them; the longest name that fits a line decides. Behind a
slash stands a pattern that has to match in the message of a line.
-/

namespace LockScreen.Log

open LockScreen.Text

def verbosityOfName? (word : List Char) : Option Nat :=
  if sameLetters word "off".toList then some 0
  else (Level.named? word).map Level.verbosity

structure Directive where
  start : Option (List Char)
  verbosity : Nat
deriving DecidableEq, Repr

/-- What a filter needs of a pattern library. -/
structure Patterns where
  Pattern : Type
  read : List Char → Except String Pattern
  occursIn : Pattern → List Char → Bool

structure Filter (patterns : Patterns) where
  directives : List Directive
  content : Option patterns.Pattern

namespace Directive

def everything : Nat := Level.trace.verbosity

def warning (part : List Char) : String :=
  s!"warning: invalid logging spec '{String.ofList part}', ignoring it"

/-- One directive, or what is wrong with it. A word alone is a level for all targets, or else a
target with all its lines. -/
def ofPart (part : List Char) : Except String Directive :=
  match pieces '=' part with
  | [word] =>
    match verbosityOfName? word with
    | some verbosity => .ok ⟨none, verbosity⟩
    | none => .ok ⟨some word, everything⟩
  | [target, level] =>
    let level := stripped level
    if level.isEmpty then .ok ⟨some target, everything⟩
    else
      match verbosityOfName? level with
      | some verbosity => .ok ⟨some target, verbosity⟩
      | none => .error (warning level)
  | _ => .error (warning part)

def ofParts : List (List Char) → List Directive × List String
  | [] => ([], [])
  | part :: rest =>
    let (directives, warnings) := ofParts rest
    let part := stripped part
    if part.isEmpty then (directives, warnings)
    else
      match ofPart part with
      | .ok directive => (directive :: directives, warnings)
      | .error message => (directives, message :: warnings)

def put (directives : List Directive) (directive : Directive) : List Directive :=
  match directives with
  | [] => [directive]
  | other :: rest =>
    if other.start = directive.start then directive :: rest else other :: put rest directive

def fits (directive : Directive) (target : List Char) : Bool :=
  directive.start.all fun start => start.isPrefixOf target

def length (directive : Directive) : Nat :=
  (directive.start.getD []).length

/-- The one of two directives that decides: the longer one, and of equals the later. -/
def closer (first : Option Directive) (second : Directive) : Option Directive :=
  match first with
  | none => some second
  | some first => if first.length ≤ second.length then some second else some first

end Directive

namespace Filter

variable (patterns : Patterns)

def standard : List Directive := [⟨none, Level.error.verbosity⟩]

def readContent (text : List Char) : Option patterns.Pattern × List String :=
  match patterns.read text with
  | .ok pattern => (some pattern, [])
  | .error message => (none, [s!"warning: invalid regex filter - {message}"])

/-- Reads a specification, with warnings about what is wrong with it. -/
def parse (specification : String) : Filter patterns × List String :=
  let choose (parts : List Char) (content : Option patterns.Pattern) (complaints : List String) :
      Filter patterns × List String :=
    let (directives, warnings) := Directive.ofParts (pieces ',' parts)
    let directives := directives.foldl Directive.put []
    (⟨if directives.isEmpty then standard else directives, content⟩, warnings ++ complaints)
  match pieces '/' specification.toList with
  | [parts] => choose parts none []
  | [parts, text] =>
    let (content, complaints) := readContent patterns text
    choose parts content complaints
  | _ =>
    (⟨standard, none⟩,
      [Directive.warning specification.toList ++ " (too many '/'s)"])

def admits {patterns : Patterns} (filter : Filter patterns) (line : Line) : Bool :=
  let fitting := filter.directives.filter fun directive => directive.fits line.target.toList
  match fitting.foldl Directive.closer none with
  | none => false
  | some directive =>
    line.level.verbosity ≤ directive.verbosity &&
      filter.content.all fun pattern => patterns.occursIn pattern line.message.toList

end Filter

end LockScreen.Log
