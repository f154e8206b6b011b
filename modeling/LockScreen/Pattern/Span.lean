namespace LockScreen.Pattern

/-- A place before a character, by line and column, both counted from 1. -/
structure Place where
  line : Nat
  column : Nat
deriving DecidableEq, Repr

namespace Place

def first : Place := ⟨1, 1⟩

def behind (place : Place) (c : Char) : Place :=
  if c = '\n' then ⟨place.line + 1, 1⟩ else ⟨place.line, place.column + 1⟩

def before (place other : Place) : Bool :=
  place.line < other.line || (place.line = other.line && place.column < other.column)

end Place

structure Span where
  start : Place
  stop : Place
deriving DecidableEq, Repr

namespace Span

def point (place : Place) : Span := ⟨place, place⟩

def hull (first last : Span) : Span := ⟨first.start, last.stop⟩

def onOneLine (span : Span) : Bool :=
  span.start.line = span.stop.line

def before (span other : Span) : Bool :=
  span.start.before other.start || (span.start = other.start && span.stop.before other.stop)

end Span

end LockScreen.Pattern
