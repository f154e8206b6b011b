import LockScreen.Pattern.Fault
import LockScreen.Text.Lines

namespace LockScreen.Pattern

open LockScreen.Text

structure Cursor where
  place : Place
  rest : List Char
  spacious : Bool
  names : List (List Char × Span)

namespace Cursor

def new (pattern : List Char) : Cursor := ⟨.first, pattern, false, []⟩

def step (cursor : Cursor) : Cursor :=
  match cursor.rest with
  | [] => cursor
  | c :: rest => { cursor with place := cursor.place.behind c, rest }

def pass (inComment : Bool) (place : Place) : List Char → Place × List Char
  | [] => (place, [])
  | c :: rest =>
    if inComment then pass (c ≠ '\n') (place.behind c) rest
    else if isBlank c then pass false (place.behind c) rest
    else if c = '#' then pass true (place.behind c) rest
    else (place, c :: rest)

def skip (cursor : Cursor) : Cursor :=
  if cursor.spacious then
    let (place, rest) := pass false cursor.place cursor.rest
    { cursor with place, rest }
  else cursor

/-- The first character that is neither blank nor starts a comment. What a comment says is looked at
as if it were no comment. -/
def glance (inComment : Bool) : List Char → Option Char
  | [] => none
  | c :: rest =>
    if isBlank c then glance inComment rest
    else if !inComment && c = '#' then glance true rest
    else some c

def second? (cursor : Cursor) : Option Char :=
  let behind := cursor.rest.drop 1
  if cursor.spacious then (glance false behind).or behind.head? else behind.head?

end Cursor

abbrev Reader := StateT Cursor (Except Fault)

namespace Reader

def refuse {α : Type} (reason : Reason) (span : Span) : Reader α :=
  throw ⟨reason, span, none⟩

def place : Reader Place := return (← get).place

def next? : Reader (Option Char) := return (← get).rest.head?

def nextSpan : Reader Span := do
  let cursor ← get
  return ⟨cursor.place, cursor.step.place⟩

def since (start : Place) : Reader Span := return ⟨start, ← place⟩

def here : Reader Span := return .point (← place)

def step : Reader Unit := modify Cursor.step

def skip : Reader Unit := modify Cursor.skip

def stepAndSkip : Reader Unit := modify fun cursor => cursor.step.skip

def take (text : String) : Reader Bool := do
  if text.toList.isPrefixOf (← get).rest then
    modify fun cursor => Nat.repeat Cursor.step text.length cursor
    return true
  else return false

end Reader

end LockScreen.Pattern
