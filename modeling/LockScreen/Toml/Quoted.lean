import LockScreen.Text.Numeral
import LockScreen.Toml.Layout

namespace LockScreen.Toml.Quoted

open LockScreen.Text

structure Style where
  quote : Char
  escapes : Bool
  multiline : Bool

inductive Mode where
  | plain
  | escaped
  | code (missing value : Nat)
  | trimming (newline : Bool)
  | returned (trimming : Bool)
  | quotes (count : Nat)

def shortEscape? : Char → Option Char
  | 'b' => some '\x08'
  | 't' => some '\t'
  | 'n' => some '\n'
  | 'f' => some '\x0c'
  | 'r' => some '\r'
  | '"' => some '"'
  | '\\' => some '\\'
  | _ => none

def ofCode? (value : Nat) : Option Char :=
  if value < 0xD800 ∨ (0xDFFF < value ∧ value < 0x110000) then some (Char.ofNat value) else none

abbrev Step := Option (Mode × Option Char)

def plainStep (style : Style) (c : Char) : Step :=
  if c = style.quote then some (.quotes 1, none)
  else if style.escapes && c = '\\' then some (.escaped, none)
  else if style.multiline && c = '\n' then some (.plain, some '\n')
  else if style.multiline && c = '\r' then some (.returned false, none)
  else if isInline c then some (.plain, some c)
  else none

def escapeStep (style : Style) (c : Char) : Step :=
  match shortEscape? c with
  | some read => some (.plain, some read)
  | none =>
    if c = 'u' then some (.code 4 0, none)
    else if c = 'U' then some (.code 8 0, none)
    else if !style.multiline then none
    else if isBlank c then some (.trimming false, none)
    else if c = '\n' then some (.trimming true, none)
    else if c = '\r' then some (.returned true, none)
    else none

def codeStep (missing value : Nat) (c : Char) : Step :=
  match Numeral.digit? 16 c with
  | none => none
  | some d =>
    let value := value * 16 + d
    if missing = 1 then (ofCode? value).map fun read => (.plain, some read)
    else some (.code (missing - 1) value, none)

def trimStep (style : Style) (ended : Bool) (c : Char) : Step :=
  if isBlank c then some (.trimming ended, none)
  else if c = '\n' then some (.trimming true, none)
  else if c = '\r' then some (.returned true, none)
  else if ended then plainStep style c
  else none

def longestRun : Nat := 5

def step (style : Style) (mode : Mode) (c : Char) : Step :=
  match mode with
  | .plain => plainStep style c
  | .escaped => escapeStep style c
  | .code missing value => codeStep missing value c
  | .trimming ended => trimStep style ended c
  | .returned trimming =>
    if c ≠ '\n' then none
    else if trimming then some (.trimming true, none)
    else some (.plain, some '\n')
  | .quotes count =>
    if c ≠ style.quote then plainStep style c
    else if count < longestRun then some (.quotes (count + 1), none)
    else none

/-- How many quotes of a run are part of the text, if the run ends the string before `next`. In a
string on one line the first quote ends it; in the others the last three of a run do. -/
def closing? (style : Style) (mode : Mode) (next : Option Char) : Option Nat :=
  match mode with
  | .quotes count =>
    if !style.multiline then some 0
    else if count < 3 ∨ next = some style.quote then none
    else some (count - 3)
  | _ => none

def pending (style : Style) (mode next : Mode) : List Char :=
  match mode, next with
  | .quotes _, .quotes _ => []
  | .quotes count, _ => List.replicate count style.quote
  | _, _ => []

def scan (style : Style) (mode : Mode) (read : List Char) (text : List Char) :
    Option (String × List Char) :=
  match closing? style mode text.head? with
  | some extra =>
    some (String.ofList (List.replicate extra style.quote ++ read).reverse, text)
  | none =>
    match text with
    | [] => none
    | c :: rest =>
      match step style mode c with
      | none => none
      | some (next, char) =>
        scan style next (char.toList ++ (pending style mode next ++ read)) rest

def line (quote : Char) (escapes : Bool) : Reader String :=
  scan ⟨quote, escapes, false⟩ .plain []

def lines (quote : Char) (escapes : Bool) (text : List Char) : Option (String × List Char) :=
  scan ⟨quote, escapes, true⟩ .plain [] ((newline? text).getD text)

def read : Reader String
  | '"' :: '"' :: '"' :: rest => lines '"' true rest
  | '"' :: rest => line '"' true rest
  | '\'' :: '\'' :: '\'' :: rest => lines '\'' false rest
  | '\'' :: rest => line '\'' false rest
  | _ => none

end LockScreen.Toml.Quoted
