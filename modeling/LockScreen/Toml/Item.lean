/-!
Values of a TOML document, and the rules by which tables grow. A table may be extended only in the
way it came about: one that a dotted key made by further dotted keys, one that only a longer header
implied by a header of its own; all others are closed.
-/

namespace LockScreen.Toml

inductive Origin where
  | header
  | implied
  | dotted
  | braces
deriving DecidableEq, Repr

inductive Item where
  | text (content : String)
  | integer (value : Int)
  | real
  | boolean (value : Bool)
  | moment
  | list (items : List Item)
  | table (origin : Origin) (entries : List (String × Item))
  | tables (all : List (List (String × Item)))

abbrev Entries := List (String × Item)

/-- What finds the table that a document describes, if it is a sound one. -/
abbrev Library := String → Option Entries

namespace Entries

def replace (entries : Entries) (key : String) (item : Item) : Entries :=
  entries.map fun entry => if entry.1 = key then (key, item) else entry

def changeLast (change : Entries → Option Entries) : List Entries → Option (List Entries)
  | [] => none
  | [last] => (change last).map ([·])
  | table :: rest => (changeLast change rest).map (table :: ·)

/-- Adds an item under a dotted key. Tables on the way are made where they are missing; the item
itself must be new, in a table that is `extensible` by the key. -/
def insert (extensible : Bool) : List String → Item → Entries → Option Entries
  | [], _, _ => none
  | [key], item, entries =>
    if extensible && (entries.lookup key).isNone then some (entries ++ [(key, item)]) else none
  | key :: rest, item, entries =>
    match entries.lookup key with
    | none => (insert true rest item []).map fun inner => entries ++ [(key, .table .dotted inner)]
    | some (.table .dotted inner) =>
      (insert true rest item inner).map fun inner => entries.replace key (.table .dotted inner)
    | some (.table .implied inner) =>
      (insert false rest item inner).map fun inner => entries.replace key (.table .implied inner)
    | some (.tables all) =>
      (changeLast (insert false rest item) all).map fun all => entries.replace key (.tables all)
    | some _ => none

/-- Changes the table that a header path leads to. Tables on the way are implied where they are
missing, and a list of tables stands for its last. -/
def change (f : Entries → Option Entries) : List String → Entries → Option Entries
  | [], entries => f entries
  | key :: rest, entries =>
    match entries.lookup key with
    | none => (change f rest []).map fun inner => entries ++ [(key, .table .implied inner)]
    | some (.table .braces _) => none
    | some (.table origin inner) =>
      (change f rest inner).map fun inner => entries.replace key (.table origin inner)
    | some (.tables all) =>
      (changeLast (change f rest) all).map fun all => entries.replace key (.tables all)
    | some _ => none

def follow : List String → Entries → Option Entries
  | [], entries => some entries
  | key :: rest, entries =>
    match entries.lookup key with
    | none => some []
    | some (.table .braces _) => none
    | some (.table _ inner) => follow rest inner
    | some (.tables all) => (all.getLast?).bind (follow rest)
    | some _ => none

/-- The entries of a table that its header opens: those it has already by way of longer headers. -/
def opened (parent : Entries) (key : String) : Option Entries :=
  match parent.lookup key with
  | none => some []
  | some (.table .implied inner) => some inner
  | some _ => none

def close (key : String) (table : Entries) (parent : Entries) : Option Entries :=
  match parent.lookup key with
  | none => some (parent ++ [(key, .table .header table)])
  | some (.table .implied _) => some (parent.replace key (.table .header table))
  | some _ => none

def append (key : String) (table : Entries) (parent : Entries) : Option Entries :=
  match parent.lookup key with
  | none => some (parent ++ [(key, .tables [table])])
  | some (.tables all) => some (parent.replace key (.tables (all ++ [table])))
  | some _ => none

end Entries

end LockScreen.Toml
