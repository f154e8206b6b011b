import LockScreen.Toml.Item

namespace LockScreen.Toml

inductive Fields where
  | named (entries : Entries)
  | ordered (items : List Item)

namespace Fields

/-- The fields in an item, if it is of a kind that has some. A date has fields of its own, all of
them unknown here. -/
def ofItem : Item → Option Fields
  | .table _ entries => some (.named entries)
  | .list items => some (.ordered items)
  | .tables all => some (.ordered (all.map (.table .header)))
  | .moment => some (.named [])
  | _ => none

def get? (fields : Fields) (index : Nat) (name : String) : Option Item :=
  match fields with
  | named entries => entries.lookup name
  | ordered items => items[index]?

def field {α : Type} (fields : Fields) (index : Nat) (name : String) (default : α)
    (decode : Item → Option α) : Option α :=
  match fields.get? index name with
  | none => some default
  | some item => decode item

end Fields

namespace Item

def text? : Item → Option String
  | text content => some content
  | _ => none

def integer? (low high : Int) : Item → Option Int
  | integer value => if low ≤ value ∧ value ≤ high then some value else none
  | _ => none

def nat? (high : Nat) (item : Item) : Option Nat :=
  (item.integer? 0 high).map Int.toNat

end Item

end LockScreen.Toml
