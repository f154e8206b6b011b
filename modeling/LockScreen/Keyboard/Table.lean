import LockScreen.Keyboard

/-!
A keymap library over given tables: the text `keymap:N` compiles to the table of number N. A key has
levels, picked by Shift and the group, and may hold or lock modifiers.
-/

namespace LockScreen.Keyboard

open LockScreen.Wire

structure TableKey where
  levels : List (UInt32 × String)
  repeats : Bool
  holds : UInt32
  locks : UInt32
deriving DecidableEq, Repr

abbrev Table := List (UInt32 × TableKey)

structure TableState where
  table : Table
  masks : Masks
deriving DecidableEq, Repr

def Table.fresh (table : Table) : TableState :=
  ⟨table, ⟨0, 0, 0, 0⟩⟩

namespace TableState

def press (state : TableState) (code : UInt32) : TableState :=
  match state.table.lookup code with
  | none => state
  | some key =>
    { state with
      masks := { state.masks with
        depressed := state.masks.depressed ||| key.holds
        locked := state.masks.locked ^^^ key.locks } }

def release (state : TableState) (code : UInt32) : TableState :=
  match state.table.lookup code with
  | none => state
  | some key =>
    { state with
      masks := { state.masks with depressed := state.masks.depressed &&& ~~~key.holds } }

def effective (state : TableState) : UInt32 :=
  state.masks.depressed ||| state.masks.latched ||| state.masks.locked

/-- The level of a key: Shift picks the second of a pair, a group other than 0 the second pair, and
a key with fewer levels gives its last. -/
def level (state : TableState) (code : UInt32) : UInt32 × String :=
  match state.table.lookup code with
  | none => (0, "")
  | some key =>
    let wanted :=
      (if state.effective &&& 1 = 0 then 0 else 1) + (if state.masks.group = 0 then 0 else 2)
    (key.levels[Nat.min wanted (key.levels.length - 1)]?).getD (0, "")

def active (state : TableState) (modifier : Modifier) : Bool :=
  let bit : UInt32 :=
    match modifier with
    | .shift => 0x01
    | .control => 0x04
    | .alt => 0x08
    | .logo => 0x40
  state.effective &&& bit != 0

end TableState

def Table.named? (tables : List Table) (text : String) : Option Table :=
  ((tables.zip (List.range tables.length)).find? fun entry =>
    s!"keymap:{entry.2}" = text).map Prod.fst

end LockScreen.Keyboard

namespace LockScreen

open LockScreen.Keyboard

def Xkb.ofTables (tables : List Table) : Xkb where
  Keymap := Table
  State := TableState
  compile := Table.named? tables
  fresh := Table.fresh
  press := TableState.press
  release := TableState.release
  setMasks state masks := { state with masks }
  keysym state code := (state.level code).1
  text state code := (state.level code).2
  active := TableState.active
  repeats table code := (table.lookup code).any TableKey.repeats

end LockScreen

namespace LockScreen.KeymapCall

def tableMark : String := "keymap:"

/-- How a trace spells a call. A keymap is told by the number of its table. -/
def text : KeymapCall → String
  | keymapNew id content => s!"keymap_new {id} table {content.drop tableMark.length}"
  | keymapRefused _ => "keymap_new failed"
  | stateNew id => s!"state_new {id}"
  | stateReleased id => s!"state_unref {id}"
  | keymapReleased id => s!"keymap_unref {id}"
  | key code down => s!"update_key {code.toNat} " ++ if down then "down" else "up"
  | masks mask =>
    s!"update_mask {mask.depressed.toNat} {mask.latched.toNat} {mask.locked.toNat} 0 0 " ++
      s!"{mask.group.toNat}"

end LockScreen.KeymapCall
