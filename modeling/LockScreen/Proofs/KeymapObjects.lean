import LockScreen.Proofs.RecordAcceptance
import Mathlib.Data.List.Nodup

namespace LockScreen.Proofs.KeymapObjects

open LockScreen.Wire LockScreen.Proofs.RecordAcceptance

variable {x : Xkb}

inductive Object where
  | keymap (id : Nat)
  | state (id : Nat)
deriving DecidableEq

def Object.id : Object → Nat
  | keymap id | state id => id

def makes? : KeymapCall → Option Object
  | .keymapNew id _ => some (.keymap id)
  | .stateNew id => some (.state id)
  | .keymapRefused _ | .stateReleased _ | .keymapReleased _ | .key _ _ | .masks _ => none

def releases? : KeymapCall → Option Object
  | .stateReleased id => some (.state id)
  | .keymapReleased id => some (.keymap id)
  | .keymapNew _ _ | .keymapRefused _ | .stateNew _ | .key _ _ | .masks _ => none

def made (calls : List KeymapCall) : List Object :=
  calls.filterMap makes?

def released (calls : List KeymapCall) : List Object :=
  calls.filterMap releases?

def Live (past : List KeymapCall) (object : Object) : Prop :=
  object ∈ made past ∧ object ∉ released past

/-- What the library asks of a call, after all calls before it. -/
def Allowed (past : List KeymapCall) : KeymapCall → Prop
  | .keymapNew id _ => .keymap id ∉ made past
  | .keymapRefused _ => True
  | .stateNew id => Live past (.keymap id) ∧ .state id ∉ made past
  | .stateReleased id => Live past (.state id)
  | .keymapReleased id => Live past (.keymap id) ∧ .state id ∈ released past
  | .key _ _ | .masks _ => ∃ id, Live past (.state id)

def Lawful : List KeymapCall → List KeymapCall → Prop
  | _, [] => True
  | past, call :: rest => Allowed past call ∧ Lawful (past ++ [call]) rest

def calls (effects : List Effect) : List KeymapCall :=
  effects.filterMap Effect.keymapCall?

def closed? : Effect → Option Nat
  | .closed descriptor => some descriptor
  | .log _ | .keymap _ | .killed => none

def closings (effects : List Effect) : List Nat :=
  effects.filterMap closed?

section Calls

variable {past first second : List KeymapCall} {object : Object}

@[simp] theorem made_append (first second : List KeymapCall) :
    made (first ++ second) = made first ++ made second :=
  List.filterMap_append

@[simp] theorem released_append (first second : List KeymapCall) :
    released (first ++ second) = released first ++ released second :=
  List.filterMap_append

@[simp] theorem calls_append (first second : List Effect) :
    calls (first ++ second) = calls first ++ calls second :=
  List.filterMap_append

@[simp] theorem closings_append (first second : List Effect) :
    closings (first ++ second) = closings first ++ closings second :=
  List.filterMap_append

theorem lawful_append :
    Lawful past (first ++ second) ↔ Lawful past first ∧ Lawful (past ++ first) second := by
  induction first generalizing past with
  | nil => simp [Lawful]
  | cons call rest ih =>
      simp only [List.cons_append, Lawful, ih, List.append_assoc, List.nil_append, and_assoc]

theorem nodup_of_lawful (hmade : (made past).Nodup) (hreleased : (released past).Nodup)
    (h : Lawful past first) : (made (past ++ first)).Nodup ∧ (released (past ++ first)).Nodup := by
  induction first generalizing past with
  | nil => simpa using ⟨hmade, hreleased⟩
  | cons call rest ih =>
      obtain ⟨hallowed, hrest⟩ := h
      rw [List.append_cons]
      apply ih _ _ hrest
      · rw [made_append]
        cases call with
        | keymapNew id text => exact List.nodup_append_comm.mp (List.nodup_cons.mpr ⟨hallowed, hmade⟩)
        | stateNew id => exact List.nodup_append_comm.mp (List.nodup_cons.mpr ⟨hallowed.2, hmade⟩)
        | keymapRefused | stateReleased | keymapReleased | key | masks =>
            show (made past ++ []).Nodup
            rwa [List.append_nil]
      · rw [released_append]
        cases call with
        | stateReleased id =>
            exact List.nodup_append_comm.mp (List.nodup_cons.mpr ⟨hallowed.2, hreleased⟩)
        | keymapReleased id =>
            exact List.nodup_append_comm.mp (List.nodup_cons.mpr ⟨hallowed.1.2, hreleased⟩)
        | keymapNew | keymapRefused | stateNew | key | masks =>
            show (released past ++ []).Nodup
            rwa [List.append_nil]

end Calls

inductive Use where
  | load (raw : List UInt8)
  | loadShared (descriptor : Nat) (file : SharedFile) (size : Nat)
  | setMasks (masks : Masks)
  | key (code : UInt32) (keyState : KeyState)

def use (keyboard : Keyboard x) : Use → Keyboard x × List Effect
  | .load raw => (keyboard.load raw).2
  | .loadShared descriptor file size => (keyboard.loadShared descriptor file size).2
  | .setMasks masks => (keyboard.setMasks masks).2
  | .key code keyState => (keyboard.applyKey code keyState).2

def Succeeds (keyboard : Keyboard x) : Use → Prop
  | .load raw => (keyboard.load raw).1 = .ok ()
  | .loadShared descriptor file size => (keyboard.loadShared descriptor file size).1 = some (.ok ())
  | .setMasks _ | .key _ _ => False

def Use.takes : Use → List Nat
  | loadShared descriptor _ _ => [descriptor]
  | load _ | setMasks _ | key _ _ => []

def run (keyboard : Keyboard x) : List Use → Keyboard x × List KeymapCall
  | [] => (keyboard, [])
  | first :: rest =>
      let (after, effects) := use keyboard first
      let (last, later) := run after rest
      (last, calls effects ++ later)

def objects (keyboard : Keyboard x) : List Object :=
  match keyboard.layout with
  | none => []
  | some layout => [.state layout.id, .keymap layout.id]

def farewell (keyboard : Keyboard x) : List KeymapCall :=
  calls keyboard.dropped

/-- A new keymap and its state are made, and only then those that were current are released, the
state first. -/
structure Replaces (keyboard after : Keyboard x) (called : List KeymapCall) : Prop where
  called_eq : ∃ text, called =
    [.keymapNew keyboard.compiled text, .stateNew keyboard.compiled] ++ farewell keyboard
  objects_eq : objects after = [.state keyboard.compiled, .keymap keyboard.compiled]
  compiled_eq : after.compiled = keyboard.compiled + 1

structure Spares (keyboard after : Keyboard x) (called : List KeymapCall) : Prop where
  made_eq : made called = []
  released_eq : released called = []
  lawful : ∀ past, (∀ object ∈ objects keyboard, Live past object) → Lawful past called
  objects_eq : objects after = objects keyboard
  compiled_eq : after.compiled = keyboard.compiled

section Uses

variable {keyboard : Keyboard x}

theorem farewell_eq (keyboard : Keyboard x) :
    farewell keyboard =
      match keyboard.layout with
      | none => []
      | some layout => [.stateReleased layout.id, .keymapReleased layout.id] := by
  unfold farewell Keyboard.dropped
  cases keyboard.layout <;> rfl

theorem released_farewell (keyboard : Keyboard x) :
    released (farewell keyboard) = objects keyboard := by
  rw [farewell_eq, objects]
  cases keyboard.layout <;> rfl

theorem made_farewell (keyboard : Keyboard x) : made (farewell keyboard) = [] := by
  rw [farewell_eq]
  cases keyboard.layout <;> rfl

theorem replaces_replaced (keyboard : Keyboard x) (keymap : x.Keymap) (text : String) :
    Replaces keyboard (replaced keyboard keymap)
      ([.keymapNew keyboard.compiled text, .stateNew keyboard.compiled] ++ farewell keyboard) :=
  ⟨⟨text, rfl⟩, rfl, rfl⟩

theorem spares_refused (keyboard : Keyboard x) (text : String) :
    Spares keyboard keyboard [.keymapRefused text] :=
  ⟨rfl, rfl, fun _ _ => ⟨trivial, trivial⟩, rfl, rfl⟩

theorem spares_nothing {after : Keyboard x} (hobjects : objects after = objects keyboard)
    (hcompiled : after.compiled = keyboard.compiled) : Spares keyboard after [] :=
  ⟨rfl, rfl, fun _ _ => trivial, hobjects, hcompiled⟩

theorem load_spec (keyboard : Keyboard x) (raw : List UInt8) :
    (if (keyboard.load raw).1 = .ok () then
        Replaces keyboard (keyboard.load raw).2.1 (calls (keyboard.load raw).2.2)
      else Spares keyboard (keyboard.load raw).2.1 (calls (keyboard.load raw).2.2)) ∧
      closings (keyboard.load raw).2.2 = [] := by
  unfold Keyboard.load
  split
  · exact ⟨spares_nothing rfl rfl, rfl⟩
  · exact ⟨spares_nothing rfl rfl, rfl⟩
  · rename_i text htext
    split
    · exact ⟨spares_refused keyboard text, rfl⟩
    · rename_i keymap hcompile
      have hcalls := replaces_replaced keyboard keymap text
      constructor
      · rw [farewell_eq] at hcalls
        cases hlayout : keyboard.layout <;> rw [hlayout] at hcalls <;> exact hcalls
      · cases keyboard.layout <;> rfl

theorem loadShared_spec (keyboard : Keyboard x) (descriptor : Nat) (file : SharedFile)
    (size : Nat) :
    (if (keyboard.loadShared descriptor file size).1 = some (.ok ()) then
        Replaces keyboard (keyboard.loadShared descriptor file size).2.1
          (calls (keyboard.loadShared descriptor file size).2.2)
      else Spares keyboard (keyboard.loadShared descriptor file size).2.1
        (calls (keyboard.loadShared descriptor file size).2.2)) ∧
      closings (keyboard.loadShared descriptor file size).2.2 = [descriptor] := by
  unfold Keyboard.loadShared
  split
  · exact ⟨spares_nothing rfl rfl, rfl⟩
  · split
    · exact ⟨spares_nothing rfl rfl, rfl⟩
    · split
      · exact ⟨spares_nothing rfl rfl, rfl⟩
      · rename_i bytes _
        obtain ⟨hload, hclosings⟩ := load_spec keyboard bytes
        have hcalls (effects : List Effect) :
            calls (effects ++ [.closed descriptor]) = calls effects := by
          rw [calls_append]
          exact List.append_nil _
        constructor
        · simp only [hcalls, Option.some.injEq]
          exact hload
        · rw [closings_append, hclosings]
          rfl

theorem exists_live {layout : Layout x} {past : List KeymapCall}
    (hlayout : keyboard.layout = some layout)
    (h : ∀ object ∈ objects keyboard, Live past object) : ∃ id, Live past (.state id) := by
  refine ⟨layout.id, h _ ?_⟩
  rw [objects, hlayout]
  exact List.mem_cons_self

theorem setMasks_spec (keyboard : Keyboard x) (masks : Masks) :
    Spares keyboard (keyboard.setMasks masks).2.1 (calls (keyboard.setMasks masks).2.2) ∧
      closings (keyboard.setMasks masks).2.2 = [] := by
  unfold Keyboard.setMasks
  cases hlayout : keyboard.layout with
  | none => exact ⟨spares_nothing rfl rfl, rfl⟩
  | some layout =>
      refine ⟨⟨rfl, rfl, ?_, ?_, rfl⟩, rfl⟩
      · intro past hlive
        exact ⟨exists_live hlayout hlive, trivial⟩
      · simp only [objects, hlayout]

theorem applyKey_spec (keyboard : Keyboard x) (code : UInt32) (keyState : KeyState) :
    Spares keyboard (keyboard.applyKey code keyState).2.1
        (calls (keyboard.applyKey code keyState).2.2) ∧
      closings (keyboard.applyKey code keyState).2.2 = [] := by
  unfold Keyboard.applyKey
  cases hlayout : keyboard.layout with
  | none => exact ⟨spares_nothing rfl rfl, rfl⟩
  | some layout =>
      cases Keyboard.xkbCode? code with
      | none => exact ⟨spares_nothing rfl rfl, rfl⟩
      | some xkbCode =>
          have hobjects : ∀ state : x.State,
              objects { keyboard with layout := some { layout with state } } =
                objects keyboard := fun _ => by simp only [objects, hlayout]
          cases keyState with
          | pressed | released =>
              refine ⟨⟨rfl, rfl, ?_, hobjects _, rfl⟩, rfl⟩
              intro past hlive
              exact ⟨exists_live hlayout hlive, trivial⟩
          | repeated => exact ⟨spares_nothing (hobjects _) rfl, rfl⟩

theorem use_spec (keyboard : Keyboard x) (taken : Use) :
    let (after, effects) := use keyboard taken
    ((Succeeds keyboard taken → Replaces keyboard after (calls effects)) ∧
        (¬ Succeeds keyboard taken → Spares keyboard after (calls effects))) ∧
      closings effects = taken.takes := by
  cases taken with
  | load raw =>
      obtain ⟨hload, hclosings⟩ := load_spec keyboard raw
      exact ⟨⟨fun h => (if_pos h).mp hload, fun h => (if_neg h).mp hload⟩, hclosings⟩
  | loadShared descriptor file size =>
      obtain ⟨hload, hclosings⟩ := loadShared_spec keyboard descriptor file size
      exact ⟨⟨fun h => (if_pos h).mp hload, fun h => (if_neg h).mp hload⟩, hclosings⟩
  | setMasks masks =>
      obtain ⟨hspares, hclosings⟩ := setMasks_spec keyboard masks
      exact ⟨⟨False.elim, fun _ => hspares⟩, hclosings⟩
  | key code keyState =>
      obtain ⟨hspares, hclosings⟩ := applyKey_spec keyboard code keyState
      exact ⟨⟨False.elim, fun _ => hspares⟩, hclosings⟩

end Uses

/-- The calls so far made the objects of every number given out, and released all but the current
ones. -/
structure Books (past : List KeymapCall) (keyboard : Keyboard x) : Prop where
  made_iff : ∀ object, object ∈ made past ↔ object.id < keyboard.compiled
  released_iff : ∀ object, object ∈ released past ↔
    object.id < keyboard.compiled ∧ object ∉ objects keyboard
  current : ∀ object ∈ objects keyboard, object.id < keyboard.compiled

section Books

variable {keyboard after : Keyboard x} {past called : List KeymapCall}

theorem Books.live_iff (h : Books past keyboard) (object : Object) :
    Live past object ↔ object ∈ objects keyboard := by
  rw [Live, h.made_iff, h.released_iff]
  constructor
  · rintro ⟨hid, hkept⟩
    by_contra hgone
    exact hkept ⟨hid, hgone⟩
  · intro hcurrent
    exact ⟨h.current object hcurrent, fun hgone => hgone.2 hcurrent⟩

theorem Books.live_unique (h : Books past keyboard) {id other : Nat}
    (hid : Live past (.keymap id)) (hother : Live past (.keymap other)) : id = other := by
  rw [h.live_iff, objects] at hid hother
  cases hlayout : keyboard.layout with
  | none =>
      rw [hlayout] at hid
      cases hid
  | some layout =>
      simp only [hlayout, List.mem_cons, Object.keymap.injEq, reduceCtorEq, List.not_mem_nil,
        or_false, false_or] at hid hother
      rw [hid, hother]

theorem books_new : Books [] (.new : Keyboard x) := by
  refine ⟨?_, ?_, ?_⟩ <;> simp [made, released, Keyboard.new, objects]

theorem Books.spares (h : Books past keyboard) (hspares : Spares keyboard after called) :
    Lawful past called ∧ Books (past ++ called) after := by
  refine ⟨hspares.lawful past fun object => (h.live_iff object).mpr, ?_, ?_, ?_⟩
  · intro object
    rw [made_append, hspares.made_eq, List.append_nil, hspares.compiled_eq]
    exact h.made_iff object
  · intro object
    rw [released_append, hspares.released_eq, List.append_nil, hspares.compiled_eq,
      hspares.objects_eq]
    exact h.released_iff object
  · rw [hspares.objects_eq, hspares.compiled_eq]
    exact h.current

theorem Books.lawful_farewell (h : Books past keyboard) {fresh : List KeymapCall}
    (hfresh : released fresh = []) : Lawful (past ++ fresh) (farewell keyboard) := by
  have hlive : ∀ object ∈ objects keyboard, Live (past ++ fresh) object := by
    intro object hcurrent
    obtain ⟨hmade, hkept⟩ := (h.live_iff object).mpr hcurrent
    rw [Live, made_append, released_append, hfresh, List.append_nil]
    exact ⟨List.mem_append_left _ hmade, hkept⟩
  rw [objects] at hlive
  rw [farewell_eq]
  cases hlayout : keyboard.layout with
  | none => trivial
  | some layout =>
      rw [hlayout] at hlive
      have hstate := hlive (.state layout.id) (by simp)
      have hkeymap := hlive (.keymap layout.id) (by simp)
      refine ⟨hstate, ⟨⟨?_, ?_⟩, ?_⟩, trivial⟩
      · rw [made_append]
        exact List.mem_append_left _ hkeymap.1
      · rw [released_append, List.mem_append, not_or]
        exact ⟨hkeymap.2, by simp [released, releases?]⟩
      · rw [released_append]
        exact List.mem_append_right _ (List.mem_singleton_self _)

theorem Books.replaces (h : Books past keyboard) (hreplaces : Replaces keyboard after called) :
    Lawful past called ∧ Books (past ++ called) after := by
  obtain ⟨⟨text, rfl⟩, hobjects, hcompiled⟩ := hreplaces
  have hnew : ∀ object : Object, object.id = keyboard.compiled → object ∉ made past := by
    intro object hid hmem
    exact Nat.lt_irrefl _ (hid ▸ (h.made_iff object).mp hmem)
  have hkept : ∀ object : Object, object.id = keyboard.compiled → object ∉ released past := by
    intro object hid hmem
    exact Nat.lt_irrefl _ (hid ▸ ((h.released_iff object).mp hmem).1)
  have hid : ∀ object : Object, object ∈ objects after ↔ object.id = keyboard.compiled := by
    intro object
    rw [hobjects]
    cases object <;> simp [Object.id]
  refine ⟨lawful_append.mpr ⟨⟨hnew _ rfl, ⟨⟨?_, ?_⟩, ?_⟩, trivial⟩, h.lawful_farewell rfl⟩,
    ?_, ?_, ?_⟩
  · rw [made_append]
    exact List.mem_append_right _ (List.mem_singleton_self _)
  · rw [released_append]
    exact fun hmem => hkept _ rfl (by simpa [released, releases?] using hmem)
  · rw [made_append]
    exact fun hmem => hnew (.state keyboard.compiled) rfl (by simpa [made, makes?] using hmem)
  · intro object
    have hmade : object ∈ made [.keymapNew keyboard.compiled text, .stateNew keyboard.compiled] ↔
        object.id = keyboard.compiled := by
      cases object <;> simp [made, makes?, Object.id]
    rw [made_append, made_append, made_farewell, List.append_nil, List.mem_append, h.made_iff,
      hmade, hcompiled]
    omega
  · intro object
    rw [released_append, released_append, released_farewell, List.mem_append, h.released_iff,
      hcompiled, hid]
    show _ ∨ object ∈ [] ++ objects keyboard ↔ _
    rw [List.nil_append]
    have hcurrent := h.current object
    by_cases hmem : object ∈ objects keyboard
    · have hlt := hcurrent hmem
      simp only [hmem, not_true, and_false, or_true, true_iff]
      omega
    · simp only [hmem, not_false_iff, and_true, or_false]
      omega
  · intro object hmem
    rw [hcompiled, (hid object).mp hmem]
    exact Nat.lt_succ_self _

theorem books_use (h : Books past keyboard) (taken : Use) :
    Lawful past (calls (use keyboard taken).2) ∧
      Books (past ++ calls (use keyboard taken).2) (use keyboard taken).1 := by
  obtain ⟨⟨hreplaces, hspares⟩, -⟩ := use_spec keyboard taken
  by_cases hsucceeds : Succeeds keyboard taken
  · exact h.replaces (hreplaces hsucceeds)
  · exact h.spares (hspares hsucceeds)

theorem books_run (h : Books past keyboard) (uses : List Use) :
    Lawful past (run keyboard uses).2 ∧
      Books (past ++ (run keyboard uses).2) (run keyboard uses).1 := by
  induction uses generalizing keyboard past with
  | nil =>
      refine ⟨trivial, ?_⟩
      rw [run, List.append_nil]
      exact h
  | cons first rest ih =>
      obtain ⟨hfirst, hafter⟩ := books_use h first
      obtain ⟨hrest, hlast⟩ := ih hafter
      rw [List.append_assoc] at hlast
      exact ⟨lawful_append.mpr ⟨hfirst, hrest⟩, hlast⟩

end Books

theorem closings_dispatch (dispatcher : Dispatcher x) (files : Nat → SharedFile)
    (record : Record) (now : Repeat.Instant) :
    closings (dispatcher.dispatch files record now).2 =
      if record.kind = .keyboardKeymap ∧ record.first.toNat < Dispatcher.descriptorLimit then
        [record.first.toNat]
      else [] := by
  cases hkind : record.kind with
  | keyboardKeymap =>
      simp only [Dispatcher.dispatch, Dispatcher.apply, hkind, Dispatcher.keymap, true_and]
      by_cases hrange : Dispatcher.descriptorLimit ≤ record.first.toNat
      · rw [if_pos hrange, if_neg (Nat.not_lt.mpr hrange)]
        rfl
      · rw [if_neg hrange, if_pos (Nat.not_le.mp hrange)]
        have hload := loadShared_spec dispatcher.keyboard record.first.toNat
          (files record.first.toNat) record.second.toNat
        rcases hresult : dispatcher.keyboard.loadShared record.first.toNat
          (files record.first.toNat) record.second.toNat with ⟨_ | _ | _, keyboard, effects⟩
        · rw [hresult] at hload
          exact hload.2
        · rw [hresult] at hload
          show closings (effects ++ [_]) = _
          rw [closings_append, hload.2]
          rfl
        · rw [hresult] at hload
          exact hload.2
  | keyboardModifiers =>
      simp only [Dispatcher.dispatch, Dispatcher.apply, hkind]
      exact (setMasks_spec dispatcher.keyboard _).2
  | keyboardKey =>
      simp only [Dispatcher.dispatch, Dispatcher.apply, hkind, Dispatcher.key]
      split
      · rfl
      · split
        · rfl
        · rename_i keyState htag
          have hkey := (applyKey_spec dispatcher.keyboard record.first.toUInt32 keyState).2
          split
          · rename_i keyboard effects hresult
            rw [hresult] at hkey
            exact hkey
          · rename_i event keyboard effects hresult
            rw [hresult] at hkey
            exact hkey
  | pointerButton =>
      simp only [Dispatcher.dispatch, Dispatcher.apply, hkind, Dispatcher.button]
      split <;> rfl
  | keyboardRepeatInfo | pointerMotion | authPending | authFail | authSuccess | wayland | renderer
  | authSubmit =>
      simp only [Dispatcher.dispatch, Dispatcher.apply, hkind]
      rfl

/-- In the whole life of a keyboard, over any library and any uses: each object is made once and
released once, in an order the library allows, the state before its keymap; at any time the objects
that exist are those of the current keymap, and there is at most one; a load that succeeds makes its
own objects first and then releases the current ones, and all else, a failed load included, makes
and releases none. A descriptor that is taken over is closed once, whether by a load or by a record
that is dispatched. -/
theorem objects_released_once (x : Xkb) (uses : List Use) :
    let keyboard := (run (.new : Keyboard x) uses).1
    let past := (run (.new : Keyboard x) uses).2
    let whole := past ++ farewell keyboard
    Lawful [] whole ∧ (made whole).Nodup ∧ (released whole).Perm (made whole) ∧
      (∀ object, Live past object ↔ object ∈ objects keyboard) ∧
      (∀ id other, Live past (.keymap id) → Live past (.keymap other) → id = other) ∧
      (∀ taken,
        let (after, effects) := use keyboard taken
        ((Succeeds keyboard taken → Replaces keyboard after (calls effects)) ∧
            (¬ Succeeds keyboard taken → Spares keyboard after (calls effects))) ∧
          closings effects = taken.takes) ∧
      ∀ (dispatcher : Dispatcher x) files record now,
        closings (dispatcher.dispatch files record now).2 =
          if record.kind = .keyboardKeymap ∧ record.first.toNat < Dispatcher.descriptorLimit then
            [record.first.toNat]
          else [] := by
  intro keyboard past whole
  obtain ⟨hlawful, hbooks⟩ := books_run (books_new (x := x)) uses
  rw [List.nil_append] at hbooks
  have hwhole : Lawful [] whole := by
    refine lawful_append.mpr ⟨hlawful, ?_⟩
    have hnothing : released [] = [] := rfl
    have hfarewell := hbooks.lawful_farewell hnothing
    rwa [List.append_nil] at hfarewell
  have hnone : (made []).Nodup ∧ (released []).Nodup := ⟨List.nodup_nil, List.nodup_nil⟩
  obtain ⟨hmade, hreleased⟩ := nodup_of_lawful hnone.1 hnone.2 hwhole
  rw [List.nil_append] at hmade hreleased
  refine ⟨hwhole, hmade, ?_, hbooks.live_iff, fun _ _ => hbooks.live_unique, use_spec keyboard,
    closings_dispatch⟩
  rw [List.perm_ext_iff_of_nodup hreleased hmade]
  intro object
  rw [released_append, released_farewell, made_append, made_farewell, List.append_nil,
    List.mem_append, hbooks.released_iff, hbooks.made_iff]
  constructor
  · rintro (⟨hid, -⟩ | hmem)
    · exact hid
    · exact hbooks.current object hmem
  · intro hid
    by_cases hmem : object ∈ objects keyboard
    · exact Or.inr hmem
    · exact Or.inl ⟨hid, hmem⟩

end LockScreen.Proofs.KeymapObjects
