import Mathlib.Algebra.Group.Nat.Defs
import Mathlib.Data.List.TakeWhile
import LockScreen.Proofs.DispatcherRuns

namespace LockScreen.Proofs.RecordAcceptance

open LockScreen.Repeat LockScreen.Text LockScreen.Wire

variable {x : Xkb}

/-- A key transition that is taken: a keymap is loaded, and the key has an xkb code. -/
structure AcceptsKey (dispatcher : Dispatcher x) (record : Record) (code : UInt32)
    (keyState : KeyState) : Prop where
  kind_eq : record.kind = .keyboardKey
  first_eq : record.first = code.toUInt64
  tag_eq : KeyState.ofTag? record.second = some keyState
  keymap : dispatcher.keyboard.hasKeymap = true
  fits : code.toNat + 8 < 2 ^ 32

/-- A keymap record whose descriptor can be mapped and holds a text that can be read. -/
structure Offers (files : Nat → SharedFile) (record : Record) (text : String) : Prop where
  kind_eq : record.kind = .keyboardKeymap
  descriptor : record.first.toNat < 2 ^ 31
  size : record.second.toNat ≠ 0
  content : ∃ mapping bytes, (files record.first.toNat).map record.second.toNat = .ok mapping ∧
    mapping.text? = some bytes ∧ bytes ≠ [] ∧ Utf8.decode? bytes = some text

def Loads (x : Xkb) (files : Nat → SharedFile) (record : Record) (keymap : x.Keymap) : Prop :=
  ∃ text, Offers files record text ∧ x.compile text = some keymap

def Accepts (dispatcher : Dispatcher x) (files : Nat → SharedFile) (record : Record) : Prop :=
  match record.kind with
  | .keyboardKeymap => ∃ keymap, Loads x files record keymap
  | .keyboardKey => ∃ code keyState, AcceptsKey dispatcher record code keyState
  | .keyboardModifiers => dispatcher.keyboard.hasKeymap = true
  | .pointerButton => record.first.toNat < 2 ^ 32
  | .keyboardRepeatInfo | .pointerMotion | .authPending | .authFail | .authSuccess => True
  | .wayland | .renderer | .authSubmit => False

theorem AcceptsKey.unique {dispatcher : Dispatcher x} {record : Record} {code other : UInt32}
    {keyState otherState : KeyState} (h : AcceptsKey dispatcher record code keyState)
    (h' : AcceptsKey dispatcher record other otherState) :
    code = other ∧ keyState = otherState := by
  have hcode : code.toUInt64 = other.toUInt64 := h.first_eq.symm.trans h'.first_eq
  exact ⟨UInt32.toUInt64_inj.mp hcode, Option.some.inj (h.tag_eq.symm.trans h'.tag_eq)⟩

theorem AcceptsKey.accepts {dispatcher : Dispatcher x} {files : Nat → SharedFile}
    {record : Record} {code : UInt32} {keyState : KeyState}
    (h : AcceptsKey dispatcher record code keyState) : Accepts dispatcher files record := by
  simp only [Accepts, h.kind_eq]
  exact ⟨code, keyState, h⟩

theorem toUInt64_toNat_lt (code : UInt32) : code.toUInt64.toNat < 4294967296 := by
  simpa using code.toNat_lt

theorem xkbCode_of_fits {code : UInt32} (h : code.toNat + 8 < 2 ^ 32) :
    Keyboard.xkbCode? code = some (code + Keyboard.codeOffset) := by
  have hoffset : Keyboard.codeOffset.toNat = 8 := rfl
  simp only [Keyboard.xkbCode?, hoffset]
  exact if_pos (by simpa using h)

theorem xkbCode_of_not_fits {code : UInt32} (h : ¬ code.toNat + 8 < 2 ^ 32) :
    Keyboard.xkbCode? code = none := by
  have hoffset : Keyboard.codeOffset.toNat = 8 := rfl
  simp only [Keyboard.xkbCode?, hoffset]
  exact if_neg (by simpa using h)

theorem applyKey_of_fits {keyboard : Keyboard x} {code : UInt32} (keyState : KeyState)
    (hkeymap : keyboard.hasKeymap = true) (hfits : code.toNat + 8 < 2 ^ 32) :
    ∃ event after effects, keyboard.applyKey code keyState = (some event, after, effects) := by
  obtain ⟨layout, hlayout⟩ := Option.isSome_iff_exists.mp hkeymap
  simp only [Keyboard.applyKey, hlayout, xkbCode_of_fits hfits]
  exact ⟨_, _, _, rfl⟩

theorem event_of_applyKey {keyboard after : Keyboard x} {code : UInt32} {keyState : KeyState}
    {event : KeyEvent} {effects : List Effect}
    (h : keyboard.applyKey code keyState = (some event, after, effects)) :
    event.code = code ∧ (event.action = .release ↔ keyState = .released) ∧
      (event.autoRepeat = true ↔ keyState = .repeated) ∧
      ∀ other, after.repeats other = keyboard.repeats other := by
  unfold Keyboard.applyKey at h
  split at h
  · exact absurd h (by simp)
  · rename_i layout hlayout
    split at h
    · exact absurd h (by simp)
    · cases h
      refine ⟨rfl, ?_, ?_, ?_⟩
      · cases keyState <;> simp
      · simp
      · intro other
        simp only [Keyboard.repeats, hlayout]
        cases Keyboard.xkbCode? other <;> rfl

theorem dispatch_of_acceptsKey {dispatcher : Dispatcher x} {record : Record} {code : UInt32}
    {keyState : KeyState} (h : AcceptsKey dispatcher record code keyState)
    (files : Nat → SharedFile) (now : Instant) :
    ∃ event keyboard effects,
      dispatcher.keyboard.applyKey code keyState = (some event, keyboard, effects) ∧
      (dispatcher.dispatch files record now).1 =
        (Dispatcher.followKey { dispatcher with keyboard } event keyState now).push
          (.key event) := by
  obtain ⟨event, keyboard, effects, happly⟩ := applyKey_of_fits keyState h.keymap h.fits
  refine ⟨event, keyboard, effects, happly, ?_⟩
  have hrange : ¬ 4294967296 ≤ code.toUInt64.toNat := Nat.not_le.mpr (toUInt64_toNat_lt code)
  have hword : code.toUInt64.toUInt32 = code := by simp
  simp only [Dispatcher.dispatch, Dispatcher.apply, h.kind_eq, Dispatcher.key, h.first_eq, hrange,
    if_false, h.tag_eq, hword, happly]

theorem takeWhile_of_text {mapping : Mapping} {bytes : List UInt8}
    (h : mapping.text? = some bytes) : bytes.takeWhile (· ≠ 0) = bytes := by
  have hbytes : mapping.content.takeWhile (· ≠ 0) = bytes :=
    Option.some.inj (Option.ite_none_right_eq_some.mp h).2
  rw [← hbytes]
  exact List.takeWhile_idem

theorem keymapText_eq_ok_iff {raw : List UInt8} {text : String} :
    Keyboard.keymapText raw = .ok text ↔
      raw.takeWhile (· ≠ 0) ≠ [] ∧ Utf8.decode? (raw.takeWhile (· ≠ 0)) = some text := by
  simp only [Keyboard.keymapText]
  generalize raw.takeWhile (· ≠ 0) = bytes
  cases bytes with
  | nil => simp
  | cons head rest =>
      cases Utf8.decode? (head :: rest) <;> simp

def replaced (keyboard : Keyboard x) (keymap : x.Keymap) : Keyboard x :=
  ⟨some ⟨keyboard.compiled, keymap, x.fresh keymap⟩, keyboard.compiled + 1⟩

theorem load_of_text (keyboard : Keyboard x) {raw : List UInt8} {text : String}
    {keymap : x.Keymap} (htext : Keyboard.keymapText raw = .ok text)
    (hcompile : x.compile text = some keymap) :
    ∃ effects, keyboard.load raw = (.ok (), replaced keyboard keymap, effects) := by
  simp only [Keyboard.load, htext, hcompile]
  exact ⟨_, rfl⟩

theorem load_of_failure (keyboard : Keyboard x) {raw : List UInt8}
    (h : ∀ text keymap, Keyboard.keymapText raw = .ok text → x.compile text ≠ some keymap) :
    ∃ fault effects, keyboard.load raw = (.error fault, keyboard, effects) := by
  simp only [Keyboard.load]
  split
  · exact ⟨_, _, rfl⟩
  · exact ⟨_, _, rfl⟩
  · rename_i text htext
    split
    · exact ⟨_, _, rfl⟩
    · rename_i keymap hcompile
      exact absurd hcompile (h text keymap htext)

theorem dispatch_of_loads {files : Nat → SharedFile} {record : Record} {keymap : x.Keymap}
    (h : Loads x files record keymap) (dispatcher : Dispatcher x) (now : Instant) :
    (dispatcher.dispatch files record now).1 =
      { dispatcher with
        keyboard := replaced dispatcher.keyboard keymap
        engine := dispatcher.engine.reset
        repeatingCode := none } := by
  obtain ⟨text, hoffer, hcompile⟩ := h
  obtain ⟨mapping, bytes, hmap, hbytes, htext⟩ := hoffer.content
  rw [← takeWhile_of_text hbytes] at htext
  obtain ⟨effects, hload⟩ :=
    load_of_text dispatcher.keyboard (keymapText_eq_ok_iff.mpr htext) hcompile
  have hrange : ¬ Dispatcher.descriptorLimit ≤ record.first.toNat :=
    Nat.not_le.mpr hoffer.descriptor
  simp only [Dispatcher.dispatch, Dispatcher.apply, hoffer.kind_eq, Dispatcher.keymap, hrange,
    if_false, Keyboard.loadShared, hoffer.size, hmap, hbytes, hload]

theorem loadShared_of_failure (keyboard : Keyboard x) (descriptor : Nat) {file : SharedFile}
    {size : Nat}
    (h : ∀ mapping bytes text keymap, size ≠ 0 → file.map size = .ok mapping →
      mapping.text? = some bytes → bytes ≠ [] → Utf8.decode? bytes = some text →
        x.compile text ≠ some keymap) :
    ∃ result effects, keyboard.loadShared descriptor file size = (result, keyboard, effects) ∧
      result ≠ some (.ok ()) := by
  simp only [Keyboard.loadShared]
  split
  · exact ⟨_, _, rfl, by simp⟩
  · rename_i hsize
    split
    · exact ⟨_, _, rfl, by simp⟩
    · rename_i mapping hmap
      split
      · exact ⟨_, _, rfl, by simp⟩
      · rename_i bytes hbytes
        obtain ⟨fault, effects, hload⟩ := load_of_failure keyboard fun text keymap htext => by
          rw [keymapText_eq_ok_iff, takeWhile_of_text hbytes] at htext
          exact h mapping bytes text keymap hsize hmap hbytes htext.1 htext.2
        simp only [hload]
        exact ⟨_, _, rfl, by simp⟩

theorem dispatch_of_not_loads {files : Nat → SharedFile} {record : Record}
    (hkind : record.kind = .keyboardKeymap) (h : ¬ ∃ keymap, Loads x files record keymap)
    (dispatcher : Dispatcher x) (now : Instant) :
    (dispatcher.dispatch files record now).1 = dispatcher := by
  simp only [Dispatcher.dispatch, Dispatcher.apply, hkind, Dispatcher.keymap]
  split
  · rfl
  · rename_i hrange
    obtain ⟨result, effects, hload, hfailed⟩ :=
      loadShared_of_failure dispatcher.keyboard record.first.toNat
        (fun mapping bytes text keymap hsize hmap hbytes hsome htext hcompile =>
          h ⟨keymap, text, ⟨hkind, Nat.not_le.mp hrange, hsize, mapping, bytes, hmap, hbytes,
            hsome, htext⟩, hcompile⟩)
    rw [hload]
    rcases result with _ | fault | loaded
    · rfl
    · rfl
    · exact absurd rfl hfailed

theorem dispatch_of_not_acceptsKey {dispatcher : Dispatcher x} {record : Record}
    (hkind : record.kind = .keyboardKey)
    (h : ¬ ∃ code keyState, AcceptsKey dispatcher record code keyState)
    (files : Nat → SharedFile) (now : Instant) :
    (dispatcher.dispatch files record now).1 = dispatcher := by
  simp only [Dispatcher.dispatch, Dispatcher.apply, hkind, Dispatcher.key]
  split
  · rfl
  · rename_i hrange
    have hfirst : record.first = record.first.toUInt32.toUInt64 := by
      apply UInt64.toNat_inj.mp
      simp only [UInt32.toNat_toUInt64, UInt64.toNat_toUInt32]
      omega
    cases htag : KeyState.ofTag? record.second with
    | none => rfl
    | some keyState =>
        have hrejected : ∀ layout, dispatcher.keyboard.layout = some layout →
            ¬ record.first.toUInt32.toNat + 8 < 2 ^ 32 := fun layout hlayout hfits =>
          h ⟨_, keyState, hkind, hfirst, htag, by simp [Keyboard.hasKeymap, hlayout], hfits⟩
        cases hlayout : dispatcher.keyboard.layout with
        | none => simp only [Keyboard.applyKey, hlayout]
        | some layout =>
            simp only [Keyboard.applyKey, hlayout,
              xkbCode_of_not_fits (hrejected layout hlayout)]

theorem dispatch_of_not_accepts {dispatcher : Dispatcher x} {files : Nat → SharedFile}
    {record : Record} (h : ¬ Accepts dispatcher files record) (now : Instant) :
    (dispatcher.dispatch files record now).1 = dispatcher := by
  cases hkind : record.kind with
  | keyboardKeymap =>
      simp only [Accepts, hkind] at h
      exact dispatch_of_not_loads hkind h dispatcher now
  | keyboardKey =>
      simp only [Accepts, hkind] at h
      exact dispatch_of_not_acceptsKey hkind h files now
  | keyboardModifiers =>
      simp only [Accepts, hkind, Keyboard.hasKeymap] at h
      have hlayout : dispatcher.keyboard.layout = none := Option.not_isSome_iff_eq_none.mp h
      simp only [Dispatcher.dispatch, Dispatcher.apply, hkind, Keyboard.setMasks, hlayout]
  | pointerButton =>
      simp only [Accepts, hkind, Nat.not_lt] at h
      have hrange : 4294967296 ≤ record.first.toNat := h
      simp only [Dispatcher.dispatch, Dispatcher.apply, hkind, Dispatcher.button, hrange, if_true]
  | keyboardRepeatInfo | pointerMotion | authPending | authFail | authSuccess =>
      simp only [Accepts, hkind] at h
      exact absurd True.intro h
  | wayland | renderer | authSubmit =>
      simp only [Dispatcher.dispatch, Dispatcher.apply, hkind]

end LockScreen.Proofs.RecordAcceptance
