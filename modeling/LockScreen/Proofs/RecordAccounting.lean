import LockScreen.Proofs.KeymapReplacement

namespace LockScreen.Proofs.RecordAccounting

open LockScreen.Repeat LockScreen.Wire
open LockScreen.Proofs.RecordAcceptance
open LockScreen.Proofs.KeymapReplacement (followKey_frame)

variable {x : Xkb}

/-- Why a record is turned down. Keymaps have reasons of their own. -/
inductive TurnedDown (dispatcher : Dispatcher x) (record : Record) : Prop where
  | outbound : record.kind = .wayland ∨ record.kind = .renderer ∨ record.kind = .authSubmit →
      TurnedDown dispatcher record
  | early : record.kind = .keyboardKey ∨ record.kind = .keyboardModifiers →
      dispatcher.keyboard.hasKeymap = false → TurnedDown dispatcher record
  | keyCode : record.kind = .keyboardKey → 2 ^ 32 ≤ record.first.toNat + 8 →
      TurnedDown dispatcher record
  | keyState : record.kind = .keyboardKey → 2 < record.second.toNat →
      TurnedDown dispatcher record
  | buttonCode : record.kind = .pointerButton → 2 ^ 32 ≤ record.first.toNat →
      TurnedDown dispatcher record

/-- The events that a record brings when it is taken. -/
def Brings (record : Record) (events : List SceneEvent) : Prop :=
  match record.kind with
  | .keyboardKey =>
      ∃ event : KeyEvent, events = [.key event] ∧ event.code.toUInt64 = record.first ∧
        (event.action = .release ↔ record.second = 0) ∧
        (event.autoRepeat = true ↔ record.second = 2)
  | .pointerMotion =>
      ∃ event : PointerEvent, events = [.pointer event] ∧ event.action = .move
  | .pointerButton =>
      ∃ event : PointerEvent, events = [.pointer event] ∧
        event.action = if record.second = 1 then .press else .release
  | .authPending => events = [.auth .pending]
  | .authFail => events = [.auth .failed]
  | .authSuccess => events = [.auth .success]
  | .keyboardKeymap | .keyboardModifiers | .keyboardRepeatInfo | .wayland | .renderer
  | .authSubmit => events = []

theorem Brings.kind_of_mem {record : Record} {events : List SceneEvent} (h : Brings record events)
    {event : SceneEvent} (hevent : event ∈ events) :
    match event with
    | .key _ => record.kind = .keyboardKey
    | .pointer _ => record.kind = .pointerMotion ∨ record.kind = .pointerButton
    | .auth _ =>
        record.kind = .authPending ∨ record.kind = .authFail ∨ record.kind = .authSuccess := by
  cases hkind : record.kind with
  | keyboardKey =>
      simp only [Brings, hkind] at h
      obtain ⟨brought, rfl, -⟩ := h
      cases List.mem_singleton.mp hevent
      rfl
  | pointerMotion | pointerButton =>
      simp only [Brings, hkind] at h
      obtain ⟨brought, rfl, -⟩ := h
      cases List.mem_singleton.mp hevent
      simp
  | authPending | authFail | authSuccess =>
      simp only [Brings, hkind] at h
      subst h
      cases List.mem_singleton.mp hevent
      simp
  | keyboardKeymap | keyboardModifiers | keyboardRepeatInfo | wayland | renderer | authSubmit =>
      simp only [Brings, hkind] at h
      subst h
      exact absurd hevent List.not_mem_nil

theorem ofTag_cases {tag : UInt64} {keyState : KeyState}
    (h : KeyState.ofTag? tag = some keyState) :
    (keyState = .released ↔ tag = 0) ∧ (keyState = .pressed ↔ tag = 1) ∧
      (keyState = .repeated ↔ tag = 2) := by
  simp only [← UInt64.toNat_inj]
  unfold KeyState.ofTag? at h
  split at h
  · rename_i htag
    cases h
    simp [htag]
  · rename_i htag
    cases h
    simp [htag]
  · rename_i htag
    cases h
    simp [htag]
  · exact absurd h (by simp)

theorem ofTag_eq_none_iff (tag : UInt64) : KeyState.ofTag? tag = none ↔ 2 < tag.toNat := by
  unfold KeyState.ofTag?
  split
  · rename_i htag
    simp [htag]
  · rename_i htag
    simp [htag]
  · rename_i htag
    simp [htag]
  · rename_i hzero hone htwo
    simp only [true_iff]
    have hsmall : tag.toNat ≠ 0 ∧ tag.toNat ≠ 1 ∧ tag.toNat ≠ 2 := ⟨hzero, hone, htwo⟩
    omega

theorem acceptsKey_iff (dispatcher : Dispatcher x) (record : Record) :
    (∃ code keyState, AcceptsKey dispatcher record code keyState) ↔
      record.kind = .keyboardKey ∧ dispatcher.keyboard.hasKeymap = true ∧
        record.first.toNat + 8 < 2 ^ 32 ∧ record.second.toNat ≤ 2 := by
  constructor
  · rintro ⟨code, keyState, h⟩
    have hfits : record.first.toNat + 8 < 2 ^ 32 := by
      rw [h.first_eq, UInt32.toNat_toUInt64]
      exact h.fits
    have htag : record.second.toNat ≤ 2 := by
      refine Nat.not_lt.mp fun hlarge => ?_
      exact absurd (h.tag_eq.symm.trans ((ofTag_eq_none_iff _).mpr hlarge)) (by simp)
    exact ⟨h.kind_eq, h.keymap, hfits, htag⟩
  · rintro ⟨hkind, hkeymap, hfits, htag⟩
    cases hstate : KeyState.ofTag? record.second with
    | none => exact absurd ((ofTag_eq_none_iff _).mp hstate) (Nat.not_lt.mpr htag)
    | some keyState =>
        have hcode : record.first.toUInt32.toNat = record.first.toNat := by
          rw [UInt64.toNat_toUInt32]
          omega
        refine ⟨record.first.toUInt32, keyState, hkind, ?_, hstate, hkeymap, ?_⟩
        · apply UInt64.toNat_inj.mp
          rw [UInt32.toNat_toUInt64, hcode]
        · rwa [hcode]

theorem accepts_of_not_turnedDown {dispatcher : Dispatcher x} {record : Record}
    (files : Nat → SharedFile) (hkind : record.kind ≠ .keyboardKeymap)
    (h : ¬ TurnedDown dispatcher record) : Accepts dispatcher files record := by
  cases hrecord : record.kind with
  | keyboardKeymap => exact absurd hrecord hkind
  | keyboardKey =>
      simp only [Accepts, hrecord]
      refine (acceptsKey_iff dispatcher record).mpr ⟨hrecord, ?_, ?_, ?_⟩
      · exact eq_true_of_ne_false fun hearly => h (.early (.inl hrecord) hearly)
      · exact Nat.not_le.mp fun hlarge => h (.keyCode hrecord hlarge)
      · exact Nat.not_lt.mp fun hlarge => h (.keyState hrecord hlarge)
  | keyboardModifiers =>
      simp only [Accepts, hrecord]
      exact eq_true_of_ne_false fun hearly => h (.early (.inr hrecord) hearly)
  | pointerButton =>
      simp only [Accepts, hrecord]
      exact Nat.not_le.mp fun hlarge => h (.buttonCode hrecord hlarge)
  | keyboardRepeatInfo | pointerMotion | authPending | authFail | authSuccess =>
      simp only [Accepts, hrecord]
  | wayland => exact absurd (.outbound (.inl hrecord)) h
  | renderer => exact absurd (.outbound (.inr (.inl hrecord))) h
  | authSubmit => exact absurd (.outbound (.inr (.inr hrecord))) h

theorem not_accepts_of_turnedDown {dispatcher : Dispatcher x} {record : Record}
    (files : Nat → SharedFile) (h : TurnedDown dispatcher record) :
    ¬ Accepts dispatcher files record := by
  intro haccepts
  cases h with
  | outbound hkind =>
      rcases hkind with hkind | hkind | hkind <;> simp only [Accepts, hkind] at haccepts
  | early hkind hkeymap =>
      rcases hkind with hkind | hkind
      · simp only [Accepts, hkind] at haccepts
        have hloaded := ((acceptsKey_iff dispatcher record).mp haccepts).2.1
        exact absurd (hloaded.symm.trans hkeymap) (by simp)
      · simp only [Accepts, hkind] at haccepts
        exact absurd (haccepts.symm.trans hkeymap) (by simp)
  | keyCode hkind hlarge =>
      simp only [Accepts, hkind] at haccepts
      exact Nat.not_lt.mpr hlarge ((acceptsKey_iff dispatcher record).mp haccepts).2.2.1
  | keyState hkind hlarge =>
      simp only [Accepts, hkind] at haccepts
      exact Nat.not_lt.mpr ((acceptsKey_iff dispatcher record).mp haccepts).2.2.2 hlarge
  | buttonCode hkind hlarge =>
      simp only [Accepts, hkind] at haccepts
      exact Nat.not_lt.mpr hlarge haccepts

theorem brings_of_acceptsKey {dispatcher : Dispatcher x} {record : Record} {code : UInt32}
    {keyState : KeyState} (h : AcceptsKey dispatcher record code keyState)
    (files : Nat → SharedFile) (now : Instant) :
    ∃ events, Brings record events ∧
      (dispatcher.dispatch files record now).1.queue = dispatcher.queue ++ events := by
  obtain ⟨event, keyboard, effects, happly, hafter⟩ := dispatch_of_acceptsKey h files now
  obtain ⟨rfl, haction, hrepeat, -⟩ := event_of_applyKey happly
  obtain ⟨hreleased, -, hrepeated⟩ := ofTag_cases h.tag_eq
  refine ⟨[.key event], ?_, ?_⟩
  · simp only [Brings, h.kind_eq]
    exact ⟨event, rfl, h.first_eq.symm, haction.trans hreleased, hrepeat.trans hrepeated⟩
  · rw [hafter]
    simp only [Dispatcher.push, (followKey_frame _ event keyState now).2]

theorem brings_of_not_turnedDown {dispatcher : Dispatcher x} {record : Record}
    (h : ¬ TurnedDown dispatcher record) (files : Nat → SharedFile) (now : Instant) :
    ∃ events, Brings record events ∧
      (dispatcher.dispatch files record now).1.queue = dispatcher.queue ++ events := by
  cases hkind : record.kind with
  | keyboardKeymap =>
      refine ⟨[], by simp only [Brings, hkind], ?_⟩
      by_cases hloads : ∃ keymap, Loads x files record keymap
      · obtain ⟨keymap, hloads⟩ := hloads
        rw [dispatch_of_loads hloads, List.append_nil]
      · rw [dispatch_of_not_loads hkind hloads, List.append_nil]
  | keyboardKey =>
      have haccepts := accepts_of_not_turnedDown files (by simp [hkind]) h
      simp only [Accepts, hkind] at haccepts
      obtain ⟨code, keyState, haccepts⟩ := haccepts
      exact brings_of_acceptsKey haccepts files now
  | keyboardModifiers | keyboardRepeatInfo | wayland | renderer | authSubmit =>
      refine ⟨[], by simp only [Brings, hkind], ?_⟩
      simp only [Dispatcher.dispatch, Dispatcher.apply, hkind, List.append_nil]
  | pointerMotion =>
      simp only [Dispatcher.dispatch, Dispatcher.apply, hkind, Dispatcher.point, Dispatcher.push,
        Brings]
      exact ⟨_, ⟨_, rfl, rfl⟩, rfl⟩
  | pointerButton =>
      have hrange : ¬ 4294967296 ≤ record.first.toNat := fun hlarge =>
        h (.buttonCode hkind hlarge)
      simp only [Dispatcher.dispatch, Dispatcher.apply, hkind, Dispatcher.button, hrange, if_false,
        Dispatcher.point, Dispatcher.push, Brings]
      refine ⟨_, ⟨_, rfl, ?_⟩, rfl⟩
      by_cases htag : record.second = 1 <;> simp [Pointer.press, ButtonState.ofTag, htag]
  | authPending | authFail | authSuccess =>
      simp only [Dispatcher.dispatch, Dispatcher.apply, hkind, Dispatcher.push, Brings]
      exact ⟨_, rfl, rfl⟩

/-- A record other than a keymap is turned down for one of five reasons, and then nothing at all
happens to the dispatcher; any other record brings just the events of its kind, and they go behind
all that is queued. -/
theorem record_accounting (dispatcher : Dispatcher x) (files : Nat → SharedFile) (record : Record)
    (now : Instant) :
    let after := (dispatcher.dispatch files record now).1
    (TurnedDown dispatcher record → after = dispatcher) ∧
      (¬ TurnedDown dispatcher record →
        ∃ events, Brings record events ∧ after.queue = dispatcher.queue ++ events) ∧
      dispatcher.queue <+: after.queue := by
  intro after
  have hrejected : TurnedDown dispatcher record → after = dispatcher := fun h =>
    dispatch_of_not_accepts (not_accepts_of_turnedDown files h) now
  have htaken : ¬ TurnedDown dispatcher record →
      ∃ events, Brings record events ∧ after.queue = dispatcher.queue ++ events := fun h =>
    brings_of_not_turnedDown h files now
  refine ⟨hrejected, htaken, ?_⟩
  by_cases h : TurnedDown dispatcher record
  · have hsame : dispatcher.queue = after.queue := by rw [hrejected h]
    exact ⟨[], (List.append_nil _).trans hsame⟩
  · obtain ⟨events, -, hqueue⟩ := htaken h
    rw [hqueue]
    exact List.prefix_append _ _

end LockScreen.Proofs.RecordAccounting
