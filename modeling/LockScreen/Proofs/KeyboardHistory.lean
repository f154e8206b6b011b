import LockScreen.Proofs.RecordAccounting
import LockScreen.Proofs.ScheduleIndependence

namespace LockScreen.Proofs.KeyboardHistory

open LockScreen.Repeat LockScreen.Text LockScreen.Wire
open LockScreen.Proofs.Runs LockScreen.Proofs.DispatcherRuns LockScreen.Proofs.RecordAcceptance
open LockScreen.Proofs.KeymapReplacement LockScreen.Proofs.RecordAccounting
open LockScreen.Proofs.ScheduleIndependence (added added_of_queue_eq)

variable {x : Xkb}

inductive Input where
  | down (code : UInt32)
  | up (code : UInt32)
  | masks (masks : Masks)
deriving DecidableEq, Repr

def feed (state : x.State) : Input → x.State
  | .down code => x.press state code
  | .up code => x.release state code
  | .masks masks => x.setMasks state masks

/-- What a record asks of the keymap state, whatever that is: a key that is repeated, has no xkb
code or has an unknown state asks nothing, nor does any record but keys and modifiers. -/
def input? (record : Record) : Option Input :=
  match record.kind with
  | .keyboardKey =>
      if record.first.toNat + 8 < 2 ^ 32 then
        if record.second = 1 then some (.down (record.first.toUInt32 + 8))
        else if record.second = 0 then some (.up (record.first.toUInt32 + 8))
        else none
      else none
  | .keyboardModifiers => some (.masks (Masks.unpack record.first record.second))
  | .keyboardKeymap | .keyboardRepeatInfo | .pointerMotion | .pointerButton | .authPending
  | .authFail | .authSuccess | .wayland | .renderer | .authSubmit => none

def asks : Step → Option Input
  | .dispatch _ record _ => input? record
  | .tick _ | .drain => none

def inputs (steps : List Step) : List Input :=
  steps.filterMap asks

def Replaces (x : Xkb) (taken : Step) (keymap : x.Keymap) : Prop :=
  match taken with
  | .dispatch files record _ => Loads x files record keymap
  | .tick _ | .drain => False

def Untouched (x : Xkb) (steps : List Step) : Prop :=
  ∀ taken ∈ steps, ∀ keymap, ¬ Replaces x taken keymap

/-- The last keymap that the steps load, and its fresh state taken through all that came since. -/
def Recounts (x : Xkb) (steps : List Step) (keymap : x.Keymap) (state : x.State) : Prop :=
  ∃ before load after,
    steps = before ++ load :: after ∧ Replaces x load keymap ∧ Untouched x after ∧
      state = (inputs after).foldl feed (x.fresh keymap)

structure Tells (event : KeyEvent) (state : x.State) : Prop where
  key : event.key = Key.ofKeysym (x.keysym state (event.code + 8))
  text : event.text = Utf8.truncate (x.text state (event.code + 8)) 63
  modifiers : event.modifiers = .ofPredicate (x.active state)

theorem input_of_acceptsKey {dispatcher : Dispatcher x} {record : Record} {code : UInt32}
    {keyState : KeyState} (h : AcceptsKey dispatcher record code keyState) (state : x.State) :
    Keyboard.transition state (code + 8) keyState = (input? record).toList.foldl feed state := by
  have hcode : record.first.toUInt32 = code := by rw [h.first_eq, UInt32.toUInt32_toUInt64]
  have hfits : record.first.toNat + 8 < 2 ^ 32 := by
    rw [h.first_eq, UInt32.toNat_toUInt64]
    exact h.fits
  obtain ⟨hreleased, hpressed, hrepeated⟩ := ofTag_cases h.tag_eq
  simp only [input?, h.kind_eq, hfits, if_true, hcode]
  cases keyState with
  | pressed =>
      rw [if_pos (hpressed.mp rfl)]
      rfl
  | released =>
      have htag : record.second = 0 := hreleased.mp rfl
      rw [if_neg (by simp [htag]), if_pos htag]
      rfl
  | repeated =>
      have htag : record.second = 2 := hrepeated.mp rfl
      rw [if_neg (by simp [htag]), if_neg (by simp [htag])]
      rfl

theorem input_of_not_acceptsKey {dispatcher : Dispatcher x} {record : Record}
    (hkind : record.kind = .keyboardKey) (hkeymap : dispatcher.keyboard.hasKeymap = true)
    (h : ¬ ∃ code keyState, AcceptsKey dispatcher record code keyState) :
    input? record = none := by
  simp only [input?, hkind]
  split
  · rename_i hfits
    have htag : 2 < record.second.toNat := Nat.not_le.mp fun hsmall =>
      h ((acceptsKey_iff dispatcher record).mpr ⟨hkind, hkeymap, hfits, hsmall⟩)
    have hpressed : record.second ≠ 1 := fun heq => absurd htag (by simp [heq])
    have hreleased : record.second ≠ 0 := fun heq => absurd htag (by simp [heq])
    rw [if_neg hpressed, if_neg hreleased]
  · rfl

theorem applyKey_spec {keyboard after : Keyboard x} {code : UInt32} {keyState : KeyState}
    {event : KeyEvent} {effects : List Effect}
    (h : keyboard.applyKey code keyState = (some event, after, effects)) :
    ∃ keymap state, view keyboard = some (keymap, state) ∧
      view after = some (keymap, Keyboard.transition state (code + 8) keyState) ∧
      Tells event (Keyboard.transition state (code + 8) keyState) := by
  unfold Keyboard.applyKey at h
  split at h
  · exact absurd h (by simp)
  · rename_i layout hlayout
    split at h
    · exact absurd h (by simp)
    · rename_i xkbCode hcode
      have hxkb : xkbCode = code + 8 := by
        simp only [Keyboard.xkbCode?] at hcode
        split at hcode
        · exact (Option.some.inj hcode).symm
        · exact absurd hcode (by simp)
      subst hxkb
      cases h
      refine ⟨layout.keymap, layout.state, by simp [view, hlayout], rfl, ?_⟩
      exact ⟨rfl, rfl, rfl⟩

theorem keyboard_of_acceptsKey {dispatcher : Dispatcher x} {record : Record} {code : UInt32}
    {keyState : KeyState} (h : AcceptsKey dispatcher record code keyState)
    (files : Nat → SharedFile) (now : Instant) :
    ∃ keymap state event, view dispatcher.keyboard = some (keymap, state) ∧
      view (dispatcher.dispatch files record now).1.keyboard =
        some (keymap, (input? record).toList.foldl feed state) ∧
      (dispatcher.dispatch files record now).1.queue = dispatcher.queue ++ [.key event] ∧
      event.code.toUInt64 = record.first ∧
      Tells event ((input? record).toList.foldl feed state) := by
  obtain ⟨event, keyboard, effects, happly, hafter⟩ := dispatch_of_acceptsKey h files now
  obtain ⟨hkeyboard, hqueue⟩ := followKey_frame { dispatcher with keyboard } event keyState now
  obtain ⟨keymap, state, hbefore, hview, htells⟩ := applyKey_spec happly
  rw [input_of_acceptsKey h] at hview htells
  refine ⟨keymap, state, event, hbefore, ?_, ?_, ?_, htells⟩
  · rw [hafter]
    simpa only [Dispatcher.push, hkeyboard] using hview
  · rw [hafter]
    simp only [Dispatcher.push, hqueue]
  · rw [(event_of_applyKey happly).1]
    exact h.first_eq.symm

theorem view_of_key {record : Record} (hkind : record.kind = .keyboardKey)
    (dispatcher : Dispatcher x) (files : Nat → SharedFile) (now : Instant) :
    view (dispatcher.dispatch files record now).1.keyboard =
      (view dispatcher.keyboard).map
        fun held => (held.1, (input? record).toList.foldl feed held.2) := by
  by_cases haccepts : ∃ code keyState, AcceptsKey dispatcher record code keyState
  · obtain ⟨code, keyState, haccepts⟩ := haccepts
    obtain ⟨keymap, state, event, hbefore, hafter, -⟩ := keyboard_of_acceptsKey haccepts files now
    rw [hbefore]
    exact hafter
  · rw [dispatch_of_not_acceptsKey hkind haccepts]
    cases hkeymap : dispatcher.keyboard.hasKeymap with
    | true =>
        rw [input_of_not_acceptsKey hkind hkeymap haccepts]
        exact Option.map_id'.symm
    | false =>
        have hnone : view dispatcher.keyboard = none := by
          simpa [view, Keyboard.hasKeymap] using hkeymap
        rw [hnone]
        rfl

theorem view_setMasks (keyboard : Keyboard x) (masks : Masks) :
    view (keyboard.setMasks masks).2.1 =
      (view keyboard).map fun held => (held.1, x.setMasks held.2 masks) := by
  cases hlayout : keyboard.layout with
  | none => simp [Keyboard.setMasks, view, hlayout]
  | some layout => simp [Keyboard.setMasks, view, hlayout]

theorem view_of_replaces {taken : Step} {keymap : x.Keymap} (h : Replaces x taken keymap)
    (dispatcher : Dispatcher x) :
    view (step dispatcher taken).keyboard = some (keymap, x.fresh keymap) := by
  cases taken with
  | dispatch files record now =>
      simp only [step, dispatch_of_loads h]
      rfl
  | tick now => exact h.elim
  | drain => exact h.elim

theorem view_of_not_replaces {taken : Step} (h : ∀ keymap, ¬ Replaces x taken keymap)
    (dispatcher : Dispatcher x) :
    view (step dispatcher taken).keyboard =
      (view dispatcher.keyboard).map fun held => (held.1, (asks taken).toList.foldl feed held.2) := by
  have hkept (hasks : asks taken = none)
      (hsame : (step dispatcher taken).keyboard = dispatcher.keyboard) :
      view (step dispatcher taken).keyboard =
        (view dispatcher.keyboard).map
          fun held => (held.1, (asks taken).toList.foldl feed held.2) := by
    rw [hasks, hsame]
    exact Option.map_id'.symm
  cases taken with
  | tick now => exact hkept rfl (keyboard_tick dispatcher now)
  | drain => exact hkept rfl rfl
  | dispatch files record now =>
      cases hkind : record.kind with
      | keyboardKeymap =>
          have hloads : ¬ ∃ keymap, Loads x files record keymap := fun ⟨keymap, hloads⟩ =>
            h keymap hloads
          refine hkept (by simp only [asks, input?, hkind]) ?_
          simp only [step, dispatch_of_not_loads hkind hloads]
      | keyboardKey => exact view_of_key hkind dispatcher files now
      | keyboardModifiers =>
          simp only [step, Dispatcher.dispatch, Dispatcher.apply, hkind, asks, input?]
          exact view_setMasks _ _
      | keyboardRepeatInfo =>
          refine hkept (by simp only [asks, input?, hkind]) ?_
          simp only [step, Dispatcher.dispatch, Dispatcher.apply, hkind]
      | pointerMotion | pointerButton | authPending | authFail | authSuccess | wayland | renderer
      | authSubmit =>
          refine hkept (by simp only [asks, input?, hkind]) ?_
          exact keyboard_of_not_isKeyboard (by simp only [isKeyboard, hkind]) dispatcher files now

theorem view_run_of_untouched {steps : List Step} (h : Untouched x steps)
    (dispatcher : Dispatcher x) :
    view (run step dispatcher steps).keyboard =
      (view dispatcher.keyboard).map fun held => (held.1, (inputs steps).foldl feed held.2) := by
  induction steps generalizing dispatcher with
  | nil => exact Option.map_id'.symm
  | cons first rest ih =>
      have hrest : Untouched x rest := fun taken htaken => h taken (List.mem_cons_of_mem _ htaken)
      have hinputs : inputs (first :: rest) = (asks first).toList ++ inputs rest := by
        rw [inputs, List.filterMap_cons]
        cases asks first <;> rfl
      rw [run_cons, ih hrest, view_of_not_replaces (h first List.mem_cons_self), Option.map_map,
        hinputs]
      simp only [Function.comp_def, List.foldl_append]

theorem view_run_of_recounts {steps : List Step} {keymap : x.Keymap} {state : x.State}
    (h : Recounts x steps keymap state) (dispatcher : Dispatcher x) :
    view (run step dispatcher steps).keyboard = some (keymap, state) := by
  obtain ⟨before, load, after, rfl, hload, huntouched, rfl⟩ := h
  rw [run_append, run_cons, view_run_of_untouched huntouched, view_of_replaces hload]
  rfl

theorem Recounts.snoc {steps : List Step} {keymap : x.Keymap} {state : x.State}
    (h : Recounts x steps keymap state) {taken : Step}
    (htaken : ∀ other, ¬ Replaces x taken other) :
    ∃ later, Recounts x (steps ++ [taken]) keymap later := by
  obtain ⟨before, load, after, rfl, hload, huntouched, -⟩ := h
  refine ⟨_, before, load, after ++ [taken], by simp, hload, ?_, rfl⟩
  intro step hstep
  rcases List.mem_append.mp hstep with hafter | hlast
  · exact huntouched step hafter
  · rw [List.mem_singleton.mp hlast]
    exact htaken

theorem untouched_or_recounts (x : Xkb) (steps : List Step) :
    Untouched x steps ∨ ∃ keymap state, Recounts x steps keymap state := by
  -- From the end: the last step either loads a keymap, or leaves the case of those before it.
  induction steps using List.reverseRecOn with
  | nil => exact Or.inl fun taken htaken => absurd htaken List.not_mem_nil
  | append_singleton steps taken ih =>
      by_cases htaken : ∃ keymap, Replaces x taken keymap
      · obtain ⟨keymap, hload⟩ := htaken
        exact Or.inr ⟨keymap, _, steps, taken, [], rfl, hload,
          fun step hstep => absurd hstep List.not_mem_nil, rfl⟩
      · have hquiet : ∀ keymap, ¬ Replaces x taken keymap := not_exists.mp htaken
        rcases ih with huntouched | ⟨keymap, state, hrecounts⟩
        · left
          intro step hstep
          rcases List.mem_append.mp hstep with hbefore | hlast
          · exact huntouched step hbefore
          · rw [List.mem_singleton.mp hlast]
            exact hquiet
        · exact Or.inr ⟨keymap, hrecounts.snoc hquiet⟩

theorem view_start (timing : Option Timing) :
    view (start timing : Dispatcher x).keyboard = none := by
  cases timing <;> rfl

theorem view_eq_none_iff (timing : Option Timing) (steps : List Step) :
    view (run step (start timing : Dispatcher x) steps).keyboard = none ↔ Untouched x steps := by
  constructor
  · intro hnone
    rcases untouched_or_recounts x steps with huntouched | ⟨keymap, state, hrecounts⟩
    · exact huntouched
    · rw [view_run_of_recounts hrecounts] at hnone
      exact absurd hnone (by simp)
  · intro huntouched
    rw [view_run_of_untouched huntouched, view_start]
    rfl

theorem view_eq_some_iff (timing : Option Timing) (steps : List Step) (keymap : x.Keymap)
    (state : x.State) :
    view (run step (start timing : Dispatcher x) steps).keyboard = some (keymap, state) ↔
      Recounts x steps keymap state := by
  constructor
  · intro hsome
    rcases untouched_or_recounts x steps with huntouched | ⟨other, otherState, hrecounts⟩
    · rw [(view_eq_none_iff timing steps).mpr huntouched] at hsome
      exact absurd hsome (by simp)
    · rw [view_run_of_recounts hrecounts] at hsome
      cases hsome
      exact hrecounts
  · exact fun hrecounts => view_run_of_recounts hrecounts _

theorem brings_added {dispatcher : Dispatcher x} {files : Nat → SharedFile} {record : Record}
    {now : Instant} {event : SceneEvent}
    (h : event ∈ added dispatcher (.dispatch files record now)) :
    Accepts dispatcher files record ∧ ∃ events, Brings record events ∧ event ∈ events := by
  by_cases hrejected : TurnedDown dispatcher record
  · have hsame := dispatch_of_not_accepts (not_accepts_of_turnedDown files hrejected) now
    have hadded : added dispatcher (.dispatch files record now) = [] :=
      added_of_queue_eq dispatcher (.dispatch files record now)
        (by simp only [step, hsame, List.append_nil])
    rw [hadded] at h
    exact absurd h List.not_mem_nil
  · obtain ⟨events, hbrings, hqueue⟩ := brings_of_not_turnedDown hrejected files now
    rw [added_of_queue_eq dispatcher (.dispatch files record now) hqueue] at h
    refine ⟨accepts_of_not_turnedDown files ?_ hrejected, events, hbrings, h⟩
    intro hkind
    simp only [Brings, hkind] at hbrings
    rw [hbrings] at h
    exact absurd h List.not_mem_nil

theorem tells_of_added {dispatcher : Dispatcher x} {files : Nat → SharedFile} {record : Record}
    {now : Instant} {event : KeyEvent}
    (h : .key event ∈ added dispatcher (.dispatch files record now)) :
    record.kind = .keyboardKey ∧ event.code.toUInt64 = record.first ∧
      ∃ keymap state,
        view (step dispatcher (.dispatch files record now)).keyboard = some (keymap, state) ∧
        Tells event state := by
  obtain ⟨haccepts, events, hbrings, hevent⟩ := brings_added h
  have hkind : record.kind = .keyboardKey := hbrings.kind_of_mem hevent
  simp only [Accepts, hkind] at haccepts
  obtain ⟨code, keyState, haccepts⟩ := haccepts
  obtain ⟨keymap, state, brought, -, hview, hqueue, hcode, htells⟩ :=
    keyboard_of_acceptsKey haccepts files now
  rw [added_of_queue_eq dispatcher (.dispatch files record now) hqueue] at h
  cases List.mem_singleton.mp h
  exact ⟨hkind, hcode, keymap, _, hview, htells⟩

theorem modifiers_eq (keyboard : Keyboard x) :
    keyboard.modifiers =
      ((view keyboard).map fun held => Modifiers.ofPredicate (x.active held.2)).getD .none := by
  cases hlayout : keyboard.layout with
  | none => simp [Keyboard.modifiers, view, hlayout]
  | some layout => simp [Keyboard.modifiers, view, hlayout]

theorem point_of_added {dispatcher : Dispatcher x} {files : Nat → SharedFile} {record : Record}
    {now : Instant} {event : PointerEvent}
    (h : .pointer event ∈ added dispatcher (.dispatch files record now)) :
    ∃ moved : Pointer × PointerEvent,
      (moved = dispatcher.pointer.move record.first record.second ∨
        moved = dispatcher.pointer.press record.first.toUInt32 (.ofTag record.second)) ∧
      step dispatcher (.dispatch files record now) = dispatcher.point moved ∧
      event = { moved.2 with modifiers := dispatcher.keyboard.modifiers } := by
  obtain ⟨haccepts, events, hbrings, hevent⟩ := brings_added h
  have hpoint (moved : Pointer × PointerEvent)
      (hafter : step dispatcher (.dispatch files record now) = dispatcher.point moved) :
      event = { moved.2 with modifiers := dispatcher.keyboard.modifiers } := by
    rw [added_of_queue_eq dispatcher (.dispatch files record now) (by rw [hafter]; rfl)] at h
    cases List.mem_singleton.mp h
    rfl
  have hkinds : record.kind = .pointerMotion ∨ record.kind = .pointerButton :=
    hbrings.kind_of_mem hevent
  rcases hkinds with hkind | hkind
  · have hafter : step dispatcher (.dispatch files record now) =
        dispatcher.point (dispatcher.pointer.move record.first record.second) := by
      simp only [step, Dispatcher.dispatch, Dispatcher.apply, hkind]
    exact ⟨_, Or.inl rfl, hafter, hpoint _ hafter⟩
  · simp only [Accepts, hkind] at haccepts
    have hrange : ¬ 4294967296 ≤ record.first.toNat := Nat.not_le.mpr haccepts
    have hafter : step dispatcher (.dispatch files record now) =
        dispatcher.point
          (dispatcher.pointer.press record.first.toUInt32 (.ofTag record.second)) := by
      simp only [step, Dispatcher.dispatch, Dispatcher.apply, hkind, Dispatcher.button, hrange,
        if_false]
    exact ⟨_, Or.inr rfl, hafter, hpoint _ hafter⟩

theorem modifiers_of_added {dispatcher : Dispatcher x} {files : Nat → SharedFile}
    {record : Record} {now : Instant} {event : PointerEvent}
    (h : .pointer event ∈ added dispatcher (.dispatch files record now)) :
    event.modifiers = (step dispatcher (.dispatch files record now)).keyboard.modifiers := by
  obtain ⟨moved, -, hafter, rfl⟩ := point_of_added h
  rw [hafter]
  rfl

/-- In every reachable state the keyboard holds what its history recounts: no keymap if none was
loaded, and else the last one, with its state taken through the keys and modifiers since. The events
that a record queues tell of that state with the record in it. -/
theorem keyboard_follows_history (timing : Option Timing) (steps : List Step) :
    let dispatcher : Dispatcher x := run step (start timing) steps
    (view dispatcher.keyboard = none ↔ Untouched x steps) ∧
      (∀ keymap state,
        view dispatcher.keyboard = some (keymap, state) ↔ Recounts x steps keymap state) ∧
      ∀ files record now,
        (∀ event, .key event ∈ added dispatcher (.dispatch files record now) →
          record.kind = .keyboardKey ∧ event.code.toUInt64 = record.first ∧
            ∃ keymap state, Recounts x (steps ++ [.dispatch files record now]) keymap state ∧
              Tells event state) ∧
        (∀ event, .pointer event ∈ added dispatcher (.dispatch files record now) →
          (∃ keymap state, Recounts x (steps ++ [.dispatch files record now]) keymap state ∧
            event.modifiers = .ofPredicate (x.active state)) ∨
          Untouched x (steps ++ [.dispatch files record now]) ∧ event.modifiers = .none) := by
  intro dispatcher
  refine ⟨view_eq_none_iff timing steps, view_eq_some_iff timing steps, ?_⟩
  intro files record now
  have hafter : step dispatcher (.dispatch files record now) =
      run step (start timing) (steps ++ [.dispatch files record now]) := by
    rw [run_append, run_cons, run_nil]
  constructor
  · intro event hevent
    obtain ⟨hkind, hcode, keymap, state, hview, htells⟩ := tells_of_added hevent
    rw [hafter, view_eq_some_iff] at hview
    exact ⟨hkind, hcode, keymap, state, hview, htells⟩
  · intro event hevent
    have hmodifiers := modifiers_of_added hevent
    rw [hafter, modifiers_eq] at hmodifiers
    rcases untouched_or_recounts x (steps ++ [.dispatch files record now]) with
      huntouched | ⟨keymap, state, hrecounts⟩
    · right
      rw [(view_eq_none_iff timing _).mpr huntouched] at hmodifiers
      exact ⟨huntouched, hmodifiers⟩
    · left
      rw [view_run_of_recounts hrecounts] at hmodifiers
      exact ⟨keymap, state, hrecounts, hmodifiers⟩

end LockScreen.Proofs.KeyboardHistory
