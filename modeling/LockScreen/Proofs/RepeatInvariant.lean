import LockScreen.Proofs.RecordAcceptance
import Mathlib.Data.List.Induction

namespace LockScreen.Proofs.RepeatInvariant

open LockScreen.Repeat LockScreen.Wire
open LockScreen.Proofs.Runs LockScreen.Proofs.DispatcherRuns LockScreen.Proofs.RecordAcceptance

variable {x : Xkb} {α : Type}

inductive PressesRepeating (dispatcher : Dispatcher x) : Step → Prop where
  | press {files : Nat → SharedFile} {record : Record} {now : Instant} {code : UInt32} :
      AcceptsKey dispatcher record code .pressed → dispatcher.keyboard.repeats code = true →
      PressesRepeating dispatcher (.dispatch files record now)

/-- What a step does to key repeat, with what made it do so. -/
inductive Change (dispatcher : Dispatcher x) : Step → Dispatcher x → Prop where
  | kept {taken : Step} {after : Dispatcher x} (quiet : ¬ PressesRepeating dispatcher taken)
      (engine : after.engine = dispatcher.engine)
      (code : after.repeatingCode = dispatcher.repeatingCode) : Change dispatcher taken after
  | armed {files : Nat → SharedFile} {record : Record} {now : Instant} {after : Dispatcher x}
      {event : KeyEvent} (press : AcceptsKey dispatcher record event.code .pressed)
      (repeats : dispatcher.keyboard.repeats event.code = true) (action : event.action = .press)
      (queue : after.queue = dispatcher.queue ++ [.key event])
      (engine : after.engine = dispatcher.engine.set { event with autoRepeat := true } now)
      (code : after.repeatingCode = some event.code) :
      Change dispatcher (.dispatch files record now) after
  | released {files : Nat → SharedFile} {record : Record} {now : Instant} {after : Dispatcher x}
      {code : UInt32} (release : AcceptsKey dispatcher record code .released)
      (repeating : dispatcher.repeatingCode = some code)
      (engine : after.engine = dispatcher.engine.reset) (code : after.repeatingCode = none) :
      Change dispatcher (.dispatch files record now) after
  | replaced {files : Nat → SharedFile} {record : Record} {now : Instant} {after : Dispatcher x}
      {keymap : x.Keymap} (loads : Loads x files record keymap)
      (engine : after.engine = dispatcher.engine.reset) (code : after.repeatingCode = none) :
      Change dispatcher (.dispatch files record now) after
  | timed {files : Nat → SharedFile} {record : Record} {now : Instant} {after : Dispatcher x}
      (kind : record.kind = .keyboardRepeatInfo)
      (engine : after.engine = dispatcher.engine.configure (Dispatcher.signed record.first)
        (Dispatcher.signed record.second))
      (code : after.repeatingCode = none) : Change dispatcher (.dispatch files record now) after
  | ticked {now : Instant} {after : Dispatcher x}
      (engine : after.engine = (dispatcher.engine.tick now).2)
      (code : after.repeatingCode = dispatcher.repeatingCode) :
      Change dispatcher (.tick now) after

theorem not_presses_of_kind (dispatcher : Dispatcher x) (files : Nat → SharedFile)
    {record : Record} (now : Instant) (h : record.kind ≠ .keyboardKey) :
    ¬ PressesRepeating dispatcher (.dispatch files record now) := by
  rintro ⟨haccepts, -⟩
  exact h haccepts.kind_eq

theorem change_of_acceptsKey {dispatcher : Dispatcher x} {record : Record} {code : UInt32}
    {keyState : KeyState} (h : AcceptsKey dispatcher record code keyState)
    (files : Nat → SharedFile) (now : Instant) :
    Change dispatcher (.dispatch files record now) (dispatcher.dispatch files record now).1 := by
  obtain ⟨event, keyboard, effects, happly, heq⟩ := dispatch_of_acceptsKey h files now
  obtain ⟨rfl, haction, -, hrepeats⟩ := event_of_applyKey happly
  rw [heq]
  cases keyState with
  | repeated =>
      refine .kept ?_ rfl rfl
      rintro ⟨hpress, -⟩
      exact absurd (h.unique hpress).2 (by decide)
  | released =>
      simp only [Dispatcher.followKey]
      split
      · rename_i hcode
        exact .released h hcode rfl rfl
      · refine .kept ?_ rfl rfl
        rintro ⟨hpress, -⟩
        exact absurd (h.unique hpress).2 (by decide)
  | pressed =>
      have hpress : event.action = .press := by
        cases hevent : event.action with
        | press => rfl
        | release => exact absurd (haction.mp hevent) (by decide)
      simp only [Dispatcher.followKey, hrepeats]
      split
      · rename_i hmarked
        exact .armed h hmarked hpress rfl rfl rfl
      · rename_i hmarked
        refine .kept ?_ rfl rfl
        rintro ⟨hother, hrepeating⟩
        rw [← (h.unique hother).1] at hrepeating
        exact hmarked hrepeating

theorem change_of_accepts {dispatcher : Dispatcher x} {files : Nat → SharedFile}
    {record : Record} (h : Accepts dispatcher files record) (now : Instant) :
    Change dispatcher (.dispatch files record now) (dispatcher.dispatch files record now).1 := by
  cases hkind : record.kind with
  | keyboardKeymap =>
      simp only [Accepts, hkind] at h
      obtain ⟨keymap, hloads⟩ := h
      rw [dispatch_of_loads hloads]
      exact .replaced hloads rfl rfl
  | keyboardKey =>
      simp only [Accepts, hkind] at h
      obtain ⟨code, keyState, haccepts⟩ := h
      exact change_of_acceptsKey haccepts files now
  | keyboardRepeatInfo =>
      simp only [Dispatcher.dispatch, Dispatcher.apply, hkind]
      exact .timed hkind rfl rfl
  | keyboardModifiers | pointerMotion | authPending | authFail | authSuccess =>
      have hquiet := not_presses_of_kind dispatcher files now (by rw [hkind]; decide)
      simp only [Dispatcher.dispatch, Dispatcher.apply, hkind]
      exact .kept hquiet rfl rfl
  | pointerButton =>
      have hquiet := not_presses_of_kind dispatcher files now (by rw [hkind]; decide)
      simp only [Dispatcher.dispatch, Dispatcher.apply, hkind, Dispatcher.button]
      split <;> exact .kept hquiet rfl rfl
  | wayland | renderer | authSubmit =>
      simp only [Accepts, hkind] at h

theorem step_changes (dispatcher : Dispatcher x) (taken : Step) :
    Change dispatcher taken (step dispatcher taken) := by
  cases taken with
  | dispatch files record now =>
      by_cases haccepts : Accepts dispatcher files record
      · exact change_of_accepts haccepts now
      · simp only [step, dispatch_of_not_accepts haccepts]
        refine .kept ?_ rfl rfl
        rintro ⟨hpress, -⟩
        exact haccepts hpress.accepts
  | tick now =>
      simp only [step, Dispatcher.tick]
      split
      · rename_i engine htick
        exact .ticked (by rw [htick]) rfl
      · rename_i event engine htick
        exact .ticked (by rw [htick]; rfl) rfl
  | drain => exact .kept (by rintro ⟨⟩) rfl rfl

/-- The fields of an engine fit together: it is idle without a payload and without a deadline, and
it has a timing with a positive rate otherwise. -/
structure Consistent (engine : Engine α) : Prop where
  payload_iff : engine.phase = .idle ↔ engine.payload = none
  deadline_iff : engine.phase = .idle ↔ engine.deadline = none
  timed : engine.phase ≠ .idle → engine.timing ≠ none
  rate_pos : ∀ timing, engine.timing = some timing → 0 < timing.rate

theorem consistent_new : Consistent (Engine.new : Engine α) where
  payload_iff := by simp [Engine.new]
  deadline_iff := by simp [Engine.new]
  timed := by simp [Engine.new]
  rate_pos := by simp [Engine.new]

theorem Consistent.reset {engine : Engine α} (h : Consistent engine) :
    Consistent engine.reset where
  payload_iff := by simp [Engine.reset]
  deadline_iff := by simp [Engine.reset]
  timed := by simp [Engine.reset]
  rate_pos := h.rate_pos

theorem Consistent.configure {engine : Engine α} (h : Consistent engine) (rate delay : Int) :
    Consistent (engine.configure rate delay) := by
  unfold Engine.configure
  split
  · exact ⟨h.reset.payload_iff, h.reset.deadline_iff, by simp [Engine.reset], by simp⟩
  · rename_i hrate
    refine ⟨h.payload_iff, h.deadline_iff, by simp, ?_⟩
    intro timing htiming
    cases htiming
    exact Int.not_le.mp hrate

theorem Consistent.set {engine : Engine α} (h : Consistent engine) (payload : α)
    (now : Instant) : Consistent (engine.set payload now) := by
  unfold Engine.set
  split
  · exact h
  · rename_i timing htiming
    refine ⟨by simp, by simp, ?_, ?_⟩
    · intro _
      simp [Engine.reset, htiming]
    · intro other hother
      exact h.rate_pos other hother

theorem Consistent.tick_eq {engine : Engine α} (h : Consistent engine) (now : Instant) :
    (engine.tick now).2 = engine ∨
      ∃ deadline, engine.phase ≠ .idle ∧
        (engine.tick now).2 =
          { engine with phase := .repeating, deadline := some deadline } := by
  unfold Engine.tick
  split
  · rename_i deadline timing hdeadline htiming
    split
    · exact Or.inl rfl
    · have hactive : engine.phase ≠ .idle := by
        intro hidle
        rw [h.deadline_iff.mp hidle] at hdeadline
        exact absurd hdeadline (by simp)
      split
      · rename_i hpayload
        exact absurd (h.payload_iff.mpr hpayload) hactive
      · exact Or.inr ⟨_, hactive, rfl⟩
  · exact Or.inl rfl

theorem Consistent.tick {engine : Engine α} (h : Consistent engine) (now : Instant) :
    Consistent (engine.tick now).2 := by
  rcases h.tick_eq now with heq | ⟨deadline, hactive, heq⟩
  · rw [heq]
    exact h
  · rw [heq]
    have hpayload : engine.payload ≠ none := fun hnone => hactive (h.payload_iff.mpr hnone)
    exact ⟨by simpa using hpayload, by simp, fun _ => h.timed hactive, h.rate_pos⟩

@[simp] theorem payload_reset (engine : Engine α) : engine.reset.payload = none :=
  rfl

theorem payload_configure (engine : Engine α) (rate delay : Int) :
    (engine.configure rate delay).payload = if rate ≤ 0 then none else engine.payload := by
  unfold Engine.configure
  split <;> rfl

theorem Consistent.payload_tick {engine : Engine α} (h : Consistent engine) (now : Instant) :
    (engine.tick now).2.payload = engine.payload := by
  rcases h.tick_eq now with heq | ⟨deadline, -, heq⟩ <;> rw [heq]

theorem Consistent.payload_set {engine : Engine α} (h : Consistent engine) (payload : α)
    (now : Instant) :
    (engine.set payload now).payload = if engine.timing.isSome then some payload else none := by
  unfold Engine.set
  split
  · rename_i htiming
    have hidle : engine.phase = .idle :=
      Decidable.byContradiction fun hactive => h.timed hactive htiming
    simp [htiming, h.payload_iff.mp hidle]
  · rename_i timing htiming
    simp [htiming]

/-- The engine is consistent, and the code noted beside it is that of its payload. -/
structure Sound (dispatcher : Dispatcher x) : Prop where
  engine : Consistent dispatcher.engine
  code_eq : ∀ payload code, dispatcher.engine.payload = some payload →
    dispatcher.repeatingCode = some code → payload.code = code

theorem sound_start (timing : Option Timing) : Sound (start timing : Dispatcher x) := by
  cases timing with
  | none => exact ⟨consistent_new, fun _ _ _ hcode => absurd hcode (by simp [start, Dispatcher.new])⟩
  | some timing =>
      exact ⟨consistent_new.configure _ _, fun _ _ _ hcode =>
        absurd hcode (by simp [start, Dispatcher.withTiming, Dispatcher.new])⟩

theorem payload_start (timing : Option Timing) :
    (start timing : Dispatcher x).engine.payload = none := by
  cases timing with
  | none => rfl
  | some timing =>
      simp only [start, Option.map_some, Option.getD_some, Dispatcher.withTiming,
        payload_configure]
      split <;> rfl

theorem sound_step (dispatcher : Dispatcher x) (taken : Step) (h : Sound dispatcher) :
    Sound (step dispatcher taken) := by
  cases step_changes dispatcher taken with
  | kept quiet engine code =>
      refine ⟨engine ▸ h.engine, ?_⟩
      rw [engine, code]
      exact h.code_eq
  | armed press repeats action queue engine code =>
      refine ⟨engine ▸ h.engine.set _ _, ?_⟩
      intro payload other hpayload hother
      rw [engine, h.engine.payload_set] at hpayload
      rw [code] at hother
      split at hpayload
      · cases hpayload
        exact Option.some.inj hother
      · exact absurd hpayload (by simp)
  | released release repeating engine code | replaced loads engine code =>
      refine ⟨engine ▸ h.engine.reset, ?_⟩
      intro payload other hpayload
      rw [engine, payload_reset] at hpayload
      exact absurd hpayload (by simp)
  | timed kind engine code =>
      refine ⟨engine ▸ h.engine.configure _ _, ?_⟩
      intro payload other _ hother
      rw [code] at hother
      exact absurd hother (by simp)
  | ticked engine code =>
      refine ⟨engine ▸ h.engine.tick _, ?_⟩
      intro payload other hpayload hother
      rw [engine, h.engine.payload_tick] at hpayload
      rw [code] at hother
      exact h.code_eq payload other hpayload hother

theorem sound_run (timing : Option Timing) (steps : List Step) :
    Sound (run step (start timing : Dispatcher x) steps) :=
  invariant_run sound_step (sound_start timing) steps

def LatestPress (dispatcher : Dispatcher x) (steps : List Step) (event : KeyEvent) : Prop :=
  ∃ before files record now after,
    steps = before ++ .dispatch files record now :: after ∧
      AcceptsKey (run step dispatcher before) record event.code .pressed ∧
      (run step dispatcher before).keyboard.repeats event.code = true ∧
      (run step dispatcher (before ++ [.dispatch files record now])).queue =
        (run step dispatcher before).queue ++ [.key event] ∧
      Throughout step (fun d taken => ¬ PressesRepeating d taken)
        (run step dispatcher (before ++ [.dispatch files record now])) after

theorem LatestPress.snoc {dispatcher : Dispatcher x} {steps : List Step} {event : KeyEvent}
    (h : LatestPress dispatcher steps event) {taken : Step}
    (hquiet : ¬ PressesRepeating (run step dispatcher steps) taken) :
    LatestPress dispatcher (steps ++ [taken]) event := by
  obtain ⟨before, files, record, now, after, rfl, hpress, hrepeats, hqueue, hafter⟩ := h
  refine ⟨before, files, record, now, after ++ [taken], by simp, hpress, hrepeats, hqueue, ?_⟩
  refine (throughout_append _ _ _).mpr ⟨hafter, ?_, True.intro⟩
  simpa using hquiet

theorem latestPress_of_payload (timing : Option Timing) (steps : List Step) {payload : KeyEvent}
    (h : (run step (start timing : Dispatcher x) steps).engine.payload = some payload) :
    ∃ event, LatestPress (start timing : Dispatcher x) steps event ∧ event.action = .press ∧
      payload = { event with autoRepeat := true } := by
  -- Only such a press puts a payload in; any other step keeps what there was, or takes it away.
  induction steps using List.reverseRecOn generalizing payload with
  | nil =>
      rw [run_nil, payload_start] at h
      exact absurd h (by simp)
  | append_singleton steps taken ih =>
      have hsound := sound_run (x := x) timing steps
      rw [run_append, run_cons, run_nil] at h
      cases step_changes (run step (start timing : Dispatcher x) steps) taken with
      | kept quiet engine code =>
          rw [engine] at h
          obtain ⟨event, hlatest, hevent⟩ := ih h
          exact ⟨event, hlatest.snoc quiet, hevent⟩
      | armed press repeats action queue engine code =>
          rw [engine, hsound.engine.payload_set] at h
          split at h
          · refine ⟨_, ⟨steps, _, _, _, [], rfl, press, repeats, ?_, True.intro⟩, action,
              (Option.some.inj h).symm⟩
            rw [run_append, run_cons, run_nil]
            exact queue
          · exact absurd h (by simp)
      | released release repeating engine code | replaced loads engine code =>
          rw [engine, payload_reset] at h
          exact absurd h (by simp)
      | timed kind engine code =>
          rw [engine, payload_configure] at h
          split at h
          · exact absurd h (by simp)
          · obtain ⟨event, hlatest, hevent⟩ := ih h
            exact ⟨event, hlatest.snoc (not_presses_of_kind _ _ _ (by rw [kind]; decide)), hevent⟩
      | ticked engine code =>
          rw [engine, hsound.engine.payload_tick] at h
          obtain ⟨event, hlatest, hevent⟩ := ih h
          exact ⟨event, hlatest.snoc (by rintro ⟨⟩), hevent⟩

/-- The steps that take the payload of an engine away or put another in its place, whichever key it
is of. -/
inductive Displaces (dispatcher : Dispatcher x) : Step → Prop where
  | press {taken : Step} : PressesRepeating dispatcher taken → Displaces dispatcher taken
  | keymap {files : Nat → SharedFile} {record : Record} {now : Instant} {keymap : x.Keymap} :
      Loads x files record keymap → Displaces dispatcher (.dispatch files record now)
  | disable {files : Nat → SharedFile} {record : Record} {now : Instant} :
      record.kind = .keyboardRepeatInfo → Dispatcher.signed record.first ≤ 0 →
      Displaces dispatcher (.dispatch files record now)

inductive Takes (dispatcher : Dispatcher x) (code : UInt32) (keyState : KeyState) :
    Step → Prop where
  | key {files : Nat → SharedFile} {record : Record} {now : Instant} :
      AcceptsKey dispatcher record code keyState →
      Takes dispatcher code keyState (.dispatch files record now)

def Holds (dispatcher : Dispatcher x) (code : UInt32) : Prop :=
  ∃ payload, dispatcher.engine.payload = some payload ∧ payload.code = code

theorem not_holds_of_payload {dispatcher : Dispatcher x} (h : dispatcher.engine.payload = none)
    (code : UInt32) : ¬ Holds dispatcher code := by
  rintro ⟨payload, hpayload, -⟩
  exact absurd (h.symm.trans hpayload) (by simp)

theorem Holds.unique {dispatcher : Dispatcher x} {code other : UInt32}
    (h : Holds dispatcher code) (h' : Holds dispatcher other) : code = other := by
  obtain ⟨payload, hpayload, rfl⟩ := h
  obtain ⟨payload', hpayload', rfl⟩ := h'
  rw [Option.some.inj (hpayload.symm.trans hpayload')]

theorem Holds.of_payload_eq {dispatcher after : Dispatcher x} {code : UInt32}
    (h : Holds after code) (heq : after.engine.payload = dispatcher.engine.payload) :
    Holds dispatcher code := by
  obtain ⟨payload, hpayload, hcode⟩ := h
  exact ⟨payload, heq ▸ hpayload, hcode⟩

/-- The steps that end or change a repeat. -/
def Interrupts (dispatcher : Dispatcher x) (taken : Step) : Prop :=
  Displaces dispatcher taken ∨
    ∃ code, Holds dispatcher code ∧ Takes dispatcher code .released taken

inductive Retimes : Step → Prop where
  | timing {files : Nat → SharedFile} {record : Record} {now : Instant} :
      record.kind = .keyboardRepeatInfo → 0 < Dispatcher.signed record.first →
      Retimes (.dispatch files record now)

theorem step_of_not_displaces {dispatcher : Dispatcher x} (hsound : Sound dispatcher)
    {taken : Step} (h : ¬ Displaces dispatcher taken) :
    ((step dispatcher taken).engine.payload = dispatcher.engine.payload ∧
      ((step dispatcher taken).repeatingCode = dispatcher.repeatingCode ∨
        (step dispatcher taken).repeatingCode = none ∧ Retimes taken)) ∨
    (step dispatcher taken).engine.payload = none ∧
      ∃ code, dispatcher.repeatingCode = some code ∧ Takes dispatcher code .released taken := by
  cases step_changes dispatcher taken with
  | kept quiet engine code => exact Or.inl ⟨by rw [engine], Or.inl code⟩
  | armed press repeats action queue engine code => exact absurd (.press ⟨press, repeats⟩) h
  | released release repeating engine code =>
      exact Or.inr ⟨by rw [engine, payload_reset], _, repeating, .key release⟩
  | replaced loads engine code => exact absurd (.keymap loads) h
  | timed kind engine code =>
      have hrate := Int.not_le.mp fun hrate => h (.disable kind hrate)
      refine Or.inl ⟨?_, Or.inr ⟨code, kind, hrate⟩⟩
      rw [engine, payload_configure, if_neg (Int.not_le.mpr hrate)]
  | ticked engine code =>
      exact Or.inl ⟨by rw [engine, hsound.engine.payload_tick], Or.inl code⟩

theorem step_of_not_interrupts {dispatcher : Dispatcher x} (hsound : Sound dispatcher)
    (hactive : dispatcher.engine.phase ≠ .idle) {taken : Step}
    (h : ¬ Interrupts dispatcher taken) :
    (step dispatcher taken).engine.phase ≠ .idle ∧
      (step dispatcher taken).engine.payload = dispatcher.engine.payload := by
  obtain ⟨payload, hpayload⟩ := Option.ne_none_iff_exists'.mp
    fun hnone => hactive (hsound.engine.payload_iff.mpr hnone)
  have hsame : (step dispatcher taken).engine.payload = dispatcher.engine.payload := by
    rcases step_of_not_displaces hsound fun hdisplaces => h (.inl hdisplaces) with
      ⟨hsame, -⟩ | ⟨-, code, hcode, hrelease⟩
    · exact hsame
    · exact absurd (.inr ⟨code, ⟨payload, hpayload, hsound.code_eq payload code hpayload hcode⟩,
        hrelease⟩) h
  refine ⟨fun hidle => ?_, hsame⟩
  rw [(sound_step dispatcher taken hsound).engine.payload_iff.mp hidle, hpayload] at hsame
  exact absurd hsame (by simp)

theorem Consistent.reset_of_idle {engine : Engine α} (h : Consistent engine)
    (hidle : engine.phase = .idle) : engine.reset = engine := by
  have hpayload := h.payload_iff.mp hidle
  have hdeadline := h.deadline_iff.mp hidle
  cases engine
  simp_all [Engine.reset]

theorem engine_of_other_release {dispatcher : Dispatcher x} (hsound : Sound dispatcher)
    {record : Record} {code : UInt32} (h : AcceptsKey dispatcher record code .released)
    (hother : ∀ payload, dispatcher.engine.payload = some payload → payload.code ≠ code)
    (files : Nat → SharedFile) (now : Instant) :
    (step dispatcher (.dispatch files record now)).engine = dispatcher.engine := by
  cases step_changes dispatcher (.dispatch files record now) with
  | kept quiet engine cleared => exact engine
  | armed press repeats action queue engine cleared =>
      exact absurd (h.unique press).2 (by decide)
  | released release repeating engine cleared =>
      rw [engine]
      apply hsound.engine.reset_of_idle
      apply hsound.engine.payload_iff.mpr
      refine Option.eq_none_iff_forall_ne_some.mpr fun payload hpayload => ?_
      rw [← (h.unique release).1] at repeating
      exact hother payload hpayload (hsound.code_eq payload code hpayload repeating)
  | replaced loads engine cleared =>
      obtain ⟨text, hoffer, -⟩ := loads
      exact absurd (h.kind_eq.symm.trans hoffer.kind_eq) (by decide)
  | timed kind engine cleared => exact absurd (h.kind_eq.symm.trans kind) (by decide)

/-- In every reachable state: an engine is idle if it has no payload, and if it has no deadline; an
active one has a timing with a positive rate, repeats the press of the latest repeating key, and
agrees with the code noted beside it. Only an interruption ends or changes a repeat; releases of
other keys and records that are not accepted do not touch it. -/
theorem repeat_state_sound (timing : Option Timing) (steps : List Step) :
    let dispatcher : Dispatcher x := run step (start timing) steps
    let engine := dispatcher.engine
    ((engine.phase = .idle ↔ engine.payload = none) ∧
      (engine.phase = .idle ↔ engine.deadline = none)) ∧
    (engine.phase ≠ .idle → ∃ timing, engine.timing = some timing ∧ 0 < timing.rate) ∧
    (engine.phase ≠ .idle → ∃ payload event, engine.payload = some payload ∧
      payload.action = .press ∧ payload.autoRepeat = true ∧
      LatestPress (start timing : Dispatcher x) steps event ∧
      payload = { event with autoRepeat := true }) ∧
    (∀ payload code, engine.payload = some payload → dispatcher.repeatingCode = some code →
      payload.code = code) ∧
    (∀ taken, engine.phase ≠ .idle →
      (step dispatcher taken).engine.phase = .idle ∨
        (step dispatcher taken).engine.payload ≠ engine.payload →
      Interrupts dispatcher taken) ∧
    (∀ files record now code, AcceptsKey dispatcher record code .released →
      (∀ payload, engine.payload = some payload → payload.code ≠ code) →
      (step dispatcher (.dispatch files record now)).engine = engine) ∧
    ∀ files record now, ¬ Accepts dispatcher files record →
      (step dispatcher (.dispatch files record now)).engine = engine := by
  intro dispatcher engine
  have hsound : Sound dispatcher := sound_run timing steps
  refine ⟨⟨hsound.engine.payload_iff, hsound.engine.deadline_iff⟩, ?_, ?_, hsound.code_eq, ?_, ?_,
    ?_⟩
  · intro hactive
    obtain ⟨current, hcurrent⟩ := Option.ne_none_iff_exists'.mp (hsound.engine.timed hactive)
    exact ⟨current, hcurrent, hsound.engine.rate_pos current hcurrent⟩
  · intro hactive
    obtain ⟨payload, hpayload⟩ := Option.ne_none_iff_exists'.mp
      fun hnone => hactive (hsound.engine.payload_iff.mpr hnone)
    obtain ⟨event, hlatest, haction, rfl⟩ := latestPress_of_payload timing steps hpayload
    exact ⟨_, event, hpayload, haction, rfl, hlatest, rfl⟩
  · intro taken hactive hended
    refine Classical.byContradiction fun hquiet => ?_
    obtain ⟨hstays, hsame⟩ := step_of_not_interrupts hsound hactive hquiet
    rcases hended with hidle | hchanged
    · exact hstays hidle
    · exact hchanged hsame
  · intro files record now code hrelease hother
    exact engine_of_other_release hsound hrelease hother files now
  · intro files record now hrejected
    simp only [step, dispatch_of_not_accepts hrejected]
    rfl

end LockScreen.Proofs.RepeatInvariant
