import LockScreen.Proofs.RepeatInvariant
import LockScreen.Keyboard.Table

/-!
When a key goes on repeating after its release. The code noted beside the engine is what a release
is compared with; setting the timing forgets that note but not the payload, and from then on no
release of the key ends its repeat. That is the only way in which a key gets stuck.
-/

namespace LockScreen.Proofs.RepeatAfterRelease

open LockScreen.Repeat LockScreen.Wire LockScreen.Keyboard
open LockScreen.Proofs.Runs LockScreen.Proofs.DispatcherRuns LockScreen.Proofs.RecordAcceptance
open LockScreen.Proofs.RepeatInvariant

variable {x : Xkb}

def QueuesRepeat (dispatcher : Dispatcher x) (now : Instant) (code : UInt32) : Prop :=
  ∃ event : KeyEvent, event.code = code ∧
    (step dispatcher (.tick now)).queue = dispatcher.queue ++ [.key event]

/-- No tick queues a repeat of a key until it is pressed again. -/
def SilentUntilPress (dispatcher : Dispatcher x) (code : UInt32) : Prop :=
  ∀ later now,
    Throughout step (fun d taken => ¬ Takes d code .pressed taken) dispatcher later →
    ¬ QueuesRepeat (run step dispatcher later) now code

structure Arms (dispatcher : Dispatcher x) (code : UInt32) (taken : Step) : Prop where
  press : Takes dispatcher code .pressed taken
  marked : dispatcher.keyboard.repeats code = true
  timed : dispatcher.engine.timing ≠ none

/-- The timing was set while a key was repeated: after a press that armed it and before any release
of it, and nothing displaced the repeat since. -/
def Retimed (dispatcher : Dispatcher x) (steps : List Step) (code : UInt32) : Prop :=
  ∃ before press first retime second,
    steps = before ++ press :: (first ++ retime :: second) ∧
      Arms (run step dispatcher before) code press ∧
      Throughout step (fun d taken => ¬ Displaces d taken ∧ ¬ Takes d code .released taken)
        (run step dispatcher (before ++ [press])) first ∧
      Retimes retime ∧
      Throughout step (fun d taken => ¬ Displaces d taken)
        (run step dispatcher (before ++ press :: (first ++ [retime]))) second

theorem tick_eq_some_iff {α : Type} {engine : Engine α} (h : Consistent engine) (now : Instant)
    (payload : α) :
    (engine.tick now).1 = some payload ↔
      engine.payload = some payload ∧
        ∃ deadline, engine.deadline = some deadline ∧ deadline ≤ now := by
  unfold Engine.tick
  split
  · rename_i deadline timing hdeadline htiming
    split
    · rename_i hahead
      simp only [hdeadline, Option.some.injEq, exists_eq_left', reduceCtorEq, false_iff]
      exact fun hdue => Int.not_le.mpr hahead hdue.2
    · rename_i hdue
      cases hpayload : engine.payload with
      | none => simp
      | some held => simpa [hdeadline] using fun _ => Int.not_lt.mp hdue
  · rename_i huntimed
    simp only [reduceCtorEq, false_iff]
    rintro ⟨hpayload, deadline, hdeadline, -⟩
    have hactive : engine.phase ≠ .idle := by
      rw [Ne, h.payload_iff, hpayload]
      simp
    obtain ⟨timing, htiming⟩ := Option.ne_none_iff_exists'.mp (h.timed hactive)
    exact huntimed deadline timing hdeadline htiming

theorem queuesRepeat_iff {dispatcher : Dispatcher x} (hsound : Sound dispatcher) (now : Instant)
    (code : UInt32) :
    QueuesRepeat dispatcher now code ↔
      Holds dispatcher code ∧ ∃ deadline, dispatcher.engine.deadline = some deadline ∧
        deadline ≤ now := by
  have hqueued : QueuesRepeat dispatcher now code ↔
      ∃ event, (dispatcher.engine.tick now).1 = some event ∧ event.code = code := by
    simp only [QueuesRepeat, step, Dispatcher.tick]
    split
    · rename_i engine htick
      simp [htick]
    · rename_i event engine htick
      simp [htick, Dispatcher.push, and_comm]
  simp only [hqueued, tick_eq_some_iff hsound.engine, Holds]
  constructor
  · rintro ⟨event, ⟨hpayload, hdue⟩, hcode⟩
    exact ⟨⟨event, hpayload, hcode⟩, hdue⟩
  · rintro ⟨⟨event, hpayload, hcode⟩, hdue⟩
    exact ⟨event, ⟨hpayload, hdue⟩, hcode⟩

theorem payload_of_release {dispatcher : Dispatcher x} {code : UInt32} {taken : Step}
    (h : Takes dispatcher code .released taken) (hcode : dispatcher.repeatingCode = some code) :
    (step dispatcher taken).engine.payload = none := by
  cases h with
  | @key files record now haccepts =>
      obtain ⟨event, keyboard, effects, happly, heq⟩ := dispatch_of_acceptsKey haccepts files now
      obtain ⟨rfl, -⟩ := event_of_applyKey happly
      simp only [step, heq, Dispatcher.followKey, hcode, if_true]
      rfl

def Attached (dispatcher : Dispatcher x) (code : UInt32) : Prop :=
  Holds dispatcher code ∧ dispatcher.repeatingCode = some code

def Detached (dispatcher : Dispatcher x) (code : UInt32) : Prop :=
  Holds dispatcher code ∧ dispatcher.repeatingCode ≠ some code

theorem step_of_press {dispatcher : Dispatcher x} {record : Record} {code : UInt32}
    (hpress : AcceptsKey dispatcher record code .pressed)
    (hmarked : dispatcher.keyboard.repeats code = true) (files : Nat → SharedFile)
    (now : Instant) :
    ∃ event : KeyEvent, event.code = code ∧
      (step dispatcher (.dispatch files record now)).engine =
        dispatcher.engine.set { event with autoRepeat := true } now ∧
      (step dispatcher (.dispatch files record now)).repeatingCode = some code := by
  obtain ⟨event, keyboard, effects, happly, heq⟩ := dispatch_of_acceptsKey hpress files now
  obtain ⟨rfl, -, -, hrepeats⟩ := event_of_applyKey happly
  refine ⟨event, rfl, ?_⟩
  simp only [step, heq, Dispatcher.followKey, hrepeats, hmarked, if_true]
  exact ⟨rfl, rfl⟩

theorem Arms.attached {dispatcher : Dispatcher x} (hsound : Sound dispatcher) {code : UInt32}
    {taken : Step} (h : Arms dispatcher code taken) : Attached (step dispatcher taken) code := by
  cases h.press with
  | @key files record now hpress =>
      obtain ⟨event, hcode, hengine, hnoted⟩ := step_of_press hpress h.marked files now
      refine ⟨⟨{ event with autoRepeat := true }, ?_, hcode⟩, hnoted⟩
      rw [hengine, hsound.engine.payload_set, if_pos (Option.isSome_iff_ne_none.mpr h.timed)]

theorem step_of_displaces {dispatcher : Dispatcher x} (hsound : Sound dispatcher) {taken : Step}
    (h : Displaces dispatcher taken) :
    (step dispatcher taken).engine.payload = none ∨ ∃ code, Arms dispatcher code taken := by
  cases h with
  | keymap hloads =>
      refine Or.inl ?_
      simp only [step, dispatch_of_loads hloads, payload_reset]
  | disable hkind hrate =>
      refine Or.inl ?_
      simp only [step, Dispatcher.dispatch, Dispatcher.apply, hkind, payload_configure, hrate,
        if_true]
  | press hpress =>
      obtain ⟨haccepts, hmarked⟩ := hpress
      by_cases htimed : dispatcher.engine.timing = none
      · obtain ⟨event, -, hengine, -⟩ := step_of_press haccepts hmarked _ _
        refine Or.inl ?_
        rw [hengine, hsound.engine.payload_set, htimed]
        rfl
      · exact Or.inr ⟨_, .key haccepts, hmarked, htimed⟩

theorem attached_history {origin : Dispatcher x} (hsound : Sound origin)
    (hempty : origin.engine.payload = none) (steps : List Step) {code : UInt32}
    (h : Attached (run step origin steps) code) :
    ∃ before press first, steps = before ++ press :: first ∧
      Arms (run step origin before) code press ∧
      Throughout step (fun d taken => ¬ Displaces d taken ∧ ¬ Takes d code .released taken)
        (run step origin (before ++ [press])) first := by
  induction steps using List.reverseRecOn with
  | nil => exact absurd h.1 (not_holds_of_payload hempty code)
  | append_singleton steps taken ih =>
      have hsteps : Sound (run step origin steps) := invariant_run sound_step hsound steps
      rw [run_append, run_cons, run_nil] at h
      by_cases hdisplaces : Displaces (run step origin steps) taken
      · rcases step_of_displaces hsteps hdisplaces with hnone | ⟨other, harms⟩
        · exact absurd h.1 (not_holds_of_payload hnone code)
        · rw [(harms.attached hsteps).1.unique h.1] at harms
          exact ⟨steps, taken, [], rfl, harms, True.intro⟩
      · rcases step_of_not_displaces hsteps hdisplaces with ⟨hsame, hkept | ⟨hnone, -⟩⟩ | ⟨hnone, -⟩
        · have hbefore : Attached (run step origin steps) code :=
            ⟨h.1.of_payload_eq hsame, hkept.symm.trans h.2⟩
          have hunreleased : ¬ Takes (run step origin steps) code .released taken := fun hrelease =>
            not_holds_of_payload (payload_of_release hrelease hbefore.2) code h.1
          obtain ⟨before, press, first, rfl, harms, hfirst⟩ := ih hbefore
          refine ⟨before, press, first ++ [taken], by simp, harms, ?_⟩
          refine (throughout_append _ _ _).mpr ⟨hfirst, ⟨?_, ?_⟩, True.intro⟩
          · simpa using hdisplaces
          · simpa using hunreleased
        · exact absurd (hnone.symm.trans h.2) (by simp)
        · exact absurd h.1 (not_holds_of_payload hnone code)

theorem detached_of_step {dispatcher : Dispatcher x} (hsound : Sound dispatcher) {code : UInt32}
    {taken : Step} (h : Detached (step dispatcher taken) code) :
    ¬ Displaces dispatcher taken ∧
      (Detached dispatcher code ∨ Attached dispatcher code ∧ Retimes taken) := by
  have hquiet : ¬ Displaces dispatcher taken := by
    intro hdisplaces
    rcases step_of_displaces hsound hdisplaces with hnone | ⟨other, harms⟩
    · exact not_holds_of_payload hnone code h.1
    · have hattached := harms.attached hsound
      rw [hattached.1.unique h.1] at hattached
      exact h.2 hattached.2
  refine ⟨hquiet, ?_⟩
  rcases step_of_not_displaces hsound hquiet with ⟨hsame, hkept | ⟨-, hretimes⟩⟩ | ⟨hnone, -⟩
  · exact Or.inl ⟨h.1.of_payload_eq hsame, hkept ▸ h.2⟩
  · by_cases hcode : dispatcher.repeatingCode = some code
    · exact Or.inr ⟨⟨h.1.of_payload_eq hsame, hcode⟩, hretimes⟩
    · exact Or.inl ⟨h.1.of_payload_eq hsame, hcode⟩
  · exact absurd h.1 (not_holds_of_payload hnone code)

theorem retimed_of_detached {origin : Dispatcher x} (hsound : Sound origin)
    (hempty : origin.engine.payload = none) (steps : List Step) {code : UInt32}
    (h : Detached (run step origin steps) code) : Retimed origin steps code := by
  induction steps using List.reverseRecOn with
  | nil => exact absurd h.1 (not_holds_of_payload hempty code)
  | append_singleton steps taken ih =>
      have hsteps : Sound (run step origin steps) := invariant_run sound_step hsound steps
      rw [run_append, run_cons, run_nil] at h
      obtain ⟨hquiet, hbefore | ⟨hbefore, hretimes⟩⟩ := detached_of_step hsteps h
      · obtain ⟨before, press, first, retime, second, rfl, harms, hfirst, hretime, hsecond⟩ :=
          ih hbefore
        refine ⟨before, press, first, retime, second ++ [taken], by simp, harms, hfirst, hretime,
          (throughout_append _ _ _).mpr ⟨hsecond, ?_, True.intro⟩⟩
        simpa using hquiet
      · obtain ⟨before, press, first, rfl, harms, hfirst⟩ :=
          attached_history hsound hempty steps hbefore
        exact ⟨before, press, first, taken, [], by simp, harms, hfirst, hretimes, True.intro⟩

theorem holds_step {dispatcher : Dispatcher x} {code : UInt32} {taken : Step}
    (h : Sound dispatcher ∧ Holds dispatcher code)
    (hquiet : ¬ Displaces dispatcher taken ∧ ¬ Takes dispatcher code .released taken) :
    Sound (step dispatcher taken) ∧ Holds (step dispatcher taken) code := by
  obtain ⟨hsound, payload, hpayload, rfl⟩ := h
  refine ⟨sound_step dispatcher taken hsound, payload, ?_, rfl⟩
  rcases step_of_not_displaces hsound hquiet.1 with ⟨hsame, -⟩ | ⟨-, other, hnoted, hrelease⟩
  · exact hsame.trans hpayload
  · rw [hsound.code_eq payload other hpayload hnoted] at hquiet
    exact absurd hrelease hquiet.2

theorem detached_step {dispatcher : Dispatcher x} {code : UInt32} {taken : Step}
    (h : Sound dispatcher ∧ Detached dispatcher code) (hquiet : ¬ Displaces dispatcher taken) :
    Sound (step dispatcher taken) ∧ Detached (step dispatcher taken) code := by
  obtain ⟨hsound, ⟨payload, hpayload, rfl⟩, hcode⟩ := h
  refine ⟨sound_step dispatcher taken hsound, ?_⟩
  rcases step_of_not_displaces hsound hquiet with
    ⟨hsame, hkept | ⟨hnone, -⟩⟩ | ⟨-, other, hnoted, -⟩
  · exact ⟨⟨payload, hsame.trans hpayload, rfl⟩, hkept ▸ hcode⟩
  · exact ⟨⟨payload, hsame.trans hpayload, rfl⟩, by rw [hnone]; simp⟩
  · rw [hsound.code_eq payload other hpayload hnoted] at hcode
    exact absurd hnoted hcode

theorem repeatingCode_of_retimes {taken : Step} (h : Retimes taken) (dispatcher : Dispatcher x) :
    (step dispatcher taken).repeatingCode = none := by
  obtain ⟨hkind, -⟩ := h
  simp only [step, Dispatcher.dispatch, Dispatcher.apply, hkind]

theorem payload_of_retimes {taken : Step} (h : Retimes taken) (dispatcher : Dispatcher x) :
    (step dispatcher taken).engine.payload = dispatcher.engine.payload := by
  obtain ⟨hkind, hrate⟩ := h
  simp only [step, Dispatcher.dispatch, Dispatcher.apply, hkind, payload_configure,
    if_neg (Int.not_le.mpr hrate)]

theorem detached_of_retimed {origin : Dispatcher x} (hsound : Sound origin) {steps : List Step}
    {code : UInt32} (h : Retimed origin steps code) : Detached (run step origin steps) code := by
  obtain ⟨before, press, first, retime, second, rfl, harms, hfirst, hretime, hsecond⟩ := h
  have hbefore : Sound (run step origin before) := invariant_run sound_step hsound before
  have hpressed : Sound (run step origin (before ++ [press])) ∧
      Holds (run step origin (before ++ [press])) code := by
    rw [run_append, run_cons, run_nil]
    exact ⟨sound_step _ press hbefore, (harms.attached hbefore).1⟩
  obtain ⟨hheld, payload, hpayload, hcode⟩ :=
    run_keeps (I := fun d => Sound d ∧ Holds d code) (fun _ _ => holds_step) hpressed hfirst
  have hretimed : Sound (run step origin (before ++ press :: (first ++ [retime]))) ∧
      Detached (run step origin (before ++ press :: (first ++ [retime]))) code := by
    have hsplit : run step origin (before ++ press :: (first ++ [retime])) =
        step (run step (run step origin (before ++ [press])) first) retime := by simp
    rw [hsplit]
    refine ⟨sound_step _ retime hheld, ⟨payload, ?_, hcode⟩, ?_⟩
    · rw [payload_of_retimes hretime, hpayload]
    · rw [repeatingCode_of_retimes hretime]
      simp
  have hsplit : run step origin (before ++ press :: (first ++ retime :: second)) =
      run step (run step origin (before ++ press :: (first ++ [retime]))) second := by simp
  rw [hsplit]
  exact (run_keeps (I := fun d => Sound d ∧ Detached d code) (fun _ _ => detached_step) hretimed
    hsecond).2

theorem detached_iff_retimed {origin : Dispatcher x} (hsound : Sound origin)
    (hempty : origin.engine.payload = none) (steps : List Step) (code : UInt32) :
    Detached (run step origin steps) code ↔ Retimed origin steps code :=
  ⟨retimed_of_detached hsound hempty steps, detached_of_retimed hsound⟩

theorem holds_of_release_iff {dispatcher : Dispatcher x} (hsound : Sound dispatcher)
    {record : Record} {code : UInt32} (h : AcceptsKey dispatcher record code .released)
    (files : Nat → SharedFile) (now : Instant) :
    Holds (step dispatcher (.dispatch files record now)) code ↔ Detached dispatcher code := by
  have hquiet : ¬ Displaces dispatcher (.dispatch files record now) := by
    intro hdisplaces
    cases hdisplaces with
    | press hpress =>
        obtain ⟨haccepts, -⟩ := hpress
        exact absurd (h.unique haccepts).2 (by decide)
    | keymap hloads =>
        obtain ⟨text, hoffer, -⟩ := hloads
        exact absurd (h.kind_eq.symm.trans hoffer.kind_eq) (by decide)
    | disable hkind _ => exact absurd (h.kind_eq.symm.trans hkind) (by decide)
  constructor
  · intro hholds
    have hcode : dispatcher.repeatingCode ≠ some code := fun hcode =>
      not_holds_of_payload (payload_of_release (.key h) hcode) code hholds
    rcases step_of_not_displaces hsound hquiet with ⟨hsame, -⟩ | ⟨hnone, -⟩
    · exact ⟨hholds.of_payload_eq hsame, hcode⟩
    · exact absurd hholds (not_holds_of_payload hnone code)
  · intro hdetached
    exact (detached_step ⟨hsound, hdetached⟩ hquiet).2.1

theorem not_holds_step {dispatcher : Dispatcher x} {code : UInt32} {taken : Step}
    (h : Sound dispatcher ∧ ¬ Holds dispatcher code)
    (hunpressed : ¬ Takes dispatcher code .pressed taken) :
    Sound (step dispatcher taken) ∧ ¬ Holds (step dispatcher taken) code := by
  obtain ⟨hsound, hempty⟩ := h
  refine ⟨sound_step dispatcher taken hsound, fun hholds => ?_⟩
  by_cases hdisplaces : Displaces dispatcher taken
  · rcases step_of_displaces hsound hdisplaces with hnone | ⟨other, harms⟩
    · exact not_holds_of_payload hnone code hholds
    · have hother := (harms.attached hsound).1.unique hholds
      exact hunpressed (hother ▸ harms.press)
  · rcases step_of_not_displaces hsound hdisplaces with ⟨hsame, -⟩ | ⟨hnone, -⟩
    · exact hempty (hholds.of_payload_eq hsame)
    · exact not_holds_of_payload hnone code hholds

/-- A key is silent until its next press exactly if the engine does not hold it. -/
theorem silentUntilPress_iff {dispatcher : Dispatcher x} (hsound : Sound dispatcher)
    (code : UInt32) : SilentUntilPress dispatcher code ↔ ¬ Holds dispatcher code := by
  constructor
  · rintro hsilent ⟨payload, hpayload, hcode⟩
    have hactive : dispatcher.engine.phase ≠ .idle := by
      rw [Ne, hsound.engine.payload_iff, hpayload]
      simp
    obtain ⟨deadline, hdeadline⟩ := Option.ne_none_iff_exists'.mp
      fun hnone => hactive (hsound.engine.deadline_iff.mpr hnone)
    refine hsilent [] deadline True.intro ((queuesRepeat_iff hsound deadline code).mpr ?_)
    exact ⟨⟨payload, hpayload, hcode⟩, deadline, hdeadline, Int.le_refl deadline⟩
  · intro hempty later now hunpressed hqueues
    obtain ⟨hlater, hnone⟩ :=
      run_keeps (I := fun d => Sound d ∧ ¬ Holds d code) (fun _ _ => not_holds_step)
        ⟨hsound, hempty⟩ hunpressed
    exact hnone ((queuesRepeat_iff hlater now code).mp hqueues).1

/-- After an accepted release a key stays silent until it is pressed again, except if the timing was
set while the key was repeated: then it goes on repeating. -/
theorem silent_after_release_iff (timing : Option Timing) (steps : List Step)
    (files : Nat → SharedFile) (record : Record) (now : Instant) (code : UInt32)
    (h : AcceptsKey (run step (start timing : Dispatcher x) steps) record code .released) :
    SilentUntilPress (run step (start timing : Dispatcher x) (steps ++ [.dispatch files record now]))
        code ↔
      ¬ Retimed (start timing : Dispatcher x) steps code := by
  have hsound : Sound (run step (start timing : Dispatcher x) steps) := sound_run timing steps
  rw [run_append, run_cons, run_nil, silentUntilPress_iff (sound_step _ _ hsound),
    holds_of_release_iff hsound h, detached_iff_retimed (sound_start timing) (payload_start timing)]

def letterTable : Table := [(38, ⟨[(0x61, "a"), (0x41, "A")], true, 0, 0⟩)]

def letterFile (_ : Nat) : SharedFile := .memory (Text.Utf8.encode "keymap:0")

def retimedLetter : List Step :=
  [.dispatch letterFile ⟨.keyboardKeymap, 3, 8⟩ 0, .dispatch letterFile ⟨.keyboardKey, 30, 1⟩ 0,
    .dispatch letterFile ⟨.keyboardRepeatInfo, 40, 600⟩ 100000000]

theorem retimedLetter_accepts_release :
    AcceptsKey (run step (start (some ⟨30, 500⟩) : Dispatcher (.ofTables [letterTable])) retimedLetter)
      ⟨.keyboardKey, 30, 0⟩ 30 .released :=
  ⟨rfl, rfl, rfl, rfl, by decide⟩

theorem silent_after_release_letter :
    AcceptsKey (run step (start (some ⟨30, 500⟩) : Dispatcher (.ofTables [letterTable])) retimedLetter)
        ⟨.keyboardKey, 30, 0⟩ 30 .released ∧
      (SilentUntilPress (run step (start (some ⟨30, 500⟩) : Dispatcher (.ofTables [letterTable]))
          (retimedLetter ++ [.dispatch letterFile ⟨.keyboardKey, 30, 0⟩ 200000000])) 30 ↔
        ¬ Retimed (start (some ⟨30, 500⟩) : Dispatcher (.ofTables [letterTable])) retimedLetter
          30) :=
  ⟨retimedLetter_accepts_release,
    silent_after_release_iff _ _ letterFile _ 200000000 _ retimedLetter_accepts_release⟩

/-- The letter repeats at five seconds, long after its release. -/
theorem repeat_outlives_release :
    ¬ ∀ (x : Xkb) (timing : Option Timing) (steps : List Step) (files : Nat → SharedFile)
      (record : Record) (now : Instant) (code : UInt32),
      AcceptsKey (run step (start timing : Dispatcher x) steps) record code .released →
      SilentUntilPress
        (run step (start timing : Dispatcher x) (steps ++ [.dispatch files record now])) code := by
  intro hsilent
  refine hsilent (.ofTables [letterTable]) (some ⟨30, 500⟩) retimedLetter letterFile
    ⟨.keyboardKey, 30, 0⟩ 200000000 30 retimedLetter_accepts_release [] 5000000000 True.intro ?_
  exact ⟨_, rfl, rfl⟩

end LockScreen.Proofs.RepeatAfterRelease
