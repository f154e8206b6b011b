import LockScreen.Proofs.HandleProgress

namespace LockScreen.Proofs.HandleLifecycle

open LockScreen.Proofs.HandleProgress
open LockScreen.Proofs.HandleRuns
open LockScreen.Proofs.HandleStates
open LockScreen.Proofs.Runs
open LockScreen.Render

section Outcomes

variable {life : Life} {told : Except String Unit}

theorem publish_outcome {signal : Signal (Except String Unit)} (h : signal.outcome = some told)
    (later : Except String Unit) : (signal.publish later).outcome = some told := by
  unfold Signal.publish
  rw [h]
  exact h

theorem proceed_outcome (h : life.outcome.outcome = some told) :
    life.proceed.2.1.outcome.outcome = some told := by
  have hlook : (life.outcome.look Life.controlWaiter).2.outcome = some told :=
    (look_spec life.outcome Life.controlWaiter).2.1.trans h
  cases hcontrol : life.control with
  | awaiting =>
      simp only [Life.proceed, hcontrol]
      split
      · exact h
      split
      · next hfound =>
          rw [hfound] at hlook
          exact hlook
      · next hfound =>
          rw [hfound] at hlook
          exact hlook
      · next hfound =>
          rw [hfound] at hlook
          exact hlook
  | burying | joining =>
      simp only [Life.proceed, hcontrol]
      split
      · exact h
      · exact h
  | idle | spawning | adopting | requesting | interring | raising | releasing | sealing =>
      simp only [Life.proceed, hcontrol]
      exact h

theorem turn_outcome (setup : Setup) (deed : Deed) (h : life.outcome.outcome = some told) :
    (turn setup life deed).outcome.outcome = some told := by
  obtain ⟨startable, phase, stopRequested, load, render, provider, signal, thread, control, owned⟩ := life
  cases thread with
  | unborn | ended => exact h
  | building =>
      cases setup with
      | built | failed | crashed => exact h
  | settling fault =>
      cases fault with
      | none | some => exact h
  | announcing fault =>
      cases fault with
      | none | some => exact publish_outcome h _
  | leaving => exact publish_outcome h _
  | serving =>
      cases deed with
      | check =>
          cases stopRequested with
          | false | true => exact h
      | takeLoad | takeRender | crash => exact h

theorem step_outcome {handle : Handle} (h : handle.life.outcome.outcome = some told) (move : Move) :
    (step handle move).life.outcome.outcome = some told := by
  have hhalt : handle.life.halt.outcome.outcome = some told := by
    unfold Life.halt
    split
    · exact h
    · exact h
  cases move with
  | rouse => exact h
  | thread deed => exact turn_outcome handle.setup deed h
  | call call =>
      simp only [step]
      split
      · cases call with
        | provide | ask => exact h
        | close again => exact hhalt
        | start setup =>
            simp only [Handle.call, Life.spawn]
            split
            · next hspawn =>
                split at hspawn
                · cases hspawn
                  exact h
                · cases hspawn
            · next hspawn =>
                split at hspawn
                · cases hspawn
                · cases hspawn
                  exact h
      · exact h
  | control =>
      have hproceed := proceed_outcome h
      simp only [step, Handle.proceed]
      split
      · exact h
      · exact h
      · split
        · next hstep =>
            rw [hstep] at hproceed
            exact hproceed
        · next hstep =>
            rw [hstep] at hproceed
            exact hproceed
      · split
        · exact hhalt
        · exact h
        · exact hproceed

theorem run_outcome {handle : Handle} (h : handle.life.outcome.outcome = some told)
    (moves : List Move) : (run step handle moves).life.outcome.outcome = some told :=
  invariant_run (I := fun handle : Handle => handle.life.outcome.outcome = some told)
    (fun _ move h => step_outcome h move) h moves

end Outcomes

theorem answers_eq_ok_iff (setups : List Setup) (number : Nat) :
    (answers setups)[number]? = some (.ok ()) ↔ number = 0 ∧ setups.head? = some .built := by
  cases setups with
  | nil => simp [answers]
  | cons first later =>
      cases number with
      | zero =>
          cases first with
          | built => simp [answers, answer, word]
          | failed | crashed => simp [answers, answer, word]
      | succ number =>
          constructor
          · intro hok
            rw [answers, List.getElem?_cons_succ] at hok
            obtain ⟨setup, -, hrefused⟩ := List.mem_map.mp (List.mem_of_getElem? hok)
            cases hrefused
          · rintro ⟨hzero, -⟩
            exact absurd hzero (Nat.succ_ne_zero number)

section States

variable {handle : Handle}

theorem results_starting (h : Sound handle) (hstarting : handle.errand = .starting) :
    handle.results = [] ∧ ∃ setup, handle.setups = [setup] := by
  cases h with
  | untouched | started | closing | gone => cases hstarting
  | starting => exact ⟨rfl, _, rfl⟩

theorem results_eq (h : Sound handle) (hstarted : handle.errand ≠ .starting) :
    handle.results = answers handle.setups := by
  cases h with
  | starting => exact absurd rfl hstarted
  | untouched | started | closing | gone => rfl

theorem later_start (h : Sound handle) (setup : Setup) (hfree : handle.errand = .free)
    (hsetups : handle.setups ≠ []) :
    step handle (.call (.start setup)) =
      { handle with
        setups := handle.setups ++ [setup]
        results := handle.results ++ [.error (.ofMessage "Render loop already started")] } := by
  cases h with
  | untouched => exact absurd rfl hsetups
  | starting | closing | gone => cases hfree
  | @started life first later h =>
      refine (h.start setup).trans ?_
      simp only [answers, List.map_append, List.map_cons, List.map_nil, List.cons_append]

theorem phase_free (h : Sound handle) {first : Setup} {later : List Setup}
    (hfree : handle.errand = .free) (hsetups : handle.setups = first :: later) :
    handle.life.phase = if first = .built then .running else .stopped := by
  cases h with
  | untouched => cases hsetups
  | starting | closing | gone => cases hfree
  | started h =>
      cases hsetups
      by_cases hbuilt : first = .built
      · rw [if_pos hbuilt]
        exact (h.kept hbuilt).2
      · rw [if_neg hbuilt]
        exact (h.lost hbuilt).2.1

theorem rank_le_run (h : Sound handle) (moves : List Move) :
    handle.life.phase.rank ≤ (run step handle moves).life.phase.rank := by
  induction moves generalizing handle with
  | nil => exact Nat.le_refl _
  | cons move rest ih =>
      obtain ⟨hsound, hrank⟩ := advances_step h move
      exact Nat.le_trans hrank (ih hsound)

theorem closed_gone (h : Sound handle) (hgone : handle.errand = .gone) : Closed handle.life := by
  cases h with
  | untouched | starting | started | closing => cases hgone
  | gone h => exact h

end States

/-- Whatever is called on a handle and whichever thread takes its turn: starts return what they are
to return, only the first of them does anything, the phase never goes backwards, an outcome of the
setup stays, a start that fails leaves the handle stopped, a handle that is gone is stopped with its
thread and has let go of its provider, and each call comes to its end. -/
theorem handle_lifecycle (moves : List Move) :
    let handle := run step .new moves
    (handle.errand = .starting → handle.results = [] ∧ ∃ setup, handle.setups = [setup]) ∧
      (handle.errand ≠ .starting →
        handle.results = answers handle.setups ∧
          ∀ number, handle.results[number]? = some (.ok ()) ↔
            number = 0 ∧ handle.setups.head? = some .built) ∧
      (∀ setup, handle.errand = .free → handle.setups ≠ [] →
        step handle (.call (.start setup)) =
          { handle with
            setups := handle.setups ++ [setup]
            results := handle.results ++ [.error (.ofMessage "Render loop already started")] }) ∧
      (∀ later, handle.life.phase.rank ≤ (run step handle later).life.phase.rank) ∧
      (∀ later told, handle.life.outcome.outcome = some told →
        (run step handle later).life.outcome.outcome = some told) ∧
      (∀ first later, handle.errand = .free → handle.setups = first :: later →
        handle.life.phase = if first = .built then .running else .stopped) ∧
      (handle.errand = .gone →
        handle.life.phase = .stopped ∧ handle.life.provider = none ∧ Still handle.life.thread) ∧
      ∀ rounds : List (List Move), (∀ round ∈ rounds, Fair round) → 17 < rounds.length →
        ∃ turns, turns <+: rounds.flatten ∧ busy (run step handle turns) = false := by
  intro handle
  have hsound : Sound handle := sound_run sound_new moves
  refine ⟨results_starting hsound, ?_, later_start hsound, ?_, ?_, ?_, ?_, ?_⟩
  · intro hstarted
    have hresults := results_eq hsound hstarted
    refine ⟨hresults, fun number => ?_⟩
    rw [hresults]
    exact answers_eq_ok_iff handle.setups number
  · exact rank_le_run hsound
  · exact fun later told htold => run_outcome htold later
  · exact fun first later => phase_free hsound
  · intro hgone
    obtain ⟨hstill, hphase, hprovider⟩ := closed_gone hsound hgone
    exact ⟨hphase, hprovider, hstill⟩
  · exact fun rounds => call_ends hsound

end LockScreen.Proofs.HandleLifecycle
