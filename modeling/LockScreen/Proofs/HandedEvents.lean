import LockScreen.Proofs.InputRuns
import LockScreen.Proofs.QuietSteps
import LockScreen.Proofs.TargetRefinement

namespace LockScreen.Proofs.HandedEvents

open LockScreen.Render LockScreen.Repeat LockScreen.Wire
open LockScreen.Proofs.Runs LockScreen.Proofs.LoopSteps LockScreen.Proofs.TargetRefinement
open LockScreen.Proofs.LoopRuns (World Deed Place Entry Course advance)
open LockScreen.Proofs.InputRuns LockScreen.Proofs.QuietSteps

variable {x : Xkb} {σ τ : Type}

def notes (api : Target τ) : Target (τ × List SceneEvent) where
  load state :=
    let (result, target, lines) := api.load state.1
    (result, (target, state.2), lines)
  handle state outlet event :=
    let (changed, target, outlet, lines) := api.handle state.1 outlet event
    (changed, (target, state.2 ++ [event]), outlet, lines)
  draw state :=
    let (ending, target, lines) := api.draw state.1
    (ending, (target, state.2), lines)
  read state pixels :=
    let (ending, pixels, target, lines) := api.read state.1 pixels
    (ending, pixels, (target, state.2), lines)

section Image

variable {fine : Target σ} {coarse : Target τ} {view : σ → τ}

end Image

section Notes

variable {api : Target τ} {course : Course x (τ × List SceneEvent)}
  {intake : Intake x (τ × List SceneEvent)}

/-- What is written down is what the log tells to be handed over. -/
def Noted (course : Course x (τ × List SceneEvent)) : Prop :=
  course.machine.target.2 = delivered (happenings course.log)

theorem Noted.step (h : Noted course) (world : World) :
    Noted (LoopRuns.step (notes api) course (.thread world)) := by
  obtain ⟨machine, place, log⟩ := course
  have hnoted : machine.target.2 = delivered (happenings log) := h
  obtain ⟨after, place', entries, core, hstep, hcore, hadvances⟩ :=
    step_cases (notes api) world machine log place
  have hentries : delivered (happenings (log ++ entries)) =
      machine.target.2 ++ delivered (happenings core) := by
    rw [happenings_append, delivered_append, hnoted, delivered_of_essence hcore]
  rw [hstep, Noted, hentries]
  cases hadvances with
  | listens dispatcher listening input records =>
      rw [delivered_dispatched, List.append_nil]
  | delivers | deliveryCrashes => rfl
  | asks provider acquired memory target happenings lines hprovider hfill
  | askingCrashes provider memory target happenings lines hprovider hfill =>
      rcases (fillNext_target hfill).1 with rfl | ⟨pixels, rfl⟩
      · exact (List.append_nil _).symm
      · exact (List.append_nil _).symm
  | leaves | begins | loadsNot | loads | loadCrashes | ticks | delivered | takes | drawsNot | draws
  | drawsInVain | drawingCrashes | asksNobody | publishes | publishesNot | keeps | givesBack | ends
  | died | gone => exact (List.append_nil _).symm

theorem Noted.hear (h : Noted intake.course) (world : World) : Noted (intake.hear world).course := by
  rw [Noted, target_hear, log_hear, happenings_append, happenings_map, delivered_append,
    (hear_spec _ _ _ _).2, List.append_nil]
  exact h

theorem Noted.move (h : Noted intake.course) (move : Move) :
    Noted (InputRuns.step (notes api) intake move).course := by
  cases move with
  | thread world =>
      by_cases hplace : intake.course.place = .listening
      · simp only [InputRuns.step, Intake.advance, hplace]
        split
        · exact h.hear world
        · split
          · exact h
          · exact h.step world
      · simp only [InputRuns.step, advance_of_ne _ world hplace]
        exact h.step world
  | others favour =>
      have htarget := (untouched_act intake.course.machine favour.1).target
      simp only [Noted, InputRuns.step, LoopRuns.step, happenings_append, delivered_append, htarget]
      exact h.trans (List.append_nil _).symm
  | write bytes => exact h
  | hangUp => exact h

end Notes

end LockScreen.Proofs.HandedEvents
