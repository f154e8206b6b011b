import LockScreen.Proofs.HandleRuns
import LockScreen.Proofs.LoopSteps

namespace LockScreen.Proofs.LifeTurns

open LockScreen.Proofs
open LockScreen.Proofs.HandleRuns
open LockScreen.Proofs.Runs
open LockScreen.Render

section Steps

variable {life : Life}

theorem look_eq_turns (hcontrol : life.control = .awaiting)
    (hwoken : life.outcome.asleep Life.controlWaiter = false) :
    life.look =
      match life.outcome.outcome with
      | some (.ok ()) => life.proceeds 3
      | _ => life.proceed := by
  rcases hsaid : life.outcome.outcome with _ | reason | ⟨⟩
  · simp [Life.look, Life.proceed, hcontrol, hwoken, Signal.look, hsaid]
  · simp [Life.look, Life.proceed, hcontrol, hwoken, Signal.look, hsaid]
  · simp [Life.look, Life.proceeds, Life.proceed, hcontrol, hwoken, Signal.look, hsaid]

theorem requestStop_eq_turns (life : Life) : life.requestStop = life.halt.proceed.2.1 := by
  cases howned : life.owned with
  | true => simp [Life.requestStop, Life.halt, Life.proceed, howned]
  | false => simp [Life.requestStop, Life.halt, Life.dissolve, Life.proceed, howned]

theorem join_eq_turns {crashed : Bool} (hcontrol : life.control = .joining)
    (hthread : life.thread = .ended crashed) : life.join = (life.proceeds 3).2 := by
  simp [Life.join, Life.dissolve, Life.proceeds, Life.proceed, hcontrol, hthread]

theorem finish_eq_turns (setup : Setup) (deed : Deed) (hserving : life.thread = .serving) :
    life.finish true = turn setup (turn setup life .crash) deed ∧
      (life.stopRequested = true → life.finish false = turn setup (turn setup life .check) deed) := by
  constructor
  · simp [Life.finish, turn, Deed.act, Life.work, hserving]
  · intro hstop
    simp [Life.finish, turn, Deed.act, Life.work, hserving, hstop]

/-- A whole start is one of the runs of a handle. -/
theorem start_eq_run (setup : Setup) (hstartable : life.startable = true)
    (hstop : life.stopRequested = false) (hunsaid : life.outcome = .new) :
    let start := life.start setup
    let moves : List Move := .call (.start setup) :: .control :: (List.replicate 4 (.thread .check) ++
      List.replicate 3 .control)
    run step ⟨life, .free, [], []⟩ moves = ⟨start.2.1, .free, [setup], [start.1]⟩ := by
  cases setup with
  | built | failed | crashed =>
      simp [run, step, Handle.call, Handle.proceed, Handle.setup, turn, Deed.act, Life.start,
        Life.spawn, Life.works, Life.work, Life.proceeds, Life.proceed, hstartable, hstop, hunsaid, Signal.new,
        Signal.publish, Signal.look, Signal.asleep, List.replicate]

end Steps

section Loop

open LoopRuns LoopSteps

variable {x : Xkb} {τ : Type} {machine : Machine x τ} {setup : Setup}

def Turned (setup : Setup) (before after : Life) : Prop :=
  ∃ deeds : List HandleRuns.Deed, after = run (turn setup) before deeds

theorem Turned.refl (life : Life) : Turned setup life life :=
  ⟨[], rfl⟩

theorem turned_act (deed : HandleRuns.Deed) {life : Life} (hserving : life.thread = .serving) :
    Turned setup life (deed.act life) :=
  ⟨[deed], by simp only [run_cons, run_nil, turn, hserving]⟩

theorem Turned.die {before : Life} (h : Turned setup before machine.life)
    (hserving : machine.life.thread = .serving) :
    Turned setup before (machine.die true).1.life := by
  obtain ⟨deeds, hdeeds⟩ := h
  refine ⟨deeds ++ [.crash, .check], ?_⟩
  rw [run_append, ← hdeeds]
  exact (finish_eq_turns setup .check hserving).1

/-- Whatever a thread that serves does next in its loop, its life goes on by turns of it. -/
theorem turned_step (api : Target τ) (course : Course x τ) (world : World)
    (hserving : course.machine.life.thread = .serving) :
    Turned setup course.machine.life
      (LoopRuns.step api course (.thread world)).machine.life := by
  obtain ⟨machine, place, log⟩ := course
  obtain ⟨after, place', entries, core, hstep, -, hadvances⟩ := step_cases api world machine log place
  have hattempted : Turned setup machine.life (attempted api machine).life :=
    turned_act .takeLoad hserving
  rw [hstep]
  cases hadvances with
  | leaves hstop => exact ⟨[.check, .check], (finish_eq_turns setup .check hserving).2 hstop⟩
  | loads => exact hattempted
  | loadCrashes => exact hattempted.die hserving
  | takes => exact turned_act .takeRender hserving
  | deliveryCrashes | drawingCrashes | askingCrashes =>
      exact Turned.die (.refl machine.life) hserving
  | begins | loadsNot | listens | ticks | delivered | delivers | drawsNot | draws | drawsInVain
  | asksNobody | asks | publishes | publishesNot | keeps | givesBack | ends | died | gone =>
      exact .refl machine.life

end Loop

end LockScreen.Proofs.LifeTurns
