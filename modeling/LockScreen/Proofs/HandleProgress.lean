import LockScreen.Proofs.HandleStates

/-!
Every call on the handle of a render loop comes to its end, in any order of turns in which both
threads keep getting theirs: no turn leads away from the end, and one of the two threads can always
take a turn towards it.
-/

namespace LockScreen.Proofs.HandleProgress

open LockScreen.Proofs.HandleRuns
open LockScreen.Proofs.HandleStates
open LockScreen.Proofs.Runs
open LockScreen.Render

def busy (handle : Handle) : Bool :=
  match handle.errand with
  | .starting | .closing _ => true
  | .free | .gone => false

def threadDistance : Thread → Nat
  | .unborn => 6
  | .building => 5
  | .settling _ => 4
  | .announcing _ => 3
  | .serving => 2
  | .leaving _ => 1
  | .ended _ => 0

def controlDistance : Control → Nat
  | .spawning => 5
  | .awaiting => 4
  | .burying _ => 2
  | .adopting => 2
  | .interring _ => 1
  | .requesting => 1
  | .raising => 4
  | .joining => 3
  | .releasing => 2
  | .sealing => 1
  | .idle => 0

/-- The turns of the control thread that are left when it is idle again. A cleanup shuts
down twice. -/
def errandDistance : Errand → Nat
  | .closing true => 6
  | .closing false => 1
  | .free | .starting | .gone => 0

def distance (handle : Handle) : Nat :=
  errandDistance handle.errand + controlDistance handle.life.control +
    threadDistance handle.life.thread

theorem distance_le (handle : Handle) : distance handle ≤ 17 := by
  have herrand : errandDistance handle.errand ≤ 6 := by
    rcases handle.errand with _ | _ | (_ | _) | _ <;> decide
  have hcontrol : controlDistance handle.life.control ≤ 5 := by
    cases handle.life.control <;> simp [controlDistance]
  have hthread : threadDistance handle.life.thread ≤ 6 := by
    cases handle.life.thread <;> simp [threadDistance]
  unfold distance
  omega

def Waits (handle : Handle) : Prop :=
  match handle.life.control with
  | .awaiting => said handle.setup handle.life.thread = none
  | .burying _ | .joining => ¬ Over handle.life.thread
  | _ => False

structure Alike (before after : Handle) : Prop where
  errand : after.errand = before.errand
  setups : after.setups = before.setups
  control : after.life.control = before.life.control
  thread : after.life.thread = before.life.thread

theorem Alike.refl (handle : Handle) : Alike handle handle :=
  ⟨rfl, rfl, rfl, rfl⟩

section Turns

variable {handle after : Handle}

theorem Alike.distance (h : Alike handle after) :
    HandleProgress.distance after = HandleProgress.distance handle := by
  unfold HandleProgress.distance
  rw [h.errand, h.control, h.thread]

theorem Alike.waits (h : Alike handle after) : Waits after ↔ Waits handle := by
  unfold Waits Handle.setup
  rw [h.setups, h.control, h.thread]

theorem Alike.busy (h : Alike handle after) :
    HandleProgress.busy after = HandleProgress.busy handle := by
  unfold HandleProgress.busy
  rw [h.errand]

theorem turn_distance (setup : Setup) (life : Life) (deed : Deed) :
    (turn setup life deed).thread = life.thread ∨
      threadDistance (turn setup life deed).thread < threadDistance life.thread := by
  obtain ⟨startable, phase, stopRequested, load, render, provider, signal, thread, control, owned⟩ := life
  cases thread with
  | unborn | ended => exact Or.inl rfl
  | building =>
      right
      cases setup with
      | built | failed | crashed => simp [turn, Life.work, threadDistance]
  | settling fault | announcing fault =>
      right
      cases fault with
      | none | some => simp [turn, Life.work, threadDistance]
  | serving =>
      cases deed with
      | check =>
          cases stopRequested with
          | false => exact Or.inl rfl
          | true => exact Or.inr Nat.one_lt_two
      | takeLoad | takeRender => exact Or.inl rfl
      | crash => exact Or.inr Nat.one_lt_two
  | leaving => exact Or.inr Nat.zero_lt_one

theorem proceed_unsaid {life : Life} (hcontrol : life.control = .awaiting)
    (hunsaid : life.outcome.outcome = none) :
    life.proceed.1 = none ∧ life.proceed.2.1.control = .awaiting ∧
      life.proceed.2.1.thread = life.thread := by
  simp only [Life.proceed, hcontrol]
  split
  · exact ⟨rfl, hcontrol, rfl⟩
  · simp only [Signal.look, hunsaid]
    trivial

theorem proceed_said {life : Life} (hcontrol : life.control = .awaiting)
    (hsaid : life.outcome.outcome ≠ none) (hawake : life.outcome.parked = []) :
    life.proceed.1 = none ∧ controlDistance life.proceed.2.1.control = 2 ∧
      life.proceed.2.1.thread = life.thread := by
  obtain ⟨told, htold⟩ := Option.ne_none_iff_exists'.mp hsaid
  have hwoken : life.outcome.asleep Life.controlWaiter = false := by
    rw [Signal.asleep, hawake]
    rfl
  cases told with
  | ok => simp [Life.proceed, hcontrol, hwoken, Signal.look, htold, controlDistance]
  | error reason => simp [Life.proceed, hcontrol, hwoken, Signal.look, htold, controlDistance]

theorem alike_proceed (h : Sound handle) (hwaits : Waits handle) : Alike handle handle.proceed := by
  cases h with
  | untouched | started | gone => exact ⟨rfl, rfl, rfl, rfl⟩
  | @starting life setup h =>
      have hunderway := h.underway
      generalize hcontrol : life.control = control at hunderway
      cases hunderway with
      | spawning | adopting | requesting | interring => simp only [Waits, hcontrol] at hwaits
      | awaiting hraised =>
          simp only [Waits, hcontrol] at hwaits
          have hunsaid : life.outcome.outcome = none := hraised.outcome.trans hwaits
          obtain ⟨hnone, hplace, hthread⟩ := proceed_unsaid hcontrol hunsaid
          rcases hproceed : life.proceed with ⟨result, after, lines⟩
          rw [hproceed] at hnone hplace hthread
          obtain rfl : result = none := hnone
          simp only [Handle.proceed, hproceed]
          exact ⟨rfl, rfl, hplace.trans hcontrol.symm, hthread⟩
      | burying =>
          simp only [Waits, hcontrol] at hwaits
          simp only [Handle.proceed, proceed_of_not_over hwaits (Or.inr ⟨_, hcontrol⟩)]
          exact ⟨rfl, rfl, rfl, rfl⟩
  | @closing life again setups h =>
      have hdissolving := h.dissolving
      generalize hcontrol : life.control = control at hdissolving
      cases hdissolving with
      | idle | raising | releasing | sealing => simp only [Waits, hcontrol] at hwaits
      | joining =>
          simp only [Waits, hcontrol] at hwaits
          simp only [Handle.proceed, hcontrol, proceed_of_not_over hwaits (Or.inl hcontrol)]
          exact ⟨rfl, rfl, rfl, rfl⟩

theorem distance_proceed_lt (h : Sound handle) (hbusy : busy handle = true) (hwaits : ¬ Waits handle) :
    distance handle.proceed < distance handle := by
  cases h with
  | untouched | started | gone => cases hbusy
  | @starting life setup h =>
      have hunderway := h.underway
      generalize hcontrol : life.control = control at hunderway
      cases hunderway with
      | spawning hunborn =>
          simp [Handle.proceed, Life.proceed, distance, hcontrol, hunborn, errandDistance,
            controlDistance, threadDistance]
      | adopting | requesting | interring =>
          simp [Handle.proceed, Life.proceed, distance, hcontrol, errandDistance, controlDistance]
      | awaiting hraised =>
          simp only [Waits, hcontrol] at hwaits
          have hsaid : life.outcome.outcome ≠ none := by
            rw [hraised.outcome]
            exact hwaits
          obtain ⟨hnone, hplace, hthread⟩ := proceed_said hcontrol hsaid (hraised.awake hsaid)
          rcases hproceed : life.proceed with ⟨result, after, lines⟩
          rw [hproceed] at hnone hplace hthread
          obtain rfl : result = none := hnone
          simp only at hplace hthread
          have hfour : controlDistance .awaiting = 4 := rfl
          simp only [Handle.proceed, hproceed, distance, hthread, hcontrol]
          omega
      | burying =>
          simp only [Waits, hcontrol] at hwaits
          obtain ⟨crashed, hthread⟩ := Classical.byContradiction hwaits
          simp [Handle.proceed, Life.proceed, distance, hcontrol, hthread, errandDistance,
            controlDistance]
  | @closing life again setups h =>
      obtain ⟨howned, hdissolving⟩ := h
      generalize hcontrol : life.control = control at hdissolving
      cases hdissolving with
      | idle =>
          cases again with
          | true =>
              simp [Handle.proceed, Life.halt, distance, howned, hcontrol, errandDistance,
                controlDistance]
          | false => simp [Handle.proceed, distance, hcontrol, errandDistance]
      | raising | releasing | sealing =>
          simp [Handle.proceed, Life.proceed, distance, hcontrol, controlDistance]
      | joining =>
          simp only [Waits, hcontrol] at hwaits
          obtain ⟨crashed, hthread⟩ := Classical.byContradiction hwaits
          simp [Handle.proceed, Life.proceed, distance, hcontrol, hthread, controlDistance]

theorem turn_lt (setup : Setup) {life : Life} (hborn : life.thread ≠ .unborn)
    (hunended : ¬ Over life.thread) (hstop : life.thread = .serving → life.stopRequested = true) :
    threadDistance (turn setup life .check).thread < threadDistance life.thread := by
  cases hthread : life.thread with
  | unborn => exact absurd hthread hborn
  | ended crashed => exact absurd ⟨crashed, hthread⟩ hunended
  | serving => simp [turn, Deed.act, hthread, hstop hthread, threadDistance]
  | building =>
      cases setup with
      | built | failed | crashed => simp [turn, Life.work, hthread, threadDistance]
  | settling fault | announcing fault =>
      cases fault with
      | none | some => simp [turn, Life.work, hthread, threadDistance]
  | leaving => simp [turn, Life.work, hthread, threadDistance]

theorem not_over_of_unsaid {setup : Setup} {thread : Thread} (h : said setup thread = none) :
    ¬ Over thread := by
  rintro ⟨crashed, rfl⟩
  cases h

theorem distance_turn_lt (h : Sound handle) (hbusy : busy handle = true) (hwaits : Waits handle) :
    distance (step handle (.thread .check)) < distance handle := by
  obtain ⟨-, hcontrol, -⟩ := turn_frame handle.setup handle.life .check
  have hturn : threadDistance (turn handle.setup handle.life .check).thread <
      threadDistance handle.life.thread := by
    cases h with
    | untouched | started | gone => cases hbusy
    | @starting life setup h =>
        have hunderway := h.underway
        generalize hplace : life.control = control at hunderway
        cases hunderway with
        | spawning | adopting | requesting | interring => simp only [Waits, hplace] at hwaits
        | awaiting hraised =>
            simp only [Waits, hplace] at hwaits
            refine turn_lt _ hraised.born (not_over_of_unsaid hwaits) fun hserving => ?_
            rw [hserving] at hwaits
            cases hwaits
        | burying hraised hpast hword =>
            simp only [Waits, hplace] at hwaits
            refine turn_lt _ hraised.born hwaits fun hserving => ?_
            have hreaches := hraised.reaches
            rw [hserving] at hreaches
            obtain rfl : setup = .built := hreaches
            cases hword
    | @closing life again setups h =>
        have hdissolving := h.dissolving
        generalize hplace : life.control = control at hdissolving
        cases hdissolving with
        | idle | raising | releasing | sealing => simp only [Waits, hplace] at hwaits
        | joining hpast hstop =>
            simp only [Waits, hplace] at hwaits
            refine turn_lt _ ?_ hwaits fun _ => hstop
            intro hunborn
            rw [hunborn] at hpast
            exact hpast
  unfold distance
  simp only [step, hcontrol]
  exact Nat.add_lt_add_left hturn _

/-- No move leads away from the end of a call. -/
theorem step_toward (h : Sound handle) (hbusy : busy handle = true) (move : Move) :
    Alike handle (step handle move) ∨ distance (step handle move) < distance handle := by
  cases move with
  | call call =>
      left
      simp only [step]
      split
      · next hfree =>
          rw [busy, hfree] at hbusy
          cases hbusy
      · exact .refl handle
  | rouse => exact Or.inl ⟨rfl, rfl, rfl, rfl⟩
  | control =>
      by_cases hwaits : Waits handle
      · exact Or.inl (alike_proceed h hwaits)
      · exact Or.inr (distance_proceed_lt h hbusy hwaits)
  | thread deed =>
      obtain ⟨-, hcontrol, -⟩ := turn_frame handle.setup handle.life deed
      rcases turn_distance handle.setup handle.life deed with hsame | hless
      · exact Or.inl ⟨rfl, rfl, hcontrol, hsame⟩
      · right
        unfold distance
        simp only [step, hcontrol]
        exact Nat.add_lt_add_left hless _

end Turns

section Rounds

variable {handle : Handle}

def finish (handle : Handle) (moves : List Move) : Handle :=
  run (fun handle move => if busy handle then step handle move else handle) handle moves

theorem finish_cons_of_busy (hbusy : busy handle = true) (move : Move) (rest : List Move) :
    finish handle (move :: rest) = finish (step handle move) rest := by
  simp only [finish, run_cons, hbusy, if_true]

theorem finish_of_free (hfree : busy handle = false) (moves : List Move) :
    finish handle moves = handle := by
  induction moves with
  | nil => rfl
  | cons move rest ih =>
      refine Eq.trans ?_ ih
      simp only [finish, run_cons, hfree, Bool.false_eq_true, if_false]

theorem finish_append (handle : Handle) (first second : List Move) :
    finish handle (first ++ second) = finish (finish handle first) second :=
  run_append _ handle first second

theorem finish_eq_run (handle : Handle) (moves : List Move) :
    ∃ turns, turns <+: moves ∧ finish handle moves = run step handle turns := by
  induction moves generalizing handle with
  | nil => exact ⟨[], List.nil_prefix, rfl⟩
  | cons move rest ih =>
      cases hbusy : busy handle with
      | false => exact ⟨[], List.nil_prefix, finish_of_free hbusy _⟩
      | true =>
          obtain ⟨turns, hturns, hfinish⟩ := ih (step handle move)
          refine ⟨move :: turns, (List.prefix_cons_inj move).mpr hturns, ?_⟩
          rw [finish_cons_of_busy hbusy, hfinish]
          rfl

theorem finish_toward (h : Sound handle) (moves : List Move) :
    Sound (finish handle moves) ∧
      (busy (finish handle moves) = false ∨ distance (finish handle moves) ≤ distance handle) := by
  induction moves generalizing handle with
  | nil => exact ⟨h, Or.inr (Nat.le_refl _)⟩
  | cons move rest ih =>
      cases hbusy : busy handle with
      | false =>
          rw [finish_of_free hbusy]
          exact ⟨h, Or.inl hbusy⟩
      | true =>
          rw [finish_cons_of_busy hbusy]
          obtain ⟨hsound, hrest⟩ := ih (advances_step h move).1
          refine ⟨hsound, hrest.imp id fun hle => Nat.le_trans hle ?_⟩
          rcases step_toward h hbusy move with halike | hless
          · exact Nat.le_of_eq halike.distance
          · exact Nat.le_of_lt hless

/-- If some move leads to the end of the call as long as nothing else does, then a run in which it
comes about has got nearer. -/
theorem finish_lt (h : Sound handle) {useful : Move} {moves : List Move} (hmem : useful ∈ moves)
    (huseful : ∀ after, Sound after → busy after = true → (Waits after ↔ Waits handle) →
      distance (step after useful) < distance after) :
    busy (finish handle moves) = false ∨ distance (finish handle moves) < distance handle := by
  induction moves generalizing handle with
  | nil => exact absurd hmem List.not_mem_nil
  | cons move rest ih =>
      cases hbusy : busy handle with
      | false =>
          rw [finish_of_free hbusy]
          exact Or.inl hbusy
      | true =>
          rw [finish_cons_of_busy hbusy]
          have hsound : Sound (step handle move) := (advances_step h move).1
          rcases step_toward h hbusy move with halike | hless
          · have hrest : useful ∈ rest := by
              rcases List.mem_cons.mp hmem with rfl | hrest
              · have hlt := huseful handle h hbusy Iff.rfl
                rw [halike.distance] at hlt
                exact absurd hlt (Nat.lt_irrefl _)
              · exact hrest
            rw [← halike.distance]
            exact ih hsound hrest fun after hafter hstill hsame =>
              huseful after hafter hstill (hsame.trans halike.waits)
          · exact (finish_toward hsound rest).2.imp id fun hle => Nat.lt_of_le_of_lt hle hless

def Fair (round : List Move) : Prop :=
  .control ∈ round ∧ .thread .check ∈ round

theorem finish_round (h : Sound handle) {round : List Move} (hfair : Fair round) :
    busy (finish handle round) = false ∨ distance (finish handle round) < distance handle := by
  by_cases hwaits : Waits handle
  · exact finish_lt h hfair.2 fun after hafter hbusy hsame =>
      distance_turn_lt hafter hbusy (hsame.mpr hwaits)
  · exact finish_lt h hfair.1 fun after hafter hbusy hsame =>
      distance_proceed_lt hafter hbusy fun hwaits' => hwaits (hsame.mp hwaits')

theorem finish_rounds (h : Sound handle) {rounds : List (List Move)}
    (hfair : ∀ round ∈ rounds, Fair round) :
    busy (finish handle rounds.flatten) = false ∨
      distance (finish handle rounds.flatten) + rounds.length ≤ distance handle := by
  induction rounds generalizing handle with
  | nil => exact Or.inr (Nat.le_refl _)
  | cons round rest ih =>
      obtain ⟨hround, hrest⟩ := List.forall_mem_cons.mp hfair
      rw [List.flatten_cons, finish_append]
      have hsound : Sound (finish handle round) := (finish_toward h round).1
      rcases finish_round h hround with hfree | hless
      · rw [finish_of_free hfree]
        exact Or.inl hfree
      · refine (ih hsound hrest).imp id fun hle => ?_
        rw [List.length_cons]
        omega

/-- A call that is being carried out has come to its end before both threads have had that many
turns. -/
theorem call_ends (h : Sound handle) {rounds : List (List Move)}
    (hfair : ∀ round ∈ rounds, Fair round) (hmany : 17 < rounds.length) :
    ∃ turns, turns <+: rounds.flatten ∧ busy (run step handle turns) = false := by
  obtain ⟨turns, hturns, hfinish⟩ := finish_eq_run handle rounds.flatten
  refine ⟨turns, hturns, ?_⟩
  rw [← hfinish]
  rcases finish_rounds h hfair with hfree | hle
  · exact hfree
  · have hbound := distance_le handle
    omega

end Rounds

end LockScreen.Proofs.HandleProgress
