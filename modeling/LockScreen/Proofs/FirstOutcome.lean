import LockScreen.Proofs.Histories
import LockScreen.Proofs.Runs
import LockScreen.Render.Signal

namespace LockScreen.Proofs.FirstOutcome

open LockScreen.Render
open LockScreen.Proofs.Histories LockScreen.Proofs.Runs

variable {ρ : Type}

inductive Move (ρ : Type) where
  | publish (outcome : ρ)
  | ask
  | call (thread : Nat)
  | wake (thread : Nat)
  | resume (thread : Nat)

inductive Event (ρ : Type) where
  | published (outcome : ρ)
  | asked (pending : Bool)
  | called (thread : Nat)
  | returned (thread : Nat) (outcome : ρ)

structure Stage (ρ : Type) where
  signal : Signal ρ
  history : List (Event ρ)

def Waits (stage : Stage ρ) (thread : Nat) : Prop :=
  thread ∈ stage.signal.parked ∨ thread ∈ stage.signal.woken

instance (stage : Stage ρ) (thread : Nat) : Decidable (Waits stage thread) :=
  inferInstanceAs (Decidable (_ ∨ _))

def look (stage : Stage ρ) (thread : Nat) : Stage ρ :=
  match stage.signal.look thread with
  | (some outcome, signal) => ⟨signal, stage.history ++ [.returned thread outcome]⟩
  | (none, signal) => ⟨signal, stage.history⟩

/-- A thread that waits makes no other call, only a thread that is parked wakes up, and only one
that is awake looks again. Moves that are not possible change nothing. -/
def step (stage : Stage ρ) : Move ρ → Stage ρ
  | .publish outcome => ⟨stage.signal.publish outcome, stage.history ++ [.published outcome]⟩
  | .ask => ⟨stage.signal, stage.history ++ [.asked stage.signal.isPending]⟩
  | .call thread =>
    if Waits stage thread then stage
    else look ⟨stage.signal, stage.history ++ [.called thread]⟩ thread
  | .wake thread =>
    if stage.signal.asleep thread then ⟨stage.signal.rouse thread, stage.history⟩ else stage
  | .resume thread => if thread ∈ stage.signal.woken then look stage thread else stage

def start : Stage ρ := ⟨.new, []⟩

def published? : Event ρ → Option ρ
  | .published outcome => some outcome
  | _ => none

def first? (history : List (Event ρ)) : Option ρ :=
  history.findSome? published?

/-- An answer that is right after what was published before it. -/
def Fits (before : List (Event ρ)) : Event ρ → Prop
  | .asked pending => pending = (first? before).isNone
  | .returned _ outcome => first? before = some outcome
  | _ => True

def waiter? : Event ρ → Option Nat
  | .called thread | .returned thread _ => some thread
  | _ => none

def Open (thread : Nat) : List (Event ρ) → Prop :=
  Since (· = .called thread) fun event => ∃ outcome, event = .returned thread outcome

def Placed (stage : Stage ρ) (thread : Nat) : Prop :=
  Open thread stage.history ↔ Waits stage thread

structure Agreed (stage : Stage ρ) : Prop where
  outcome : stage.signal.outcome = first? stage.history
  parked : first? stage.history ≠ none → stage.signal.parked = []
  told : Told Fits stage.history

structure Sound (stage : Stage ρ) : Prop extends Agreed stage where
  placed : ∀ thread, Placed stage thread

section Steps

variable {stage : Stage ρ} {history : List (Event ρ)} {event : Event ρ} {thread : Nat}

theorem first_concat (history : List (Event ρ)) (event : Event ρ) :
    first? (history ++ [event]) = (first? history).or (published? event) := by
  rw [first?, List.findSome?_append, List.findSome?_singleton]
  rfl

theorem first_concat_silent (h : published? event = none) :
    first? (history ++ [event]) = first? history := by
  rw [first_concat, h, Option.or_none]

theorem open_called (thread : Nat) (history : List (Event ρ)) :
    Open thread (history ++ [.called thread]) :=
  since_concat.mpr (Or.inl rfl)

theorem not_open_returned (thread : Nat) (outcome : ρ) (history : List (Event ρ)) :
    ¬ Open thread (history ++ [.returned thread outcome]) := by
  intro h
  rcases since_concat.mp h with hstarts | ⟨hstops, -⟩
  · cases hstarts
  · exact hstops ⟨outcome, rfl⟩

theorem open_concat (h : waiter? event ≠ some thread) :
    Open thread (history ++ [event]) ↔ Open thread history := by
  constructor
  · intro hopen
    rcases since_concat.mp hopen with rfl | ⟨-, hbefore⟩
    · exact absurd rfl h
    · exact hbefore
  · intro hopen
    apply since_concat.mpr
    right
    constructor
    · rintro ⟨outcome, rfl⟩
      exact h rfl
    · exact hopen

theorem Placed.concat (h : Placed stage thread) (hevent : waiter? event ≠ some thread) :
    Placed ⟨stage.signal, stage.history ++ [event]⟩ thread :=
  (open_concat hevent).trans h

theorem mem_others {other : Nat} {threads : List Nat} (h : other ≠ thread) :
    other ∈ threads.filter (· != thread) ↔ other ∈ threads := by
  rw [List.mem_filter, bne_iff_ne]
  exact and_iff_left h

theorem not_mem_others (thread : Nat) (threads : List Nat) :
    thread ∉ threads.filter (· != thread) := by
  rw [List.mem_filter, bne_iff_ne]
  rintro ⟨-, h⟩
  exact h rfl

theorem look_of_none (h : stage.signal.outcome = none) (thread : Nat) :
    look stage thread =
      ⟨⟨none, thread :: stage.signal.parked.filter (· != thread),
        stage.signal.woken.filter (· != thread)⟩, stage.history⟩ := by
  simp only [look, Signal.look, h]

theorem look_of_some {outcome : ρ} (h : stage.signal.outcome = some outcome) (thread : Nat) :
    look stage thread =
      ⟨⟨some outcome, stage.signal.parked.filter (· != thread),
        stage.signal.woken.filter (· != thread)⟩,
        stage.history ++ [.returned thread outcome]⟩ := by
  simp only [look, Signal.look, h]

theorem sound_look (h : Agreed stage) (hopen : Open thread stage.history)
    (hothers : ∀ other ≠ thread, Placed stage other) : Sound (look stage thread) := by
  cases hfirst : first? stage.history with
  | none =>
      rw [look_of_none (h.outcome.trans hfirst)]
      refine ⟨⟨hfirst.symm, fun hsome => absurd hfirst hsome, h.told⟩, ?_⟩
      intro other
      by_cases hother : other = thread
      · subst hother
        exact iff_of_true hopen (Or.inl List.mem_cons_self)
      · refine (hothers other hother).trans (or_congr ?_ ?_)
        · rw [List.mem_cons, mem_others hother]
          exact (or_iff_right hother).symm
        · exact (mem_others hother).symm
  | some first =>
      rw [look_of_some (h.outcome.trans hfirst)]
      have hsame : first? (stage.history ++ [.returned thread first]) = some first :=
        (first_concat_silent rfl).trans hfirst
      refine ⟨⟨hsame.symm, ?_, h.told.concat hfirst⟩, ?_⟩
      · intro _
        rw [h.parked (by rw [hfirst]; exact Option.some_ne_none first)]
        rfl
      · intro other
        by_cases hother : other = thread
        · subst hother
          apply iff_of_false (not_open_returned _ _ _)
          rintro (hmem | hmem)
          · exact not_mem_others _ _ hmem
          · exact not_mem_others _ _ hmem
        · have hstill : Placed ⟨stage.signal, stage.history ++ [.returned thread first]⟩ other := by
            apply (hothers other hother).concat
            intro hsame
            exact hother (Option.some.inj hsame).symm
          refine Iff.trans hstill (or_congr ?_ ?_)
          · exact (mem_others hother).symm
          · exact (mem_others hother).symm

theorem sound_publish (h : Sound stage) (outcome : ρ) : Sound (step stage (.publish outcome)) := by
  have hplaced (thread : Nat) :
      Placed ⟨stage.signal, stage.history ++ [.published outcome]⟩ thread :=
    (h.placed thread).concat (Option.some_ne_none thread).symm
  have hfirst := first_concat stage.history (.published outcome)
  cases houtcome : stage.signal.outcome with
  | none =>
      rw [← h.outcome, houtcome] at hfirst
      have hstep : step stage (.publish outcome) =
          ⟨⟨some outcome, [], stage.signal.woken ++ stage.signal.parked⟩,
            stage.history ++ [.published outcome]⟩ := by
        simp only [step, Signal.publish, houtcome]
      rw [hstep]
      refine ⟨⟨hfirst.symm, fun _ => rfl, h.told.concat trivial⟩, ?_⟩
      intro thread
      refine Iff.trans (hplaced thread) ?_
      show _ ↔ thread ∈ [] ∨ thread ∈ stage.signal.woken ++ stage.signal.parked
      rw [List.mem_append, or_iff_right List.not_mem_nil]
      exact or_comm
  | some first =>
      rw [← h.outcome, houtcome] at hfirst
      have hstep : step stage (.publish outcome) =
          ⟨stage.signal, stage.history ++ [.published outcome]⟩ := by
        simp only [step, Signal.publish, houtcome]
      rw [hstep]
      refine ⟨⟨houtcome.trans hfirst.symm, ?_, h.told.concat trivial⟩, hplaced⟩
      intro _
      apply h.parked
      rw [← h.outcome, houtcome]
      exact Option.some_ne_none first

theorem Agreed.concat (h : Agreed stage) (hsilent : published? event = none)
    (hfits : Fits stage.history event) : Agreed ⟨stage.signal, stage.history ++ [event]⟩ := by
  have hfirst : first? (stage.history ++ [event]) = first? stage.history :=
    first_concat_silent hsilent
  refine ⟨h.outcome.trans hfirst.symm, ?_, h.told.concat hfits⟩
  intro hsome
  apply h.parked
  rw [← hfirst]
  exact hsome

theorem sound_ask (h : Sound stage) : Sound (step stage .ask) := by
  rw [step]
  refine ⟨h.toAgreed.concat rfl ?_, ?_⟩
  · show stage.signal.outcome.isNone = _
    rw [h.outcome]
  · intro thread
    exact (h.placed thread).concat (Option.some_ne_none thread).symm

theorem sound_call (h : Sound stage) (thread : Nat) : Sound (step stage (.call thread)) := by
  rw [step]
  split
  · exact h
  · have hcalled : Agreed ⟨stage.signal, stage.history ++ [.called thread]⟩ :=
      h.toAgreed.concat rfl trivial
    apply sound_look hcalled (open_called thread stage.history)
    intro other hother
    apply (h.placed other).concat
    intro hsame
    exact hother (Option.some.inj hsame).symm

theorem sound_wake (h : Sound stage) (thread : Nat) : Sound (step stage (.wake thread)) := by
  rw [step]
  split
  · next hasleep =>
      have hparked : thread ∈ stage.signal.parked := List.contains_iff_mem.mp hasleep
      refine ⟨⟨h.outcome, ?_, h.told⟩, ?_⟩
      · intro hsome
        rw [h.parked hsome] at hparked
        exact absurd hparked List.not_mem_nil
      · intro other
        refine (h.placed other).trans ?_
        by_cases hother : other = thread
        · subst hother
          exact iff_of_true (Or.inl hparked) (Or.inr List.mem_cons_self)
        · refine or_congr (mem_others hother).symm ?_
          show _ ↔ other ∈ thread :: stage.signal.woken.filter (· != thread)
          rw [List.mem_cons, mem_others hother]
          exact (or_iff_right hother).symm
  · exact h

theorem sound_resume (h : Sound stage) (thread : Nat) : Sound (step stage (.resume thread)) := by
  rw [step]
  split
  · next hwoken =>
      apply sound_look h.toAgreed
      · exact (h.placed thread).mpr (Or.inr hwoken)
      · intro other _
        exact h.placed other
  · exact h

theorem sound_step (h : Sound stage) (move : Move ρ) : Sound (step stage move) := by
  cases move with
  | publish outcome => exact sound_publish h outcome
  | ask => exact sound_ask h
  | call thread => exact sound_call h thread
  | wake thread => exact sound_wake h thread
  | resume thread => exact sound_resume h thread

end Steps

theorem sound_new : Sound (start : Stage ρ) := by
  refine ⟨⟨rfl, fun _ => rfl, told_nil⟩, ?_⟩
  intro thread
  apply iff_of_false not_since_nil
  rintro (h | h)
  · exact List.not_mem_nil h
  · exact List.not_mem_nil h

theorem sound_run (moves : List (Move ρ)) : Sound (run step start moves) :=
  invariant_run (I := Sound) (fun _ move h => sound_step h move) sound_new moves

/-- The outcome is what was published first. A signal that is asked is pending until then, every
wait that returned did so after it and with it, and from then on another outcome changes nothing,
nobody is parked, and each thread that is still in a wait is awake and gets the outcome at its next
look. -/
theorem first_outcome_for_all (moves : List (Move ρ)) :
    (run step start moves).signal.outcome = first? (run step start moves).history ∧
    (∀ before pending after, (run step start moves).history = before ++ .asked pending :: after →
      pending = (first? before).isNone) ∧
    (∀ before thread outcome after,
      (run step start moves).history = before ++ .returned thread outcome :: after →
        first? before = some outcome) ∧
    ∀ first, first? (run step start moves).history = some first →
      (∀ outcome,
        (step (run step start moves) (.publish outcome)).signal = (run step start moves).signal) ∧
      (run step start moves).signal.parked = [] ∧
      ∀ thread, Open thread (run step start moves).history →
        thread ∈ (run step start moves).signal.woken ∧
          (step (run step start moves) (.resume thread)).history =
            (run step start moves).history ++ [.returned thread first] := by
  have hsound := sound_run moves
  refine ⟨hsound.outcome, ?_, ?_, ?_⟩
  · intro before pending after hsplit
    exact hsound.told before _ after hsplit
  · intro before thread outcome after hsplit
    exact hsound.told before _ after hsplit
  · intro first hfirst
    have houtcome : (run step start moves).signal.outcome = some first := hsound.outcome.trans hfirst
    have hparked : (run step start moves).signal.parked = [] := by
      apply hsound.parked
      rw [hfirst]
      exact Option.some_ne_none first
    refine ⟨?_, hparked, ?_⟩
    · intro outcome
      simp only [step, Signal.publish, houtcome]
    · intro thread hopen
      have hwoken : thread ∈ (run step start moves).signal.woken := by
        rcases (hsound.placed thread).mp hopen with hmem | hmem
        · rw [hparked] at hmem
          exact absurd hmem List.not_mem_nil
        · exact hmem
      refine ⟨hwoken, ?_⟩
      rw [step, if_pos hwoken, look_of_some houtcome]

example (first second : ρ) :
    (run step start [.call 0, .publish first, .publish second, .resume 0, .call 1, .ask]).history =
      [.called 0, .published first, .published second, .returned 0 first, .called 1,
        .returned 1 first, .asked false] :=
  rfl

end LockScreen.Proofs.FirstOutcome
