import Mathlib.Data.List.Induction
import LockScreen.Proofs.Histories
import LockScreen.Proofs.LoopRuns

/-!
The history of a render loop, as far as it counts for its frames, and what may come next in it. From
the rules for single moments follows when a frame is drawn in a whole history.
-/

namespace LockScreen.Proofs.LoopChronicle

open LockScreen.Render LockScreen.Proofs.LoopRuns

inductive Moment where
  | began
  | loaded
  | handled (changed : Bool)
  | took (raised : Bool)
  | drew
  | ended
  | asked
deriving DecidableEq

namespace Moment

def ofHappening? : Happening → Option Moment
  | .loaded _ => some loaded
  | .delivered _ changed => some (handled (changed.getD false))
  | _ => none

def ofEntry? : Entry → Option Moment
  | .began => some began
  | .ended => some ended
  | .happened happening => ofHappening? happening
  | .took raised => some (took raised)
  | .drawing => some drew
  | .did .ask => some asked
  | .did _ => none

/-- What makes a frame necessary: the load, an event that changed the scene, a request that was
taken. -/
def isTrigger : Moment → Bool
  | loaded => true
  | handled changed => changed
  | took raised => raised
  | began | drew | ended | asked => false

def isEarly : Moment → Bool
  | loaded | handled _ => true
  | began | took _ | drew | ended | asked => false

def isTook : Moment → Bool
  | took _ => true
  | began | loaded | handled _ | drew | ended | asked => false

end Moment

def history (log : List Entry) : List Moment :=
  log.filterMap Moment.ofEntry?

/-- Whether a trigger came since the last frame, or ever if there was none. -/
def pending (history : List Moment) : Bool :=
  (history.reverse.takeWhile (· ≠ .drew)).any Moment.isTrigger

def waiting (history : List Moment) : Bool :=
  (history.reverse.takeWhile (!·.isTook)).any (· = .asked)

/-- How far an iteration is: the request is still to be taken, was taken, or the target was told to
draw. -/
inductive Phase where
  | outside
  | opened
  | taken
  | drawn
deriving DecidableEq

def Phase.next (phase : Phase) : Moment → Phase
  | .began => opened
  | .took _ => taken
  | .drew => drawn
  | .ended => outside
  | .loaded | .handled _ | .asked => phase

def phase (history : List Moment) : Phase :=
  history.foldl Phase.next .outside

def Allowed (history : List Moment) : Moment → Prop
  | .began => phase history = .outside
  | .loaded => phase history = .opened ∧ .loaded ∉ history
  | .handled _ => phase history = .opened
  | .took raised => phase history = .opened ∧ raised = waiting history
  | .drew => phase history = .taken ∧ .loaded ∈ history ∧ pending history = true
  | .ended =>
      phase history = .drawn ∨
        phase history = .taken ∧ (.loaded ∈ history → pending history = false)
  | .asked => True

def Legal (history : List Moment) : Prop :=
  ∀ before moment after, history = before ++ moment :: after → Allowed before moment

theorem pending_append_singleton (history : List Moment) (moment : Moment) :
    pending (history ++ [moment]) =
      if moment = .drew then false else moment.isTrigger || pending history := by
  by_cases h : moment = .drew
  · simp [pending, h]
  · simp [pending, h]

theorem waiting_append_singleton (history : List Moment) (moment : Moment) :
    waiting (history ++ [moment]) =
      if moment.isTook then false else decide (moment = .asked) || waiting history := by
  cases h : moment.isTook <;> simp [waiting, h]

theorem phase_append_singleton (history : List Moment) (moment : Moment) :
    phase (history ++ [moment]) = (phase history).next moment := by
  simp only [phase, List.foldl_append, List.foldl_cons, List.foldl_nil]

theorem legal_nil : Legal [] :=
  Histories.told_nil

theorem Legal.snoc {history : List Moment} {moment : Moment} (h : Legal history)
    (hallowed : Allowed history moment) : Legal (history ++ [moment]) :=
  Histories.Told.concat h hallowed

theorem Legal.of_append {first second : List Moment} (h : Legal (first ++ second)) :
    Legal first := by
  intro before moment after heq
  apply h before moment (after ++ second)
  rw [heq, List.append_assoc, List.cons_append]

theorem Legal.upTo {first second : List Moment} {moment : Moment}
    (h : Legal (first ++ moment :: second)) : Legal (first ++ [moment]) := by
  apply Legal.of_append
  rwa [List.append_assoc, List.singleton_append]

theorem Legal.allowed {history : List Moment} {moment : Moment} (h : Legal (history ++ [moment])) :
    Allowed history moment :=
  h history moment [] rfl

theorem pending_append {history later : List Moment} (h : .drew ∉ later) :
    pending (history ++ later) = true ↔
      pending history = true ∨ ∃ moment ∈ later, moment.isTrigger = true := by
  induction later using List.reverseRecOn with
  | nil => simp
  | append_singleton later moment ih =>
      simp only [List.mem_append, List.mem_singleton, not_or] at h
      rw [← List.append_assoc, pending_append_singleton, if_neg (Ne.symm h.2), Bool.or_eq_true,
        ih h.1]
      simp only [List.mem_append, List.mem_singleton, or_and_right, exists_or, exists_eq_left]
      constructor
      · rintro (htrigger | hbefore | hlater)
        · exact Or.inr (Or.inr htrigger)
        · exact Or.inl hbefore
        · exact Or.inr (Or.inl hlater)
      · rintro (hbefore | hlater | htrigger)
        · exact Or.inr (Or.inl hbefore)
        · exact Or.inr (Or.inr hlater)
        · exact Or.inl htrigger

theorem phase_append_ne_drawn {history later : List Moment} (h : .drew ∉ later)
    (hphase : phase history ≠ .drawn) : phase (history ++ later) ≠ .drawn := by
  induction later using List.reverseRecOn with
  | nil => rwa [List.append_nil]
  | append_singleton later moment ih =>
      simp only [List.mem_append, List.mem_singleton, not_or] at h
      rw [← List.append_assoc, phase_append_singleton]
      cases moment with
      | drew => exact absurd rfl h.2
      | began | took | ended => simp [Phase.next]
      | loaded | handled | asked => exact ih h.1

def own (iteration : List Moment) : List Moment :=
  iteration.filter (· ≠ .asked)

def Shaped (before iteration : List Moment) : Phase → Prop
  | .outside => True
  | .opened => ∀ moment ∈ own iteration, moment.isEarly = true
  | .taken => ∃ early raised, own iteration = early ++ [.took raised] ∧
      ∀ moment ∈ early, moment.isEarly = true
  | .drawn => ∃ early raised, own iteration = early ++ [.took raised, .drew] ∧
      (∀ moment ∈ early, moment.isEarly = true) ∧ .loaded ∈ before ++ iteration ∧
        (pending before = true ∨ ∃ moment ∈ iteration, moment.isTrigger = true)

theorem own_append_singleton (iteration : List Moment) (moment : Moment) :
    own (iteration ++ [moment]) =
      if moment = .asked then own iteration else own iteration ++ [moment] := by
  by_cases h : moment = .asked <;> simp [own, h]

theorem drew_not_mem_of_own {iteration early : List Moment} {raised : Bool}
    (hown : own iteration = early ++ [.took raised])
    (hearly : ∀ moment ∈ early, moment.isEarly = true) : .drew ∉ iteration := by
  intro hdrew
  have hmem : .drew ∈ own iteration := List.mem_filter.mpr ⟨hdrew, rfl⟩
  rw [hown, List.mem_append, List.mem_singleton] at hmem
  rcases hmem with hmem | hmem
  · exact absurd (hearly _ hmem) (by simp [Moment.isEarly])
  · cases hmem

section Shapes

variable {before iteration : List Moment}

theorem Shaped.early {moment : Moment} (h : Shaped before iteration .opened)
    (hmoment : moment.isEarly = true) : Shaped before (iteration ++ [moment]) .opened := by
  have hne : moment ≠ .asked := fun heq => absurd hmoment (by simp [heq, Moment.isEarly])
  intro other hother
  rw [own_append_singleton, if_neg hne, List.mem_append, List.mem_singleton] at hother
  rcases hother with hother | rfl
  · exact h other hother
  · exact hmoment

theorem Shaped.took (h : Shaped before iteration .opened) (raised : Bool) :
    Shaped before (iteration ++ [.took raised]) .taken := by
  refine ⟨own iteration, raised, ?_, h⟩
  rw [own_append_singleton, if_neg (by simp)]

theorem Shaped.drew (h : Shaped before iteration .taken)
    (hloaded : .loaded ∈ before ++ .began :: iteration)
    (hpending : pending (before ++ .began :: iteration) = true) :
    Shaped before (iteration ++ [.drew]) .drawn := by
  obtain ⟨early, raised, hown, hearly⟩ := h
  have hdrew : .drew ∉ .began :: iteration := by
    simpa using drew_not_mem_of_own hown hearly
  refine ⟨early, raised, ?_, hearly, ?_, ?_⟩
  · rw [own_append_singleton, if_neg (by simp), hown, List.append_assoc]
    rfl
  · simpa [or_assoc] using hloaded
  · simpa [Moment.isTrigger] using (pending_append hdrew).mp hpending

theorem Shaped.asked {phase : Phase} (h : Shaped before iteration phase) :
    Shaped before (iteration ++ [.asked]) phase := by
  cases phase with
  | outside => exact True.intro
  | opened | taken => simpa only [Shaped, own_append_singleton, if_true] using h
  | drawn =>
      simp only [Shaped, own_append_singleton, if_true] at h ⊢
      obtain ⟨early, raised, hown, hearly, hloaded, htrigger⟩ := h
      refine ⟨early, raised, hown, hearly, ?_, ?_⟩
      · rw [← List.append_assoc]
        exact List.mem_append_left _ hloaded
      · rcases htrigger with hbefore | ⟨moment, hmem, htrigger⟩
        · exact Or.inl hbefore
        · exact Or.inr ⟨moment, List.mem_append_left _ hmem, htrigger⟩

end Shapes

theorem shaped_of_legal {before iteration : List Moment}
    (hlegal : Legal (before ++ .began :: iteration)) (hbegan : .began ∉ iteration) :
    Shaped before iteration (phase (before ++ .began :: iteration)) := by
  -- From the end: the phase before the last moment is the one in which that moment may come.
  induction iteration using List.reverseRecOn with
  | nil =>
      rw [phase_append_singleton]
      simp [Phase.next, Shaped, own]
  | append_singleton iteration moment ih =>
      rw [← List.cons_append, ← List.append_assoc] at hlegal ⊢
      simp only [List.mem_append, List.mem_singleton, not_or] at hbegan
      have hshaped := ih hlegal.of_append hbegan.1
      have hallowed := hlegal.allowed
      rw [phase_append_singleton]
      cases moment with
      | began => exact absurd rfl hbegan.2
      | loaded =>
          rw [hallowed.1] at hshaped ⊢
          exact hshaped.early rfl
      | handled changed =>
          rw [show phase (before ++ .began :: iteration) = .opened from hallowed] at hshaped ⊢
          exact hshaped.early rfl
      | took raised =>
          rw [hallowed.1] at hshaped
          exact hshaped.took raised
      | drew =>
          rw [hallowed.1] at hshaped
          exact hshaped.drew hallowed.2.1 hallowed.2.2
      | ended => exact True.intro
      | asked => exact hshaped.asked

structure Complete (before iteration : List Moment) : Prop where
  /-- The request is taken once, behind all other triggers, and then there is at most one frame. -/
  shape : ∃ early raised late, own iteration = early ++ .took raised :: late ∧
    (∀ moment ∈ early, moment.isEarly = true) ∧ (late = [] ∨ late = [.drew])
  drew_iff : .drew ∈ iteration ↔ .loaded ∈ before ++ iteration ∧
    (pending before = true ∨ ∃ moment ∈ iteration, moment.isTrigger = true)

theorem complete_of_legal {before iteration : List Moment}
    (hlegal : Legal (before ++ .began :: iteration ++ [.ended])) (hbegan : .began ∉ iteration) :
    Complete before iteration := by
  have hshaped := shaped_of_legal hlegal.of_append hbegan
  rcases hlegal.allowed with hphase | ⟨hphase, hquiet⟩
  · rw [hphase] at hshaped
    obtain ⟨early, raised, hown, hearly, hloaded, htrigger⟩ := hshaped
    refine ⟨⟨early, raised, [.drew], hown, hearly, Or.inr rfl⟩, ?_⟩
    have hdrew : .drew ∈ own iteration := by simp [hown]
    exact iff_of_true (List.mem_filter.mp hdrew).1 ⟨hloaded, htrigger⟩
  · rw [hphase] at hshaped
    obtain ⟨early, raised, hown, hearly⟩ := hshaped
    have hdrew : .drew ∉ iteration := drew_not_mem_of_own hown hearly
    refine ⟨⟨early, raised, [], hown, hearly, Or.inl rfl⟩, iff_of_false hdrew ?_⟩
    rintro ⟨hloaded, htrigger⟩
    have hpending : pending (before ++ .began :: iteration) = true := by
      apply (pending_append (by simpa using hdrew)).mpr
      simpa [Moment.isTrigger] using htrigger
    rw [hquiet (by simpa [or_assoc] using hloaded)] at hpending
    exact Bool.false_ne_true hpending

theorem waiting_of_asked {before later : List Moment}
    (h : ∀ moment ∈ later, moment.isTook = false) :
    waiting (before ++ .asked :: later) = true := by
  induction later using List.reverseRecOn with
  | nil =>
      rw [waiting_append_singleton]
      rfl
  | append_singleton later moment ih =>
      rw [← List.cons_append, ← List.append_assoc, waiting_append_singleton,
        h moment (by simp), ih fun other hother => h other (by simp [hother])]
      simp

theorem drew_of_asked {before between later : List Moment} {raised : Bool}
    (hlegal : Legal (before ++ .asked :: between ++ .took raised :: later ++ [.ended]))
    (hbetween : ∀ moment ∈ between, moment.isTook = false)
    (hloaded : .loaded ∈ before ++ between ++ later) : .drew ∈ later := by
  have hsplit : before ++ .asked :: between ++ .took raised :: later =
      (before ++ .asked :: between ++ [.took raised]) ++ later := by
    simp
  have hraised : raised = true := by
    have hallowed := (hsplit ▸ hlegal.of_append).of_append.allowed
    rw [hallowed.2, waiting_of_asked hbetween]
  apply Decidable.byContradiction
  intro hdrew
  have hpending : pending (before ++ .asked :: between ++ .took raised :: later) = true := by
    rw [hsplit, pending_append hdrew, pending_append_singleton, hraised]
    exact Or.inl rfl
  have hdrawn : phase (before ++ .asked :: between ++ .took raised :: later) ≠ .drawn := by
    rw [hsplit]
    apply phase_append_ne_drawn hdrew
    rw [phase_append_singleton]
    simp [Phase.next]
  rcases hlegal.allowed with hphase | ⟨-, hquiet⟩
  · exact hdrawn hphase
  · have hmem : .loaded ∈ before ++ .asked :: between ++ .took raised :: later := by
      simpa [or_assoc] using hloaded
    exact Bool.false_ne_true ((hquiet hmem).symm.trans hpending)

theorem count_loaded_of_legal {history : List Moment} (h : Legal history) :
    history.count .loaded ≤ 1 := by
  induction history using List.reverseRecOn with
  | nil => simp
  | append_singleton history moment ih =>
      rw [List.count_append, List.count_singleton]
      by_cases hmoment : moment = .loaded
      · subst hmoment
        rw [List.count_eq_zero.mpr h.allowed.2]
        simp
      · simpa [hmoment] using ih h.of_append

/-- What the frames of a whole history have to do with its triggers. -/
structure FollowsTriggers (history : List Moment) : Prop where
  loaded_once : history.count .loaded ≤ 1
  drew : ∀ before after, history = before ++ .drew :: after →
    .loaded ∈ before ∧ pending before = true
  iteration : ∀ before iteration after,
    history = before ++ .began :: iteration ++ .ended :: after → .began ∉ iteration →
      Complete before iteration
  took : ∀ before raised after, history = before ++ .took raised :: after →
    raised = waiting before
  /-- Whenever somebody asks, a frame is drawn behind the next taking of the request, at the latest
  when an iteration ends with the load attempted. -/
  asked : ∀ before between raised later after,
    history = before ++ .asked :: between ++ .took raised :: later ++ .ended :: after →
      (∀ moment ∈ between, moment.isTook = false) →
      .loaded ∈ before ++ between ++ later → .drew ∈ later

theorem followsTriggers_of_legal {history : List Moment} (h : Legal history) :
    FollowsTriggers history where
  loaded_once := count_loaded_of_legal h
  drew before after heq := (h before .drew after heq).2
  iteration before iteration after heq hbegan := by
    rw [heq] at h
    exact complete_of_legal h.upTo hbegan
  took before raised after heq := (h before (.took raised) after heq).2
  asked before between raised later after heq hbetween hloaded := by
    rw [heq] at h
    exact drew_of_asked h.upTo hbetween hloaded

end LockScreen.Proofs.LoopChronicle
