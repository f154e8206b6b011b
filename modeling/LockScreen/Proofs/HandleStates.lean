import LockScreen.Proofs.HandleRuns
import LockScreen.Proofs.Runs

/-!
The states in which the handle of a render loop can be. Each call and each turn of a thread leads
from one of them to another, and never backwards in the phase.
-/

namespace LockScreen.Proofs.HandleStates

open LockScreen.Proofs.HandleRuns
open LockScreen.Proofs.Runs
open LockScreen.Render

def answer (setup : Setup) : Except Report Unit :=
  match word setup with
  | .ok () => .ok ()
  | .error reason => .error (.ofMessage s!"Render thread failed to initialize: {reason}")

def answers : List Setup → List (Except Report Unit)
  | [] => []
  | first :: later =>
      answer first :: later.map fun _ => .error (.ofMessage "Render loop already started")

theorem answers_built {setup : Setup} (h : setup = .built) : answers [setup] = [.ok ()] := by
  rw [h]
  rfl

theorem answers_failed {setup : Setup} {reason : String} (h : word setup = .error reason) :
    answers [setup] =
      [.error (.ofMessage s!"Render thread failed to initialize: {reason}")] := by
  rw [answers, answer, h]
  rfl

structure Untouched (life : Life) : Prop where
  startable : life.startable = true
  phase : life.phase = .uninitialized
  outcome : life.outcome.outcome = none
  awake : life.outcome.parked = []
  thread : life.thread = .unborn
  owned : life.owned = false

/-- How far a start has got, by what the control thread is to do next. -/
inductive Underway (setup : Setup) (life : Life) : Control → Prop where
  | spawning (unborn : life.thread = .unborn) (phase : life.phase = .initializing)
      (unsaid : life.outcome.outcome = none) (awake : life.outcome.parked = [])
      (disowned : life.owned = false) : Underway setup life .spawning
  | awaiting (raised : Raised setup life) (phase : life.phase = shown setup life.thread)
      (disowned : life.owned = false) : Underway setup life .awaiting
  | adopting (raised : Raised setup life) (past : Past life.thread) (built : setup = .built)
      (phase : life.phase = .ready) (owned : life.owned = true) : Underway setup life .adopting
  | requesting (raised : Raised setup life) (past : Past life.thread) (built : setup = .built)
      (phase : life.phase = .running) (owned : life.owned = true) : Underway setup life .requesting
  | burying {reason : String} (raised : Raised setup life) (past : Past life.thread)
      (told : word setup = .error reason) (disowned : life.owned = false) :
      Underway setup life (.burying reason)
  | interring {reason : String} (raised : Raised setup life) (ended : Over life.thread)
      (told : word setup = .error reason) (disowned : life.owned = false) :
      Underway setup life (.interring reason)

structure Starting (setup : Setup) (life : Life) : Prop where
  taken : life.startable = false
  underway : Underway setup life life.control

/-- After the first start. A thread that serves is owned, and one that never did has ended. -/
structure Started (setup : Setup) (life : Life) : Prop where
  taken : life.startable = false
  raised : Raised setup life
  past : Past life.thread
  kept : setup = .built → life.owned = true ∧ life.phase = .running
  lost : setup ≠ .built → life.owned = false ∧ life.phase = .stopped ∧ Over life.thread

def Still (thread : Thread) : Prop :=
  thread = .unborn ∨ Over thread

structure Closed (life : Life) : Prop where
  still : Still life.thread
  phase : life.phase = .stopped
  provider : life.provider = none

/-- How far a shutdown has got, by what the control thread is to do next. -/
inductive Dissolving (life : Life) : Control → Prop where
  | raising (past : Past life.thread) : Dissolving life .raising
  | joining (past : Past life.thread) (told : life.stopRequested = true) : Dissolving life .joining
  | releasing (ended : Over life.thread) : Dissolving life .releasing
  | sealing (still : Still life.thread) (released : life.provider = none) :
      Dissolving life .sealing
  | idle (closed : Closed life) : Dissolving life .idle

structure Closing (life : Life) : Prop where
  disowned : life.owned = false
  dissolving : Dissolving life life.control

inductive Sound : Handle → Prop where
  | untouched {life : Life} (h : Untouched life) : Sound ⟨life, .free, [], []⟩
  | starting {life : Life} {setup : Setup} (h : Starting setup life) :
      Sound ⟨life, .starting, [setup], []⟩
  | started {life : Life} {setup : Setup} {later : List Setup} (h : Started setup life) :
      Sound ⟨life, .free, setup :: later, answers (setup :: later)⟩
  | closing {life : Life} {again : Bool} {setups : List Setup} (h : Closing life) :
      Sound ⟨life, .closing again, setups, answers setups⟩
  | gone {life : Life} {setups : List Setup} (h : Closed life) :
      Sound ⟨life, .gone, setups, answers setups⟩

/-- A step to a state in which a handle can be, and not backwards in its phase. -/
def Advances (before after : Handle) : Prop :=
  Sound after ∧ before.life.phase.rank ≤ after.life.phase.rank

theorem rank_le_stopped (phase : Phase) : phase.rank ≤ Phase.stopped.rank := by
  cases phase with
  | uninitialized | initializing | ready | running | stopping | stopped => decide

section Calls

variable {life : Life} {setup : Setup} {later : List Setup}

theorem closing_halt (howned : life.owned = false) (hstill : Still life.thread) :
    Closing life.halt ∧ life.halt.phase = life.phase := by
  have hhalt : life.halt = { life with provider := none, control := .sealing } := by
    rw [Life.halt, howned]
    rfl
  rw [hhalt]
  exact ⟨⟨howned, .sealing hstill rfl⟩, rfl⟩

theorem advances_call_untouched (h : Untouched life) (call : Call) :
    Advances ⟨life, .free, [], []⟩ (Handle.call ⟨life, .free, [], []⟩ call) := by
  obtain ⟨hstartable, hphase, houtcome, hawake, hthread, howned⟩ := h
  cases call with
  | start setup =>
      have hspawn : life.spawn =
          (.ok (), { life with startable := false, phase := .initializing, control := .spawning }) := by
        rw [Life.spawn, hstartable]
        rfl
      simp only [Handle.call, hspawn]
      constructor
      · exact .starting ⟨rfl, .spawning hthread rfl houtcome hawake howned⟩
      · rw [hphase]
        show Phase.rank .uninitialized ≤ Phase.rank .initializing
        decide
  | provide | ask =>
      exact ⟨.untouched ⟨hstartable, hphase, houtcome, hawake, hthread, howned⟩, Nat.le_refl _⟩
  | close again =>
      obtain ⟨hclosing, hsame⟩ := closing_halt howned (Or.inl hthread)
      exact ⟨.closing hclosing, Nat.le_of_eq (congrArg Phase.rank hsame.symm)⟩

theorem Started.start (h : Started setup life) (next : Setup) :
    Handle.call ⟨life, .free, setup :: later, answers (setup :: later)⟩ (.start next) =
      ⟨life, .free, setup :: (later ++ [next]), answers (setup :: (later ++ [next]))⟩ := by
  have hspawn : life.spawn = (.error (.ofMessage "Render loop already started"), life) := by
    rw [Life.spawn, h.taken]
    rfl
  simp only [Handle.call, hspawn, answers, List.map_append]
  rfl

theorem advances_call_started (h : Started setup life) (call : Call) :
    Advances ⟨life, .free, setup :: later, answers (setup :: later)⟩
      (Handle.call ⟨life, .free, setup :: later, answers (setup :: later)⟩ call) := by
  cases call with
  | start next =>
      rw [h.start]
      exact ⟨.started h, Nat.le_refl _⟩
  | provide | ask =>
      exact ⟨.started ⟨h.taken, h.raised.congr rfl rfl, h.past, h.kept, h.lost⟩, Nat.le_refl _⟩
  | close again =>
      by_cases hbuilt : setup = .built
      · obtain ⟨howned, hphase⟩ := h.kept hbuilt
        have hhalt : life.halt =
            { life with owned := false, phase := .stopping, control := .raising } := by
          rw [Life.halt, howned]
          rfl
        simp only [Handle.call, hhalt]
        constructor
        · exact .closing ⟨rfl, .raising h.past⟩
        · rw [hphase]
          show Phase.rank .running ≤ Phase.rank .stopping
          decide
      · obtain ⟨howned, -, hover⟩ := h.lost hbuilt
        obtain ⟨hclosing, hsame⟩ := closing_halt howned (Or.inr hover)
        exact ⟨.closing hclosing, Nat.le_of_eq (congrArg Phase.rank hsame.symm)⟩

end Calls

section ControlTurns

variable {life : Life} {setup : Setup}

theorem proceed_awaiting (htaken : life.startable = false) (hcontrol : life.control = .awaiting)
    (hraised : Raised setup life) (hphase : life.phase = shown setup life.thread)
    (howned : life.owned = false) :
    life.proceed.1 = none ∧ Starting setup life.proceed.2.1 ∧
      life.proceed.2.1.phase = life.phase := by
  obtain ⟨hfound, -, -⟩ := look_spec life.outcome Life.controlWaiter
  rw [hraised.outcome] at hfound
  simp only [Life.proceed, hcontrol]
  split
  · exact ⟨rfl, ⟨htaken, by rw [hcontrol]; exact .awaiting hraised hphase howned⟩, rfl⟩
  split
  · next hlook =>
      have hlooked := hraised.look .awaiting life.owned
      rw [hlook] at hlooked
      exact ⟨rfl, ⟨htaken, .awaiting hlooked hphase howned⟩, rfl⟩
  · next hlook =>
      rw [hlook] at hfound
      have hpast : Past life.thread := past_of_said hfound.symm
      have hbuilt : setup = .built := word_eq_ok_iff.mp (said_eq_word hraised.reaches hfound.symm)
      have hlooked := hraised.look .adopting true
      rw [hlook] at hlooked
      have hready : life.phase = .ready := by
        rw [hphase, hbuilt]
        exact shown_built hpast
      exact ⟨rfl, ⟨htaken, .adopting hlooked hpast hbuilt hready rfl⟩, rfl⟩
  · next reason _ hlook =>
      rw [hlook] at hfound
      have hlooked := hraised.look (.burying reason) life.owned
      rw [hlook] at hlooked
      have hword : word setup = .error reason := said_eq_word hraised.reaches hfound.symm
      exact ⟨rfl, ⟨htaken, .burying hlooked (past_of_said hfound.symm) hword howned⟩, rfl⟩

theorem proceed_of_not_over (hthread : ¬ Over life.thread)
    (hcontrol : life.control = .joining ∨ ∃ reason, life.control = .burying reason) :
    life.proceed = (none, life, []) := by
  cases hended : life.thread with
  | ended crashed => exact absurd ⟨crashed, hended⟩ hthread
  | unborn | building | settling | announcing | serving | leaving =>
      rcases hcontrol with hcontrol | ⟨reason, hcontrol⟩
      · simp only [Life.proceed, hcontrol, hended]
      · simp only [Life.proceed, hcontrol, hended]

theorem advances_proceed_starting (h : Starting setup life) :
    Advances ⟨life, .starting, [setup], []⟩ (Handle.proceed ⟨life, .starting, [setup], []⟩) := by
  obtain ⟨htaken, hunderway⟩ := h
  generalize hcontrol : life.control = control at hunderway
  cases hunderway with
  | spawning hunborn hphase hunsaid hawake howned =>
      simp only [Handle.proceed, Life.proceed, hcontrol]
      have hraised : Raised setup { life with thread := .building, control := .awaiting } :=
        ⟨Thread.noConfusion, trivial, hunsaid, fun _ => hawake⟩
      exact ⟨.starting ⟨htaken, .awaiting hraised hphase howned⟩, Nat.le_refl _⟩
  | awaiting hraised hphase howned =>
      obtain ⟨hnone, hstarting, hsame⟩ := proceed_awaiting htaken hcontrol hraised hphase howned
      rcases hproceed : life.proceed with ⟨result, after, lines⟩
      rw [hproceed] at hnone hstarting hsame
      obtain rfl : result = none := hnone
      simp only [Handle.proceed, hproceed]
      exact ⟨.starting hstarting, Nat.le_of_eq (congrArg Phase.rank hsame.symm)⟩
  | adopting hraised hpast hbuilt hphase howned =>
      simp only [Handle.proceed, Life.proceed, hcontrol]
      refine ⟨.starting ⟨htaken, .requesting (hraised.congr rfl rfl) hpast hbuilt rfl howned⟩, ?_⟩
      rw [hphase]
      show Phase.rank .ready ≤ Phase.rank .running
      decide
  | requesting hraised hpast hbuilt hphase howned =>
      have hstarted : Started setup { life with loadRequested := true, control := .idle } :=
        ⟨htaken, hraised.congr rfl rfl, hpast, fun _ => ⟨howned, hphase⟩,
          fun hlost => absurd hbuilt hlost⟩
      simp only [Handle.proceed, Life.proceed, hcontrol]
      rw [List.nil_append, ← answers_built hbuilt]
      exact ⟨.started hstarted, Nat.le_refl _⟩
  | @burying reason hraised hpast hword howned =>
      by_cases hover : Over life.thread
      · obtain ⟨crashed, hthread⟩ := hover
        simp only [Handle.proceed, Life.proceed, hcontrol, hthread]
        exact ⟨.starting ⟨htaken, .interring (hraised.congr hthread.symm rfl) ⟨crashed, rfl⟩ hword
          howned⟩, Nat.le_refl _⟩
      · simp only [Handle.proceed, proceed_of_not_over hover (Or.inr ⟨reason, hcontrol⟩)]
        refine ⟨.starting ⟨htaken, ?_⟩, Nat.le_refl _⟩
        rw [hcontrol]
        exact .burying hraised hpast hword howned
  | interring hraised hover hword howned =>
      have hstarted : Started setup { life with phase := .stopped, control := .idle } :=
        ⟨htaken, hraised.congr rfl rfl, hover.past,
          fun hbuilt => absurd hword (by rw [hbuilt]; exact nofun), fun _ => ⟨howned, rfl, hover⟩⟩
      simp only [Handle.proceed, Life.proceed, hcontrol]
      rw [List.nil_append, ← answers_failed hword]
      exact ⟨.started hstarted, rank_le_stopped _⟩

theorem advances_proceed_closing (h : Closing life) {again : Bool} {setups : List Setup} :
    Advances ⟨life, .closing again, setups, answers setups⟩
      (Handle.proceed ⟨life, .closing again, setups, answers setups⟩) := by
  obtain ⟨howned, hdissolving⟩ := h
  generalize hcontrol : life.control = control at hdissolving
  cases hdissolving with
  | idle hclosed =>
      simp only [Handle.proceed, hcontrol]
      cases again with
      | true =>
          obtain ⟨hclosing, hsame⟩ := closing_halt howned hclosed.still
          exact ⟨.closing hclosing, Nat.le_of_eq (congrArg Phase.rank hsame.symm)⟩
      | false => exact ⟨.gone hclosed, Nat.le_refl _⟩
  | raising hpast =>
      simp only [Handle.proceed, Life.proceed, hcontrol]
      exact ⟨.closing ⟨howned, .joining hpast rfl⟩, Nat.le_refl _⟩
  | joining hpast hstop =>
      by_cases hover : Over life.thread
      · obtain ⟨crashed, hthread⟩ := hover
        simp only [Handle.proceed, Life.proceed, hcontrol, hthread]
        exact ⟨.closing ⟨howned, .releasing ⟨crashed, rfl⟩⟩, Nat.le_refl _⟩
      · simp only [Handle.proceed, hcontrol, proceed_of_not_over hover (Or.inl hcontrol)]
        refine ⟨.closing ⟨howned, ?_⟩, Nat.le_refl _⟩
        rw [hcontrol]
        exact .joining hpast hstop
  | releasing hover =>
      simp only [Handle.proceed, Life.proceed, hcontrol]
      exact ⟨.closing ⟨howned, .sealing (Or.inr hover) rfl⟩, Nat.le_refl _⟩
  | sealing hstill hprovider =>
      have hclosed : Closed { life with startable := false, phase := .stopped, control := .idle } :=
        ⟨hstill, rfl, hprovider⟩
      simp only [Handle.proceed, Life.proceed, hcontrol]
      exact ⟨.closing ⟨howned, .idle hclosed⟩, rank_le_stopped _⟩

end ControlTurns

section ThreadTurns

variable {life : Life} {setup : Setup} {later : List Setup}

theorem Still.turn (h : Still life.thread) (setup : Setup) (deed : Deed) :
    turn setup life deed = life := by
  rcases h with hunborn | hover
  · exact turn_unborn setup deed hunborn
  · exact turn_over setup deed hover

theorem starting_turn (h : Starting setup life) (deed : Deed) :
    Starting setup (turn setup life deed) ∧
      life.phase.rank ≤ (turn setup life deed).phase.rank := by
  obtain ⟨htaken, hunderway⟩ := h
  obtain ⟨hstartable, hsame, hkept, -, -⟩ := turn_frame setup life deed
  suffices hturned : Underway setup (turn setup life deed) life.control ∧
      life.phase.rank ≤ (turn setup life deed).phase.rank by
    refine ⟨⟨hstartable.trans htaken, ?_⟩, hturned.2⟩
    rw [hsame]
    exact hturned.1
  generalize life.control = control at hunderway
  cases hunderway with
  | spawning hunborn hphase hunsaid hawake howned =>
      rw [turn_unborn setup deed hunborn]
      exact ⟨.spawning hunborn hphase hunsaid hawake howned, Nat.le_refl _⟩
  | awaiting hraised hphase howned =>
      obtain ⟨hshown, hrank⟩ := hraised.turn_shown deed hphase
      exact ⟨.awaiting hraised.turn hshown (hkept.trans howned), hrank⟩
  | adopting hraised hpast hbuilt hphase howned =>
      obtain ⟨hpast', hphase'⟩ := turn_past setup deed hpast
      exact ⟨.adopting hraised.turn hpast' hbuilt (hphase'.trans hphase) (hkept.trans howned),
        Nat.le_of_eq (congrArg Phase.rank hphase'.symm)⟩
  | requesting hraised hpast hbuilt hphase howned =>
      obtain ⟨hpast', hphase'⟩ := turn_past setup deed hpast
      exact ⟨.requesting hraised.turn hpast' hbuilt (hphase'.trans hphase) (hkept.trans howned),
        Nat.le_of_eq (congrArg Phase.rank hphase'.symm)⟩
  | burying hraised hpast hword howned =>
      obtain ⟨hpast', hphase'⟩ := turn_past setup deed hpast
      exact ⟨.burying hraised.turn hpast' hword (hkept.trans howned),
        Nat.le_of_eq (congrArg Phase.rank hphase'.symm)⟩
  | interring hraised hover hword howned =>
      rw [turn_over setup deed hover]
      exact ⟨.interring hraised hover hword howned, Nat.le_refl _⟩

theorem started_turn (h : Started setup life) (deed : Deed) :
    Started setup (turn setup life deed) ∧ (turn setup life deed).phase = life.phase := by
  obtain ⟨htaken, hraised, hpast, hkept, hlost⟩ := h
  obtain ⟨hstartable, -, howned, -, -⟩ := turn_frame setup life deed
  obtain ⟨hpast', hphase⟩ := turn_past setup deed hpast
  refine ⟨⟨hstartable.trans htaken, hraised.turn, hpast', fun hbuilt => ?_, fun hunbuilt => ?_⟩, hphase⟩
  · rw [howned, hphase]
    exact hkept hbuilt
  · rw [turn_over setup deed (hlost hunbuilt).2.2]
    exact hlost hunbuilt

theorem closing_turn (h : Closing life) (setup : Setup) (deed : Deed) :
    Closing (turn setup life deed) ∧ (turn setup life deed).phase = life.phase := by
  obtain ⟨howned, hdissolving⟩ := h
  obtain ⟨-, hsame, hkept, hstop, -⟩ := turn_frame setup life deed
  suffices hturned : Dissolving (turn setup life deed) life.control ∧
      (turn setup life deed).phase = life.phase by
    refine ⟨⟨hkept.trans howned, ?_⟩, hturned.2⟩
    rw [hsame]
    exact hturned.1
  generalize life.control = control at hdissolving
  cases hdissolving with
  | raising hpast =>
      obtain ⟨hpast', hphase⟩ := turn_past setup deed hpast
      exact ⟨.raising hpast', hphase⟩
  | joining hpast htold =>
      obtain ⟨hpast', hphase⟩ := turn_past setup deed hpast
      exact ⟨.joining hpast' (hstop.trans htold), hphase⟩
  | releasing hover =>
      rw [turn_over setup deed hover]
      exact ⟨.releasing hover, rfl⟩
  | sealing hstill hprovider =>
      rw [hstill.turn setup deed]
      exact ⟨.sealing hstill hprovider, rfl⟩
  | idle hclosed =>
      rw [hclosed.still.turn setup deed]
      exact ⟨.idle hclosed, rfl⟩

end ThreadTurns

section Steps

variable {life : Life} {setup : Setup} {handle : Handle}

theorem Starting.rouse (h : Starting setup life) : Starting setup (roused life) := by
  obtain ⟨htaken, hunderway⟩ := h
  refine ⟨htaken, ?_⟩
  show Underway setup (roused life) life.control
  generalize life.control = control at hunderway
  cases hunderway with
  | spawning hunborn hphase hunsaid hawake howned =>
      refine .spawning hunborn hphase hunsaid ?_ howned
      show life.outcome.parked.filter _ = []
      rw [hawake]
      rfl
  | awaiting hraised hphase howned => exact .awaiting hraised.rouse hphase howned
  | adopting hraised hpast hbuilt hphase howned =>
      exact .adopting hraised.rouse hpast hbuilt hphase howned
  | requesting hraised hpast hbuilt hphase howned =>
      exact .requesting hraised.rouse hpast hbuilt hphase howned
  | burying hraised hpast hword howned => exact .burying hraised.rouse hpast hword howned
  | interring hraised hover hword howned => exact .interring hraised.rouse hover hword howned

theorem Closing.rouse (h : Closing life) : Closing (roused life) := by
  obtain ⟨howned, hdissolving⟩ := h
  refine ⟨howned, ?_⟩
  show Dissolving (roused life) life.control
  generalize life.control = control at hdissolving
  cases hdissolving with
  | raising hpast => exact .raising hpast
  | joining hpast htold => exact .joining hpast htold
  | releasing hover => exact .releasing hover
  | sealing hstill hprovider => exact .sealing hstill hprovider
  | idle hclosed => exact .idle ⟨hclosed.still, hclosed.phase, hclosed.provider⟩

theorem sound_rouse (h : Sound handle) : Sound { handle with life := roused handle.life } := by
  cases h with
  | untouched h =>
      obtain ⟨hstartable, hphase, houtcome, hawake, hthread, howned⟩ := h
      refine .untouched ⟨hstartable, hphase, houtcome, ?_, hthread, howned⟩
      show List.filter _ _ = []
      rw [hawake]
      rfl
  | starting h => exact .starting h.rouse
  | started h => exact .started ⟨h.taken, h.raised.rouse, h.past, h.kept, h.lost⟩
  | closing h => exact .closing h.rouse
  | gone h => exact .gone ⟨h.still, h.phase, h.provider⟩

theorem advances_of_same_phase {after : Handle} (h : Sound after)
    (hphase : after.life.phase = handle.life.phase) : Advances handle after :=
  ⟨h, Nat.le_of_eq (congrArg Phase.rank hphase.symm)⟩

/-- Whatever is called, and whichever thread takes its turn, a handle is in one of its states and
its phase does not go backwards. -/
theorem advances_step (h : Sound handle) (move : Move) : Advances handle (step handle move) := by
  have hstays : Advances handle handle := ⟨h, Nat.le_refl _⟩
  cases move with
  | rouse => exact advances_of_same_phase (sound_rouse h) rfl
  | call call =>
      cases h with
      | untouched h => exact advances_call_untouched h call
      | started h => exact advances_call_started h call
      | starting | closing | gone => exact hstays
  | control =>
      cases h with
      | starting h => exact advances_proceed_starting h
      | closing h => exact advances_proceed_closing h
      | untouched | started | gone => exact hstays
  | thread deed =>
      cases h with
      | @untouched life h =>
          have hsame := turn_unborn (Handle.setup ⟨life, .free, [], []⟩) deed h.thread
          refine advances_of_same_phase ?_ (congrArg Life.phase hsame)
          simp only [step, hsame]
          exact .untouched h
      | starting h =>
          obtain ⟨hturned, hrank⟩ := starting_turn h deed
          exact ⟨.starting hturned, hrank⟩
      | started h =>
          obtain ⟨hturned, hphase⟩ := started_turn h deed
          exact advances_of_same_phase (.started hturned) hphase
      | @closing life again setups h =>
          obtain ⟨hturned, hphase⟩ := closing_turn h (setups.headD .built) deed
          exact advances_of_same_phase (.closing hturned) hphase
      | @gone life setups h =>
          have hsame := h.still.turn (Handle.setup ⟨life, .gone, setups, answers setups⟩) deed
          refine advances_of_same_phase ?_ (congrArg Life.phase hsame)
          simp only [step, hsame]
          exact .gone h

theorem sound_new : Sound .new :=
  .untouched ⟨rfl, rfl, rfl, rfl, rfl, rfl⟩

theorem sound_run (h : Sound handle) (moves : List Move) : Sound (run step handle moves) :=
  invariant_run (I := Sound) (fun _ move h => (advances_step h move).1) h moves

end Steps

end LockScreen.Proofs.HandleStates
