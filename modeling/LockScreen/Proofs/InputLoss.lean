import LockScreen.Proofs.InputRuns
import LockScreen.Proofs.QuietSteps

namespace LockScreen.Proofs.InputLoss

open LockScreen.Render LockScreen.Repeat LockScreen.Wire
open LockScreen.Proofs.Runs LockScreen.Proofs.LoopSteps
open LockScreen.Proofs.LoopRuns (World Deed Place Entry advance)
open LockScreen.Proofs.InputDraining LockScreen.Proofs.InputRuns LockScreen.Proofs.QuietSteps

variable {x : Xkb} {τ : Type}

def attach (listening : Bool) (input : Pipe) (machine : Machine x τ) : Machine x τ :=
  { machine with listening, input }

section Steps

variable (api : Target τ) (listening : Bool) (input : Pipe) (machine : Machine x τ)

theorem load_attach :
    ∃ listening' input', (listening' = listening ∧ input' = input ∨ listening' = false) ∧
      (attach listening input machine).load api =
        ((machine.load api).1, attach listening' input' (machine.load api).2.1,
          (machine.load api).2.2) := by
  cases hdone : machine.loaded || !machine.life.loadRequested with
  | true =>
      refine ⟨listening, input, Or.inl ⟨rfl, rfl⟩, ?_⟩
      simp only [Machine.load, attach, hdone, if_true]
  | false =>
      rcases hload : api.load machine.target with ⟨_ | fault | _, target, lines⟩
      · refine ⟨listening, input, Or.inl ⟨rfl, rfl⟩, ?_⟩
        simp only [Machine.load, attach, hdone, hload, Bool.false_eq_true, if_false]
      · refine ⟨listening, input, Or.inl ⟨rfl, rfl⟩, ?_⟩
        simp only [Machine.load, attach, hdone, hload, Bool.false_eq_true, if_false]
      · refine ⟨false, input.closeReader, Or.inr rfl, ?_⟩
        simp only [Machine.load, attach, hdone, hload, Bool.false_eq_true, if_false]
        rfl

theorem deliverOne_attach (event : SceneEvent) :
    ∃ listening' input', (listening' = listening ∧ input' = input ∨ listening' = false) ∧
      (attach listening input machine).deliverOne api event =
        ((machine.deliverOne api event).1, attach listening' input' (machine.deliverOne api event).2.1,
          (machine.deliverOne api event).2.2) := by
  rcases hhandle : api.handle machine.target machine.outlet event with
    ⟨_ | changed, target, outlet, lines⟩
  · refine ⟨false, input.closeReader, Or.inr rfl, ?_⟩
    simp only [Machine.deliverOne, attach, hhandle]
    rfl
  · refine ⟨listening, input, Or.inl ⟨rfl, rfl⟩, ?_⟩
    simp only [Machine.deliverOne, attach, hhandle]

theorem draw_attach :
    ∃ listening' input', (listening' = listening ∧ input' = input ∨ listening' = false) ∧
      { attach listening input machine with dirty := false }.draw api =
        (({ machine with dirty := false }.draw api).1,
          attach listening' input' ({ machine with dirty := false }.draw api).2.1,
          ({ machine with dirty := false }.draw api).2.2) := by
  rcases hdraw : api.draw machine.target with ⟨_ | fault | _, target, lines⟩ <;>
    simp only [Machine.draw, attach, hdraw]
  · exact ⟨listening, input, Or.inl ⟨rfl, rfl⟩, rfl⟩
  · exact ⟨listening, input, Or.inl ⟨rfl, rfl⟩, rfl⟩
  · exact ⟨false, input.closeReader, Or.inr rfl, rfl⟩

theorem acquire_attach :
    ∃ listening' input', (listening' = listening ∧ input' = input ∨ listening' = false) ∧
      (attach listening input machine).acquire api =
        ((machine.acquire api).1, attach listening' input' (machine.acquire api).2.1,
          (machine.acquire api).2.2) := by
  cases hprovider : machine.life.provider with
  | none =>
      refine ⟨listening, input, Or.inl ⟨rfl, rfl⟩, ?_⟩
      simp only [Machine.acquire, attach, hprovider]
  | some provider =>
      rcases hfill : provider.fillNext machine.memory (Machine.fill api) (machine.target, []) with
        ⟨acquired, memory, ⟨target, happenings⟩, lines⟩
      cases acquired with
      | crashed =>
          refine ⟨false, input.closeReader, Or.inr rfl, ?_⟩
          simp only [Machine.acquire, attach, hprovider, hfill]
          rfl
      | granted | refused =>
          refine ⟨listening, input, Or.inl ⟨rfl, rfl⟩, ?_⟩
          simp only [Machine.acquire, attach, hprovider, hfill]

theorem advance_attach (world : World) {place : Place} (hplace : place ≠ .listening) :
    ∃ listening' input', (listening' = listening ∧ input' = input ∨ listening' = false) ∧
      advance api world (attach listening input machine) place =
        (attach listening' input' (advance api world machine place).1,
          (advance api world machine place).2) := by
  have hsame : (listening = listening ∧ input = input ∨ listening = false) := Or.inl ⟨rfl, rfl⟩
  cases place with
  | checking =>
      cases hstop : machine.life.stopRequested with
      | true =>
          refine ⟨false, input.closeReader, Or.inr rfl, ?_⟩
          simp only [advance, attach, hstop, if_true]
          rfl
      | false =>
          refine ⟨listening, input, hsame, ?_⟩
          simp only [advance, attach, hstop, Bool.false_eq_true, if_false]
  | loading =>
      obtain ⟨listening', input', hinput, hload⟩ := load_attach api listening input machine
      refine ⟨listening', input', hinput, ?_⟩
      simp only [advance, hload]
  | listening => exact absurd rfl hplace
  | delivering events =>
      cases events with
      | nil => exact ⟨listening, input, hsame, rfl⟩
      | cons event rest =>
          obtain ⟨listening', input', hinput, hdeliver⟩ :=
            deliverOne_attach api listening input machine event
          refine ⟨listening', input', hinput, ?_⟩
          simp only [advance, hdeliver]
  | ticking | taking => exact ⟨listening, input, hsame, rfl⟩
  | deciding =>
      cases hdue : machine.dirty && machine.loaded with
      | true =>
          obtain ⟨listening', input', hinput, hdraw⟩ := draw_attach api listening input machine
          refine ⟨listening', input', hinput, ?_⟩
          have hdue' : ((attach listening input machine).dirty &&
            (attach listening input machine).loaded) = true := hdue
          simp only [advance, hdue, hdue', if_true, hdraw]
      | false =>
          refine ⟨listening, input, hsame, ?_⟩
          simp only [advance, attach, hdue, Bool.false_eq_true, if_false]
  | acquiring =>
      obtain ⟨listening', input', hinput, hacquire⟩ := acquire_attach api listening input machine
      refine ⟨listening', input', hinput, ?_⟩
      simp only [advance, hacquire]
  | publishing handle =>
      refine ⟨listening, input, hsame, ?_⟩
      rcases hsent : machine.outlet.frameReady handle with ⟨_ | _, outlet, lines⟩ <;>
        simp only [advance, Machine.publish, attach, hsent]
  | returning handle =>
      refine ⟨listening, input, hsame, ?_⟩
      cases hprovider : machine.life.provider with
      | none | some => simp only [advance, Machine.giveBack, attach, hprovider]
  | ending =>
      refine ⟨listening, input, hsame, ?_⟩
      cases hthread : machine.life.thread with
      | serving | unborn | building | settling | announcing | leaving | ended =>
          simp only [advance, attach, hthread]
  | gone => exact ⟨listening, input, hsame, rfl⟩

theorem advance_answered (world : World) {place : Place} (hplace : place ≠ .listening) :
    advance api { world with poll := .answered } machine place =
      advance api world machine place := by
  cases place with
  | listening => exact absurd rfl hplace
  | delivering events =>
      cases events with
      | nil | cons => rfl
  | checking | loading | ticking | taking | deciding | acquiring | publishing | returning | ending
  | gone => rfl

theorem act_attach {deed : Deed} (h : ∀ pipe, deed ≠ .input pipe) :
    deed.act (attach listening input machine) = attach listening input (deed.act machine) := by
  cases deed with
  | input pipe => exact absurd rfl (h pipe)
  | ask | look | provide | stop | join | outlet | memory => rfl

end Steps

def answered : Move → Move
  | .thread world => .thread { world with poll := .answered }
  | .others favour => .others favour
  | .write bytes => .write bytes
  | .hangUp => .hangUp

/-- A thread that lost its input, and one like it that still listens to an input where nothing
comes. -/
structure Alike (lost idle : Intake x τ) : Prop where
  place : lost.course.place = idle.course.place
  log : lost.course.log = idle.course.log
  steps : lost.steps = idle.steps
  machine : lost.course.machine =
    attach false lost.course.machine.input idle.course.machine
  silent : idle.course.machine.listening = true →
    idle.course.machine.input.queue = [] ∧ idle.course.machine.input.writerOpen = true
  reading : lost.reading = false ∧ idle.reading = false

section Lost

variable (api : Target τ) {lost idle : Intake x τ}

theorem Alike.thread (h : Alike lost idle) (world : World) :
    Alike (lost.advance api world) (idle.advance api { world with poll := .answered }) := by
  obtain ⟨⟨machine, place, log⟩, reading, written, steps⟩ := lost
  obtain ⟨⟨machine', place', log'⟩, reading', written', steps'⟩ := idle
  obtain ⟨hplace, hlog, hsteps, hmachine, hsilent, hreading, hreading'⟩ := h
  dsimp only at hplace hlog hsteps hmachine hsilent hreading hreading'
  subst hplace hlog hsteps hreading hreading'
  have hlost : machine.listening = false := congrArg Machine.listening hmachine
  by_cases hlistening : place = .listening
  · subst hlistening
    -- One does not listen, and there is nothing to read for the other: both go on to tick.
    have hidle : (machine'.listening && Machine.readable machine'.input) = false := by
      cases hlisten : machine'.listening with
      | false => rfl
      | true =>
          obtain ⟨hqueue, hopen⟩ := hsilent hlisten
          simp [Machine.readable, hqueue, hopen]
    have hstay : machine.listen world.files world.now world.poll = (machine, []) := by
      simp only [Machine.listen, hlost, Bool.false_eq_true, if_false]
    have hstay' : machine'.listen world.files world.now .answered = (machine', []) := by
      unfold Machine.listen
      split
      · rename_i hlisten
        rw [hlisten, Bool.true_and] at hidle
        simp only [hidle, Bool.false_eq_true, if_false]
      · rfl
    simp only [Intake.advance, Intake.finds, hlost, hidle, Bool.false_and, Bool.and_true, decide_true,
      Bool.false_eq_true, if_false, LoopRuns.step, advance, hstay, hstay']
    exact ⟨rfl, rfl, rfl, hmachine, hsilent, rfl, rfl⟩
  · rw [advance_of_ne api world hlistening, advance_of_ne api _ hlistening]
    obtain ⟨listening, input, hinput, hadvance⟩ :=
      advance_attach api false machine.input machine' world hlistening
    obtain ⟨listening', input', hinput', hself⟩ :=
      advance_attach api machine'.listening machine'.input machine' world hlistening
    have hfalse : listening = false := hinput.elim And.left id
    rw [← hmachine, hfalse] at hadvance
    have hafter : (advance api world machine' place).1 =
        attach listening' input' (advance api world machine' place).1 := congrArg Prod.fst hself
    simp only [LoopRuns.step, advance_answered api machine' world hlistening, hadvance]
    refine ⟨rfl, rfl, ?_, rfl, ?_, rfl, rfl⟩
    · cases place <;> rfl
    · show (advance api world machine' place).1.listening = true → _
      rw [hafter]
      rcases hinput' with ⟨rfl, rfl⟩ | rfl
      · exact hsilent
      · exact fun hlisten => absurd hlisten Bool.false_ne_true

theorem Alike.others (h : Alike lost idle) (favour : Favour) :
    Alike (step api lost (.others favour)) (step api idle (.others favour)) := by
  have hact := act_attach false lost.course.machine.input idle.course.machine favour.2
  have hlost := input_act lost.course.machine favour.2
  have hidle := input_act idle.course.machine favour.2
  refine ⟨h.place, ?_, h.steps, ?_, ?_, h.reading⟩
  · exact congrArg (· ++ [Entry.did favour.1]) h.log
  · show favour.1.act lost.course.machine =
      attach false (favour.1.act lost.course.machine).input (favour.1.act idle.course.machine)
    rw [hlost, ← hact, ← h.machine]
  · show (favour.1.act idle.course.machine).listening = true → _
    rw [(untouched_act idle.course.machine favour.1).listening]
    show _ → (favour.1.act idle.course.machine).input.queue = [] ∧
      (favour.1.act idle.course.machine).input.writerOpen = true
    rw [hidle]
    exact h.silent

theorem Alike.produce (h : Alike lost idle) (deed : PipeTraffic.Deed) :
    Alike (lost.produce deed) idle := by
  refine ⟨h.place, h.log, h.steps, ?_, h.silent, h.reading⟩
  show ({ lost.course.machine with input := _ } : Machine x τ) = _
  rw [h.machine]
  rfl

/-- What the producer does makes no difference any more, and all else makes the same difference. -/
theorem Alike.run (h : Alike lost idle) (moves : List Move) :
    Alike (Runs.run (step api) lost moves)
      (Runs.run (step api) idle ((moves.filter Move.isOwn).map answered)) := by
  induction moves generalizing lost idle with
  | nil => exact h
  | cons first rest ih =>
      cases first with
      | thread world => exact ih (h.thread api world)
      | others favour => exact ih (h.others api favour)
      | write bytes => exact ih (h.produce (.write bytes))
      | hangUp => exact ih (h.produce .closeWriter)

end Lost

end LockScreen.Proofs.InputLoss
