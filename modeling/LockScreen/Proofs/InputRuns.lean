import LockScreen.Proofs.InputDraining
import LockScreen.Proofs.LoopRuns

/-!
Runs of a render thread with its input in view. The producer may write between any two readings,
whatever it likes, and it is kept in mind what it wrote and what was done with the dispatcher. What
a thread does that is left alone while it reads is what it does in a single step of its loop.
-/

namespace LockScreen.Proofs.InputRuns

open LockScreen.Render LockScreen.Repeat LockScreen.Wire
open LockScreen.Proofs.Runs LockScreen.Proofs.InputDraining
open LockScreen.Proofs.LoopRuns (World Deed Place Entry Course Completes)
open LockScreen.Proofs.DispatcherRuns (Step)

variable {x : Xkb} {τ : Type}

def Favour : Type :=
  { deed : Deed // ∀ pipe, deed ≠ .input pipe }

inductive Move where
  | thread (world : World)
  | others (favour : Favour)
  | write (bytes : List UInt8)
  | hangUp

def Move.isOwn : Move → Bool
  | thread _ | others _ => true
  | write _ | hangUp => false

def Move.Whole : Move → Prop
  | write bytes => bytes.length = 24
  | thread _ | others _ | hangUp => True

structure Intake (x : Xkb) (τ : Type) where
  course : Course x τ
  reading : Bool
  written : List (List UInt8)
  steps : List Step

namespace Intake

def hear (intake : Intake x τ) (world : World) : Intake x τ :=
  let machine := intake.course.machine
  let (ending, input, dispatcher, happenings) :=
    Machine.hear world.files (world.now 0) machine.input machine.dispatcher
  let log := intake.course.log ++ happenings.map .happened
  let steps :=
    intake.steps ++ (dispatched happenings).map (.dispatch world.files · (world.now 0))
  match ending with
  | none => { intake with course := ⟨{ machine with dispatcher, input }, .listening, log⟩, steps }
  | some usable =>
      { intake with
        course :=
          ⟨{ machine with
              dispatcher, listening := usable
              input := if usable then input else input.closeReader },
            .ticking, log⟩
        reading := false
        steps }

def ticks (world : World) : Place → List Step
  | .ticking => [.tick (world.now 0), .drain]
  | _ => []

def finds (intake : Intake x τ) (world : World) : Bool :=
  intake.course.machine.listening && decide (world.poll = .answered) &&
    Machine.readable intake.course.machine.input

def advance (api : Target τ) (intake : Intake x τ) (world : World) : Intake x τ :=
  match intake.course.place with
  | .listening =>
      if intake.reading then intake.hear world
      else if intake.finds world then { intake with reading := true }
      else { intake with course := LoopRuns.step api intake.course (.thread world) }
  | place =>
      { intake with
        course := LoopRuns.step api intake.course (.thread world)
        steps := intake.steps ++ ticks world place }

def produce (intake : Intake x τ) (deed : PipeTraffic.Deed) : Intake x τ :=
  let machine := intake.course.machine
  { intake with
    course := { intake.course with
      machine := { machine with input := PipeTraffic.step machine.input deed } }
    written := intake.written ++ PipeTraffic.written machine.input deed }

end Intake

def step (api : Target τ) (intake : Intake x τ) : Move → Intake x τ
  | .thread world => intake.advance api world
  | .others favour =>
      { intake with course := LoopRuns.step api intake.course (.others favour.1) }
  | .write bytes => intake.produce (.write bytes)
  | .hangUp => intake.produce .closeWriter

def start (life : Life) (timing : Option Timing) (target : τ) (input : Pipe) (outlet : Outlet)
    (memory : Frame.Memory) : Intake x τ :=
  ⟨LoopRuns.start life timing target input outlet memory, false, [], []⟩

theorem log_hear (intake : Intake x τ) (world : World) :
    (intake.hear world).course.log = intake.course.log ++
      (Machine.hear world.files (world.now 0) intake.course.machine.input
        intake.course.machine.dispatcher).2.2.2.map .happened := by
  unfold Intake.hear
  dsimp only
  split <;> rfl

theorem target_hear (intake : Intake x τ) (world : World) :
    (intake.hear world).course.machine.target = intake.course.machine.target := by
  unfold Intake.hear
  dsimp only
  split <;> rfl

theorem advance_of_ne (api : Target τ) {intake : Intake x τ} (world : World)
    (h : intake.course.place ≠ .listening) :
    intake.advance api world =
      { intake with
        course := LoopRuns.step api intake.course (.thread world)
        steps := intake.steps ++ Intake.ticks world intake.course.place } := by
  unfold Intake.advance
  split
  · rename_i hplace
    exact absurd hplace h
  · rfl

theorem advance_of_ne_ticking (api : Target τ) {intake : Intake x τ} (world : World)
    (hlistening : intake.course.place ≠ .listening) (hticking : intake.course.place ≠ .ticking) :
    intake.advance api world =
      { intake with course := LoopRuns.step api intake.course (.thread world) } := by
  have hticks : Intake.ticks world intake.course.place = [] := by
    unfold Intake.ticks
    split
    · rename_i hplace
      exact absurd hplace hticking
    · rfl
  rw [advance_of_ne api world hlistening, hticks, List.append_nil]

theorem listen_of_not_finds {intake : Intake x τ} {world : World} (h : intake.finds world = false) :
    intake.course.machine.listen world.files world.now world.poll =
      (intake.course.machine, []) ∨
    ∃ cause, world.poll = .failed cause ∧
      intake.course.machine.listen world.files world.now world.poll =
        ({ intake.course.machine with
            listening := false, input := intake.course.machine.input.closeReader },
          [Machine.note .error s!"poll failed: {cause}"]) := by
  unfold Machine.listen
  cases hlistening : intake.course.machine.listening with
  | false => exact Or.inl rfl
  | true =>
      cases hpoll : world.poll with
      | interrupted => exact Or.inl rfl
      | failed cause => exact Or.inr ⟨cause, rfl, rfl⟩
      | answered =>
          have hreadable : Machine.readable intake.course.machine.input = false := by
            simpa [Intake.finds, hlistening, hpoll] using h
          simp [hreadable]

section Alone

variable (api : Target τ) {files : Nat → SharedFile} {now : Nat → Instant}

def settled (course : Course x τ) (outcome : Bool × Pipe × Dispatcher x × List Happening) :
    Course x τ :=
  ⟨{ course.machine with
      dispatcher := outcome.2.2.1
      listening := outcome.1
      input := if outcome.1 then outcome.2.1 else outcome.2.1.closeReader },
    .ticking, course.log ++ outcome.2.2.2.map .happened⟩

end Alone

end LockScreen.Proofs.InputRuns
