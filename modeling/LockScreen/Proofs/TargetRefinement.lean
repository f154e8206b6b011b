import LockScreen.Proofs.LoopRuns

namespace LockScreen.Proofs.TargetRefinement

open LockScreen.Render LockScreen.Repeat LockScreen.Wire
open LockScreen.Proofs.Runs LockScreen.Proofs.LoopRuns

variable {x : Xkb} {σ τ : Type}

/-- A target does what another does on what the other sees of its states. -/
structure Refines (fine : Target σ) (coarse : Target τ) (view : σ → τ) : Prop where
  load : ∀ state, coarse.load (view state) =
    ((fine.load state).1, view (fine.load state).2.1, (fine.load state).2.2)
  handle : ∀ state outlet event, coarse.handle (view state) outlet event =
    ((fine.handle state outlet event).1, view (fine.handle state outlet event).2.1,
      (fine.handle state outlet event).2.2)
  draw : ∀ state, coarse.draw (view state) =
    ((fine.draw state).1, view (fine.draw state).2.1, (fine.draw state).2.2)
  read : ∀ state pixels, coarse.read (view state) pixels =
    ((fine.read state pixels).1, (fine.read state pixels).2.1,
      view (fine.read state pixels).2.2.1, (fine.read state pixels).2.2.2)

/-- What to write down about a target, given its state when it is told to load or to draw, and the
bytes that a reading left in the buffer. -/
structure Scribe (τ ν : Type) where
  load : τ → ν → ν
  draw : τ → ν → ν
  read : ByteArray → ν → ν

def Scribe.attend {ν : Type} (scribe : Scribe τ ν) (api : Target τ) : Target (τ × ν) where
  load state :=
    let (result, target, lines) := api.load state.1
    (result, (target, scribe.load state.1 state.2), lines)
  handle state outlet event :=
    let (changed, target, outlet, lines) := api.handle state.1 outlet event
    (changed, (target, state.2), outlet, lines)
  draw state :=
    let (ending, target, lines) := api.draw state.1
    (ending, (target, scribe.draw state.1 state.2), lines)
  read state pixels :=
    let (ending, pixels, target, lines) := api.read state.1 pixels
    (ending, pixels, (target, scribe.read pixels state.2), lines)

theorem attend_refines {ν : Type} (scribe : Scribe τ ν) (api : Target τ) :
    Refines (scribe.attend api) api Prod.fst where
  load _ := rfl
  handle _ _ _ := rfl
  draw _ := rfl
  read _ _ := rfl

def image (view : σ → τ) (machine : Machine x σ) : Machine x τ where
  life := machine.life
  dispatcher := machine.dispatcher
  listening := machine.listening
  loaded := machine.loaded
  dirty := machine.dirty
  target := view machine.target
  input := machine.input
  outlet := machine.outlet
  memory := machine.memory

def courseImage (view : σ → τ) (course : Course x σ) : Course x τ :=
  ⟨image view course.machine, course.place, course.log⟩

section Steps

variable {fine : Target σ} {coarse : Target τ} {view : σ → τ}

theorem load_image (h : Refines fine coarse view) (machine : Machine x σ) :
    (image view machine).load coarse =
      ((machine.load fine).1, image view (machine.load fine).2.1, (machine.load fine).2.2) := by
  cases hdone : machine.loaded || !machine.life.loadRequested with
  | true =>
      simp only [Machine.load, image, hdone, if_true]
  | false =>
      cases hending : (fine.load machine.target).1 with
      | done | failed =>
          simp only [Machine.load, image, h.load, hdone, hending, Bool.false_eq_true, if_false]
      | crashed =>
          simp only [Machine.load, image, h.load, hdone, hending, Bool.false_eq_true, if_false]
          rfl

theorem listen_image (machine : Machine x σ) (files : Nat → SharedFile)
    (now : Nat → Instant) (poll : Poll) :
    (image view machine).listen files now poll =
      (image view (machine.listen files now poll).1, (machine.listen files now poll).2) := by
  cases hlistening : machine.listening with
  | false => simp only [Machine.listen, image, hlistening, Bool.false_eq_true, if_false]
  | true =>
      cases poll with
      | interrupted | failed => simp only [Machine.listen, image, hlistening, if_true]
      | answered =>
          cases hreadable : Machine.readable machine.input with
          | true | false =>
              simp only [Machine.listen, image, hlistening, hreadable, if_true, Bool.false_eq_true,
                if_false]

theorem deliverOne_image (h : Refines fine coarse view) (machine : Machine x σ)
    (event : SceneEvent) :
    (image view machine).deliverOne coarse event =
      ((machine.deliverOne fine event).1, image view (machine.deliverOne fine event).2.1,
        (machine.deliverOne fine event).2.2) := by
  cases hchanged : (fine.handle machine.target machine.outlet event).1 with
  | some => simp only [Machine.deliverOne, image, h.handle, hchanged]
  | none =>
      simp only [Machine.deliverOne, image, h.handle, hchanged]
      rfl

theorem draw_image (h : Refines fine coarse view) (machine : Machine x σ) :
    (image view machine).draw coarse =
      ((machine.draw fine).1, image view (machine.draw fine).2.1, (machine.draw fine).2.2) := by
  cases hending : (fine.draw machine.target).1 with
  | done | failed => simp only [Machine.draw, image, h.draw, hending]
  | crashed =>
      simp only [Machine.draw, image, h.draw, hending]
      rfl

theorem fill_image (h : Refines fine coarse view) (pixels : ByteArray)
    (state : σ × List Happening) :
    Machine.fill coarse pixels (view state.1, state.2) =
      ((Machine.fill fine pixels state).1, (Machine.fill fine pixels state).2.1,
        view (Machine.fill fine pixels state).2.2.1,
        (Machine.fill fine pixels state).2.2.2) := by
  cases hending : (fine.read state.1 pixels).1 with
  | done | failed | crashed => simp only [Machine.fill, h.read, hending]

theorem fillNext_map {σ τ : Type} {view : σ → τ} {fine : Frame.Filler σ}
    {coarse : Frame.Filler τ}
    (h : ∀ pixels state, coarse pixels (view state) =
      ((fine pixels state).1, (fine pixels state).2.1, view (fine pixels state).2.2))
    (provider : Frame.Provider) (memory : Frame.Memory) (state : σ) :
    provider.fillNext memory coarse (view state) =
      ((provider.fillNext memory fine state).1, (provider.fillNext memory fine state).2.1,
        view (provider.fillNext memory fine state).2.2.1,
        (provider.fillNext memory fine state).2.2.2) := by
  cases provider with
  | pool index =>
      simp only [Frame.Provider.fillNext]
      cases memory.pools[index]? with
      | none => rfl
      | some asked =>
          simp only [Frame.Pool.fillNext]
          cases Frame.Pool.firstFree 0 asked.slots with
          | none => rfl
          | some free =>
              rcases hfilled : fine free.2 state with ⟨verdict, pixels, after⟩
              simp only [h, hfilled]
              cases verdict <;> rfl
  | lender index =>
      simp only [Frame.Provider.fillNext]
      cases memory.lenders[index]? with
      | none => rfl
      | some asked =>
          simp only [Frame.Lender.fillNext, h]
          split <;> rfl

theorem acquire_image (h : Refines fine coarse view) (machine : Machine x σ) :
    (image view machine).acquire coarse =
      ((machine.acquire fine).1, image view (machine.acquire fine).2.1,
        (machine.acquire fine).2.2) := by
  cases hprovider : machine.life.provider with
  | none => simp only [Machine.acquire, image, hprovider]
  | some provider =>
      have hcoarse := @fillNext_map _ _ (fun state => (view state.1, state.2)) _ _
        (fill_image h) provider machine.memory (machine.target, [])
      rcases hfill : provider.fillNext machine.memory (Machine.fill fine)
        (machine.target, []) with ⟨acquired, memory, ⟨target, happenings⟩, lines⟩
      rw [hfill] at hcoarse
      cases acquired with
      | granted | refused => simp only [Machine.acquire, image, hprovider, hfill, hcoarse]
      | crashed =>
          simp only [Machine.acquire, image, hprovider, hfill, hcoarse]
          rfl

theorem publish_image (machine : Machine x σ) (handle : UInt64) :
    (image view machine).publish handle =
      ((machine.publish handle).1, image view (machine.publish handle).2.1,
        (machine.publish handle).2.2) := by
  rcases hsent : machine.outlet.frameReady handle with ⟨_ | _, outlet, lines⟩
  · simp only [Machine.publish, image, hsent]
  · simp only [Machine.publish, image, hsent]

theorem giveBack_image (machine : Machine x σ) (handle : UInt64) :
    (image view machine).giveBack handle =
      (image view (machine.giveBack handle).1, (machine.giveBack handle).2) := by
  cases hprovider : machine.life.provider with
  | none | some => simp only [Machine.giveBack, image, hprovider]

theorem advance_image (h : Refines fine coarse view) (world : World) (machine : Machine x σ)
    (place : Place) :
    advance coarse world (image view machine) place =
      (image view (advance fine world machine place).1,
        (advance fine world machine place).2) := by
  cases place with
  | checking =>
      cases hstop : machine.life.stopRequested with
      | true | false =>
          simp only [advance, image, hstop]
          rfl
  | loading => simp only [advance, load_image h]
  | listening => simp only [advance, listen_image]
  | ticking => rfl
  | delivering events =>
      cases events with
      | nil => rfl
      | cons event rest => simp only [advance, deliverOne_image h]
  | taking => rfl
  | deciding =>
      have hundue : ({ image view machine with dirty := false } : Machine x τ) =
          image view { machine with dirty := false } := rfl
      have hsame : ((image view machine).dirty && (image view machine).loaded) =
          (machine.dirty && machine.loaded) := rfl
      simp only [advance, hsame, hundue, draw_image h]
      split <;> rfl
  | acquiring => simp only [advance, acquire_image h]
  | publishing handle => simp only [advance, publish_image]
  | returning handle => simp only [advance, giveBack_image]
  | ending =>
      cases hthread : machine.life.thread with
      | serving | unborn | building | settling | announcing | leaving | ended =>
          simp only [advance, image, hthread]
  | gone => rfl

theorem act_image (machine : Machine x σ) (deed : Deed) :
    deed.act (image view machine) = image view (deed.act machine) := by
  cases deed <;> rfl

theorem step_image (h : Refines fine coarse view) (course : Course x σ) (move : Move) :
    step coarse (courseImage view course) move = courseImage view (step fine course move) := by
  cases move with
  | thread world => simp only [step, courseImage, advance_image h]
  | others deed => simp only [step, courseImage, act_image]

/-- A run with the target that knows more is one with the other, seen through the view. -/
theorem run_image (h : Refines fine coarse view) (course : Course x σ) (moves : List Move) :
    run (step coarse) (courseImage view course) moves =
      courseImage view (run (step fine) course moves) :=
  run_view (step_image h) course moves

end Steps

end LockScreen.Proofs.TargetRefinement
