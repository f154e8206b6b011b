import LockScreen.Proofs.LoopRuns

/-!
All that a step of the render thread can do: one case for each way in which it can end, with the
machine it leaves, where the thread is then, and what the log tells of the scene and the input. What
a step keeps is read off these cases.
-/

namespace LockScreen.Proofs.LoopSteps

open LockScreen.Render LockScreen.Repeat LockScreen.Wire
open LockScreen.Proofs.LoopRuns

variable {x : Xkb} {σ τ : Type}

/-- An entry tells of the thread itself, of a load, or of a record or an event that was
handed on. -/
def tells : Entry → Bool
  | .happened (.loaded _) | .happened (.dispatched _) | .happened (.delivered _ _) => true
  | .happened _ => false
  | .began | .ended | .took _ | .drawing | .did _ => true

def essence (entries : List Entry) : List Entry :=
  entries.filter tells

@[simp] theorem essence_append (first second : List Entry) :
    essence (first ++ second) = essence first ++ essence second :=
  List.filter_append ..

@[simp] theorem essence_effects (effects : List Effect) :
    essence ((effects.map Happening.effect).map .happened) = [] := by
  rw [essence, List.filter_eq_nil_iff]
  simp [tells]

@[simp] theorem essence_logged (lines : List Log.Line) :
    essence ((Machine.logged lines).map .happened) = [] := by
  rw [essence, List.filter_eq_nil_iff]
  simp [tells, Machine.logged]

@[simp] theorem essence_die (machine : Machine x τ) (crashed : Bool) :
    essence ((machine.die crashed).2.map .happened) = [] :=
  essence_effects _

theorem filterMap_essence {α : Type} {read : Entry → Option α}
    (hread : ∀ entry, tells entry = false → read entry = none) (entries : List Entry) :
    (essence entries).filterMap read = entries.filterMap read := by
  rw [essence, List.filterMap_filter]
  refine congrArg (List.filterMap · entries) (funext fun entry => ?_)
  cases htells : tells entry with
  | true => rfl
  | false => exact (hread entry htells).symm

/-- What a filler was asked to fill, if anything, and left behind. -/
theorem fillNext_state (provider : Frame.Provider) (memory : Frame.Memory) (fill : Frame.Filler σ)
    (state : σ) :
    (provider.fillNext memory fill state).2.2.1 = state ∨
      ∃ pixels, (provider.fillNext memory fill state).2.2.1 = (fill pixels state).2.2 := by
  cases provider with
  | pool index =>
      simp only [Frame.Provider.fillNext]
      split
      · exact Or.inl rfl
      · simp only [Frame.Pool.fillNext]
        split
        · exact Or.inl rfl
        · rename_i number pixels _
          refine Or.inr ⟨pixels, ?_⟩
          rcases fill pixels state with ⟨_ | _ | _, written, after⟩ <;> rfl
  | lender index =>
      simp only [Frame.Provider.fillNext]
      split
      · exact Or.inl rfl
      · simp only [Frame.Lender.fillNext]
        split
        · exact Or.inl rfl
        · exact Or.inr ⟨_, rfl⟩

theorem fill_state (api : Target τ) (pixels : ByteArray) (state : τ × List Happening) :
    (Machine.fill api pixels state).2.2.1 = (api.read state.1 pixels).2.2.1 ∧
      essence ((Machine.fill api pixels state).2.2.2.map .happened) =
        essence (state.2.map .happened) := by
  rcases hread : api.read state.1 pixels with ⟨_ | fault | _, written, target, lines⟩ <;>
    simp only [Machine.fill, hread, List.map_append, essence_append, essence_logged, List.append_nil]
  · exact ⟨trivial, List.append_nil _⟩
  · exact ⟨trivial, List.append_nil _⟩
  · exact ⟨trivial, trivial⟩

def ReadsBack (api : Target τ) (before after : τ) : Prop :=
  after = before ∨ ∃ pixels, after = (api.read before pixels).2.2.1

theorem fillNext_target {api : Target τ} {provider : Frame.Provider}
    {memory memory' : Frame.Memory} {before after : τ} {acquired : Frame.Acquisition}
    {happenings : List Happening} {lines : List Log.Line}
    (h : provider.fillNext memory (Machine.fill api) (before, []) =
      (acquired, memory', (after, happenings), lines)) :
    ReadsBack api before after ∧ essence (happenings.map .happened) = [] := by
  have hstate := fillNext_state provider memory (Machine.fill api) (before, [])
  rw [h] at hstate
  rcases hstate with hsame | ⟨pixels, hfilled⟩
  · cases hsame
    exact ⟨Or.inl rfl, rfl⟩
  · obtain ⟨htarget, hessence⟩ := fill_state api pixels (before, [])
    rw [← hfilled] at htarget hessence
    exact ⟨Or.inr ⟨pixels, htarget⟩, hessence⟩

section Lives

variable (life : Life)

theorem finish_keeps (crashed : Bool) :
    (life.finish crashed).renderRequested = life.renderRequested ∧
      (life.finish crashed).provider = life.provider := by
  unfold Life.finish
  split <;> exact ⟨rfl, rfl⟩

theorem look_keeps :
    life.look.2.1.thread = life.thread ∧
      life.look.2.1.renderRequested = life.renderRequested ∧
      life.look.2.1.provider = life.provider := by
  unfold Life.look
  split
  · split <;> exact ⟨rfl, rfl, rfl⟩
  · exact ⟨rfl, rfl, rfl⟩

theorem requestStop_keeps :
    life.requestStop.thread = life.thread ∧
      life.requestStop.renderRequested = life.renderRequested ∧
      (life.owned = true → life.requestStop.provider = life.provider) := by
  unfold Life.requestStop
  split
  · exact ⟨rfl, rfl, fun _ => rfl⟩
  · rename_i howned
    exact ⟨rfl, rfl, fun h => absurd h howned⟩

theorem join_keeps :
    life.join.1.thread = life.thread ∧ life.join.1.renderRequested = life.renderRequested := by
  unfold Life.join
  split <;> exact ⟨rfl, rfl⟩

/-- What others have no hand in. -/
structure Untouched (before after : Machine x τ) : Prop where
  dispatcher : after.dispatcher = before.dispatcher
  listening : after.listening = before.listening
  loaded : after.loaded = before.loaded
  dirty : after.dirty = before.dirty
  target : after.target = before.target
  thread : after.life.thread = before.life.thread

theorem untouched_act (machine : Machine x τ) (deed : Deed) : Untouched machine (deed.act machine) := by
  cases deed with
  | ask | provide | input | outlet | memory => exact ⟨rfl, rfl, rfl, rfl, rfl, rfl⟩
  | look => exact ⟨rfl, rfl, rfl, rfl, rfl, (look_keeps _).1⟩
  | stop => exact ⟨rfl, rfl, rfl, rfl, rfl, (requestStop_keeps _).1⟩
  | join => exact ⟨rfl, rfl, rfl, rfl, rfl, (join_keeps _).1⟩

end Lives

section Advances

variable (api : Target τ) (world : World) (machine : Machine x τ)

def attempted : Machine x τ :=
  { machine with
    life := { machine.life with loadRequested := false }
    loaded := true
    dirty := true
    target := (api.load machine.target).2.1 }

def handed (event : SceneEvent) : Machine x τ :=
  { machine with
    target := (api.handle machine.target machine.outlet event).2.1
    outlet := (api.handle machine.target machine.outlet event).2.2.1
    dirty := machine.dirty || (api.handle machine.target machine.outlet event).1.getD false }

def painted : Machine x τ :=
  { machine with
    dirty := false
    target := (api.draw machine.target).2.1 }

inductive Advances : Place → Machine x τ → Place → List Entry → Prop
  | leaves : machine.life.stopRequested = true → Advances .checking (machine.die false).1 .gone []
  | begins : machine.life.stopRequested = false → Advances .checking machine .loading [.began]
  | loadsNot : Advances .loading machine .listening []
  | loads (ending : Ending LoadError) : machine.loaded = false →
      (api.load machine.target).1 = ending → ending ≠ .crashed →
      Advances .loading (attempted api machine) .listening [.happened (.loaded ending)]
  | loadCrashes : machine.loaded = false → (api.load machine.target).1 = .crashed →
      Advances .loading ((attempted api machine).die true).1 .gone [.happened (.loaded .crashed)]
  | listens (dispatcher : Dispatcher x) (listening : Bool) (input : Pipe) (records : List Record) :
      Advances .listening { machine with dispatcher, listening, input } .ticking
        (records.map fun record => .happened (.dispatched record))
  | ticks : Advances .ticking
      { machine with dispatcher := (machine.dispatcher.tick (world.now 0)).drain.2 }
      (.delivering (machine.dispatcher.tick (world.now 0)).drain.1) []
  | delivered : Advances (.delivering []) machine .taking []
  | delivers (event : SceneEvent) (rest : List SceneEvent) (changed : Bool) :
      (api.handle machine.target machine.outlet event).1 = some changed →
      Advances (.delivering (event :: rest)) (handed api machine event) (.delivering rest)
        [.happened (.delivered event (some changed))]
  | deliveryCrashes (event : SceneEvent) (rest : List SceneEvent) :
      (api.handle machine.target machine.outlet event).1 = none →
      Advances (.delivering (event :: rest)) ((handed api machine event).die true).1 .gone
        [.happened (.delivered event none)]
  | takes : Advances .taking machine.takeRequest .deciding [.took machine.life.renderRequested]
  | drawsNot : (machine.dirty && machine.loaded) = false → Advances .deciding machine .ending []
  | draws : (machine.dirty && machine.loaded) = true → (api.draw machine.target).1 = .done →
      Advances .deciding (painted api machine) .acquiring [.drawing]
  | drawsInVain (fault : Report) : (machine.dirty && machine.loaded) = true →
      (api.draw machine.target).1 = .failed fault →
      Advances .deciding (painted api machine) .ending [.drawing]
  | drawingCrashes : (machine.dirty && machine.loaded) = true →
      (api.draw machine.target).1 = .crashed →
      Advances .deciding ((painted api machine).die true).1 .ending [.drawing]
  | asksNobody : machine.life.provider = none → Advances .acquiring machine .ending []
  | asks (provider : Frame.Provider) (acquired : Frame.Acquisition) (memory : Frame.Memory)
      (target : τ) (happenings : List Happening) (lines : List Log.Line) :
      machine.life.provider = some provider →
      provider.fillNext machine.memory (Machine.fill api) (machine.target, []) =
        (acquired, memory, (target, happenings), lines) →
      acquired ≠ .crashed →
      Advances .acquiring { machine with memory, target }
        (acquired.handle?.elim .ending .publishing) []
  | askingCrashes (provider : Frame.Provider) (memory : Frame.Memory) (target : τ)
      (happenings : List Happening) (lines : List Log.Line) :
      machine.life.provider = some provider →
      provider.fillNext machine.memory (Machine.fill api) (machine.target, []) =
        (.crashed, memory, (target, happenings), lines) →
      Advances .acquiring ({ machine with memory, target }.die true).1 .ending []
  | publishes (handle : UInt64) (outlet : Outlet) (lines : List Log.Line) :
      machine.outlet.frameReady handle = (.ok (), outlet, lines) →
      Advances (.publishing handle) { machine with outlet } .ending []
  | publishesNot (handle : UInt64) (fault : Wire.Error) (outlet : Outlet) (lines : List Log.Line) :
      machine.outlet.frameReady handle = (.error fault, outlet, lines) →
      Advances (.publishing handle) { machine with outlet } (.returning handle) []
  | keeps (handle : UInt64) : machine.life.provider = none →
      Advances (.returning handle) machine .ending []
  | givesBack (handle : UInt64) (provider : Frame.Provider) :
      machine.life.provider = some provider →
      Advances (.returning handle)
        { machine with memory := provider.release machine.memory handle } .ending []
  | ends : machine.life.thread = .serving → Advances .ending machine .checking [.ended]
  | died : machine.life.thread ≠ .serving → Advances .ending machine .gone []
  | gone : Advances .gone machine .gone []

theorem essence_map_logged (lines : List Log.Line) (happenings : List Happening) :
    essence ((Machine.logged lines ++ happenings).map .happened) =
      essence (happenings.map .happened) := by
  rw [List.map_append, essence_append, essence_logged, List.nil_append]

theorem essence_map_died (lines : List Log.Line) (happening : Happening) (crashed : Bool) :
    essence ((Machine.logged lines ++ happening :: (machine.die crashed).2).map .happened) =
      essence [.happened happening] := by
  rw [essence_map_logged, List.map_cons, ← List.singleton_append, essence_append, essence_die,
    List.append_nil]

theorem advances_loading :
    Advances api world machine .loading (machine.load api).2.1
      (if (machine.load api).1 then .listening else .gone)
      (essence ((machine.load api).2.2.map .happened)) := by
  cases hdone : machine.loaded || !machine.life.loadRequested with
  | true =>
      have hload : machine.load api = (true, machine, []) := by
        simp only [Machine.load, hdone, if_true]
      rw [hload]
      exact .loadsNot
  | false =>
      have hunloaded : machine.loaded = false := (Bool.or_eq_false_iff.mp hdone).1
      cases hending : (api.load machine.target).1 with
      | done =>
          have hload : machine.load api = (true, attempted api machine,
              Machine.logged (api.load machine.target).2.2 ++ [.loaded .done]) := by
            simp only [Machine.load, hdone, hending]
            rfl
          rw [hload, essence_map_logged]
          exact .loads .done hunloaded hending (by simp)
      | failed fault =>
          have hload : machine.load api = (true, attempted api machine,
              Machine.logged (api.load machine.target).2.2 ++ [.loaded (.failed fault),
                Machine.note .error s!"Failed to load scene asset: {fault.report.chain}"]) := by
            simp only [Machine.load, hdone, hending]
            rfl
          rw [hload, essence_map_logged]
          exact .loads (.failed fault) hunloaded hending (by simp)
      | crashed =>
          have hload : machine.load api = (false, ((attempted api machine).die true).1,
              Machine.logged (api.load machine.target).2.2 ++
                .loaded .crashed :: ((attempted api machine).die true).2) := by
            simp only [Machine.load, hdone, hending]
            rfl
          rw [hload, essence_map_died]
          exact .loadCrashes hunloaded hending

theorem essence_hear (files : Nat → SharedFile) (now : Instant) (pipe : Pipe)
    (dispatcher : Dispatcher x) :
    ∃ records : List Record,
      essence ((Machine.hear files now pipe dispatcher).2.2.2.map .happened) =
        records.map fun record => .happened (.dispatched record) := by
  rcases hreceive : pipe.receive with ⟨fault | _ | record, after, lines⟩
  · cases fault with
    | closed | unknownKind | partialRecord | partialWrite | io =>
        refine ⟨[], ?_⟩
        simp only [Machine.hear, hreceive, essence_map_logged]
        rfl
  · refine ⟨[], ?_⟩
    simp only [Machine.hear, hreceive, essence_logged, List.map_nil]
  · refine ⟨[record], ?_⟩
    simp only [Machine.hear, hreceive, essence_map_logged]
    rw [List.map_cons, ← List.singleton_append, essence_append, essence_effects]
    rfl

theorem essence_drain (files : Nat → SharedFile) (now : Nat → Instant) (fuel number : Nat)
    (pipe : Pipe) (dispatcher : Dispatcher x) :
    ∃ records : List Record,
      essence ((Machine.drain files now fuel number pipe dispatcher).2.2.2.map .happened) =
        records.map fun record => .happened (.dispatched record) := by
  induction fuel generalizing number pipe dispatcher with
  | zero => exact ⟨[], rfl⟩
  | succ fuel ih =>
      obtain ⟨first, hfirst⟩ := essence_hear files (now number) pipe dispatcher
      unfold Machine.drain
      split <;> rename_i heq <;> rw [heq] at hfirst
      · exact ⟨first, hfirst⟩
      · rename_i middle dispatcher' happenings
        obtain ⟨rest, hrest⟩ := ih (number + 1) middle dispatcher'
        refine ⟨first ++ rest, ?_⟩
        rw [List.map_append, essence_append, hfirst, hrest, List.map_append]

theorem advances_listening :
    Advances api world machine .listening (machine.listen world.files world.now world.poll).1 .ticking
      (essence ((machine.listen world.files world.now world.poll).2.map .happened)) := by
  have hstill : Advances api world machine .listening machine .ticking [] :=
    .listens machine.dispatcher machine.listening machine.input []
  unfold Machine.listen
  split
  · split
    · split
      · obtain ⟨records, hrecords⟩ := essence_drain world.files world.now
          (machine.input.queue.length + 1) 0 machine.input machine.dispatcher
        dsimp only
        rw [hrecords]
        exact .listens _ _ _ records
      · exact hstill
    · exact hstill
    · exact .listens machine.dispatcher false machine.input.closeReader []
  · exact hstill

theorem advances_delivering (event : SceneEvent) (rest : List SceneEvent) :
    Advances api world machine (.delivering (event :: rest)) (machine.deliverOne api event).2.1
      (if (machine.deliverOne api event).1 then .delivering rest else .gone)
      (essence ((machine.deliverOne api event).2.2.map .happened)) := by
  cases hchanged : (api.handle machine.target machine.outlet event).1 with
  | some changed =>
      have hdelivered : machine.deliverOne api event = (true, handed api machine event,
          Machine.logged (api.handle machine.target machine.outlet event).2.2.2 ++
            [.delivered event (some changed)]) := by
        simp only [Machine.deliverOne, handed, hchanged]
      rw [hdelivered, essence_map_logged]
      exact .delivers event rest changed hchanged
  | none =>
      have hdelivered : machine.deliverOne api event = (false, ((handed api machine event).die true).1,
          Machine.logged (api.handle machine.target machine.outlet event).2.2.2 ++
            .delivered event none :: ((handed api machine event).die true).2) := by
        simp only [Machine.deliverOne, handed, hchanged]
      rw [hdelivered, essence_map_died]
      exact .deliveryCrashes event rest hchanged

theorem advances_deciding :
    Advances api world machine .deciding (advance api world machine .deciding).1
      (advance api world machine .deciding).2.1
      (essence (advance api world machine .deciding).2.2) := by
  cases hdue : machine.dirty && machine.loaded with
  | false =>
      have hadvance : advance api world machine .deciding = (machine, .ending, []) := by
        simp only [advance, hdue, Bool.false_eq_true, if_false]
      rw [hadvance]
      exact .drawsNot hdue
  | true =>
      have hessence (happenings : List Happening) (h : essence (happenings.map .happened) = []) :
          essence (.drawing :: happenings.map .happened) = [.drawing] := by
        rw [← List.singleton_append, essence_append, h]
        rfl
      cases hending : (api.draw machine.target).1 with
      | done =>
          have hadvance : advance api world machine .deciding = (painted api machine, .acquiring,
              .drawing :: (Machine.logged (api.draw machine.target).2.2 ++
                [Happening.drawn (.ok ())]).map .happened) := by
            simp only [advance, hdue, Machine.draw, hending]
            rfl
          rw [hadvance, hessence _ (essence_map_logged _ _)]
          exact .draws hdue hending
      | failed fault =>
          have hadvance : advance api world machine .deciding = (painted api machine, .ending,
              .drawing :: (Machine.logged (api.draw machine.target).2.2 ++
                [Happening.drawn (.error fault),
                  Machine.note .warn s!"Render failed: {fault.chain}"]).map .happened) := by
            simp only [advance, hdue, Machine.draw, hending]
            rfl
          rw [hadvance, hessence _ (essence_map_logged _ _)]
          exact .drawsInVain fault hdue hending
      | crashed =>
          have hadvance : advance api world machine .deciding =
              (((painted api machine).die true).1, .ending,
                .drawing :: (Machine.logged (api.draw machine.target).2.2 ++
                  ((painted api machine).die true).2).map .happened) := by
            simp only [advance, hdue, Machine.draw, hending]
            rfl
          rw [hadvance, hessence _ ((essence_map_logged _ _).trans (essence_die _ true))]
          exact .drawingCrashes hdue hending

theorem advances_acquiring :
    Advances api world machine .acquiring (machine.acquire api).2.1
      ((machine.acquire api).1.elim .ending .publishing)
      (essence ((machine.acquire api).2.2.map .happened)) := by
  cases hprovider : machine.life.provider with
  | none =>
      have hacquire : machine.acquire api =
          (none, machine, [Machine.note .debug "No buffer provider, frame not published"]) := by
        simp only [Machine.acquire, hprovider]
      rw [hacquire]
      exact .asksNobody hprovider
  | some provider =>
      rcases hfill : provider.fillNext machine.memory (Machine.fill api) (machine.target, []) with
        ⟨acquired, memory, ⟨target, happenings⟩, lines⟩
      obtain ⟨-, hessence⟩ := fillNext_target hfill
      cases acquired with
      | crashed =>
          have hacquire : machine.acquire api =
              (none, ({ machine with memory, target }.die true).1,
                happenings ++ ({ machine with memory, target }.die true).2) := by
            simp only [Machine.acquire, hprovider, hfill]
          rw [hacquire, List.map_append, essence_append, hessence, essence_die]
          exact .askingCrashes provider memory target happenings lines hprovider hfill
      | granted handle =>
          have hacquire : machine.acquire api = (some handle, { machine with memory, target },
              happenings ++ Machine.logged lines ++ [.acquired provider (some handle)]) := by
            simp only [Machine.acquire, hprovider, hfill]
            rfl
          rw [hacquire, List.append_assoc, List.map_append, essence_append, hessence,
            essence_map_logged]
          exact .asks provider (.granted handle) memory target happenings lines hprovider hfill
            (by simp)
      | refused =>
          have hacquire : machine.acquire api = (none, { machine with memory, target },
              happenings ++ Machine.logged lines ++ [.acquired provider none]) := by
            simp only [Machine.acquire, hprovider, hfill]
            rfl
          rw [hacquire, List.append_assoc, List.map_append, essence_append, hessence,
            essence_map_logged]
          exact .asks provider .refused memory target happenings lines hprovider hfill (by simp)

theorem advances_publishing (handle : UInt64) :
    Advances api world machine (.publishing handle) (machine.publish handle).2.1
      (if (machine.publish handle).1 then .ending else .returning handle)
      (essence ((machine.publish handle).2.2.map .happened)) := by
  rcases hsent : machine.outlet.frameReady handle with ⟨fault | _, outlet, lines⟩
  · have hpublish : machine.publish handle = (false, { machine with outlet },
        Machine.logged lines ++ [.published handle (.error fault),
          Machine.note .error s!"Failed to send frame-ready event: {fault.message}"]) := by
      simp only [Machine.publish, hsent]
    rw [hpublish, essence_map_logged]
    exact .publishesNot handle fault outlet lines hsent
  · have hpublish : machine.publish handle = (true, { machine with outlet },
        Machine.logged lines ++ [.published handle (.ok ())]) := by
      simp only [Machine.publish, hsent]
    rw [hpublish, essence_map_logged]
    exact .publishes handle outlet lines hsent

theorem advances (place : Place) :
    Advances api world machine place (advance api world machine place).1
      (advance api world machine place).2.1
      (essence (advance api world machine place).2.2) := by
  cases place with
  | checking =>
      cases hstop : machine.life.stopRequested with
      | true =>
          have hadvance : advance api world machine .checking = ((machine.die false).1, .gone,
              (Machine.note .debug "Render loop exiting" :: (machine.die false).2).map .happened) := by
            simp only [advance, hstop, if_true]
            rfl
          rw [hadvance, List.map_cons, ← List.singleton_append, essence_append, essence_die]
          exact .leaves hstop
      | false =>
          simp only [advance, hstop]
          exact .begins hstop
  | loading => exact advances_loading api world machine
  | listening => exact advances_listening api world machine
  | ticking => exact .ticks
  | delivering events =>
      cases events with
      | nil => exact .delivered
      | cons event rest => exact advances_delivering api world machine event rest
  | taking => exact .takes
  | deciding => exact advances_deciding api world machine
  | acquiring => exact advances_acquiring api world machine
  | publishing handle => exact advances_publishing api world machine handle
  | returning handle =>
      cases hprovider : machine.life.provider with
      | none =>
          simp only [advance, Machine.giveBack, hprovider]
          exact .keeps handle hprovider
      | some provider =>
          simp only [advance, Machine.giveBack, hprovider]
          exact .givesBack handle provider hprovider
  | ending =>
      cases hthread : machine.life.thread with
      | serving =>
          simp only [advance, hthread]
          exact .ends hthread
      | unborn | building | settling | announcing | leaving | ended =>
          simp only [advance, hthread]
          exact .died (by simp [hthread])
  | gone => exact .gone

theorem step_cases (log : List Entry) (place : Place) :
    ∃ after place' entries core,
      step api ⟨machine, place, log⟩ (.thread world) = ⟨after, place', log ++ entries⟩ ∧
        essence entries = core ∧ Advances api world machine place after place' core :=
  ⟨_, _, _, _, rfl, rfl, advances api world machine place⟩

end Advances

end LockScreen.Proofs.LoopSteps
