import LockScreen.Proofs.Runs
import LockScreen.Render.Loop

/-!
Runs of a render thread among others. The thread goes through an iteration of its loop step by step,
and between any two of its steps others may act on all that they share with it. What the thread does
when it is left alone is `Machine.iterate`.
-/

namespace LockScreen.Proofs.LoopRuns

open LockScreen.Render LockScreen.Repeat LockScreen.Wire LockScreen.Proofs.Runs

variable {x : Xkb} {τ : Type}

/-- What a step of the thread finds: what descriptors refer to, what the clock shows, and how
waiting for input ends. -/
structure World where
  files : Nat → SharedFile
  now : Nat → Instant
  poll : Poll

/-- What others do: the control thread with the life of the thread, and the producer and the owners
of the buffers with the channels and the memory. -/
inductive Deed where
  | ask
  | look
  | provide (provider : Frame.Provider)
  | stop
  | join
  | input (pipe : Pipe)
  | outlet (outlet : Outlet)
  | memory (memory : Frame.Memory)

def Deed.act (machine : Machine x τ) : Deed → Machine x τ
  | ask => { machine with life := machine.life.requestRender }
  | look => { machine with life := machine.life.look.2.1 }
  | provide provider => { machine with life := (machine.life.setProvider provider).1 }
  | stop => { machine with life := machine.life.requestStop }
  | join => { machine with life := machine.life.join.1 }
  | input pipe => { machine with input := pipe }
  | outlet sent => { machine with outlet := sent }
  | memory held => { machine with memory := held }

inductive Place where
  | checking
  | loading
  | listening
  | ticking
  | delivering (events : List SceneEvent)
  | taking
  | deciding
  | acquiring
  | publishing (handle : UInt64)
  | returning (handle : UInt64)
  | ending
  | gone

inductive Entry where
  | began
  | ended
  | happened (happening : Happening)
  | took (raised : Bool)
  | drawing
  | did (deed : Deed)

structure Course (x : Xkb) (τ : Type) where
  machine : Machine x τ
  place : Place
  log : List Entry

def advance (api : Target τ) (world : World) (machine : Machine x τ) :
    Place → Machine x τ × Place × List Entry
  | .checking =>
      if machine.life.stopRequested then
        let (machine, happenings) := machine.exit
        (machine, .gone, happenings.map .happened)
      else (machine, .loading, [.began])
  | .loading =>
      let (alive, machine, happenings) := machine.load api
      (machine, if alive then .listening else .gone, happenings.map .happened)
  | .listening =>
      let (machine, happenings) := machine.listen world.files world.now world.poll
      (machine, .ticking, happenings.map .happened)
  | .ticking =>
      let machine := machine.tick (world.now 0)
      let (events, dispatcher) := machine.dispatcher.drain
      ({ machine with dispatcher }, .delivering events, [])
  | .delivering [] => (machine, .taking, [])
  | .delivering (event :: rest) =>
      let (alive, machine, happenings) := machine.deliverOne api event
      (machine, if alive then .delivering rest else .gone, happenings.map .happened)
  | .taking => (machine.takeRequest, .deciding, [.took machine.life.renderRequested])
  | .deciding =>
      if machine.dirty && machine.loaded then
        let (usable, machine, happenings) := { machine with dirty := false }.draw api
        (machine, if usable then .acquiring else .ending, .drawing :: happenings.map .happened)
      else (machine, .ending, [])
  | .acquiring =>
      let (handle, machine, happenings) := machine.acquire api
      (machine, handle.elim .ending .publishing, happenings.map .happened)
  | .publishing handle =>
      let (sent, machine, happenings) := machine.publish handle
      (machine, if sent then .ending else .returning handle, happenings.map .happened)
  | .returning handle =>
      let (machine, happenings) := machine.giveBack handle
      (machine, .ending, happenings.map .happened)
  | .ending =>
      match machine.life.thread with
      | .serving => (machine, .checking, [.ended])
      | _ => (machine, .gone, [])
  | .gone => (machine, .gone, [])

inductive Move where
  | thread (world : World)
  | others (deed : Deed)

def step (api : Target τ) (course : Course x τ) : Move → Course x τ
  | .thread world =>
      let (machine, place, entries) := advance api world course.machine course.place
      ⟨machine, place, course.log ++ entries⟩
  | .others deed =>
      { course with machine := deed.act course.machine, log := course.log ++ [.did deed] }

def start (life : Life) (timing : Option Timing) (target : τ) (input : Pipe) (outlet : Outlet)
    (memory : Frame.Memory) : Course x τ where
  machine := .new life timing target input outlet memory
  place := .checking
  log := if life.renderRequested then [.did .ask] else []

def Entry.happening? : Entry → Option Happening
  | happened happening => some happening
  | _ => none

theorem happening?_map (happenings : List Happening) :
    (happenings.map Entry.happened).filterMap Entry.happening? = happenings := by
  rw [List.filterMap_map]
  exact List.filterMap_some

theorem thread_finish (life : Life) (crashed : Bool) : (life.finish crashed).thread ≠ .serving := by
  unfold Life.finish
  split
  · exact nofun
  · rename_i hthread
    exact hthread

def Goes (api : Target τ) (machine : Machine x τ) (place : Place) (after : Machine x τ)
    (place' : Place) (happenings : List Happening) : Prop :=
  ∀ log, ∃ (worlds : List World) (entries : List Entry),
    run (step api) ⟨machine, place, log⟩ (worlds.map .thread) = ⟨after, place', log ++ entries⟩ ∧
      entries.filterMap Entry.happening? = happenings

section Alone

variable {api : Target τ} {machine between after : Machine x τ} {place middle place' : Place}
  {entries : List Entry} {happenings later : List Happening}

theorem goes_advance (world : World)
    (h : advance api world machine place = (after, place', entries)) :
    Goes api machine place after place' (entries.filterMap Entry.happening?) := by
  intro log
  refine ⟨[world], entries, ?_, rfl⟩
  simp only [List.map_cons, List.map_nil, run_cons, run_nil, step, h]

theorem Goes.trans (h : Goes api machine place between middle happenings)
    (h' : Goes api between middle after place' later) :
    Goes api machine place after place' (happenings ++ later) := by
  intro log
  obtain ⟨worlds, entries, hrun, hentries⟩ := h log
  obtain ⟨worlds', entries', hrun', hentries'⟩ := h' (log ++ entries)
  refine ⟨worlds ++ worlds', entries ++ entries', ?_, ?_⟩
  · rw [List.map_append, run_append, hrun, hrun', List.append_assoc]
  · rw [List.filterMap_append, hentries, hentries']

theorem goes_happened (world : World)
    (h : advance api world machine place = (after, place', happenings.map .happened)) :
    Goes api machine place after place' happenings := by
  have hgoes := goes_advance world h
  rwa [happening?_map] at hgoes

theorem goes_load (world : World) {alive : Bool}
    (hload : machine.load api = (alive, after, happenings)) :
    Goes api machine .loading after (if alive then .listening else .gone) happenings :=
  goes_happened world (by simp only [advance, hload])

theorem goes_deliver (world : World) {events : List SceneEvent} {alive : Bool}
    (h : machine.deliverAll api events = (alive, after, happenings)) :
    Goes api machine (.delivering events) after (if alive then .taking else .gone) happenings := by
  induction events generalizing machine happenings with
  | nil =>
      cases h
      exact goes_advance world rfl
  | cons event rest ih =>
      rcases hone : machine.deliverOne api event with ⟨survives, between, first⟩
      have hfirst : Goes api machine (.delivering (event :: rest)) between
          (if survives then .delivering rest else .gone) first :=
        goes_happened world (by simp only [advance, hone])
      simp only [Machine.deliverAll, hone] at h
      cases survives with
      | false =>
          cases h
          exact hfirst
      | true =>
          rcases hrest : between.deliverAll api rest with ⟨alive', last, later⟩
          simp only [hrest, Prod.mk.injEq] at h
          obtain ⟨rfl, rfl, rfl⟩ := h
          exact hfirst.trans (ih hrest)

theorem goes_draw (world : World) {usable : Bool}
    (hdue : (machine.dirty && machine.loaded) = true)
    (hdraw : { machine with dirty := false }.draw api = (usable, after, happenings)) :
    Goes api machine .deciding after (if usable then .acquiring else .ending) happenings := by
  have hadvance : advance api world machine .deciding =
      (after, if usable then .acquiring else .ending,
        .drawing :: happenings.map .happened) := by
    simp only [advance, hdue, if_true, hdraw]
  have hgoes := goes_advance world hadvance
  rwa [List.filterMap_cons_none rfl, happening?_map] at hgoes

theorem goes_acquire (world : World) {handle : Option UInt64}
    (hacquire : machine.acquire api = (handle, after, happenings)) :
    Goes api machine .acquiring after (handle.elim .ending .publishing) happenings :=
  goes_happened world (by simp only [advance, hacquire])

theorem goes_publish (world : World) {handle : UInt64} {sent : Bool}
    (hpublish : machine.publish handle = (sent, after, happenings)) :
    Goes api machine (.publishing handle) after (if sent then .ending else .returning handle)
      happenings :=
  goes_happened world (by simp only [advance, hpublish])

theorem goes_giveBack (world : World) {handle : UInt64}
    (hgiveBack : machine.giveBack handle = (after, happenings)) :
    Goes api machine (.returning handle) after .ending happenings :=
  goes_happened world (by simp only [advance, hgiveBack])

theorem goes_refresh (world : World) (machine : Machine x τ) :
    Goes api machine .deciding (machine.refresh api).1 .ending (machine.refresh api).2 := by
  cases hdue : machine.dirty && machine.loaded with
  | false =>
      have hadvance : advance api world machine .deciding = (machine, .ending, []) := by
        simp only [advance, hdue, Bool.false_eq_true, if_false]
      rw [show machine.refresh api = (machine, []) by
        simp only [Machine.refresh, hdue, Bool.false_eq_true, if_false]]
      exact goes_advance world hadvance
  | true =>
      rw [show machine.refresh api = Machine.frame api { machine with dirty := false } by
        simp only [Machine.refresh, hdue, if_true]]
      rcases hdraw : { machine with dirty := false }.draw api with ⟨usable, drawn, drawing⟩
      have hdrawn := goes_draw world hdue hdraw
      cases usable with
      | false =>
          simp only [Machine.frame, hdraw]
          exact hdrawn
      | true =>
          rcases hacquire : drawn.acquire api with ⟨handle, filled, filling⟩
          have hfilled := hdrawn.trans (goes_acquire world hacquire)
          cases handle with
          | none =>
              simp only [Machine.frame, hdraw, hacquire]
              exact hfilled
          | some handle =>
              rcases hpublish : filled.publish handle with ⟨sent, told, sending⟩
              have htold := hfilled.trans (goes_publish world hpublish)
              cases sent with
              | true =>
                  simp only [Machine.frame, hdraw, hacquire, hpublish]
                  exact htold
              | false =>
                  rcases hgiveBack : told.giveBack handle with ⟨returned, returning⟩
                  simp only [Machine.frame, hdraw, hacquire, hpublish, hgiveBack]
                  exact htold.trans (goes_giveBack world hgiveBack)

theorem goes_tick (world : World) {alive : Bool}
    (h : (machine.tick (world.now 0)).deliver api = (alive, after, happenings)) :
    Goes api machine .ticking after (if alive then .taking else .gone) happenings := by
  have hadvance : advance api world machine .ticking =
      ({ machine.tick (world.now 0) with
          dispatcher := (machine.tick (world.now 0)).dispatcher.drain.2 },
        .delivering (machine.tick (world.now 0)).dispatcher.drain.1, []) := rfl
  exact (goes_advance world hadvance).trans (goes_deliver world h)

theorem load_alive (h : machine.load api = (false, after, happenings)) :
    after.life.thread ≠ .serving := by
  rcases hload : api.load machine.target with ⟨_ | fault | _, target, lines⟩ <;>
    simp only [Machine.load, hload] at h <;> split at h <;> cases h
  exact thread_finish _ _

theorem deliverOne_alive {event : SceneEvent}
    (h : machine.deliverOne api event = (false, after, happenings)) :
    after.life.thread ≠ .serving := by
  rcases hhandle : api.handle machine.target machine.outlet event with
    ⟨_ | changed, target, outlet, lines⟩ <;>
    simp only [Machine.deliverOne, hhandle] at h <;> cases h
  exact thread_finish _ _

theorem deliverAll_alive {events : List SceneEvent}
    (h : machine.deliverAll api events = (false, after, happenings)) :
    after.life.thread ≠ .serving := by
  induction events generalizing machine happenings with
  | nil => cases h
  | cons event rest ih =>
      rcases hone : machine.deliverOne api event with ⟨alive, between, first⟩
      simp only [Machine.deliverAll, hone] at h
      cases alive with
      | true =>
          rcases hrest : between.deliverAll api rest with ⟨alive, last, later⟩
          simp only [hrest, Prod.mk.injEq] at h
          obtain ⟨rfl, rfl, -⟩ := h
          exact ih hrest
      | false =>
          cases h
          exact deliverOne_alive hone

/-- An iteration of the thread alone is `Machine.iterate`, and the thread is at its end or
has died. -/
theorem goes_iterate (api : Target τ) (files : Nat → SharedFile) (now : Nat → Instant) (poll : Poll)
    (later : Instant) {outcome : Machine x τ × List Happening}
    (h : machine.iterate api files now poll later = outcome) :
    ∃ place, Goes api machine .loading outcome.1 place outcome.2 ∧
      (place = .ending ∨ place = .gone ∧ outcome.1.life.thread ≠ .serving) := by
  rcases hload : machine.load api with ⟨alive, loaded, loading⟩
  have hloaded := goes_load ⟨files, now, poll⟩ hload
  cases alive with
  | false =>
      simp only [Machine.iterate, hload] at h
      subst h
      exact ⟨.gone, hloaded, Or.inr ⟨rfl, load_alive hload⟩⟩
  | true =>
      rcases hlisten : loaded.listen files now poll with ⟨heard, hearing⟩
      have hheard : Goes api loaded .listening heard .ticking hearing :=
        goes_happened ⟨files, now, poll⟩ (by simp only [advance, hlisten])
      rcases hdeliver : (heard.tick later).deliver api with ⟨alive, delivered, delivering⟩
      have hdelivered := goes_tick ⟨files, fun _ => later, poll⟩ hdeliver
      have hbefore := (hloaded.trans hheard).trans hdelivered
      simp only [Machine.iterate, hload, hlisten, hdeliver] at h
      cases alive with
      | false =>
          subst h
          exact ⟨.gone, hbefore, Or.inr ⟨rfl, deliverAll_alive hdeliver⟩⟩
      | true =>
          subst h
          have htaken : Goes api delivered .taking delivered.takeRequest .deciding [] :=
            goes_advance ⟨files, now, poll⟩ rfl
          have hend := (hbefore.trans htaken).trans
            (goes_refresh ⟨files, now, poll⟩ delivered.takeRequest)
          rw [List.append_nil] at hend
          exact ⟨.ending, hend, Or.inl rfl⟩

/-- An iteration with such an outcome was gone through. The thread is where the next one begins,
unless it died. -/
def Completes (before : Course x τ) (outcome : Machine x τ × List Happening) (after : Course x τ) :
    Prop :=
  after.machine = outcome.1 ∧
    ∃ entries closing : List Entry,
      after.log = before.log ++ .began :: (entries ++ closing) ∧
        entries.filterMap Entry.happening? = outcome.2 ∧
        (outcome.1.life.thread = .serving ∧ after.place = .checking ∧ closing = [.ended] ∨
          outcome.1.life.thread ≠ .serving ∧ after.place = .gone ∧ closing = [])

theorem iteration_alone (api : Target τ) (files : Nat → SharedFile) (now : Nat → Instant) (poll : Poll)
    (later : Instant) {course : Course x τ} (hplace : course.place = .checking)
    (hunstopped : course.machine.life.stopRequested = false) :
    ∃ worlds : List World, Completes course (course.machine.iterate api files now poll later)
      (run (step api) course (worlds.map .thread)) := by
  obtain ⟨machine, place, log⟩ := course
  dsimp only at hplace hunstopped ⊢
  subst hplace
  obtain ⟨outcome, houtcome⟩ : ∃ outcome, machine.iterate api files now poll later = outcome := ⟨_, rfl⟩
  obtain ⟨place, hgoes, hend⟩ := goes_iterate api files now poll later houtcome
  obtain ⟨worlds, entries, hrun, hentries⟩ := hgoes (log ++ [.began])
  have hwhole : run (step api) ⟨machine, .checking, log⟩
      (List.map .thread (⟨files, now, poll⟩ :: worlds)) =
        ⟨outcome.1, place, log ++ .began :: entries⟩ := by
    have hbegan : step api ⟨machine, .checking, log⟩ (.thread ⟨files, now, poll⟩) =
        ⟨machine, .loading, log ++ [.began]⟩ := by
      simp only [step, advance, hunstopped, Bool.false_eq_true, if_false]
    rw [List.map_cons, run_cons, hbegan, hrun, List.append_assoc, List.singleton_append]
  rw [houtcome]
  rcases hend with rfl | ⟨rfl, hdead⟩
  · refine ⟨⟨files, now, poll⟩ :: worlds ++ [⟨files, now, poll⟩], ?_⟩
    rw [List.map_append, run_append, hwhole]
    by_cases hserving : outcome.1.life.thread = .serving
    · have hended : step api ⟨outcome.1, .ending, log ++ .began :: entries⟩
          (.thread ⟨files, now, poll⟩) =
            ⟨outcome.1, .checking, log ++ .began :: (entries ++ [.ended])⟩ := by
        simp only [step, advance, hserving, List.append_assoc, List.cons_append]
      rw [List.map_singleton, run_cons, run_nil, hended]
      exact ⟨rfl, entries, [.ended], rfl, hentries, Or.inl ⟨hserving, rfl, rfl⟩⟩
    · have hgone : advance api ⟨files, now, poll⟩ outcome.1 .ending = (outcome.1, .gone, []) := by
        cases hthread : outcome.1.life.thread with
        | serving => exact absurd hthread hserving
        | unborn | building | settling | announcing | leaving | ended =>
            simp only [advance, hthread]
      have hended : step api ⟨outcome.1, .ending, log ++ .began :: entries⟩
          (.thread ⟨files, now, poll⟩) =
            ⟨outcome.1, .gone, log ++ .began :: (entries ++ [])⟩ := by
        simp only [step, hgone, List.append_nil]
      rw [List.map_singleton, run_cons, run_nil, hended]
      exact ⟨rfl, entries, [], rfl, hentries, Or.inr ⟨hserving, rfl, rfl⟩⟩
  · refine ⟨⟨files, now, poll⟩ :: worlds, ?_⟩
    rw [hwhole, ← List.append_nil entries]
    exact ⟨rfl, entries, [], rfl, hentries, Or.inr ⟨hdead, rfl, rfl⟩⟩

end Alone

end LockScreen.Proofs.LoopRuns
