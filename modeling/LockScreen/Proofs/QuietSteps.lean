import LockScreen.Proofs.InputDraining
import LockScreen.Proofs.LoopSteps

namespace LockScreen.Proofs.QuietSteps

open LockScreen.Render LockScreen.Repeat LockScreen.Wire
open LockScreen.Proofs.Runs LockScreen.Proofs.LoopRuns LockScreen.Proofs.LoopSteps
open LockScreen.Proofs.InputDraining

variable {x : Xkb} {τ : Type}

def delivered? : Happening → Option SceneEvent
  | .delivered event _ => some event
  | _ => none

def delivered (happenings : List Happening) : List SceneEvent :=
  happenings.filterMap delivered?

theorem delivered_append (first second : List Happening) :
    delivered (first ++ second) = delivered first ++ delivered second :=
  List.filterMap_append

@[simp] theorem delivered_effects (effects : List Effect) :
    delivered (effects.map .effect) = [] := by
  rw [delivered, List.filterMap_map]
  exact List.filterMap_eq_nil_iff.mpr fun _ _ => rfl

@[simp] theorem delivered_logged (lines : List Log.Line) :
    delivered (Machine.logged lines) = [] := by
  rw [delivered, Machine.logged, List.filterMap_map]
  exact List.filterMap_eq_nil_iff.mpr fun _ _ => rfl

theorem hear_spec (files : Nat → SharedFile) (now : Instant) (pipe : Pipe)
    (dispatcher : Dispatcher x) :
    (Machine.hear files now pipe dispatcher).2.2.1 = run DispatcherRuns.step dispatcher
        ((dispatched (Machine.hear files now pipe dispatcher).2.2.2).map (.dispatch files · now)) ∧
      delivered (Machine.hear files now pipe dispatcher).2.2.2 = [] := by
  rcases hreceive : pipe.receive with ⟨fault | _ | record, after, lines⟩
  · cases fault with
    | closed | unknownKind | partialRecord | partialWrite | io =>
        simp only [Machine.hear, hreceive, dispatched_append, dispatched_logged, delivered_append,
          delivered_logged]
        exact ⟨rfl, rfl⟩
  · simp only [Machine.hear, hreceive, dispatched_logged, delivered_logged]
    exact ⟨rfl, trivial⟩
  · simp only [Machine.hear, hreceive]
    constructor
    · rw [dispatched_append, dispatched_logged]
      show _ = run DispatcherRuns.step dispatcher
        ((record :: dispatched (List.map .effect _)).map (.dispatch files · now))
      rw [dispatched_effects]
      rfl
    · rw [delivered_append, delivered_logged]
      exact delivered_effects _

def happenings (log : List Entry) : List Happening :=
  log.filterMap Entry.happening?

theorem happenings_append (first second : List Entry) :
    happenings (first ++ second) = happenings first ++ happenings second :=
  List.filterMap_append

theorem happenings_map (happened : List Happening) :
    happenings (happened.map .happened) = happened :=
  happening?_map happened

theorem mem_happenings {log : List Entry} {happening : Happening} (h : .happened happening ∈ log) :
    happening ∈ happenings log :=
  List.mem_filterMap.mpr ⟨_, h, rfl⟩

section Essence

variable {entries core : List Entry}

theorem filterMap_happenings {α : Type} {read : Happening → Option α}
    (hread : ∀ happening, tells (.happened happening) = false → read happening = none)
    (h : essence entries = core) :
    (happenings entries).filterMap read = (happenings core).filterMap read := by
  subst h
  rw [happenings, happenings, List.filterMap_filterMap, List.filterMap_filterMap]
  refine (filterMap_essence (fun entry htells => ?_) entries).symm
  cases entry with
  | happened happening => exact hread happening htells
  | began | ended | took | drawing | did => rfl

theorem dispatched_of_essence (h : essence entries = core) :
    dispatched (happenings entries) = dispatched (happenings core) := by
  refine filterMap_happenings (fun happening htells => ?_) h
  cases happening with
  | dispatched => cases htells
  | effect | loaded | delivered | drawn | readBack | acquired | published | returned => rfl

theorem delivered_of_essence (h : essence entries = core) :
    delivered (happenings entries) = delivered (happenings core) := by
  refine filterMap_happenings (fun happening htells => ?_) h
  cases happening with
  | delivered => cases htells
  | effect | loaded | dispatched | drawn | readBack | acquired | published | returned => rfl

theorem delivered_dispatched (records : List Record) :
    delivered (happenings (records.map fun record => .happened (.dispatched record))) = [] := by
  rw [happenings, delivered, List.filterMap_filterMap, List.filterMap_map]
  exact List.filterMap_eq_nil_iff.mpr fun _ _ => rfl

end Essence

def pending : Place → List SceneEvent
  | .delivering events => events
  | _ => []

def Lives (machine : Machine x τ) : Place → Prop
  | .gone => False
  | .ending => machine.life.thread = .serving
  | _ => True

theorem lives_act {machine : Machine x τ} (deed : Deed) (place : Place) :
    Lives (deed.act machine) place ↔ Lives machine place := by
  have hthread := (untouched_act machine deed).thread
  cases place with
  | ending => exact ⟨hthread.symm.trans, hthread.trans⟩
  | gone => exact Iff.rfl
  | checking | loading | listening | ticking | delivering | taking | deciding | acquiring
  | publishing | returning => exact Iff.rfl

theorem input_act (machine : Machine x τ) {deed : Deed} (h : ∀ pipe, deed ≠ .input pipe) :
    (deed.act machine).input = machine.input := by
  cases deed with
  | input pipe => exact absurd rfl (h pipe)
  | ask | look | provide | stop | join | outlet | memory => rfl

/-- The events of a batch that are lost: none, unless the thread died handing one of it over. -/
def Loses (place : Place) (happened : List Happening) (lost : List SceneEvent) : Prop :=
  lost = [] ∨ place = .gone ∧ ∃ event, .delivered event none ∈ happened

section Losses

variable {place place' : Place} {happened happened' : List Happening} {lost lost' : List SceneEvent}

theorem Loses.nothing (h : Loses place happened lost) (hplace : place ≠ .gone) : lost = [] :=
  h.resolve_right fun hdied => hplace hdied.1

theorem Loses.append (h : Loses place happened lost) (h' : Loses place' happened' lost')
    (hgone : place = .gone → place' = .gone) :
    Loses place' (happened ++ happened') (lost' ++ lost) := by
  rcases h with rfl | ⟨hplace, event, hevent⟩
  · rcases h' with rfl | ⟨hplace', event, hevent⟩
    · exact Or.inl rfl
    · exact Or.inr ⟨hplace', event, List.mem_append_right _ hevent⟩
  · exact Or.inr ⟨hgone hplace, event, List.mem_append_left _ hevent⟩

end Losses

/-- A step that has nothing to do with the input. -/
structure Quiet (machine : Machine x τ) (place : Place) (after : Machine x τ) (place' : Place)
    (entries : List Entry) : Prop where
  dispatched : dispatched (happenings entries) = []
  delivered : ∃ lost, delivered (happenings entries) ++ (pending place' ++ lost) = pending place ∧
    Loses place' (happenings entries) lost
  dispatcher : Lives after place' →
    Lives machine place ∧ after.dispatcher = machine.dispatcher
  queue : after.input.queue = machine.input.queue

section Quiet

variable {machine after : Machine x τ} {place place' : Place} {entries core : List Entry}

theorem quiet_idle (hcore : essence entries = core)
    (hdispatched : InputDraining.dispatched (happenings core) = [])
    (hdelivered : QuietSteps.delivered (happenings core) ++ pending place' = pending place)
    (hdispatcher : Lives after place' → Lives machine place ∧ after.dispatcher = machine.dispatcher)
    (hqueue : after.input.queue = machine.input.queue) :
    Quiet machine place after place' entries where
  dispatched := (dispatched_of_essence hcore).trans hdispatched
  delivered := by
    refine ⟨[], ?_, Or.inl rfl⟩
    rw [List.append_nil, delivered_of_essence hcore]
    exact hdelivered
  dispatcher := hdispatcher
  queue := hqueue

theorem quiet_of_advances {api : Target τ} {world : World} (hcore : essence entries = core)
    (h : Advances api world machine place after place' core) (hlistening : place ≠ .listening)
    (hticking : place ≠ .ticking) : Quiet machine place after place' entries := by
  cases h with
  | listens => exact absurd rfl hlistening
  | ticks => exact absurd rfl hticking
  | begins | loadsNot | loads | delivered | delivers | takes | drawsNot | draws | drawsInVain
  | asksNobody | publishes | publishesNot | keeps | givesBack =>
      exact quiet_idle hcore rfl rfl (fun _ => ⟨trivial, rfl⟩) rfl
  | asks provider acquired =>
      refine quiet_idle hcore rfl ?_ (fun _ => ⟨trivial, rfl⟩) rfl
      cases acquired.handle? with
      | none | some => rfl
  | ends hserving => exact quiet_idle hcore rfl rfl (fun _ => ⟨hserving, rfl⟩) rfl
  | leaves | loadCrashes | died | gone => exact quiet_idle hcore rfl rfl False.elim rfl
  | drawingCrashes | askingCrashes =>
      exact quiet_idle hcore rfl rfl (fun hserving => absurd hserving (thread_finish _ true)) rfl
  | deliveryCrashes event rest hcrashed =>
      have htold : .happened (.delivered event none) ∈ essence entries :=
        hcore ▸ List.mem_singleton_self _
      refine ⟨(dispatched_of_essence hcore).trans rfl, ⟨rest, ?_, ?_⟩, False.elim, rfl⟩
      · rw [delivered_of_essence hcore]
        rfl
      · exact Or.inr ⟨rfl, event, mem_happenings (List.mem_filter.mp htold).1⟩

end Quiet

theorem quiet_advance (api : Target τ) (world : World) (machine : Machine x τ) {place : Place}
    (hlistening : place ≠ .listening) (hticking : place ≠ .ticking) :
    Quiet machine place (advance api world machine place).1 (advance api world machine place).2.1
      (advance api world machine place).2.2 :=
  quiet_of_advances rfl (advances api world machine place) hlistening hticking

theorem dispatched_advance (api : Target τ) (world : World) (machine : Machine x τ)
    {place : Place} (h : place ≠ .listening) :
    dispatched (happenings (advance api world machine place).2.2) = [] := by
  by_cases hticking : place = .ticking
  · subst hticking
    rfl
  · exact (quiet_advance api world machine h hticking).dispatched

theorem queue_advance (api : Target τ) (world : World) (machine : Machine x τ) {place : Place}
    (h : place ≠ .listening) :
    (advance api world machine place).1.input.queue = machine.input.queue := by
  by_cases hticking : place = .ticking
  · subst hticking
    rfl
  · exact (quiet_advance api world machine h hticking).queue

end LockScreen.Proofs.QuietSteps
