import LockScreen.Proofs.KeymapReplacement
import LockScreen.Proofs.RepeatAfterRelease

namespace LockScreen.Proofs.ScheduleIndependence

open LockScreen.Repeat LockScreen.Wire
open LockScreen.Proofs.Runs LockScreen.Proofs.DispatcherRuns LockScreen.Proofs.RecordAcceptance
open LockScreen.Proofs.KeymapReplacement
open LockScreen.Proofs.RepeatAfterRelease (letterFile letterTable)

variable {x : Xkb}

def records : List Step → List ((Nat → SharedFile) × Record)
  | [] => []
  | .dispatch files record _ :: rest => (files, record) :: records rest
  | .tick _ :: rest | .drain :: rest => records rest

def isTick : Step → Bool
  | .tick _ => true
  | .dispatch _ _ _ | .drain => false

structure Arrival where
  event : SceneEvent
  byTick : Bool

def added (dispatcher : Dispatcher x) (taken : Step) : List SceneEvent :=
  (step dispatcher taken).queue.drop dispatcher.queue.length

def arrivals : Dispatcher x → List Step → List Arrival
  | _, [] => []
  | dispatcher, first :: rest =>
      (added dispatcher first).map (⟨·, isTick first⟩) ++ arrivals (step dispatcher first) rest

def direct (dispatcher : Dispatcher x) (steps : List Step) : List SceneEvent :=
  ((arrivals dispatcher steps).filter (!·.byTick)).map Arrival.event

def batches : Dispatcher x → List Step → List (List SceneEvent)
  | _, [] => []
  | dispatcher, .drain :: rest =>
      dispatcher.drain.1 :: batches (step dispatcher .drain) rest
  | dispatcher, .dispatch files record now :: rest =>
      batches (step dispatcher (.dispatch files record now)) rest
  | dispatcher, .tick now :: rest => batches (step dispatcher (.tick now)) rest

/-- A dispatcher with the same keyboard and pointer, with nothing queued and nothing to repeat. -/
def bare (dispatcher : Dispatcher x) : Dispatcher x :=
  ⟨dispatcher.keyboard, dispatcher.pointer, .new, none, []⟩

theorem bare_eq_iff {dispatcher other : Dispatcher x} :
    bare dispatcher = bare other ↔
      dispatcher.keyboard = other.keyboard ∧ dispatcher.pointer = other.pointer := by
  simp [bare]

/-- `after` came out of `before`, and `plain` out of nothing but the keyboard and pointer of
`before`. -/
structure Echoes (before after plain : Dispatcher x) : Prop where
  keyboard : after.keyboard = plain.keyboard
  pointer : after.pointer = plain.pointer
  queue : after.queue = before.queue ++ plain.queue

theorem followKey_pointer (dispatcher : Dispatcher x) (event : KeyEvent) (keyState : KeyState)
    (now : Instant) : (dispatcher.followKey event keyState now).pointer = dispatcher.pointer := by
  unfold Dispatcher.followKey
  split
  · split <;> rfl
  · split <;> rfl
  · rfl

theorem echoes_of_acceptsKey {dispatcher : Dispatcher x} {record : Record} {code : UInt32}
    {keyState : KeyState} (h : AcceptsKey dispatcher record code keyState)
    (files : Nat → SharedFile) (now now' : Instant) :
    Echoes dispatcher (dispatcher.dispatch files record now).1
      ((bare dispatcher).dispatch files record now').1 := by
  have hview : view dispatcher.keyboard = view (bare dispatcher).keyboard := rfl
  have hbare : AcceptsKey (bare dispatcher) record code keyState := acceptsKey_of_view_eq hview h
  obtain ⟨event, keyboard, effects, happly, hafter⟩ := dispatch_of_acceptsKey h files now
  obtain ⟨event', keyboard', effects', happly', hplain⟩ :=
    dispatch_of_acceptsKey hbare files now'
  cases happly.symm.trans happly'
  rw [hafter, hplain]
  have hframe := followKey_frame { dispatcher with keyboard } event keyState now
  have hframe' := followKey_frame { bare dispatcher with keyboard } event keyState now'
  constructor
  · simp only [Dispatcher.push, hframe.1, hframe'.1]
  · simp only [Dispatcher.push, followKey_pointer, bare]
  · simp only [Dispatcher.push, hframe.2, hframe'.2]
    rfl

theorem dispatch_echoes (dispatcher : Dispatcher x) (files : Nat → SharedFile) (record : Record)
    (now now' : Instant) :
    Echoes dispatcher (dispatcher.dispatch files record now).1
      ((bare dispatcher).dispatch files record now').1 := by
  have hidle : Echoes dispatcher dispatcher (bare dispatcher) :=
    ⟨rfl, rfl, (List.append_nil _).symm⟩
  cases hkind : record.kind with
  | keyboardKeymap =>
      by_cases hloads : ∃ keymap, Loads x files record keymap
      · obtain ⟨keymap, hloads⟩ := hloads
        rw [dispatch_of_loads hloads, dispatch_of_loads hloads]
        exact ⟨rfl, rfl, hidle.queue⟩
      · rw [dispatch_of_not_loads hkind hloads, dispatch_of_not_loads hkind hloads]
        exact hidle
  | keyboardKey =>
      by_cases haccepts : ∃ code keyState, AcceptsKey dispatcher record code keyState
      · obtain ⟨code, keyState, haccepts⟩ := haccepts
        exact echoes_of_acceptsKey haccepts files now now'
      · have hview : view (bare dispatcher).keyboard = view dispatcher.keyboard := rfl
        have hbare : ¬ ∃ code keyState, AcceptsKey (bare dispatcher) record code keyState :=
          fun ⟨code, keyState, h⟩ => haccepts ⟨code, keyState, acceptsKey_of_view_eq hview h⟩
        rw [dispatch_of_not_acceptsKey hkind haccepts, dispatch_of_not_acceptsKey hkind hbare]
        exact hidle
  | keyboardModifiers =>
      simp only [Dispatcher.dispatch, Dispatcher.apply, hkind]
      exact ⟨rfl, rfl, hidle.queue⟩
  | keyboardRepeatInfo | wayland | renderer | authSubmit =>
      simp only [Dispatcher.dispatch, Dispatcher.apply, hkind]
      exact ⟨rfl, rfl, hidle.queue⟩
  | pointerMotion | authPending | authFail | authSuccess =>
      simp only [Dispatcher.dispatch, Dispatcher.apply, hkind, Dispatcher.point, Dispatcher.push]
      exact ⟨rfl, rfl, rfl⟩
  | pointerButton =>
      simp only [Dispatcher.dispatch, Dispatcher.apply, hkind, Dispatcher.button]
      split
      · exact hidle
      · exact ⟨rfl, rfl, rfl⟩

theorem tick_frame (dispatcher : Dispatcher x) (now : Instant) :
    bare (dispatcher.tick now) = bare dispatcher ∧
      ∃ repeated, (dispatcher.tick now).queue = dispatcher.queue ++ repeated := by
  unfold Dispatcher.tick
  split
  · exact ⟨rfl, [], (List.append_nil _).symm⟩
  · exact ⟨rfl, _, rfl⟩

theorem added_of_queue_eq (dispatcher : Dispatcher x) (taken : Step) {events : List SceneEvent}
    (h : (step dispatcher taken).queue = dispatcher.queue ++ events) :
    added dispatcher taken = events := by
  rw [added, h, List.drop_left]

theorem added_drain (dispatcher : Dispatcher x) : added dispatcher .drain = [] :=
  List.drop_nil

theorem direct_cons (dispatcher : Dispatcher x) (first : Step) (rest : List Step) :
    direct dispatcher (first :: rest) =
      (if isTick first then [] else added dispatcher first) ++
        direct (step dispatcher first) rest := by
  cases hfirst : isTick first with
  | true | false => simp [direct, arrivals, hfirst, Function.comp_def, List.filter_map]

theorem run_replay {dispatcher other : Dispatcher x} (hbare : bare dispatcher = bare other)
    (steps : List Step) :
    bare (run step dispatcher steps) = bare (run step other (replay (records steps))) ∧
      direct dispatcher steps = direct other (replay (records steps)) := by
  induction steps generalizing dispatcher other with
  | nil => exact ⟨hbare, rfl⟩
  | cons first rest ih =>
      cases first with
      | dispatch files record now =>
          have hafter := dispatch_echoes dispatcher files record now 0
          have hafter' := dispatch_echoes other files record 0 0
          rw [hbare] at hafter
          have hadded : added dispatcher (.dispatch files record now) =
              added other (.dispatch files record 0) := by
            rw [added_of_queue_eq _ (.dispatch files record now) hafter.queue,
              added_of_queue_eq _ (.dispatch files record 0) hafter'.queue]
          have hstep : bare (step dispatcher (.dispatch files record now)) =
              bare (step other (.dispatch files record 0)) :=
            bare_eq_iff.mpr ⟨hafter.keyboard.trans hafter'.keyboard.symm,
              hafter.pointer.trans hafter'.pointer.symm⟩
          obtain ⟨hend, hdirect⟩ := ih hstep
          refine ⟨hend, ?_⟩
          show direct _ _ = direct other (.dispatch files record 0 :: replay (records rest))
          rw [direct_cons, direct_cons, hadded, hdirect]
          rfl
      | tick now =>
          obtain ⟨hend, hdirect⟩ := ih ((tick_frame dispatcher now).1.trans hbare)
          refine ⟨hend, ?_⟩
          rw [direct_cons, show step dispatcher (.tick now) = dispatcher.tick now from rfl, hdirect]
          rfl
      | drain =>
          obtain ⟨hend, hdirect⟩ := @ih (step dispatcher .drain) other hbare
          refine ⟨hend, ?_⟩
          rw [direct_cons, added_drain, hdirect]
          rfl

theorem bare_start (timing : Option Timing) : bare (start timing : Dispatcher x) = .new := by
  cases timing <;> rfl

theorem queue_start (timing : Option Timing) : (start timing : Dispatcher x).queue = [] := by
  cases timing <;> rfl

theorem queue_step {dispatcher : Dispatcher x} {taken : Step} (h : taken ≠ .drain) :
    (step dispatcher taken).queue = dispatcher.queue ++ added dispatcher taken := by
  cases taken with
  | dispatch files record now =>
      have hafter := dispatch_echoes dispatcher files record now now
      rw [added_of_queue_eq _ (.dispatch files record now) hafter.queue]
      exact hafter.queue
  | tick now =>
      obtain ⟨-, repeated, hqueue⟩ := tick_frame dispatcher now
      rw [added_of_queue_eq _ (.tick now) hqueue]
      exact hqueue
  | drain => exact absurd rfl h

theorem batches_append_queue (dispatcher : Dispatcher x) (steps : List Step) :
    (batches dispatcher steps).flatten ++ (run step dispatcher steps).queue =
      dispatcher.queue ++ (arrivals dispatcher steps).map Arrival.event := by
  induction steps generalizing dispatcher with
  | nil => simp [batches, arrivals]
  | cons first rest ih =>
      have harrivals : (arrivals dispatcher (first :: rest)).map Arrival.event =
          added dispatcher first ++
            (arrivals (step dispatcher first) rest).map Arrival.event := by
        simp [arrivals, Function.comp_def]
      rw [harrivals, run_cons]
      cases first with
      | dispatch files record now =>
          rw [batches, ih, queue_step (by simp), List.append_assoc]
      | tick now => rw [batches, ih, queue_step (by simp), List.append_assoc]
      | drain =>
          rw [batches, List.flatten_cons, List.append_assoc, ih, added_drain]
          rfl

/-- Two runs of a dispatcher with the same records, however they differ in time, in ticks, in drains
and in the timing of key repeat they start with, end with the same keyboard and pointer, and the
events queued by the records are the same. In a run what was drained, and what is still queued
behind it, is all that was ever queued. -/
theorem input_independent_of_schedule (timing timing' : Option Timing) (steps steps' : List Step)
    (h : records steps = records steps') :
    let before : Dispatcher x := start timing
    let before' : Dispatcher x := start timing'
    (run step before steps).keyboard = (run step before' steps').keyboard ∧
      (run step before steps).pointer = (run step before' steps').pointer ∧
      direct before steps = direct before' steps' ∧
      (batches before steps).flatten ++ (run step before steps).queue =
        (arrivals before steps).map Arrival.event := by
  intro before before'
  have hbare : bare before = bare before' :=
    (bare_start timing).trans (bare_start timing').symm
  obtain ⟨hend, hdirect⟩ := run_replay hbare steps
  obtain ⟨hend', hdirect'⟩ := run_replay (rfl : bare before' = _) steps'
  rw [h] at hend hdirect
  obtain ⟨hkeyboard, hpointer⟩ := bare_eq_iff.mp (hend.trans hend'.symm)
  refine ⟨hkeyboard, hpointer, hdirect.trans hdirect'.symm, ?_⟩
  have hqueued := batches_append_queue before steps
  rwa [queue_start timing, List.nil_append] at hqueued

def eagerLetter : List Step :=
  [.dispatch letterFile ⟨.keyboardKeymap, 3, 8⟩ 0, .tick 0,
    .dispatch letterFile ⟨.keyboardKey, 30, 1⟩ 0, .tick 500000000, .tick 530000000,
    .dispatch letterFile ⟨.keyboardKey, 30, 0⟩ 540000000, .drain]

def plainLetter : List Step :=
  [.dispatch letterFile ⟨.keyboardKeymap, 3, 8⟩ 0, .dispatch letterFile ⟨.keyboardKey, 30, 1⟩ 7,
    .drain, .dispatch letterFile ⟨.keyboardKey, 30, 0⟩ 7]

theorem letter_independent_of_schedule :
    records eagerLetter = records plainLetter ∧
      let before : Dispatcher (.ofTables [letterTable]) := start (some ⟨30, 500⟩)
      let before' : Dispatcher (.ofTables [letterTable]) := start none
      (arrivals before eagerLetter).map Arrival.byTick = [false, true, true, false] ∧
        (arrivals before' plainLetter).map Arrival.byTick = [false, false] ∧
        (run step before eagerLetter).keyboard = (run step before' plainLetter).keyboard ∧
        (run step before eagerLetter).pointer = (run step before' plainLetter).pointer ∧
        direct before eagerLetter = direct before' plainLetter ∧
        (batches before eagerLetter).flatten ++ (run step before eagerLetter).queue =
          (arrivals before eagerLetter).map Arrival.event :=
  ⟨rfl, rfl, rfl, input_independent_of_schedule (some ⟨30, 500⟩) none eagerLetter plainLetter rfl⟩

end LockScreen.Proofs.ScheduleIndependence
