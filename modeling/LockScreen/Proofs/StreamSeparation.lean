import LockScreen.Proofs.RecordAccounting
import LockScreen.Proofs.ScheduleIndependence

namespace LockScreen.Proofs.StreamSeparation

open LockScreen.Repeat LockScreen.Wire
open LockScreen.Proofs.Runs LockScreen.Proofs.DispatcherRuns LockScreen.Proofs.RecordAcceptance
open LockScreen.Proofs.KeymapReplacement LockScreen.Proofs.RecordAccounting
open LockScreen.Proofs.ScheduleIndependence (followKey_pointer)

variable {x : Xkb} {α : Type}

def isPointerOrAuth (record : Record) : Bool :=
  match record.kind with
  | .pointerMotion | .pointerButton | .authSubmit | .authPending | .authFail | .authSuccess => true
  | .keyboardKeymap | .keyboardKey | .keyboardModifiers | .keyboardRepeatInfo | .wayland
  | .renderer => false

def isLeft (deleted : Record → Bool) : Step → Bool
  | .dispatch _ record _ => !deleted record
  | .tick _ | .drain => true

def seen (left : Step → Bool) (see : Dispatcher x → α) : Dispatcher x → List Step → List α
  | _, [] => []
  | dispatcher, first :: rest =>
      (if left first then [see (step dispatcher first)] else []) ++
        seen left see (step dispatcher first) rest

/-- The keyboard, key repeat, and the key events that are queued. -/
def keySide (dispatcher : Dispatcher x) :
    Keyboard x × Engine KeyEvent × Option UInt32 × List KeyEvent :=
  (dispatcher.keyboard, dispatcher.engine, dispatcher.repeatingCode,
    dispatcher.queue.filterMap keyEvent?)

def unmodified? : SceneEvent → Option SceneEvent
  | .key _ => none
  | .pointer event => some (.pointer { event with modifiers := .none })
  | .auth state => some (.auth state)

/-- The pointer, and the other events that are queued, without their modifiers. -/
def pointSide (dispatcher : Dispatcher x) : Pointer × List SceneEvent :=
  (dispatcher.pointer, dispatcher.queue.filterMap unmodified?)

/-- Two runs that are related stay so if deleted steps do not matter to the first and steps that are
left do the same to both. -/
theorem seen_filter {R : Dispatcher x → Dispatcher x → Prop} {left : Step → Bool}
    {see see' : Dispatcher x → α}
    (hdeleted : ∀ d d' taken, R d d' → left taken = false → R (step d taken) d')
    (hleft : ∀ d d' taken, R d d' → left taken = true → R (step d taken) (step d' taken))
    (hsee : ∀ d d', R d d' → see d = see' d') {dispatcher other : Dispatcher x}
    (h : R dispatcher other) (steps : List Step) :
    seen left see dispatcher steps = seen left see' other (steps.filter left) ∧
      see (run step dispatcher steps) = see' (run step other (steps.filter left)) := by
  induction steps generalizing dispatcher other with
  | nil => exact ⟨rfl, hsee _ _ h⟩
  | cons first rest ih =>
      cases hfirst : left first with
      | false =>
          obtain ⟨hseen, hend⟩ := ih (hdeleted _ _ first h hfirst)
          rw [List.filter_cons_of_neg (by simp [hfirst])]
          refine ⟨?_, hend⟩
          simpa only [seen, hfirst, Bool.false_eq_true, if_false, List.nil_append] using hseen
      | true =>
          have hafter := hleft _ _ first h hfirst
          obtain ⟨hseen, hend⟩ := ih hafter
          rw [List.filter_cons_of_pos hfirst]
          refine ⟨?_, hend⟩
          simp only [seen, hfirst, if_true, hsee _ _ hafter, hseen]

structure SameKeys (dispatcher other : Dispatcher x) : Prop where
  keyboard : dispatcher.keyboard = other.keyboard
  engine : dispatcher.engine = other.engine
  code : dispatcher.repeatingCode = other.repeatingCode
  events : dispatcher.queue.filterMap keyEvent? = other.queue.filterMap keyEvent?

theorem SameKeys.push {dispatcher other : Dispatcher x} (h : SameKeys dispatcher other)
    (event : SceneEvent) : SameKeys (dispatcher.push event) (other.push event) where
  keyboard := h.keyboard
  engine := h.engine
  code := h.code
  events := by simp only [Dispatcher.push, List.filterMap_append, h.events]

theorem SameKeys.push_left {dispatcher other : Dispatcher x} (h : SameKeys dispatcher other)
    {event : SceneEvent} (hevent : keyEvent? event = none) :
    SameKeys (dispatcher.push event) other where
  keyboard := h.keyboard
  engine := h.engine
  code := h.code
  events := by
    simp only [Dispatcher.push, List.filterMap_append, List.filterMap_cons, hevent,
      List.filterMap_nil, List.append_nil, h.events]

theorem SameKeys.followKey {dispatcher other : Dispatcher x} (h : SameKeys dispatcher other)
    (event : KeyEvent) (keyState : KeyState) (now : Instant) :
    SameKeys (dispatcher.followKey event keyState now) (other.followKey event keyState now) := by
  cases keyState with
  | pressed =>
      simp only [Dispatcher.followKey, h.keyboard, h.engine]
      split
      · exact ⟨rfl, rfl, rfl, h.events⟩
      · exact h
  | released =>
      simp only [Dispatcher.followKey, h.code, h.engine]
      split
      · exact ⟨h.keyboard, rfl, rfl, h.events⟩
      · exact h
  | repeated => exact h

theorem SameKeys.key {dispatcher other : Dispatcher x} (h : SameKeys dispatcher other)
    {record : Record} (hkind : record.kind = .keyboardKey) (files : Nat → SharedFile)
    (now : Instant) :
    SameKeys (dispatcher.dispatch files record now).1 (other.dispatch files record now).1 := by
  by_cases haccepts : ∃ code keyState, AcceptsKey dispatcher record code keyState
  · obtain ⟨code, keyState, haccepts⟩ := haccepts
    have hother : AcceptsKey other record code keyState :=
      { haccepts with keymap := h.keyboard ▸ haccepts.keymap }
    obtain ⟨event, keyboard, effects, happly, hafter⟩ := dispatch_of_acceptsKey haccepts files now
    obtain ⟨event', keyboard', effects', happly', hafter'⟩ :=
      dispatch_of_acceptsKey hother files now
    rw [h.keyboard] at happly
    cases happly.symm.trans happly'
    have hkeyboard : SameKeys { dispatcher with keyboard } { other with keyboard } :=
      { h with keyboard := rfl }
    rw [hafter, hafter']
    exact (hkeyboard.followKey event keyState now).push _
  · have hother : ¬ ∃ code keyState, AcceptsKey other record code keyState :=
      fun ⟨code, keyState, hother⟩ =>
        haccepts ⟨code, keyState, { hother with keymap := h.keyboard ▸ hother.keymap }⟩
    rw [dispatch_of_not_acceptsKey hkind haccepts, dispatch_of_not_acceptsKey hkind hother]
    exact h

theorem SameKeys.keymap {dispatcher other : Dispatcher x} (h : SameKeys dispatcher other)
    {record : Record} (hkind : record.kind = .keyboardKeymap) (files : Nat → SharedFile)
    (now : Instant) :
    SameKeys (dispatcher.dispatch files record now).1 (other.dispatch files record now).1 := by
  by_cases hloads : ∃ keymap, Loads x files record keymap
  · obtain ⟨keymap, hloads⟩ := hloads
    rw [dispatch_of_loads hloads, dispatch_of_loads hloads, h.keyboard, h.engine]
    exact ⟨rfl, rfl, rfl, h.events⟩
  · rw [dispatch_of_not_loads hkind hloads, dispatch_of_not_loads hkind hloads]
    exact h

theorem SameKeys.tick {dispatcher other : Dispatcher x} (h : SameKeys dispatcher other)
    (now : Instant) : SameKeys (dispatcher.tick now) (other.tick now) := by
  simp only [Dispatcher.tick, h.engine]
  split
  · exact { h with engine := rfl }
  · rename_i event engine htick
    have hafter : SameKeys { dispatcher with engine } { other with engine } :=
      { h with engine := rfl }
    exact hafter.push _

theorem SameKeys.left {dispatcher other : Dispatcher x} (h : SameKeys dispatcher other)
    {taken : Step} (hleft : isLeft isPointerOrAuth taken = true) :
    SameKeys (step dispatcher taken) (step other taken) := by
  cases taken with
  | tick now => exact h.tick now
  | drain => exact { h with events := rfl }
  | dispatch files record now =>
      cases hkind : record.kind with
      | keyboardKeymap => exact h.keymap hkind files now
      | keyboardKey => exact h.key hkind files now
      | keyboardModifiers =>
          simp only [step, Dispatcher.dispatch, Dispatcher.apply, hkind, h.keyboard]
          exact { h with keyboard := rfl }
      | keyboardRepeatInfo =>
          simp only [step, Dispatcher.dispatch, Dispatcher.apply, hkind, h.engine]
          exact ⟨h.keyboard, rfl, rfl, h.events⟩
      | wayland | renderer =>
          simpa only [step, Dispatcher.dispatch, Dispatcher.apply, hkind] using h
      | pointerMotion | pointerButton | authSubmit | authPending | authFail | authSuccess =>
          simp [isLeft, isPointerOrAuth, hkind] at hleft

theorem SameKeys.deleted {dispatcher other : Dispatcher x} (h : SameKeys dispatcher other)
    {taken : Step} (hdeleted : isLeft isPointerOrAuth taken = false) :
    SameKeys (step dispatcher taken) other := by
  cases taken with
  | tick now => exact absurd hdeleted (by simp [isLeft])
  | drain => exact absurd hdeleted (by simp [isLeft])
  | dispatch files record now =>
      have hpoint (moved : Pointer × PointerEvent) : SameKeys (dispatcher.point moved) other := by
        have hmoved : SameKeys { dispatcher with pointer := moved.1 } other := { h with }
        unfold Dispatcher.point
        exact hmoved.push_left rfl
      cases hkind : record.kind with
      | pointerMotion =>
          simp only [step, Dispatcher.dispatch, Dispatcher.apply, hkind]
          exact hpoint _
      | pointerButton =>
          simp only [step, Dispatcher.dispatch, Dispatcher.apply, hkind,
            Dispatcher.button]
          split
          · exact h
          · exact hpoint _
      | authSubmit =>
          simpa only [step, Dispatcher.dispatch, Dispatcher.apply, hkind] using h
      | authPending | authFail | authSuccess =>
          simp only [step, Dispatcher.dispatch, Dispatcher.apply, hkind]
          exact h.push_left rfl
      | keyboardKeymap | keyboardKey | keyboardModifiers | keyboardRepeatInfo | wayland
      | renderer => simp [isLeft, isPointerOrAuth, hkind] at hdeleted

/-- `plain` has neither a keymap nor a key to repeat, and agrees with the dispatcher on the pointer
and on all events but those of keys. -/
structure SamePoints (dispatcher plain : Dispatcher x) : Prop where
  pointer : dispatcher.pointer = plain.pointer
  events : dispatcher.queue.filterMap unmodified? = plain.queue
  layout : plain.keyboard.layout = none
  payload : plain.engine.payload = none

theorem SamePoints.modifiers {dispatcher plain : Dispatcher x} (h : SamePoints dispatcher plain) :
    plain.keyboard.modifiers = .none := by
  simp only [Keyboard.modifiers, h.layout]

theorem SamePoints.push {dispatcher plain : Dispatcher x} (h : SamePoints dispatcher plain)
    {event event' : SceneEvent} (hevent : unmodified? event = some event') :
    SamePoints (dispatcher.push event) (plain.push event') where
  pointer := h.pointer
  events := by
    simp only [Dispatcher.push, List.filterMap_append, h.events, List.filterMap_cons, hevent,
      List.filterMap_nil]
  layout := h.layout
  payload := h.payload

theorem SamePoints.point {dispatcher plain : Dispatcher x} (h : SamePoints dispatcher plain)
    (move : Pointer → Pointer × PointerEvent) :
    SamePoints (dispatcher.point (move dispatcher.pointer)) (plain.point (move plain.pointer)) := by
  have hmoved : SamePoints { dispatcher with pointer := (move plain.pointer).1 }
      { plain with pointer := (move plain.pointer).1 } := { h with pointer := rfl }
  rw [h.pointer]
  apply hmoved.push
  simp only [unmodified?, h.modifiers]

theorem SamePoints.tick {dispatcher plain : Dispatcher x} (h : SamePoints dispatcher plain)
    (now : Instant) : SamePoints (dispatcher.tick now) (plain.tick now) := by
  have hplain : SamePoints dispatcher (plain.tick now) := by
    have htick : plain.engine.tick now = (none, plain.engine) ∨
        plain.engine.tick now = (none, plain.engine.reset) := by
      unfold Engine.tick
      split
      · split
        · exact Or.inl rfl
        · refine Or.inr ?_
          simp only [h.payload]
      · exact Or.inl rfl
    rcases htick with htick | htick
    · simp only [Dispatcher.tick, htick]
      exact h
    · simp only [Dispatcher.tick, htick]
      exact { h with payload := rfl }
  simp only [Dispatcher.tick] at hplain ⊢
  generalize dispatcher.engine.tick now = outcome
  obtain ⟨repeated, engine⟩ := outcome
  cases repeated with
  | none => exact { hplain with }
  | some event =>
      refine { hplain with events := ?_ }
      simp only [Dispatcher.push, List.filterMap_append, List.filterMap_cons, unmodified?,
        List.filterMap_nil, List.append_nil]
      exact hplain.events

theorem SamePoints.left {dispatcher plain : Dispatcher x} (h : SamePoints dispatcher plain)
    {taken : Step} (hleft : isLeft isKeyboard taken = true) :
    SamePoints (step dispatcher taken) (step plain taken) := by
  cases taken with
  | tick now => exact h.tick now
  | drain => exact { h with events := rfl }
  | dispatch files record now =>
      cases hkind : record.kind with
      | pointerMotion =>
          simp only [step, Dispatcher.dispatch, Dispatcher.apply, hkind]
          exact h.point (Pointer.move · record.first record.second)
      | pointerButton =>
          simp only [step, Dispatcher.dispatch, Dispatcher.apply, hkind,
            Dispatcher.button]
          split
          · exact h
          · exact h.point (Pointer.press · record.first.toUInt32 (.ofTag record.second))
      | authPending | authFail | authSuccess =>
          simp only [step, Dispatcher.dispatch, Dispatcher.apply, hkind]
          exact h.push rfl
      | authSubmit | wayland | renderer =>
          simpa only [step, Dispatcher.dispatch, Dispatcher.apply, hkind] using h
      | keyboardKeymap | keyboardKey | keyboardModifiers | keyboardRepeatInfo =>
          simp [isLeft, isKeyboard, hkind] at hleft

theorem pointer_of_isKeyboard {record : Record} (h : isKeyboard record = true)
    (dispatcher : Dispatcher x) (files : Nat → SharedFile) (now : Instant) :
    (dispatcher.dispatch files record now).1.pointer = dispatcher.pointer := by
  cases hkind : record.kind with
  | keyboardKeymap =>
      by_cases hloads : ∃ keymap, Loads x files record keymap
      · obtain ⟨keymap, hloads⟩ := hloads
        rw [dispatch_of_loads hloads]
      · rw [dispatch_of_not_loads hkind hloads]
  | keyboardKey =>
      by_cases haccepts : ∃ code keyState, AcceptsKey dispatcher record code keyState
      · obtain ⟨code, keyState, haccepts⟩ := haccepts
        obtain ⟨event, keyboard, effects, -, hafter⟩ := dispatch_of_acceptsKey haccepts files now
        simp only [hafter, Dispatcher.push, followKey_pointer]
      · rw [dispatch_of_not_acceptsKey hkind haccepts]
  | keyboardModifiers | keyboardRepeatInfo =>
      simp only [Dispatcher.dispatch, Dispatcher.apply, hkind]
  | pointerMotion | pointerButton | authSubmit | authPending | authFail | authSuccess | wayland
  | renderer => simp [isKeyboard, hkind] at h

theorem unmodified_of_isKeyboard {record : Record} (h : isKeyboard record = true)
    {events : List SceneEvent} (hbrings : Brings record events) :
    events.filterMap unmodified? = [] := by
  refine List.filterMap_eq_nil_iff.mpr fun event hevent => ?_
  have hkind := hbrings.kind_of_mem hevent
  cases event with
  | key brought => rfl
  | pointer brought => rcases hkind with hkind | hkind <;> simp [isKeyboard, hkind] at h
  | auth state => rcases hkind with hkind | hkind | hkind <;> simp [isKeyboard, hkind] at h

theorem SamePoints.deleted {dispatcher plain : Dispatcher x} (h : SamePoints dispatcher plain)
    {taken : Step} (hdeleted : isLeft isKeyboard taken = false) :
    SamePoints (step dispatcher taken) plain := by
  cases taken with
  | tick now => exact absurd hdeleted (by simp [isLeft])
  | drain => exact absurd hdeleted (by simp [isLeft])
  | dispatch files record now =>
      have hrecord : isKeyboard record = true := by simpa [isLeft] using hdeleted
      refine { h with pointer := ?_, events := ?_ }
      · exact (pointer_of_isKeyboard hrecord dispatcher files now).trans h.pointer
      · by_cases hrejected : TurnedDown dispatcher record
        · have hsame :=
            dispatch_of_not_accepts (not_accepts_of_turnedDown files hrejected) now
          simp only [step, hsame]
          exact h.events
        · obtain ⟨events, hbrings, hqueue⟩ := brings_of_not_turnedDown hrejected files now
          simp only [step, hqueue, List.filterMap_append,
            unmodified_of_isKeyboard hrecord hbrings, List.append_nil]
          exact h.events

theorem samePoints_start (timing : Option Timing) :
    SamePoints (start timing : Dispatcher x) (start timing) := by
  cases timing with
  | none => exact ⟨rfl, rfl, rfl, rfl⟩
  | some timing => exact ⟨rfl, rfl, rfl, RepeatInvariant.payload_start (some timing)⟩

/-- Without the records of pointer and authentication, the side of the keyboard is the same after
every step that is left. Without those of the keyboard, so are the pointer and all other events,
except that no pointer event has modifiers then; no key event is left. -/
theorem streams_do_not_interfere (timing : Option Timing) (steps : List Step) :
    let before : Dispatcher x := start timing
    let keys := steps.filter (isLeft isPointerOrAuth)
    let points := steps.filter (isLeft isKeyboard)
    (seen (isLeft isPointerOrAuth) keySide before steps =
        seen (isLeft isPointerOrAuth) keySide before keys ∧
      keySide (run step before steps) = keySide (run step before keys)) ∧
    (seen (isLeft isKeyboard) pointSide before steps =
        seen (isLeft isKeyboard) (fun plain => (plain.pointer, plain.queue)) before points ∧
      pointSide (run step before steps) =
        ((run step before points).pointer, (run step before points).queue)) := by
  intro before keys points
  constructor
  · have hsame : SameKeys before before := ⟨rfl, rfl, rfl, rfl⟩
    refine seen_filter (fun d d' taken h => h.deleted) (fun d d' taken h => h.left) ?_ hsame steps
    intro d d' h
    simp only [keySide, h.keyboard, h.engine, h.code, h.events]
  · refine seen_filter (fun d d' taken h => h.deleted) (fun d d' taken h => h.left) ?_
      (samePoints_start timing) steps
    intro d d' h
    simp only [pointSide, h.pointer, h.events]

end LockScreen.Proofs.StreamSeparation
