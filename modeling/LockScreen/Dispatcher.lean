import LockScreen.Keyboard
import LockScreen.Repeat

/-!
The input models of one render thread. `dispatch` applies a record to the keyboard, the pointer and
key repeat, and queues the scene events that follow from it; `tick` queues a repeat that is due;
`drain` takes what is queued, in order.
-/

namespace LockScreen

open LockScreen.Repeat LockScreen.Wire

structure Dispatcher (x : Xkb) where
  keyboard : Keyboard x
  pointer : Pointer
  engine : Engine KeyEvent
  repeatingCode : Option UInt32
  queue : List SceneEvent

namespace Dispatcher

variable {x : Xkb}

def logTarget : String := "lockbridge::dispatch"

def new : Dispatcher x := ⟨.new, .new, .new, none, []⟩

def withTiming (dispatcher : Dispatcher x) (timing : Timing) : Dispatcher x :=
  { dispatcher with engine := dispatcher.engine.configure timing.rate timing.delay }

def push (dispatcher : Dispatcher x) (event : SceneEvent) : Dispatcher x :=
  { dispatcher with queue := dispatcher.queue ++ [event] }

def warning (message : String) : Effect :=
  .log ⟨.warn, logTarget, message⟩

def descriptorLimit : Nat := 2147483648

/-- A new keymap stops the repeat. What `files` gives is what a descriptor refers to. -/
def keymap (dispatcher : Dispatcher x) (files : Nat → SharedFile) (descriptor size : UInt64) :
    Dispatcher x × List Effect :=
  if descriptorLimit ≤ descriptor.toNat then
    (dispatcher, [warning s!"Keymap fd out of range: {descriptor.toNat}"])
  else
    match dispatcher.keyboard.loadShared descriptor.toNat (files descriptor.toNat) size.toNat with
    | (some (.ok ()), keyboard, effects) =>
      ({ dispatcher with
          keyboard, engine := dispatcher.engine.reset, repeatingCode := none }, effects)
    | (some (.error fault), keyboard, effects) =>
      ({ dispatcher with keyboard },
        effects ++ [warning s!"Keymap update failed: {fault.message}"])
    | (none, keyboard, effects) => ({ dispatcher with keyboard }, effects)

/-- Keeps key repeat in step with a key event: the press of a repeating key arms it, the release of
the key being repeated ends it. -/
def followKey (dispatcher : Dispatcher x) (event : KeyEvent) (keyState : KeyState)
    (now : Instant) : Dispatcher x :=
  match keyState with
  | .pressed =>
    if dispatcher.keyboard.repeats event.code then
      { dispatcher with
        engine := dispatcher.engine.set { event with autoRepeat := true } now
        repeatingCode := some event.code }
    else dispatcher
  | .released =>
    if dispatcher.repeatingCode = some event.code then
      { dispatcher with engine := dispatcher.engine.reset, repeatingCode := none }
    else dispatcher
  | .repeated => dispatcher

def key (dispatcher : Dispatcher x) (code tag : UInt64) (now : Instant) :
    Dispatcher x × List Effect :=
  if 4294967296 ≤ code.toNat then
    (dispatcher, [warning s!"Key code out of range: {code.toNat}"])
  else
    match KeyState.ofTag? tag with
    | none => (dispatcher, [warning s!"Unknown key state {tag.toNat}"])
    | some keyState =>
      match dispatcher.keyboard.applyKey code.toUInt32 keyState with
      | (none, keyboard, effects) => ({ dispatcher with keyboard }, effects)
      | (some event, keyboard, effects) =>
        ((followKey { dispatcher with keyboard } event keyState now).push (.key event), effects)

def point (dispatcher : Dispatcher x) (moved : Pointer × PointerEvent) : Dispatcher x :=
  { dispatcher with pointer := moved.1 }.push
    (.pointer { moved.2 with modifiers := dispatcher.keyboard.modifiers })

def button (dispatcher : Dispatcher x) (code tag : UInt64) : Dispatcher x × List Effect :=
  if 4294967296 ≤ code.toNat then
    (dispatcher, [warning s!"Button code out of range: {code.toNat}"])
  else
    (dispatcher.point (dispatcher.pointer.press code.toUInt32 (.ofTag tag)), [])

def signed (word : UInt64) : Int :=
  word.toUInt32.toInt32.toInt

def received (record : Record) : Effect :=
  .log ⟨.trace, logTarget,
    s!"Event type: {record.kind.name}; param 1: {record.first.toNat}; " ++
      s!"param 2: {record.second.toNat}"⟩

def apply (dispatcher : Dispatcher x) (files : Nat → SharedFile) (record : Record)
    (now : Instant) : Dispatcher x × List Effect :=
  match record.kind with
  | .keyboardKeymap => dispatcher.keymap files record.first record.second
  | .keyboardModifiers =>
    let (_, keyboard, effects) :=
      dispatcher.keyboard.setMasks (Masks.unpack record.first record.second)
    ({ dispatcher with keyboard }, effects)
  | .keyboardKey => dispatcher.key record.first record.second now
  | .keyboardRepeatInfo =>
    let rate := signed record.first
    let delay := signed record.second
    ({ dispatcher with engine := dispatcher.engine.configure rate delay, repeatingCode := none },
      [.log (Engine.configured rate delay)])
  | .pointerMotion =>
    (dispatcher.point (dispatcher.pointer.move record.first record.second), [])
  | .pointerButton => dispatcher.button record.first record.second
  | .authPending => (dispatcher.push (.auth .pending), [])
  | .authFail => (dispatcher.push (.auth .failed), [])
  | .authSuccess => (dispatcher.push (.auth .success), [])
  | .wayland | .renderer | .authSubmit =>
    (dispatcher,
      [.log ⟨.debug, logTarget, s!"Ignoring outbound-only event {record.kind.name}"⟩])

def dispatch (dispatcher : Dispatcher x) (files : Nat → SharedFile) (record : Record)
    (now : Instant) : Dispatcher x × List Effect :=
  let (dispatcher, effects) := dispatcher.apply files record now
  (dispatcher, received record :: effects)

def tick (dispatcher : Dispatcher x) (now : Instant) : Dispatcher x :=
  match dispatcher.engine.tick now with
  | (none, engine) => { dispatcher with engine }
  | (some event, engine) => { dispatcher with engine }.push (.key event)

def nextDeadline (dispatcher : Dispatcher x) : Option Instant :=
  dispatcher.engine.deadline

def drain (dispatcher : Dispatcher x) : List SceneEvent × Dispatcher x :=
  (dispatcher.queue, { dispatcher with queue := [] })

end Dispatcher

end LockScreen
