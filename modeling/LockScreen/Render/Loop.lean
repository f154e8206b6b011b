import LockScreen.Dispatcher
import LockScreen.Render.Life
import LockScreen.Render.Target

/-!
The render loop. An iteration loads the scene when that is asked for, handles all input that has
arrived, lets a key repeat that is due, hands the scene events over, and draws at most one frame.
Each of these is a step of its own, and so are the three steps of publishing a frame, since the
control thread may act between any two of them.
-/

namespace LockScreen.Render

open LockScreen.Wire LockScreen.Repeat

/-- The shorter of the poll slice and the time to the next repeat, in nanoseconds. One that is
overdue is not waited for. -/
def waitTime (slice : Nat) (deadline : Option Instant) (now : Instant) : Nat :=
  match deadline with
  | none => slice
  | some deadline => Nat.min slice (deadline - now).toNat

def longestPoll : Nat := 2147483647

/-- Whole microseconds, rounded up to milliseconds. -/
def pollMillis (wait : Nat) : Nat :=
  Nat.min ((wait / 1000 + 999) / 1000) longestPoll

inductive Poll where
  | answered
  | interrupted
  | failed (cause : String)
deriving DecidableEq, Repr

inductive Happening where
  | effect (effect : Effect)
  | loaded (ending : Ending LoadError)
  | dispatched (record : Record)
  /-- A scene event was handed over; whether it made a new frame necessary, unless the thread did
  not survive it. -/
  | delivered (event : SceneEvent) (changed : Option Bool)
  | drawn (result : Except Report Unit)
  | readBack (result : Except Frame.ReadbackError Unit)
  | acquired (provider : Frame.Provider) (handle : Option UInt64)
  | published (handle : UInt64) (result : Except Wire.Error Unit)
  | returned (provider : Frame.Provider) (handle : UInt64)

namespace Happening

def effect? : Happening → Option Effect
  | effect done => some done
  | _ => none

def line? (happening : Happening) : Option Log.Line :=
  happening.effect?.bind Effect.line?

end Happening

/-- A render thread at work: what it shares with the control thread, its own state, its target, and
the channels and memory it works on. -/
structure Machine (x : Xkb) (τ : Type) where
  life : Life
  dispatcher : Dispatcher x
  listening : Bool
  loaded : Bool
  dirty : Bool
  target : τ
  input : Pipe
  outlet : Outlet
  memory : Frame.Memory

namespace Machine

variable {x : Xkb} {τ : Type}

def new (life : Life) (timing : Option Timing) (target : τ) (input : Pipe) (outlet : Outlet)
    (memory : Frame.Memory) : Machine x τ where
  life
  dispatcher := (timing.map Dispatcher.new.withTiming).getD .new
  listening := true
  loaded := false
  dirty := false
  target
  input
  outlet
  memory

def logged (lines : List Log.Line) : List Happening :=
  lines.map fun line => .effect (.log line)

def note (level : Log.Level) (message : String) : Happening :=
  .effect (.log (Life.line level message))

/-- Reads once, and dispatches the record that is read. When that was the last reading, the result
says whether the channel can be read again. -/
def hear (files : Nat → SharedFile) (now : Instant) (pipe : Pipe) (dispatcher : Dispatcher x) :
    Option Bool × Pipe × Dispatcher x × List Happening :=
  let (outcome, pipe, lines) := pipe.receive
  match outcome with
  | .ok none => (some true, pipe, dispatcher, logged lines)
  | .ok (some record) =>
    let (dispatcher, effects) := dispatcher.dispatch files record now
    (none, pipe, dispatcher, logged lines ++ .dispatched record :: effects.map .effect)
  | .error fault =>
    match fault with
    | .unknownKind tag =>
      (none, pipe, dispatcher,
        logged lines ++ [note .warn s!"Skipping event with unknown kind {tag.toNat}"])
    | .closed =>
      (some false, pipe, dispatcher, logged lines ++ [note .info "Input channel closed"])
    | .partialRecord _ | .partialWrite _ | .io _ =>
      (some false, pipe, dispatcher,
        logged lines ++ [note .error s!"Input channel unusable: {fault.message}"])

/-- Reads until there is nothing more to read. The result says whether the channel can be read
again. The reading of number `k` is at `now k`. -/
def drain (files : Nat → SharedFile) (now : Nat → Instant) :
    (fuel number : Nat) → Pipe → Dispatcher x → Bool × Pipe × Dispatcher x × List Happening
  | 0, _, pipe, dispatcher => (true, pipe, dispatcher, [])
  | fuel + 1, number, pipe, dispatcher =>
    match hear files (now number) pipe dispatcher with
    | (some usable, pipe, dispatcher, happenings) => (usable, pipe, dispatcher, happenings)
    | (none, pipe, dispatcher, happenings) =>
      let (usable, pipe, dispatcher, later) :=
        drain files now fuel (number + 1) pipe dispatcher
      (usable, pipe, dispatcher, happenings ++ later)

/-- Whether a read would not block: there are bytes, or there is no writer. -/
def readable (pipe : Pipe) : Bool :=
  !pipe.queue.isEmpty || !pipe.writerOpen

/-- Handles the input that has arrived. A channel that is lost is closed and never read again, and
so is one that could not be waited for. -/
def listen (files : Nat → SharedFile) (now : Nat → Instant) (poll : Poll)
    (machine : Machine x τ) : Machine x τ × List Happening :=
  if machine.listening then
    match poll with
    | .answered =>
      if readable machine.input then
        let (usable, input, dispatcher, happenings) :=
          drain files now (machine.input.queue.length + 1) 0 machine.input machine.dispatcher
        ({ machine with
            dispatcher, listening := usable, input := if usable then input else input.closeReader },
          happenings)
      else (machine, [])
    | .interrupted => (machine, [])
    | .failed cause =>
      ({ machine with listening := false, input := machine.input.closeReader },
        [note .error s!"poll failed: {cause}"])
  else (machine, [])

def tick (now : Instant) (machine : Machine x τ) : Machine x τ :=
  { machine with dispatcher := machine.dispatcher.tick now }

def takeRequest (machine : Machine x τ) : Machine x τ :=
  { machine with
    dirty := machine.dirty || machine.life.renderRequested
    life := { machine.life with renderRequested := false } }

/-- The thread dies. Its channels close, and what its keyboard holds is released. -/
def die (machine : Machine x τ) (crashed : Bool) : Machine x τ × List Happening :=
  ({ machine with
      life := machine.life.finish crashed
      dispatcher := .new
      listening := false
      input := machine.input.closeReader
      outlet := { machine.outlet with pipe := machine.outlet.pipe.closeWriter } },
    machine.dispatcher.keyboard.dropped.map .effect)

/-- Loads the scene, once, when it is asked for. A scene that fails to load is drawn as it is. The
result says whether the thread lives. -/
def load (api : Target τ) (machine : Machine x τ) : Bool × Machine x τ × List Happening :=
  if machine.loaded || !machine.life.loadRequested then (true, machine, [])
  else
    let (ending, target, lines) := api.load machine.target
    let machine := { machine with
      life := { machine.life with loadRequested := false }
      loaded := true, dirty := true, target }
    match ending with
    | .done => (true, machine, logged lines ++ [.loaded .done])
    | .failed fault =>
      (true, machine,
        logged lines ++ [.loaded (.failed fault),
          note .error s!"Failed to load scene asset: {fault.report.chain}"])
    | .crashed =>
      let (machine, died) := machine.die true
      (false, machine, logged lines ++ .loaded .crashed :: died)

def deliverOne (api : Target τ) (machine : Machine x τ) (event : SceneEvent) :
    Bool × Machine x τ × List Happening :=
  let (changed, target, outlet, lines) := api.handle machine.target machine.outlet event
  let machine := { machine with target, outlet, dirty := machine.dirty || changed.getD false }
  match changed with
  | some changed => (true, machine, logged lines ++ [.delivered event (some changed)])
  | none =>
    let (machine, died) := machine.die true
    (false, machine, logged lines ++ .delivered event none :: died)

def deliverAll (api : Target τ) :
    List SceneEvent → Machine x τ → Bool × Machine x τ × List Happening
  | [], machine => (true, machine, [])
  | event :: rest, machine =>
    match deliverOne api machine event with
    | (false, machine, first) => (false, machine, first)
    | (true, machine, first) =>
      let (alive, machine, later) := deliverAll api rest machine
      (alive, machine, first ++ later)

def deliver (api : Target τ) (machine : Machine x τ) : Bool × Machine x τ × List Happening :=
  let (events, dispatcher) := machine.dispatcher.drain
  deliverAll api events { machine with dispatcher }

def draw (api : Target τ) (machine : Machine x τ) : Bool × Machine x τ × List Happening :=
  let (ending, target, lines) := api.draw machine.target
  let machine := { machine with target }
  match ending with
  | .done => (true, machine, logged lines ++ [.drawn (.ok ())])
  | .failed fault =>
    (false, machine,
      logged lines ++ [.drawn (.error fault), note .warn s!"Render failed: {fault.chain}"])
  | .crashed =>
    let (machine, happenings) := machine.die true
    (false, machine, logged lines ++ happenings)

def fill (api : Target τ) : Frame.Filler (τ × List Happening) := fun pixels state =>
  let (ending, pixels, target, lines) := api.read state.1 pixels
  let happenings := state.2 ++ logged lines
  match ending with
  | .done => (.kept, pixels, target, happenings ++ [.readBack (.ok ())])
  | .failed fault =>
    (.dropped, pixels, target,
      happenings ++ [.readBack (.error fault),
        note .warn s!"Readback failed, dropping frame: {fault.message}"])
  | .crashed => (.crashed, pixels, target, happenings)

/-- Gets a buffer filled, under the lock of the provider. The result is the handle to publish. -/
def acquire (api : Target τ) (machine : Machine x τ) :
    Option UInt64 × Machine x τ × List Happening :=
  match machine.life.provider with
  | none => (none, machine, [note .debug "No buffer provider, frame not published"])
  | some provider =>
    let (acquired, memory, (target, happenings), lines) :=
      provider.fillNext machine.memory (fill api) (machine.target, [])
    let machine := { machine with memory, target }
    match acquired with
    | .crashed =>
      let (machine, died) := machine.die true
      (none, machine, happenings ++ died)
    | acquired =>
      (acquired.handle?, machine,
        happenings ++ logged lines ++ [.acquired provider acquired.handle?])

def publish (machine : Machine x τ) (handle : UInt64) : Bool × Machine x τ × List Happening :=
  match machine.outlet.frameReady handle with
  | (.ok (), outlet, lines) =>
    (true, { machine with outlet }, logged lines ++ [.published handle (.ok ())])
  | (.error fault, outlet, lines) =>
    (false, { machine with outlet },
      logged lines ++ [.published handle (.error fault),
        note .error s!"Failed to send frame-ready event: {fault.message}"])

/-- Gives a buffer back to the provider that is installed now. -/
def giveBack (machine : Machine x τ) (handle : UInt64) : Machine x τ × List Happening :=
  match machine.life.provider with
  | none => (machine, [])
  | some provider =>
    ({ machine with memory := provider.release machine.memory handle },
      [.returned provider handle])

def frame (api : Target τ) (machine : Machine x τ) : Machine x τ × List Happening :=
  match machine.draw api with
  | (false, machine, happenings) => (machine, happenings)
  | (true, machine, drawn) =>
    match machine.acquire api with
    | (none, machine, happenings) => (machine, drawn ++ happenings)
    | (some handle, machine, filled) =>
      match machine.publish handle with
      | (true, machine, happenings) => (machine, drawn ++ filled ++ happenings)
      | (false, machine, failed) =>
        let (machine, happenings) := machine.giveBack handle
        (machine, drawn ++ filled ++ failed ++ happenings)

def refresh (api : Target τ) (machine : Machine x τ) : Machine x τ × List Happening :=
  if machine.dirty && machine.loaded then frame api { machine with dirty := false }
  else (machine, [])

/-- One iteration of the loop. The repeat clock is read at `later`, behind all records. -/
def iterate (api : Target τ) (files : Nat → SharedFile) (now : Nat → Instant) (poll : Poll)
    (later : Instant) (machine : Machine x τ) : Machine x τ × List Happening :=
  match machine.load api with
  | (false, machine, loaded) => (machine, loaded)
  | (true, machine, loaded) =>
    let (machine, heard) := machine.listen files now poll
    match (machine.tick later).deliver api with
    | (false, machine, delivered) => (machine, loaded ++ heard ++ delivered)
    | (true, machine, delivered) =>
      let (machine, drawn) := machine.takeRequest.refresh api
      (machine, loaded ++ heard ++ delivered ++ drawn)

def patience (slice : Nat) (now : Instant) (machine : Machine x τ) : Nat :=
  pollMillis (waitTime slice machine.dispatcher.nextDeadline now)

def exit (machine : Machine x τ) : Machine x τ × List Happening :=
  let (machine, happenings) := machine.die false
  (machine, note .debug "Render loop exiting" :: happenings)

def halt (machine : Machine x τ) : Machine x τ × List Happening :=
  let machine := { machine with life := machine.life.requestStop }
  match machine.life.thread with
  | .serving => machine.exit
  | _ => (machine, [])

def shutdown (machine : Machine x τ) : Machine x τ × List Happening :=
  let (machine, left) := machine.halt
  let (life, lines) := machine.life.join
  ({ machine with life }, left ++ logged lines)

end Machine

end LockScreen.Render
