import LockScreen.Frame.Provider
import LockScreen.Render.Signal
import LockScreen.Report

/-!
The life of a render thread. The control thread starts it, waits until its setup has an outcome, and
stops it; the two threads take turns in any order, and no turn of either touches more than one of
the things that they share.
-/

namespace LockScreen.Render

inductive Phase where
  | uninitialized
  | initializing
  | ready
  | running
  | stopping
  | stopped
deriving DecidableEq, Repr

namespace Phase

def name : Phase → String
  | uninitialized => "Uninitialized"
  | initializing => "Initializing"
  | ready => "Ready"
  | running => "Running"
  | stopping => "Stopping"
  | stopped => "Stopped"

def rank : Phase → Nat
  | uninitialized => 0
  | initializing => 1
  | ready => 2
  | running => 3
  | stopping => 4
  | stopped => 5

end Phase

inductive Setup where
  | built
  | failed (fault : Report)
  | crashed
deriving DecidableEq, Repr

inductive Thread where
  | unborn
  | building
  /-- The target is built, or not; the phase does not show it yet. -/
  | settling (fault : Option Report)
  | announcing (fault : Option Report)
  | serving
  /-- It has come to its end, but the guard of its setup is still to be dropped. -/
  | leaving (crashed : Bool)
  | ended (crashed : Bool)
deriving DecidableEq, Repr

inductive Control where
  | idle
  | spawning
  | awaiting
  | adopting
  | requesting
  | burying (reason : String)
  | interring (reason : String)
  | raising
  | joining
  | releasing
  | sealing
deriving DecidableEq, Repr

structure Life where
  startable : Bool
  phase : Phase
  stopRequested : Bool
  loadRequested : Bool
  renderRequested : Bool
  provider : Option Frame.Provider
  outcome : Signal (Except String Unit)
  thread : Thread
  control : Control
  owned : Bool
deriving Repr

namespace Life

def logTarget : String := "lockbridge::render"

def line (level : Log.Level) (message : String) : Log.Line :=
  ⟨level, logTarget, message⟩

def new : Life where
  startable := true
  phase := .uninitialized
  stopRequested := false
  loadRequested := false
  renderRequested := false
  provider := none
  outcome := .new
  thread := .unborn
  control := .idle
  owned := false

def controlWaiter : Nat := 0

def silentEnd : String := "render thread exited during setup"

def setProvider (life : Life) (provider : Frame.Provider) : Life × List Log.Line :=
  ({ life with provider := some provider }, [line .debug "Buffer provider installed"])

def requestRender (life : Life) : Life :=
  { life with renderRequested := true }

def spawn (life : Life) : Except Report Unit × Life :=
  if life.startable then
    (.ok (), { life with startable := false, phase := .initializing, control := .spawning })
  else (.error (.ofMessage "Render loop already started"), life)

/-- Takes the thread in order to stop it. Without one, the provider is let go at once. -/
def halt (life : Life) : Life :=
  if life.owned then { life with owned := false, phase := .stopping, control := .raising }
  else { life with provider := none, control := .sealing }

/-- The next turn of the control thread. It has a result when a start ends. -/
def proceed (life : Life) : Option (Except Report Unit) × Life × List Log.Line :=
  match life.control with
  | .idle => (none, life, [])
  | .spawning => (none, { life with thread := .building, control := .awaiting }, [])
  | .awaiting =>
    if life.outcome.asleep controlWaiter then (none, life, [])
    else
      match life.outcome.look controlWaiter with
      | (none, outcome) => (none, { life with outcome }, [])
      | (some (.ok ()), outcome) =>
        (none, { life with outcome, owned := true, control := .adopting }, [])
      | (some (.error reason), outcome) =>
        (none, { life with outcome, control := .burying reason }, [])
  | .adopting => (none, { life with phase := .running, control := .requesting }, [])
  | .requesting =>
    (some (.ok ()), { life with loadRequested := true, control := .idle },
      [line .info "Render thread running"])
  | .burying reason =>
    match life.thread with
    | .ended crashed =>
      (none, { life with control := .interring reason },
        if crashed then [line .error "Render thread panicked during setup"] else [])
    | _ => (none, life, [])
  | .interring reason =>
    (some (.error (.ofMessage s!"Render thread failed to initialize: {reason}")),
      { life with phase := .stopped, control := .idle }, [])
  | .raising => (none, { life with stopRequested := true, control := .joining }, [])
  | .joining =>
    match life.thread with
    | .ended crashed =>
      (none, { life with control := .releasing },
        (if crashed then [line .error "Render thread panicked"] else []) ++
          [line .info "Render thread stopped"])
    | _ => (none, life, [])
  | .releasing => (none, { life with provider := none, control := .sealing }, [])
  | .sealing => (none, { life with startable := false, phase := .stopped, control := .idle }, [])

/-- The next turn of the render thread outside its loop, given how its setup ends. -/
def work (life : Life) (setup : Setup) : Life × List Log.Line :=
  match life.thread with
  | .building =>
    match setup with
    | .built => ({ life with thread := .settling none }, [])
    | .failed fault =>
      ({ life with thread := .settling (some fault) },
        [line .error s!"Render setup failed: {fault.chain}"])
    | .crashed => ({ life with thread := .leaving true }, [])
  | .settling none => ({ life with phase := .ready, thread := .announcing none }, [])
  | .settling (some fault) =>
    ({ life with phase := .stopped, thread := .announcing (some fault) }, [])
  | .announcing none =>
    ({ life with outcome := life.outcome.publish (.ok ()), thread := .serving }, [])
  | .announcing (some fault) =>
    ({ life with outcome := life.outcome.publish (.error fault.chain), thread := .leaving false },
      [])
  | .leaving crashed =>
    ({ life with outcome := life.outcome.publish (.error silentEnd), thread := .ended crashed }, [])
  | .unborn | .serving | .ended _ => (life, [])

def finish (life : Life) (crashed : Bool) : Life :=
  match life.thread with
  | .serving =>
    { life with
      outcome := life.outcome.publish (.error silentEnd), thread := .ended crashed }
  | _ => life

/-- The control thread looks for the outcome of the setup, and goes on if it is told that the thread
serves; the result is `none` while it waits. -/
def look (life : Life) : Option (Except Report Unit) × Life × List Log.Line :=
  match life.control with
  | .awaiting =>
    match life.outcome.look controlWaiter with
    | (none, outcome) => (none, { life with outcome }, [])
    | (some (.ok ()), outcome) =>
      (some (.ok ()),
        { life with
          outcome, owned := true, phase := .running, loadRequested := true, control := .idle },
        [line .info "Render thread running"])
    | (some (.error reason), outcome) =>
      (none, { life with outcome, control := .burying reason }, [])
  | _ => (none, life, [])

def dissolve (life : Life) : Life :=
  { life with startable := false, provider := none, phase := .stopped, control := .idle }

def requestStop (life : Life) : Life :=
  if life.owned then
    { life with owned := false, phase := .stopping, stopRequested := true, control := .joining }
  else life.dissolve

def join (life : Life) : Life × List Log.Line :=
  match life.control, life.thread with
  | .joining, .ended crashed =>
    (life.dissolve,
      (if crashed then [line .error "Render thread panicked"] else []) ++
        [line .info "Render thread stopped"])
  | _, _ => (life, [])

def works (setup : Setup) : Nat → Life → Life × List Log.Line
  | 0, life => (life, [])
  | turns + 1, life =>
    let (life, first) := life.work setup
    let (life, later) := works setup turns life
    (life, first ++ later)

def proceeds : Nat → Life → Option (Except Report Unit) × Life × List Log.Line
  | 0, life => (none, life, [])
  | turns + 1, life =>
    match life.proceed with
    | (some result, life, first) => (some result, life, first)
    | (none, life, first) =>
      let (result, life, later) := proceeds turns life
      (result, life, first ++ later)

/-- A whole start, the render thread going through its setup while the control thread waits. -/
def start (life : Life) (setup : Setup) : Except Report Unit × Life × List Log.Line :=
  match life.spawn with
  | (.error fault, life) => (.error fault, life, [])
  | (.ok (), life) =>
    let (_, life, spawned) := life.proceed
    let (life, built) := life.works setup 4
    let (result, life, ended) := life.proceeds 3
    (result.getD (.ok ()), life, spawned ++ built ++ ended)

end Life

end LockScreen.Render
