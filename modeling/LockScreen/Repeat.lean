import LockScreen.Log

/-!
Key repeat: after a delay the payload that was set last is due, and from then on once an interval.
Nothing here waits. The owner asks for the next deadline and calls `tick`, which gives the payload
whenever it is due.
-/

namespace LockScreen.Repeat

/-- A moment, in nanoseconds from a fixed origin. -/
abbrev Instant := Int

def nanosPerMilli : Int := 1000000

structure Timing where
  rate : Int
  delay : Int
deriving DecidableEq, Repr

def Timing.interval (timing : Timing) : Int :=
  (if timing.rate < 1 then 1 else timing.rate) * nanosPerMilli

def Timing.firstDelay (timing : Timing) : Int :=
  (if timing.delay < 0 then 0 else timing.delay) * nanosPerMilli

inductive Phase where
  | idle
  | armed
  | repeating
deriving DecidableEq, Repr

def Phase.name : Phase → String
  | .idle => "Idle"
  | .armed => "ArmedPendingDelay"
  | .repeating => "Repeating"

structure Engine (α : Type) where
  timing : Option Timing
  phase : Phase
  payload : Option α
  deadline : Option Instant
deriving DecidableEq, Repr

namespace Engine

variable {α : Type}

def new : Engine α := ⟨none, .idle, none, none⟩

/-- Cancels the timers and forgets the payload; the timing stays. -/
def reset (engine : Engine α) : Engine α :=
  { engine with phase := .idle, payload := none, deadline := none }

/-- Sets the timing. A rate that is not positive turns repeat off; a deadline already set stays. -/
def configure (engine : Engine α) (rate delay : Int) : Engine α :=
  if rate ≤ 0 then { engine.reset with timing := none }
  else { engine with timing := some ⟨rate, delay⟩ }

def configured (rate delay : Int) : Log.Line :=
  ⟨.debug, "lockbridge::repeat",
    if rate ≤ 0 then "Key repeat disabled"
    else s!"Updated repeat info: rate={rate}ms delay={delay}ms"⟩

/-- Arms the engine with a new payload in place of any other. Without timing nothing happens. -/
def set (engine : Engine α) (payload : α) (now : Instant) : Engine α :=
  match engine.timing with
  | none => engine
  | some timing =>
    { engine.reset with
      phase := .armed, payload := some payload, deadline := some (now + timing.firstDelay) }

/-- Gives the payload if it is due; at most one repeat falls due in a call. -/
def tick (engine : Engine α) (now : Instant) : Option α × Engine α :=
  match engine.deadline, engine.timing with
  | some deadline, some timing =>
    if now < deadline then (none, engine)
    else
      match engine.payload with
      | none => (none, engine.reset)
      | some payload =>
        (some payload,
          { engine with phase := .repeating, deadline := some (now + timing.interval) })
  | _, _ => (none, engine)

end Engine

end LockScreen.Repeat
