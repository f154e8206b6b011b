import LockScreen.Dispatcher
import LockScreen.Proofs.Runs

namespace LockScreen.Proofs.DispatcherRuns

open LockScreen.Repeat LockScreen.Wire

variable {x : Xkb}

/-- What the owner of a dispatcher does with it. A descriptor may refer to something else with every
record. -/
inductive Step where
  | dispatch (files : Nat → SharedFile) (record : Record) (now : Instant)
  | tick (now : Instant)
  | drain

def step (dispatcher : Dispatcher x) : Step → Dispatcher x
  | .dispatch files record now => (dispatcher.dispatch files record now).1
  | .tick now => dispatcher.tick now
  | .drain => dispatcher.drain.2

def start (timing : Option Timing) : Dispatcher x :=
  (timing.map Dispatcher.new.withTiming).getD .new

end LockScreen.Proofs.DispatcherRuns
