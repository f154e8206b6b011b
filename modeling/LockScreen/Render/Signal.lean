namespace LockScreen.Render

structure Signal (ρ : Type) where
  outcome : Option ρ
  parked : List Nat
  woken : List Nat
deriving DecidableEq, Repr

namespace Signal

variable {ρ : Type}

def new : Signal ρ := ⟨none, [], []⟩

/-- Sets the outcome and notifies all waiters; later outcomes are ignored. -/
def publish (signal : Signal ρ) (outcome : ρ) : Signal ρ :=
  match signal.outcome with
  | none => ⟨some outcome, [], signal.woken ++ signal.parked⟩
  | some _ => signal

/-- One look of a waiter at the cell: the outcome if there is one, else it is parked. -/
def look (signal : Signal ρ) (waiter : Nat) : Option ρ × Signal ρ :=
  let parked := signal.parked.filter (· != waiter)
  let woken := signal.woken.filter (· != waiter)
  match signal.outcome with
  | some outcome => (some outcome, { signal with parked, woken })
  | none => (none, { signal with parked := waiter :: parked, woken })

def asleep (signal : Signal ρ) (waiter : Nat) : Bool :=
  signal.parked.contains waiter

/-- A waiter may wake up without having been notified. -/
def rouse (signal : Signal ρ) (waiter : Nat) : Signal ρ :=
  { signal with
    parked := signal.parked.filter (· != waiter)
    woken := waiter :: signal.woken.filter (· != waiter) }

def isPending (signal : Signal ρ) : Bool :=
  signal.outcome.isNone

end Signal

end LockScreen.Render
