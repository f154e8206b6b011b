import LockScreen.Render.Loop

/-!
How the wait of the render loop is rounded. The clock counts in nanoseconds and the system waits for
whole milliseconds, but the wait is cut to whole microseconds before it is rounded up. So it is
rounded up unless what it has beyond its whole milliseconds is less than a microsecond: then it ends
that much too early, and if it has no whole millisecond the loop does not wait at all.
-/

namespace LockScreen.Proofs.WaitRounding

open LockScreen.Render LockScreen.Repeat

/-- When the loop has to be awake: at the end of the poll slice, or at the deadline if that is
earlier. -/
def alarm (slice : Nat) (deadline : Option Instant) (now : Instant) : Instant :=
  deadline.elim (now + slice) (min (now + slice))

def expiry (millis : Nat) (now : Instant) : Instant :=
  now + millis * nanosPerMilli

def RoundsUp (wait millis : Nat) : Prop :=
  wait ≤ millis * 1000000 ∧ millis * 1000000 < wait + 1000000

instance (wait millis : Nat) : Decidable (RoundsUp wait millis) :=
  inferInstanceAs (Decidable (_ ∧ _))

/-- There is something of the wait beyond its whole milliseconds, but not a microsecond. -/
def Sliver (wait : Nat) : Prop :=
  0 < wait % 1000000 ∧ wait % 1000000 < 1000

def longestWait : Nat :=
  longestPoll * 1000000

section Alarm

variable (slice : Nat) (deadline : Option Instant) (now : Instant)

theorem add_waitTime : now + waitTime slice deadline now = max now (alarm slice deadline now) := by
  cases deadline with
  | none =>
      simp only [waitTime, alarm, Option.elim_none]
      -- `omega` takes a moment for an integer only where its type says so
      unfold Instant
      omega
  | some due =>
      simp only [waitTime, alarm, Option.elim_some, Nat.min_def]
      unfold Instant
      split <;> omega

theorem waitTime_lt_iff {nanos : Nat} (hnanos : 0 < nanos) :
    waitTime slice deadline now < nanos ↔ alarm slice deadline now < now + nanos := by
  have hwait := add_waitTime slice deadline now
  unfold Instant at *
  omega

end Alarm

section Milliseconds

variable {wait : Nat}

theorem pollMillis_of_long (h : longestWait < wait) : pollMillis wait = longestPoll := by
  unfold longestWait longestPoll at h
  unfold pollMillis longestPoll
  exact Nat.min_eq_right (by omega)

theorem pollMillis_of_le (h : wait ≤ longestWait) :
    pollMillis wait = wait / 1000000 + if wait % 1000000 < 1000 then 0 else 1 := by
  have hceil : (wait / 1000 + 999) / 1000 =
      wait / 1000000 + if wait % 1000000 < 1000 then 0 else 1 := by
    split <;> omega
  unfold longestWait longestPoll at h
  unfold pollMillis longestPoll
  rw [← hceil]
  exact Nat.min_eq_left (by omega)

example : pollMillis 1000999 = 1 ∧ pollMillis 1001000 = 2 := by decide

theorem pollMillis_lt (wait : Nat) : pollMillis wait * 1000000 < wait + 1000000 := by
  rcases Nat.lt_or_ge longestWait wait with hlong | hshort
  · rw [pollMillis_of_long hlong]
    exact Nat.lt_add_right 1000000 hlong
  · rw [pollMillis_of_le hshort]
    split <;> omega

theorem lt_pollMillis (h : wait ≤ longestWait) : wait < pollMillis wait * 1000000 + 1000 := by
  rw [pollMillis_of_le h]
  split <;> omega

theorem le_pollMillis_iff (wait : Nat) :
    wait ≤ pollMillis wait * 1000000 ↔ wait ≤ longestWait ∧ ¬ Sliver wait := by
  rcases Nat.lt_or_ge longestWait wait with hlong | hshort
  · rw [pollMillis_of_long hlong]
    exact iff_of_false (Nat.not_le.mpr hlong) fun h => Nat.not_le.mpr hlong h.1
  · rw [pollMillis_of_le hshort]
    unfold Sliver
    split <;> omega

theorem roundsUp_iff (wait : Nat) :
    RoundsUp wait (pollMillis wait) ↔ wait ≤ longestWait ∧ ¬ Sliver wait := by
  rw [← le_pollMillis_iff]
  exact and_iff_left (pollMillis_lt wait)

theorem pollMillis_eq_zero_iff (wait : Nat) : pollMillis wait = 0 ↔ wait < 1000 := by
  rcases Nat.lt_or_ge longestWait wait with hlong | hshort
  · rw [pollMillis_of_long hlong]
    unfold longestWait longestPoll at hlong
    exact iff_of_false (by decide) (by omega)
  · rw [pollMillis_of_le hshort]
    split <;> omega

end Milliseconds

section Loop

variable {x : Xkb} {τ : Type} {slice : Nat}

theorem patience_eq_zero_iff (now : Instant) (machine : Machine x τ) :
    machine.patience slice now = 0 ↔
      alarm slice machine.dispatcher.nextDeadline now < now + 1000 := by
  unfold Machine.patience
  rw [pollMillis_eq_zero_iff]
  exact waitTime_lt_iff slice _ now (by decide)

theorem expiry_of_ahead {now : Instant} {machine : Machine x τ}
    (h : now + 1000 ≤ alarm slice machine.dispatcher.nextDeadline now) :
    now + nanosPerMilli ≤ expiry (machine.patience slice now) now := by
  have hwaits : machine.patience slice now ≠ 0 := fun hzero =>
    Int.not_lt.mpr h ((patience_eq_zero_iff now machine).mp hzero)
  unfold expiry nanosPerMilli Instant
  omega

/-- By induction on the number of waits, each of which begins when the one before has timed out. -/
theorem clock_of_ahead {machines : Nat → Machine x τ} {clock : Nat → Instant}
    (hwaits : ∀ k, expiry ((machines k).patience slice (clock k)) (clock k) ≤ clock (k + 1))
    (n : Nat) (h : ∀ k < n,
      clock k + 1000 ≤ alarm slice (machines k).dispatcher.nextDeadline (clock k)) :
    clock 0 + n * nanosPerMilli ≤ clock n := by
  induction n with
  | zero => simp
  | succ n ih =>
      have hearlier := ih fun k hk => h k (Nat.lt_succ_of_lt hk)
      calc clock 0 + ((n + 1 : Nat) : Int) * nanosPerMilli
          = clock 0 + n * nanosPerMilli + nanosPerMilli := by
            rw [Int.natCast_succ, Int.add_mul, Int.one_mul, Int.add_assoc]
        _ ≤ clock n + nanosPerMilli := Int.add_le_add_right hearlier _
        _ ≤ expiry ((machines n).patience slice (clock n)) (clock n) :=
            expiry_of_ahead (h n (Nat.lt_succ_self n))
        _ ≤ clock (n + 1) := hwaits n

end Loop

/-- The wait lasts until the alarm, and there is none if that is past. In milliseconds it is rounded
up unless it is longer than the system takes or has a sliver beyond its whole milliseconds; one that
is too long is cut to the longest. The loop looks for input without waiting just if the alarm is
less than a microsecond ahead. Where the alarm is not past, a wait times out less than a millisecond
behind it, less than a microsecond before it if it is not too long, and not before it just if it is
rounded up. So as long as the alarm is a microsecond ahead whenever the loop begins to wait, it does
so at most once in a millisecond. -/
theorem wait_rounded_up_iff (slice : Nat) (deadline : Option Instant) (now : Instant) :
    let wait := waitTime slice deadline now
    let millis := pollMillis wait
    let due := alarm slice deadline now
    now + wait = max now due ∧
    (RoundsUp wait millis ↔ wait ≤ longestWait ∧ ¬ Sliver wait) ∧
    (longestWait < wait → millis = longestPoll) ∧
    (millis = 0 ↔ due < now + 1000) ∧
    (now ≤ due →
      expiry millis now < due + nanosPerMilli ∧
      (wait ≤ longestWait → due < expiry millis now + 1000) ∧
      (due ≤ expiry millis now ↔ wait ≤ longestWait ∧ ¬ Sliver wait)) ∧
    ∀ (x : Xkb) (τ : Type) (machines : Nat → Machine x τ) (clock : Nat → Instant),
      (∀ k, expiry ((machines k).patience slice (clock k)) (clock k) ≤ clock (k + 1)) →
      ∀ n, (∀ k < n,
          clock k + 1000 ≤ alarm slice (machines k).dispatcher.nextDeadline (clock k)) →
        clock 0 + n * nanosPerMilli ≤ clock n := by
  intro wait millis due
  have hwait : now + wait = max now due := add_waitTime slice deadline now
  have hlate : millis * 1000000 < wait + 1000000 := pollMillis_lt wait
  have hzero : millis = 0 ↔ due < now + 1000 :=
    (pollMillis_eq_zero_iff wait).trans (waitTime_lt_iff slice deadline now (by decide))
  refine ⟨hwait, roundsUp_iff wait, pollMillis_of_long, hzero, fun hahead => ?_,
    fun x τ machines clock hwaits => clock_of_ahead hwaits⟩
  have hdue : due = now + wait := (hwait.trans (Int.max_eq_right hahead)).symm
  unfold expiry nanosPerMilli
  rw [hdue, ← le_pollMillis_iff]
  refine ⟨?_, fun hshort => ?_, ?_⟩
  · unfold Instant
    omega
  · have hearly : wait < millis * 1000000 + 1000 := lt_pollMillis hshort
    unfold Instant
    omega
  · change _ ↔ wait ≤ millis * 1000000
    unfold Instant
    omega

/-- A nanosecond before a repeat is due the loop does not wait, and finds that nothing is
due yet. -/
theorem nanosecond_wait_spins :
    let engine : Engine Unit := (Engine.new.configure 30 500).set () 0
    let now : Instant := 499999999
    let wait := waitTime 16000000 engine.deadline now
    let millis := pollMillis wait
    engine.deadline = some (now + 1) ∧ wait = 1 ∧ millis = 0 ∧ ¬ RoundsUp wait millis ∧
      expiry millis now < alarm 16000000 engine.deadline now ∧
      engine.tick (expiry millis now) = (none, engine) := by
  decide

end LockScreen.Proofs.WaitRounding
