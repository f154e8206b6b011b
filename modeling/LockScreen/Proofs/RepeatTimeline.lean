import LockScreen.Proofs.RepeatInvariant
import Mathlib.Data.List.Chain

/-!
When an engine repeats. Its moves are taken as a history, and from the history alone it is told
which payload is armed and from when on a tick fires: the delay that was in force at the set counts
for the first time, and the rate that was in force at a firing for the next one.
-/

namespace LockScreen.Proofs.RepeatTimeline

open LockScreen.Repeat LockScreen.Proofs.Runs LockScreen.Proofs.RepeatInvariant

variable {α : Type}

inductive Move (α : Type) where
  | configure (rate delay : Int)
  | set (payload : α) (now : Instant)
  | tick (now : Instant)
  | reset

def step (engine : Engine α) : Move α → Engine α
  | .configure rate delay => engine.configure rate delay
  | .set payload now => engine.set payload now
  | .tick now => (engine.tick now).2
  | .reset => engine.reset

def retime (timing : Option Timing) : Move α → Option Timing
  | .configure rate delay => if 0 < rate then some ⟨rate, delay⟩ else none
  | .set _ _ | .tick _ | .reset => timing

def timingAfter (moves : List (Move α)) : Option Timing :=
  moves.foldl retime none

def Move.disarms : Move α → Bool
  | configure rate _ => decide (rate ≤ 0)
  | set _ _ | reset => true
  | tick _ => false

/-- The latest set that took effect, between what was before it and what came since. -/
structure Armed (moves before since : List (Move α)) (payload : α) (now : Instant)
    (timing : Timing) : Prop where
  moves_eq : moves = before ++ .set payload now :: since
  timed : timingAfter before = some timing
  lasting : ∀ move ∈ since, move.disarms = false

structure Firing (α : Type) where
  payload : α
  now : Instant
  rate : Int

def Firing.next (firing : Firing α) : Instant :=
  firing.now + firing.rate * nanosPerMilli

def firing? (engine : Engine α) (rate : Int) : Move α → Option (Firing α)
  | .tick now => (engine.tick now).1.map fun payload => ⟨payload, now, rate⟩
  | .configure _ _ | .set _ _ | .reset => none

def firings (before : List (Move α)) : List (Move α) → List (Firing α)
  | [] => []
  | move :: rest =>
      (firing? (run step .new before) ((timingAfter before).elim 0 Timing.rate) move).toList ++
        firings (before ++ [move]) rest

/-- A tick fires from this moment on, given the earliest one for the first firing. -/
def bound (first : Instant) (fired : List (Firing α)) : Instant :=
  (fired.getLast?.map Firing.next).getD first

@[simp] theorem bound_cons (first : Instant) (firing : Firing α) (rest : List (Firing α)) :
    bound first (firing :: rest) = bound firing.next rest := by
  unfold bound
  rw [List.getLast?_cons]
  cases rest.getLast? <;> rfl

theorem timing_step (engine : Engine α) (move : Move α) :
    (step engine move).timing = retime engine.timing move := by
  cases move with
  | configure rate delay =>
      simp only [step, retime, Engine.configure]
      by_cases hrate : rate ≤ 0
      · rw [if_pos hrate, if_neg (Int.not_lt.mpr hrate)]
      · rw [if_neg hrate, if_pos (Int.not_le.mp hrate)]
  | set payload now =>
      simp only [step, retime, Engine.set]
      split <;> rfl
  | tick now =>
      simp only [step, retime, Engine.tick]
      split
      · split
        · rfl
        · split <;> rfl
      · rfl
  | reset => rfl

theorem timing_foldl (engine : Engine α) (moves : List (Move α)) :
    (run step engine moves).timing = moves.foldl retime engine.timing := by
  induction moves generalizing engine with
  | nil => rfl
  | cons first rest ih => rw [run_cons, ih, timing_step, List.foldl_cons]

theorem timing_run (moves : List (Move α)) : (run step .new moves).timing = timingAfter moves :=
  timing_foldl .new moves

theorem consistent_step {engine : Engine α} (h : Consistent engine) (move : Move α) :
    Consistent (step engine move) := by
  cases move with
  | configure rate delay => exact h.configure rate delay
  | set payload now => exact h.set payload now
  | tick now => exact h.tick now
  | reset => exact h.reset

theorem consistent_run {engine : Engine α} (h : Consistent engine) (moves : List (Move α)) :
    Consistent (run step engine moves) :=
  invariant_run (I := Consistent) (fun _ move h => consistent_step h move) h moves

theorem firstDelay_eq (timing : Timing) :
    timing.firstDelay = max timing.delay 0 * nanosPerMilli := by
  unfold Timing.firstDelay
  congr 1
  omega

theorem interval_eq {timing : Timing} (h : 0 < timing.rate) :
    timing.interval = timing.rate * nanosPerMilli := by
  unfold Timing.interval
  rw [if_neg (by omega)]

structure Holding (engine : Engine α) (payload : α) (due : Instant) : Prop where
  payload_eq : engine.payload = some payload
  deadline_eq : engine.deadline = some due

section Ticks

variable {engine : Engine α} {payload : α} {due now : Instant}

theorem Holding.timing_ne_none (h : Holding engine payload due) (hsound : Consistent engine) :
    engine.timing ≠ none := by
  apply hsound.timed
  intro hidle
  have hnone := hsound.payload_iff.mp hidle
  rw [h.payload_eq] at hnone
  cases hnone

theorem Holding.tick_early (h : Holding engine payload due) (hearly : now < due) :
    engine.tick now = (none, engine) := by
  unfold Engine.tick
  split
  · rename_i deadline timing hdeadline htiming
    rw [h.deadline_eq] at hdeadline
    cases hdeadline
    rw [if_pos hearly]
  · rfl

theorem Holding.tick_due (h : Holding engine payload due) (hsound : Consistent engine)
    (hdue : due ≤ now) :
    ∃ timing, engine.timing = some timing ∧ engine.tick now =
      (some payload,
        { engine with
          phase := .repeating
          deadline := some (now + timing.rate * nanosPerMilli) }) := by
  obtain ⟨timing, htiming⟩ := Option.ne_none_iff_exists'.mp (h.timing_ne_none hsound)
  refine ⟨timing, htiming, ?_⟩
  simp only [Engine.tick, h.deadline_eq, htiming, h.payload_eq, if_neg (Int.not_lt.mpr hdue),
    interval_eq (hsound.rate_pos timing htiming)]

theorem tick_of_no_deadline (h : engine.deadline = none) (now : Instant) :
    engine.tick now = (none, engine) := by
  simp only [Engine.tick, h]

end Ticks

section Since

variable {payload : α}

/-- What the moves since a set come to, by induction on them: each firing gives the payload, none
comes before the moment that was in force, and the last one sets the moment that is in force now. -/
theorem holding_since {before since : List (Move α)} {due : Instant}
    (h : Holding (run step .new before) payload due)
    (hlasting : ∀ move ∈ since, move.disarms = false) :
    Holding (run step .new (before ++ since)) payload (bound due (firings before since)) ∧
      (∀ firing ∈ firings before since, firing.payload = payload ∧ 0 < firing.rate) ∧
      (∀ firing ∈ (firings before since).head?, due ≤ firing.now) ∧
      (firings before since).IsChain fun firing later => firing.next ≤ later.now := by
  induction since generalizing before due with
  | nil =>
      rw [List.append_nil]
      refine ⟨h, ?_, ?_, .nil⟩
      · rintro firing ⟨⟩
      · rintro firing ⟨⟩
  | cons move rest ih =>
      have hsound : Consistent (run step .new before) := consistent_run consistent_new before
      have hrest : ∀ later ∈ rest, later.disarms = false := fun later hmem =>
        hlasting later (List.mem_cons_of_mem _ hmem)
      have hmove := hlasting move List.mem_cons_self
      rw [List.append_cons]
      cases move with
      | set other now => cases hmove
      | reset => cases hmove
      | configure rate delay =>
          have hrate : ¬ rate ≤ 0 := of_decide_eq_false hmove
          refine ih ⟨?_, ?_⟩ hrest
          · simp only [run_append, run_cons, run_nil, step, Engine.configure, if_neg hrate]
            exact h.payload_eq
          · simp only [run_append, run_cons, run_nil, step, Engine.configure, if_neg hrate]
            exact h.deadline_eq
      | tick now =>
          by_cases hdue : due ≤ now
          · obtain ⟨timing, htiming, htick⟩ := h.tick_due hsound hdue
            have hafter : run step .new (before ++ [.tick now]) =
                (Engine.tick (run step .new before) now).2 := run_append _ _ _ _
            have hheld : Holding (run step .new (before ++ [.tick now])) payload
                (now + timing.rate * nanosPerMilli) := by
              rw [hafter, htick]
              exact ⟨h.payload_eq, rfl⟩
            obtain ⟨hend, hpayloads, hhead, hchain⟩ := ih hheld hrest
            have hrate : (timingAfter before).elim 0 Timing.rate = timing.rate := by
              rw [← timing_run, htiming]
              rfl
            have hfirings : firings before (.tick now :: rest) =
                ⟨payload, now, timing.rate⟩ :: firings (before ++ [.tick now]) rest := by
              simp only [firings, firing?, htick, hrate]
              rfl
            rw [hfirings]
            refine ⟨?_, ?_, ?_, ?_⟩
            · rw [bound_cons]
              exact hend
            · rintro firing (_ | ⟨_, hmem⟩)
              · exact ⟨rfl, hsound.rate_pos timing htiming⟩
              · exact hpayloads firing hmem
            · rintro firing ⟨⟩
              exact hdue
            · exact List.isChain_cons.mpr ⟨hhead, hchain⟩
          · have htick := h.tick_early (Int.not_le.mp hdue)
            have hafter : run step .new (before ++ [.tick now]) = run step .new before := by
              rw [run_append, run_cons, run_nil, step, htick]
            have hheld : Holding (run step .new (before ++ [.tick now])) payload due := by
              rw [hafter]
              exact h
            have hfirings : firings before (.tick now :: rest) =
                firings (before ++ [.tick now]) rest := by
              simp only [firings, firing?, htick]
              rfl
            rw [hfirings]
            exact ih hheld hrest

theorem holding_set {before : List (Move α)} {timing : Timing}
    (htimed : timingAfter before = some timing) (payload : α) (now : Instant) :
    Holding (run step .new (before ++ [.set payload now])) payload
      (now + max timing.delay 0 * nanosPerMilli) := by
  rw [← timing_run] at htimed
  rw [run_append, run_cons, run_nil, step, Engine.set, htimed, ← firstDelay_eq]
  exact ⟨rfl, rfl⟩

theorem exists_armed {moves : List (Move α)} (h : (run step .new moves).deadline ≠ none) :
    ∃ before since payload now timing, Armed moves before since payload now timing := by
  induction moves using List.reverseRecOn with
  | nil => exact absurd rfl h
  | append_singleton earlier move ih =>
      have hkeep (hmove : move.disarms = false) (hearlier : (run step .new earlier).deadline ≠ none) :
          ∃ before since payload now timing,
            Armed (earlier ++ [move]) before since payload now timing := by
        obtain ⟨before, since, payload, now, timing, harmed⟩ := ih hearlier
        refine ⟨before, since ++ [move], payload, now, timing, ?_, harmed.timed, ?_⟩
        · rw [harmed.moves_eq, List.append_assoc, List.cons_append]
        · intro other hmem
          rcases List.mem_append.mp hmem with hmem | hmem
          · exact harmed.lasting other hmem
          · rw [List.mem_singleton.mp hmem]
            exact hmove
      rw [run_append, run_cons, run_nil] at h
      cases move with
      | configure rate delay =>
          by_cases hrate : rate ≤ 0
          · simp only [step, Engine.configure, if_pos hrate] at h
            exact absurd rfl h
          · simp only [step, Engine.configure, if_neg hrate] at h
            exact hkeep (decide_eq_false hrate) h
      | set payload now =>
          cases htimed : timingAfter earlier with
          | some timing =>
              exact ⟨earlier, [], payload, now, timing, rfl, htimed, fun _ hmem => nomatch hmem⟩
          | none =>
              have htiming := htimed
              rw [← timing_run] at htiming
              simp only [step, Engine.set, htiming] at h
              have hsound : Consistent (run step .new earlier) := consistent_run consistent_new earlier
              have hactive : (run step .new earlier).phase ≠ .idle := fun hidle =>
                h (hsound.deadline_iff.mp hidle)
              exact absurd htiming (hsound.timed hactive)
      | tick now =>
          apply hkeep rfl
          intro hnone
          rw [step, tick_of_no_deadline hnone] at h
          exact h hnone
      | reset => exact absurd rfl h

end Since

theorem firing_ge {first : Instant} {rate : Int} {fired : List (Firing α)}
    (hrate : ∀ firing ∈ fired, firing.rate = rate)
    (hhead : ∀ firing ∈ fired.head?, first ≤ firing.now)
    (hchain : fired.IsChain fun firing later => firing.next ≤ later.now) {k : Nat}
    {firing : Firing α} (hk : fired[k]? = some firing) :
    first + k * (rate * nanosPerMilli) ≤ firing.now := by
  induction fired generalizing first k with
  | nil => cases hk
  | cons head rest ih =>
      have hfirst : first ≤ head.now := hhead head rfl
      cases k with
      | zero =>
          cases hk
          simpa using hfirst
      | succ k =>
          obtain ⟨hnext, hrest⟩ := List.isChain_cons.mp hchain
          have hlater := ih (fun later hmem => hrate later (List.mem_cons_of_mem _ hmem)) hnext
            hrest hk
          rw [Firing.next, hrate head List.mem_cons_self] at hlater
          calc first + ((k + 1 : Nat) : Int) * (rate * nanosPerMilli)
              = first + rate * nanosPerMilli + k * (rate * nanosPerMilli) := by
                rw [Int.natCast_succ, Int.add_mul, Int.one_mul, Int.add_comm (k * _), Int.add_assoc]
            _ ≤ head.now + rate * nanosPerMilli + k * (rate * nanosPerMilli) :=
                Int.add_le_add_right (Int.add_le_add_right hfirst _) _
            _ ≤ firing.now := hlater

/-- After any moves at any times: without a set that took effect and still lasts, no tick fires or
changes anything. With one, all firings since give its payload; the first does not come before the
delay that was in force at the set is over, and none before the rate that was in force at the one
before it; a tick fires, once, from that moment on, and changes nothing earlier. Another positive
rate does not move that moment. So at one rate, the firing of number `k`, counted from 0, comes at
least `k` intervals behind the first moment. -/
theorem repeats_on_schedule (moves : List (Move α)) :
    let engine := run step .new moves
    ((¬ ∃ before since payload now timing, Armed moves before since payload now timing) →
        ∀ now, engine.tick now = (none, engine)) ∧
      (∀ before since payload set timing, Armed moves before since payload set timing →
        let first := set + max timing.delay 0 * nanosPerMilli
        let fired := firings (before ++ [.set payload set]) since
        (∀ firing ∈ fired, firing.payload = payload ∧ 0 < firing.rate) ∧
          (∀ firing ∈ fired.head?, first ≤ firing.now) ∧
          (fired.IsChain fun firing later => firing.next ≤ later.now) ∧
          (∀ now, bound first fired ≤ now → (engine.tick now).1 = some payload) ∧
          (∀ now, now < bound first fired → engine.tick now = (none, engine)) ∧
          ((∀ firing ∈ fired, firing.rate = timing.rate) → ∀ (k : Nat) firing,
            fired[k]? = some firing →
              first + k * (timing.rate * nanosPerMilli) ≤ firing.now)) ∧
      ∀ rate delay, 0 < rate →
        (engine.configure rate delay).deadline = engine.deadline ∧
          (engine.configure rate delay).payload = engine.payload := by
  intro engine
  have hsound : Consistent engine := consistent_run consistent_new moves
  refine ⟨?_, ?_, ?_⟩
  · intro hnone now
    apply tick_of_no_deadline
    by_contra hdeadline
    exact hnone (exists_armed hdeadline)
  · intro before since payload set timing harmed first fired
    have hset : Holding (run step .new (before ++ [.set payload set])) payload first :=
      holding_set harmed.timed payload set
    obtain ⟨hheld, hpayloads, hhead, hchain⟩ := holding_since hset harmed.lasting
    rw [← List.append_cons, ← harmed.moves_eq] at hheld
    refine ⟨hpayloads, hhead, hchain, ?_, fun now => hheld.tick_early, ?_⟩
    · intro now hdue
      obtain ⟨_, _, htick⟩ := hheld.tick_due hsound hdue
      rw [htick]
    · intro hrate k firing hk
      exact firing_ge hrate hhead hchain hk
  · intro rate delay hrate
    simp only [Engine.configure, if_neg (Int.not_le.mpr hrate), and_self]

end LockScreen.Proofs.RepeatTimeline
