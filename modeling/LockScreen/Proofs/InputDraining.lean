import LockScreen.Proofs.PipeTraffic
import LockScreen.Proofs.ScheduleIndependence
import LockScreen.Render.Loop

namespace LockScreen.Proofs.InputDraining

open LockScreen.Render LockScreen.Repeat LockScreen.Wire
open LockScreen.Proofs.Runs LockScreen.Proofs.DispatcherRuns LockScreen.Proofs.PipeRecords
open LockScreen.Proofs.PipeTraffic (Holds Reads reads_receive answer_eq exists_words fault_of_ofTag)

variable {x : Xkb}

def known (words : Words) : Option Record :=
  match Kind.ofTag words.tag with
  | .ok kind => some ⟨kind, words.first, words.second⟩
  | .error _ => none

def dispatched? : Happening → Option Record
  | .dispatched record => some record
  | _ => none

def dispatched (happenings : List Happening) : List Record :=
  happenings.filterMap dispatched?

def dispatches (files : Nat → SharedFile) (now : Nat → Instant) :
    (number : Nat) → List Words → List Step
  | _, [] => []
  | number, words :: rest =>
      (known words).toList.map (.dispatch files · (now number)) ++
        dispatches files now (number + 1) rest

/-- Reading after reading, until one is the last, in whatever number of them. -/
inductive Drains (files : Nat → SharedFile) (now : Nat → Instant) :
    Nat → Pipe → Dispatcher x → Bool × Pipe × Dispatcher x × List Happening → Prop
  | last {number : Nat} {pipe after : Pipe} {dispatcher dispatcher' : Dispatcher x}
      {usable : Bool} {happenings : List Happening} :
      Machine.hear files (now number) pipe dispatcher =
        (some usable, after, dispatcher', happenings) →
      Drains files now number pipe dispatcher (usable, after, dispatcher', happenings)
  | more {number : Nat} {pipe middle after : Pipe}
      {dispatcher dispatcher' dispatcher'' : Dispatcher x} {usable : Bool}
      {happenings later : List Happening} :
      Machine.hear files (now number) pipe dispatcher =
        (none, middle, dispatcher', happenings) →
      Drains files now (number + 1) middle dispatcher' (usable, after, dispatcher'', later) →
      Drains files now number pipe dispatcher
        (usable, after, dispatcher'', happenings ++ later)

@[simp] theorem dispatched_append (first second : List Happening) :
    dispatched (first ++ second) = dispatched first ++ dispatched second :=
  List.filterMap_append

@[simp] theorem dispatched_effects (effects : List Effect) :
    dispatched (effects.map .effect) = [] := by
  rw [dispatched, List.filterMap_map]
  exact List.filterMap_eq_nil_iff.mpr fun _ _ => rfl

@[simp] theorem dispatched_logged (lines : List Log.Line) :
    dispatched (Machine.logged lines) = [] := by
  rw [dispatched, Machine.logged, List.filterMap_map]
  exact List.filterMap_eq_nil_iff.mpr fun _ _ => rfl

theorem answer_eq_known (words : Words) :
    words.answer =
      match known words with
      | some record => .ok (some record)
      | none => .error (.unknownKind words.tag) := by
  unfold Words.answer known
  cases Kind.ofTag words.tag <;> rfl

section Readings

variable {pipe : Pipe} {words : Words} {rest : List UInt8}

theorem receive_words (h : pipe.queue = words.bytes ++ rest) :
    pipe.receive.1 = words.answer ∧ pipe.receive.2.1.queue = rest ∧
      pipe.receive.2.1.writerOpen = pipe.writerOpen := by
  have hlength : words.bytes.length = recordLength := words.length_bytes
  have hsome : pipe.queue ≠ [] := by
    apply List.ne_nil_of_length_pos
    rw [h, List.length_append, hlength]
    exact Nat.lt_of_lt_of_le (by decide) (Nat.le_add_right recordLength _)
  obtain ⟨hanswer, hqueue, hopen⟩ := receive_of_ne_nil hsome
  refine ⟨?_, ?_, hopen⟩
  · rw [hanswer, h, List.take_left' hlength, answer_eq]
  · rw [hqueue, h, List.drop_left' hlength]

theorem hear_words (h : pipe.queue = words.bytes ++ rest) (files : Nat → SharedFile)
    (now : Instant) (dispatcher : Dispatcher x) :
    ∃ after happenings, Machine.hear files now pipe dispatcher =
        (none, after, run step dispatcher ((known words).toList.map (.dispatch files · now)),
          happenings) ∧
      after.queue = rest ∧ after.writerOpen = pipe.writerOpen ∧
      dispatched happenings = (known words).toList := by
  obtain ⟨hanswer, hqueue, hopen⟩ := receive_words h
  rw [answer_eq_known] at hanswer
  rcases hreceive : pipe.receive with ⟨answer, after, lines⟩
  rw [hreceive] at hanswer hqueue hopen
  cases hknown : known words with
  | some record =>
      simp only [hknown] at hanswer
      subst hanswer
      rcases hdispatch : dispatcher.dispatch files record now with ⟨dispatcher', effects⟩
      refine ⟨after, Machine.logged lines ++ .dispatched record :: effects.map .effect, ?_, hqueue,
        hopen, ?_⟩
      · simp only [Machine.hear, hreceive, hdispatch, Option.toList_some, List.map_cons,
          List.map_nil, run_cons, run_nil, step]
      · rw [dispatched_append, dispatched_logged, List.nil_append]
        exact congrArg (record :: ·) (dispatched_effects effects)
  | none =>
      simp only [hknown] at hanswer
      subst hanswer
      refine ⟨after, _, by simp only [Machine.hear, hreceive]; rfl, hqueue, hopen, ?_⟩
      rw [dispatched_append, dispatched_logged]
      rfl

theorem hear_tail (h : pipe.queue.length < 24) (files : Nat → SharedFile) (now : Instant)
    (dispatcher : Dispatcher x) :
    ∃ usable after happenings, Machine.hear files now pipe dispatcher =
        (some usable, after, dispatcher, happenings) ∧
      (usable = true ↔ pipe.queue = [] ∧ pipe.writerOpen = true) ∧
      after.queue = [] ∧ dispatched happenings = [] := by
  have hreads := reads_receive pipe
  rcases hreceive : pipe.receive with ⟨answer, after, lines⟩
  rw [hreceive] at hreads
  have hqueue : after.queue = [] := by
    rw [hreads.queue]
    exact List.drop_eq_nil_of_le (Nat.le_of_lt h)
  by_cases hnil : pipe.queue = []
  · cases hopen : pipe.writerOpen with
    | true =>
        have hanswer := hreads.blocked.mpr ⟨hnil, hopen⟩
        dsimp only at hanswer
        subst hanswer
        refine ⟨true, after, Machine.logged lines, by simp only [Machine.hear, hreceive],
          by simp [hnil], hqueue, dispatched_logged lines⟩
    | false =>
        have hanswer := hreads.closed.mpr ⟨hnil, hopen⟩
        dsimp only at hanswer
        subst hanswer
        refine ⟨false, after, _, by simp only [Machine.hear, hreceive]; rfl, by simp, hqueue, ?_⟩
        rw [dispatched_append, dispatched_logged]
        rfl
  · have hpos : 0 < pipe.queue.length := List.length_pos_iff.mpr hnil
    have hanswer := (hreads.fragment pipe.queue.length).mpr ⟨rfl, hpos, h⟩
    dsimp only at hanswer
    subst hanswer
    refine ⟨false, after, _, by simp only [Machine.hear, hreceive]; rfl, by simp [hnil], hqueue, ?_⟩
    rw [dispatched_append, dispatched_logged]
    rfl

end Readings

/-- What draining a pipe comes to that holds some words and a tail behind them. -/
structure Outcome (files : Nat → SharedFile) (now : Nat → Instant) (number : Nat) (pipe : Pipe)
    (dispatcher : Dispatcher x) (words : List Words) (tail : List UInt8)
    (outcome : Bool × Pipe × Dispatcher x × List Happening) : Prop where
  drains : Drains files now number pipe dispatcher outcome
  usable : outcome.1 = true ↔ tail = [] ∧ pipe.writerOpen = true
  dispatched : dispatched outcome.2.2.2 = words.filterMap known
  dispatcher : outcome.2.2.1 = run step dispatcher (dispatches files now number words)
  queue : outcome.2.1.queue = []

end LockScreen.Proofs.InputDraining
