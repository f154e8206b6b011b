import LockScreen.Proofs.KeyboardHistory
import LockScreen.Proofs.StreamSeparation

namespace LockScreen.Proofs.PointerHistory

open LockScreen.Repeat LockScreen.Wire
open LockScreen.Proofs.Runs LockScreen.Proofs.DispatcherRuns LockScreen.Proofs.KeymapReplacement
open LockScreen.Proofs.ScheduleIndependence LockScreen.Proofs.KeyboardHistory
open LockScreen.Proofs.StreamSeparation (pointer_of_isKeyboard)

variable {x : Xkb}

def codes : Button → List Nat
  | .left => [0x110]
  | .right => [0x111]
  | .middle => [0x112]
  | .back => [0x113, 0x116]
  | .forward => [0x114, 0x115]
  | .extra => [0x117]

def place : Button → Nat
  | .left => 0
  | .right => 1
  | .middle => 2
  | .back => 3
  | .forward => 4
  | .extra => 6

def motion? (record : Record) : Option (UInt64 × UInt64) :=
  if record.kind = .pointerMotion then some (record.first, record.second) else none

/-- Whether a record has a button down, if it is about that button. All of its first word counts for
the code, and all of the second for the tag. -/
def turn? (button : Button) (record : Record) : Option Bool :=
  if record.kind = .pointerButton ∧ record.first.toNat ∈ codes button then
    some (record.second.toNat = 1)
  else none

def latest {α : Type} (sets : Record → Option α) (steps : List Step) : Option α :=
  ((records steps).filterMap fun came => sets came.2).getLast?

section Mask

theorem ofCode_eq_some_iff (code : UInt32) (button : Button) :
    Button.ofCode? code = some button ↔ code.toNat ∈ codes button := by
  unfold Button.ofCode?
  split
  case h_9 hleft hright hmiddle hside hextra hforward hback htask =>
    constructor
    · intro h
      cases h
    · intro h
      cases button <;> simp_all [codes]
  all_goals
    rename_i hcode
    rw [hcode]
    cases button <;> simp [codes]

theorem lt_of_mem_codes {code : Nat} {button : Button} (h : code ∈ codes button) :
    code < 4294967296 := by
  cases button <;> simp [codes] at h <;> omega

theorem testBit_bit (button : Button) (index : Nat) :
    button.bit.toNat.testBit index = decide (place button = index) := by
  have hpower := @Nat.testBit_two_pow (place button) index
  cases button <;> exact hpower

theorem place_inj {button other : Button} (h : place button = place other) : button = other := by
  cases button <;> cases other <;> first | rfl | exact absurd h (by decide)

theorem eq_of_held {buttons other : Buttons}
    (h : ∀ button, buttons.held button = other.held button) : buttons = other := by
  obtain ⟨left, right, middle, back, forward, extra⟩ := buttons
  have hleft : left = _ := h .left
  have hright : right = _ := h .right
  have hmiddle : middle = _ := h .middle
  have hback : back = _ := h .back
  have hforward : forward = _ := h .forward
  have hextra : extra = _ := h .extra
  rw [hleft, hright, hmiddle, hback, hforward, hextra]
  rfl

theorem testBit_bits (buttons : Buttons) (index : Nat) :
    buttons.bits.toNat.testBit index = true ↔
      ∃ button, place button = index ∧ buttons.held button = true := by
  have hweight (button : Button) :
      (if buttons.held button then button.bit else 0).toNat.testBit index =
        (buttons.held button && decide (place button = index)) := by
    cases buttons.held button with
    | true => simp [testBit_bit]
    | false => simp
  simp only [Buttons.bits, UInt32.toNat_or, Nat.testBit_or, hweight, Bool.or_eq_true,
    Bool.and_eq_true, decide_eq_true_eq]
  constructor
  · rintro (((((h | h) | h) | h) | h) | h) <;> exact ⟨_, h.2, h.1⟩
  · rintro ⟨button, hplace, hheld⟩
    cases button <;> simp [hplace, hheld]

theorem testBit_place (buttons : Buttons) (button : Button) :
    buttons.bits.toNat.testBit (place button) = buttons.held button := by
  rw [Bool.eq_iff_iff, testBit_bits]
  constructor
  · rintro ⟨other, hplace, hheld⟩
    rwa [← place_inj hplace]
  · intro hheld
    exact ⟨button, rfl, hheld⟩

end Mask

section Records

variable (dispatcher : Dispatcher x) (files : Nat → SharedFile) (record : Record) (now : Instant)

theorem pointer_of_motion (hkind : record.kind = .pointerMotion) :
    (dispatcher.dispatch files record now).1.pointer =
      ⟨record.first, record.second, dispatcher.pointer.buttons⟩ := by
  simp only [Dispatcher.dispatch, Dispatcher.apply, hkind]
  rfl

theorem pointer_of_unused (hmotion : record.kind ≠ .pointerMotion)
    (hbutton : record.kind = .pointerButton → 4294967296 ≤ record.first.toNat) :
    (dispatcher.dispatch files record now).1.pointer = dispatcher.pointer := by
  cases hkind : record.kind with
  | keyboardKeymap | keyboardKey | keyboardModifiers | keyboardRepeatInfo =>
      exact pointer_of_isKeyboard (by simp only [isKeyboard, hkind]) dispatcher files now
  | pointerMotion => exact absurd hkind hmotion
  | pointerButton =>
      simp only [Dispatcher.dispatch, Dispatcher.apply, hkind, Dispatcher.button, hbutton hkind,
        if_true]
  | authPending | authFail | authSuccess | wayland | renderer | authSubmit =>
      simp only [Dispatcher.dispatch, Dispatcher.apply, hkind, Dispatcher.push]

theorem pointer_of_button (hkind : record.kind = .pointerButton)
    (hrange : record.first.toNat < 4294967296) :
    (dispatcher.dispatch files record now).1.pointer =
      (dispatcher.pointer.press record.first.toUInt32 (.ofTag record.second)).1 := by
  simp only [Dispatcher.dispatch, Dispatcher.apply, hkind, Dispatcher.button,
    Nat.not_le.mpr hrange, if_false]
  rfl

theorem pointer_cases :
    let after := (dispatcher.dispatch files record now).1.pointer
    (record.kind = .pointerMotion ∧
        after = ⟨record.first, record.second, dispatcher.pointer.buttons⟩) ∨
      (record.kind = .pointerButton ∧ record.first.toNat < 4294967296 ∧
        after = (dispatcher.pointer.press record.first.toUInt32 (.ofTag record.second)).1) ∨
      (record.kind ≠ .pointerMotion ∧
        (record.kind = .pointerButton → 4294967296 ≤ record.first.toNat) ∧
        after = dispatcher.pointer) := by
  intro after
  by_cases hmotion : record.kind = .pointerMotion
  · exact Or.inl ⟨hmotion, pointer_of_motion dispatcher files record now hmotion⟩
  by_cases hused : record.kind = .pointerButton ∧ record.first.toNat < 4294967296
  · obtain ⟨hkind, hrange⟩ := hused
    exact Or.inr (Or.inl ⟨hkind, hrange, pointer_of_button dispatcher files record now hkind hrange⟩)
  · have hunused (hkind : record.kind = .pointerButton) : 4294967296 ≤ record.first.toNat :=
      Nat.not_lt.mp fun hrange => hused ⟨hkind, hrange⟩
    exact Or.inr (Or.inr
      ⟨hmotion, hunused, pointer_of_unused dispatcher files record now hmotion hunused⟩)

theorem motion_dispatch :
    let after := (dispatcher.dispatch files record now).1.pointer
    (after.x, after.y) = (motion? record).getD (dispatcher.pointer.x, dispatcher.pointer.y) := by
  intro after
  rcases pointer_cases dispatcher files record now with
    ⟨hkind, hafter⟩ | ⟨hkind, -, hafter⟩ | ⟨hkind, -, hafter⟩
  · simp only [after, hafter, motion?, hkind, if_true, Option.getD_some]
  · rw [show after = _ from hafter, motion?, hkind]
    rfl
  · rw [show after = _ from hafter, motion?, if_neg hkind]
    rfl

theorem held_press (pointer : Pointer) (code : UInt32) (tag : UInt64) (button : Button) :
    (pointer.press code (.ofTag tag)).1.buttons.held button =
      if code.toNat ∈ codes button then decide (tag.toNat = 1) else pointer.buttons.held button := by
  have htag : (ButtonState.ofTag tag = .pressed) ↔ tag.toNat = 1 := by
    have hone : tag = 1 ↔ tag.toNat = 1 := UInt64.toNat_inj.symm
    rw [ButtonState.ofTag, ← hone]
    split <;> simp_all
  simp only [Pointer.press, htag]
  cases hcode : Button.ofCode? code with
  | none =>
      have hother : code.toNat ∉ codes button := fun hmem =>
        absurd (hcode.symm.trans ((ofCode_eq_some_iff code button).mpr hmem)) (by simp)
      rw [if_neg hother]
  | some changed =>
      simp only [Buttons.held_set, ← ofCode_eq_some_iff, hcode, Option.some.injEq,
        eq_comm (a := button)]

theorem turn_dispatch (button : Button) :
    (dispatcher.dispatch files record now).1.pointer.buttons.held button =
      (turn? button record).getD (dispatcher.pointer.buttons.held button) := by
  rcases pointer_cases dispatcher files record now with
    ⟨hkind, hafter⟩ | ⟨hkind, hrange, hafter⟩ | ⟨-, hunused, hafter⟩
  · rw [hafter, turn?, hkind]
    rfl
  · have hcode : record.first.toUInt32.toNat = record.first.toNat := by
      rw [UInt64.toNat_toUInt32]
      exact Nat.mod_eq_of_lt hrange
    rw [hafter, held_press, hcode]
    simp only [turn?, hkind, true_and]
    split <;> rfl
  · have hother : turn? button record = none := by
      refine if_neg ?_
      rintro ⟨hkind, hmem⟩
      exact Nat.not_le.mpr (lt_of_mem_codes hmem) (hunused hkind)
    rw [hafter, hother, Option.getD_none]

end Records

section Runs

theorem pointer_tick (dispatcher : Dispatcher x) (now : Instant) :
    (dispatcher.tick now).pointer = dispatcher.pointer :=
  (bare_eq_iff.mp (tick_frame dispatcher now).1).2

/-- A quantity of the pointer that each record sets or leaves is, after a run, what was set last. -/
theorem latest_run {α : Type} (quantity : Pointer → α) {sets : Record → Option α}
    (hdispatch : ∀ (dispatcher : Dispatcher x) files record now,
      quantity (dispatcher.dispatch files record now).1.pointer =
        (sets record).getD (quantity dispatcher.pointer))
    (dispatcher : Dispatcher x) (steps : List Step) :
    quantity (run step dispatcher steps).pointer =
      (latest sets steps).getD (quantity dispatcher.pointer) := by
  induction steps generalizing dispatcher with
  | nil => rfl
  | cons first rest ih =>
      rw [run_cons, ih]
      cases first with
      | dispatch files record now =>
          have hafter : quantity (step dispatcher (.dispatch files record now)).pointer =
              (sets record).getD (quantity dispatcher.pointer) :=
            hdispatch dispatcher files record now
          rw [hafter]
          simp only [latest, records, List.filterMap_cons]
          cases sets record with
          | none => rfl
          | some value => simp only [List.getLast?_cons, Option.getD_some]
      | tick now =>
          simp only [step, pointer_tick]
          rfl
      | drain => rfl

theorem pointer_start (timing : Option Timing) :
    (start timing : Dispatcher x).pointer = .new := by
  cases timing <;> rfl

theorem not_pointer_of_added_tick {dispatcher : Dispatcher x} {now : Instant}
    {event : PointerEvent} : .pointer event ∉ added dispatcher (.tick now) := by
  have hqueue : ∃ repeated : List KeyEvent,
      (step dispatcher (.tick now)).queue = dispatcher.queue ++ repeated.map .key := by
    simp only [step, Dispatcher.tick]
    split
    · exact ⟨[], (List.append_nil _).symm⟩
    · exact ⟨[_], rfl⟩
  obtain ⟨repeated, hqueue⟩ := hqueue
  rw [added_of_queue_eq dispatcher (.tick now) hqueue]
  simp

theorem pointer_of_added {dispatcher : Dispatcher x} {taken : Step} {event : PointerEvent}
    (h : .pointer event ∈ added dispatcher taken) :
    event.buttons = (step dispatcher taken).pointer.buttons ∧
      event.x = (step dispatcher taken).pointer.x ∧
      event.y = (step dispatcher taken).pointer.y := by
  cases taken with
  | dispatch files record now =>
      obtain ⟨moved, hmoved, hafter, rfl⟩ := point_of_added h
      rw [hafter]
      rcases hmoved with rfl | rfl <;> exact ⟨rfl, rfl, rfl⟩
  | tick now => exact absurd h not_pointer_of_added_tick
  | drain =>
      rw [added_drain] at h
      exact absurd h List.not_mem_nil

/-- In every reachable state the position is the one of the last motion, and a bit of the mask is
set just if it is that of a button whose last record has it down. Pointer events tell of the pointer
with their own record in it. A motion leaves the buttons as they are, and what is neither a motion
nor about a button leaves the whole pointer. -/
theorem pointer_follows_history (timing : Option Timing) (steps : List Step) :
    let dispatcher : Dispatcher x := run step (start timing) steps
    (dispatcher.pointer.x, dispatcher.pointer.y) = (latest motion? steps).getD (0, 0) ∧
      (∀ button, dispatcher.pointer.buttons.bits.toNat.testBit (place button) = true ↔
        latest (turn? button) steps = some true) ∧
      (∀ index, dispatcher.pointer.buttons.bits.toNat.testBit index = true →
        ∃ button, place button = index) ∧
      (∀ taken event, .pointer event ∈ added dispatcher taken →
        let after := (step dispatcher taken).pointer
        event.buttons.bits = after.buttons.bits ∧ (event.x, event.y) = (after.x, after.y)) ∧
      ∀ files record now,
        let after := (step dispatcher (.dispatch files record now)).pointer
        (record.kind = .pointerMotion → after.buttons = dispatcher.pointer.buttons) ∧
        (record.kind ≠ .pointerMotion → (∀ button, turn? button record = none) →
          after = dispatcher.pointer) := by
  intro dispatcher
  refine ⟨?_, ?_, ?_, ?_, ?_⟩
  · have hplace := latest_run (fun pointer => (pointer.x, pointer.y)) motion_dispatch
      (start timing : Dispatcher x) steps
    rwa [pointer_start] at hplace
  · intro button
    have hheld := latest_run (fun pointer => pointer.buttons.held button)
      (fun before files record now => turn_dispatch before files record now button)
      (start timing : Dispatcher x) steps
    rw [pointer_start, show Pointer.new.buttons.held button = false by cases button <;> rfl] at hheld
    rw [testBit_place, hheld]
    cases latest (turn? button) steps <;> simp
  · intro index hindex
    obtain ⟨button, hplace, -⟩ := (testBit_bits _ index).mp hindex
    exact ⟨button, hplace⟩
  · intro taken event hevent after
    obtain ⟨hbuttons, hx, hy⟩ := pointer_of_added hevent
    rw [hbuttons, hx, hy]
    exact ⟨rfl, rfl⟩
  · intro files record now after
    constructor
    · intro hmotion
      rw [show after = _ from pointer_of_motion dispatcher files record now hmotion]
    · intro hmotion hturns
      have hplace : (after.x, after.y) = _ := motion_dispatch dispatcher files record now
      rw [motion?, if_neg hmotion, Option.getD_none, Prod.mk.injEq] at hplace
      have hbuttons : after.buttons = dispatcher.pointer.buttons := by
        refine eq_of_held fun button => ?_
        have hheld := turn_dispatch dispatcher files record now button
        rwa [hturns button] at hheld
      show Pointer.mk after.x after.y after.buttons = dispatcher.pointer
      rw [hplace.1, hplace.2, hbuttons]

end Runs

end LockScreen.Proofs.PointerHistory
