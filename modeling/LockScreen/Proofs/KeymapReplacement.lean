import LockScreen.Proofs.RecordAcceptance

namespace LockScreen.Proofs.KeymapReplacement

open LockScreen.Repeat LockScreen.Text LockScreen.Wire
open LockScreen.Proofs.Runs LockScreen.Proofs.DispatcherRuns LockScreen.Proofs.RecordAcceptance

variable {x : Xkb}

/-- Why a record brings no keymap. -/
inductive Refused (x : Xkb) (files : Nat → SharedFile) (record : Record) : Prop where
  | descriptor : 2 ^ 31 ≤ record.first.toNat → Refused x files record
  | size : record.second.toNat = 0 → Refused x files record
  | mapping (fault : MapFault) :
      (files record.first.toNat).map record.second.toNat = .error fault → Refused x files record
  | reading (mapping : Mapping) :
      (files record.first.toNat).map record.second.toNat = .ok mapping →
      mapping.text? = none → Refused x files record
  | empty (mapping : Mapping) :
      (files record.first.toNat).map record.second.toNat = .ok mapping →
      mapping.text? = some [] → Refused x files record
  | encoding (mapping : Mapping) (bytes : List UInt8) :
      (files record.first.toNat).map record.second.toNat = .ok mapping →
      mapping.text? = some bytes → Utf8.decode? bytes = none → Refused x files record
  | library (mapping : Mapping) (bytes : List UInt8) (text : String) :
      (files record.first.toNat).map record.second.toNat = .ok mapping →
      mapping.text? = some bytes → Utf8.decode? bytes = some text → x.compile text = none →
      Refused x files record

theorem loads_of_not_refused {files : Nat → SharedFile} {record : Record}
    (hkind : record.kind = .keyboardKeymap) (h : ¬ Refused x files record) :
    ∃ keymap, Loads x files record keymap := by
  have hdescriptor : record.first.toNat < 2 ^ 31 :=
    Nat.not_le.mp fun hlarge => h (.descriptor hlarge)
  have hsize : record.second.toNat ≠ 0 := fun hzero => h (.size hzero)
  cases hmap : (files record.first.toNat).map record.second.toNat with
  | error fault => exact absurd (.mapping fault hmap) h
  | ok mapping =>
      cases hbytes : mapping.text? with
      | none => exact absurd (.reading mapping hmap hbytes) h
      | some bytes =>
          have hsome : bytes ≠ [] := by
            rintro rfl
            exact h (.empty mapping hmap hbytes)
          cases htext : Utf8.decode? bytes with
          | none => exact absurd (.encoding mapping bytes hmap hbytes htext) h
          | some text =>
              cases hcompile : x.compile text with
              | none => exact absurd (.library mapping bytes text hmap hbytes htext hcompile) h
              | some keymap =>
                  exact ⟨keymap, text, ⟨hkind, hdescriptor, hsize, mapping, bytes, hmap, hbytes,
                    hsome, htext⟩, hcompile⟩

theorem not_loads_of_refused {files : Nat → SharedFile} {record : Record}
    (h : Refused x files record) : ¬ ∃ keymap, Loads x files record keymap := by
  rintro ⟨keymap, text, ⟨-, hdescriptor, hsize, mapping, bytes, hmap, hbytes, hsome, htext⟩,
    hcompile⟩
  cases h with
  | descriptor hlarge => exact absurd hdescriptor (Nat.not_lt.mpr hlarge)
  | size hzero => exact hsize hzero
  | mapping fault hfault => exact absurd (hmap.symm.trans hfault) (by simp)
  | reading other hother hnone =>
      cases hmap.symm.trans hother
      exact absurd (hbytes.symm.trans hnone) (by simp)
  | empty other hother hempty =>
      cases hmap.symm.trans hother
      cases hbytes.symm.trans hempty
      exact hsome rfl
  | encoding other bytes' hother hbytes' hnone =>
      cases hmap.symm.trans hother
      cases hbytes.symm.trans hbytes'
      exact absurd (htext.symm.trans hnone) (by simp)
  | library other bytes' text' hother hbytes' htext' hnone =>
      cases hmap.symm.trans hother
      cases hbytes.symm.trans hbytes'
      cases htext.symm.trans htext'
      exact absurd (hcompile.symm.trans hnone) (by simp)

def view (keyboard : Keyboard x) : Option (x.Keymap × x.State) :=
  keyboard.layout.map fun layout => (layout.keymap, layout.state)

theorem view_replaced (keyboard : Keyboard x) (keymap : x.Keymap) :
    view (replaced keyboard keymap) = some (keymap, x.fresh keymap) :=
  rfl

theorem layout_cases {keyboard other : Keyboard x} (h : view keyboard = view other) :
    keyboard.layout = none ∧ other.layout = none ∨
      ∃ id id' keymap state, keyboard.layout = some ⟨id, keymap, state⟩ ∧
        other.layout = some ⟨id', keymap, state⟩ := by
  cases hlayout : keyboard.layout with
  | none =>
      cases hother : other.layout with
      | none => exact Or.inl ⟨rfl, rfl⟩
      | some layout => simp [view, hlayout, hother] at h
  | some layout =>
      cases hother : other.layout with
      | none => simp [view, hlayout, hother] at h
      | some layout' =>
          simp only [view, hlayout, hother, Option.map_some, Option.some.injEq,
            Prod.mk.injEq] at h
          refine Or.inr ⟨layout.id, layout'.id, layout.keymap, layout.state, rfl, ?_⟩
          rw [h.1, h.2]

theorem hasKeymap_congr {keyboard other : Keyboard x} (h : view keyboard = view other) :
    keyboard.hasKeymap = other.hasKeymap := by
  rcases layout_cases h with ⟨hnone, hnone'⟩ | ⟨_, _, _, _, hsome, hsome'⟩
  · simp only [Keyboard.hasKeymap, hnone, hnone']
  · simp only [Keyboard.hasKeymap, hsome, hsome', Option.isSome_some]

theorem modifiers_congr {keyboard other : Keyboard x} (h : view keyboard = view other) :
    keyboard.modifiers = other.modifiers := by
  rcases layout_cases h with ⟨hnone, hnone'⟩ | ⟨_, _, _, _, hsome, hsome'⟩
  · simp only [Keyboard.modifiers, hnone, hnone']
  · simp only [Keyboard.modifiers, hsome, hsome']

theorem setMasks_congr {keyboard other : Keyboard x} (h : view keyboard = view other)
    (masks : Masks) :
    view (keyboard.setMasks masks).2.1 = view (other.setMasks masks).2.1 := by
  rcases layout_cases h with ⟨hnone, hnone'⟩ | ⟨_, _, _, _, hsome, hsome'⟩
  · simpa only [Keyboard.setMasks, hnone, hnone'] using h
  · simp only [Keyboard.setMasks, hsome, hsome', view, Option.map_some]

theorem applyKey_congr {keyboard other : Keyboard x} (h : view keyboard = view other)
    (code : UInt32) (keyState : KeyState) :
    (keyboard.applyKey code keyState).1 = (other.applyKey code keyState).1 ∧
      view (keyboard.applyKey code keyState).2.1 = view (other.applyKey code keyState).2.1 := by
  rcases layout_cases h with ⟨hnone, hnone'⟩ | ⟨_, _, _, _, hsome, hsome'⟩
  · simpa only [Keyboard.applyKey, hnone, hnone', true_and] using h
  · simp only [Keyboard.applyKey, hsome, hsome']
    split
    · exact ⟨rfl, by simp only [view, hsome, hsome', Option.map_some]⟩
    · exact ⟨rfl, rfl⟩

def isKeyboard (record : Record) : Bool :=
  match record.kind with
  | .keyboardKeymap | .keyboardKey | .keyboardModifiers | .keyboardRepeatInfo => true
  | .pointerMotion | .pointerButton | .authPending | .authFail | .authSuccess | .wayland
  | .renderer | .authSubmit => false

def asked : List Step → List ((Nat → SharedFile) × Record)
  | [] => []
  | .dispatch files record _ :: rest =>
      if isKeyboard record then (files, record) :: asked rest else asked rest
  | .tick _ :: rest | .drain :: rest => asked rest

def keyEvent? : SceneEvent → Option KeyEvent
  | .key event => some event
  | .pointer _ | .auth _ => none

def answer (dispatcher : Dispatcher x) (files : Nat → SharedFile) (record : Record)
    (now : Instant) : List KeyEvent × Modifiers :=
  let after := (dispatcher.dispatch files record now).1
  ((after.queue.drop dispatcher.queue.length).filterMap keyEvent?, after.keyboard.modifiers)

def answers : Dispatcher x → List Step → List (List KeyEvent × Modifiers)
  | _, [] => []
  | dispatcher, .dispatch files record now :: rest =>
      if isKeyboard record then
        answer dispatcher files record now ::
          answers (step dispatcher (.dispatch files record now)) rest
      else answers (step dispatcher (.dispatch files record now)) rest
  | dispatcher, .tick now :: rest => answers (step dispatcher (.tick now)) rest
  | dispatcher, .drain :: rest => answers (step dispatcher .drain) rest

theorem keyboard_of_not_isKeyboard {record : Record} (h : isKeyboard record = false)
    (dispatcher : Dispatcher x) (files : Nat → SharedFile) (now : Instant) :
    (step dispatcher (.dispatch files record now)).keyboard = dispatcher.keyboard := by
  cases hkind : record.kind with
  | keyboardKeymap | keyboardKey | keyboardModifiers | keyboardRepeatInfo =>
      simp [isKeyboard, hkind] at h
  | pointerButton =>
      simp only [step, Dispatcher.dispatch, Dispatcher.apply, hkind, Dispatcher.button]
      split <;> rfl
  | pointerMotion | authPending | authFail | authSuccess =>
      simp only [step, Dispatcher.dispatch, Dispatcher.apply, hkind, Dispatcher.point,
        Dispatcher.push]
  | wayland | renderer | authSubmit =>
      simp only [step, Dispatcher.dispatch, Dispatcher.apply, hkind]

theorem keyboard_tick (dispatcher : Dispatcher x) (now : Instant) :
    (step dispatcher (.tick now)).keyboard = dispatcher.keyboard := by
  simp only [step, Dispatcher.tick]
  split <;> rfl

theorem followKey_frame (dispatcher : Dispatcher x) (event : KeyEvent) (keyState : KeyState)
    (now : Instant) :
    (dispatcher.followKey event keyState now).keyboard = dispatcher.keyboard ∧
      (dispatcher.followKey event keyState now).queue = dispatcher.queue := by
  unfold Dispatcher.followKey
  split
  · split <;> exact ⟨rfl, rfl⟩
  · split <;> exact ⟨rfl, rfl⟩
  · exact ⟨rfl, rfl⟩

theorem answer_of_queue_eq {dispatcher : Dispatcher x} {files : Nat → SharedFile}
    {record : Record} {now : Instant}
    (h : (dispatcher.dispatch files record now).1.queue = dispatcher.queue) :
    answer dispatcher files record now =
      ([], (dispatcher.dispatch files record now).1.keyboard.modifiers) := by
  simp only [answer, h, List.drop_length, List.filterMap_nil]

theorem answer_of_acceptsKey {dispatcher : Dispatcher x} {record : Record} {code : UInt32}
    {keyState : KeyState} (h : AcceptsKey dispatcher record code keyState)
    (files : Nat → SharedFile) (now : Instant) :
    ∃ event,
      (dispatcher.keyboard.applyKey code keyState).1 = some event ∧
      (dispatcher.dispatch files record now).1.keyboard =
        (dispatcher.keyboard.applyKey code keyState).2.1 ∧
      answer dispatcher files record now =
        ([event], (dispatcher.keyboard.applyKey code keyState).2.1.modifiers) := by
  obtain ⟨event, keyboard, effects, happly, hdispatch⟩ := dispatch_of_acceptsKey h files now
  obtain ⟨hkeyboard, hqueue⟩ := followKey_frame { dispatcher with keyboard } event keyState now
  refine ⟨event, by rw [happly], ?_, ?_⟩
  · rw [hdispatch, happly]
    exact hkeyboard
  · simp only [answer, hdispatch, happly, Dispatcher.push, hkeyboard, hqueue, List.drop_left,
      List.filterMap_cons, keyEvent?, List.filterMap_nil]

theorem acceptsKey_of_view_eq {dispatcher other : Dispatcher x} {record : Record} {code : UInt32}
    {keyState : KeyState} (hview : view dispatcher.keyboard = view other.keyboard)
    (h : AcceptsKey dispatcher record code keyState) : AcceptsKey other record code keyState :=
  { h with keymap := (hasKeymap_congr hview).symm.trans h.keymap }

/-- Nothing but what the keyboard shows has a say in the answer to a record, and in what the
keyboard shows after it. -/
theorem answer_congr {dispatcher other : Dispatcher x}
    (hview : view dispatcher.keyboard = view other.keyboard) {record : Record}
    (hrecord : isKeyboard record = true) (files : Nat → SharedFile) (now now' : Instant) :
    answer dispatcher files record now = answer other files record now' ∧
      view (step dispatcher (.dispatch files record now)).keyboard =
        view (step other (.dispatch files record now')).keyboard := by
  -- Only a key that is taken queues anything; of all other records the view after them is the answer.
  suffices hsuffices :
      ((dispatcher.dispatch files record now).1.queue = dispatcher.queue ∧
          (other.dispatch files record now').1.queue = other.queue ∨
        answer dispatcher files record now = answer other files record now') ∧
      view (dispatcher.dispatch files record now).1.keyboard =
        view (other.dispatch files record now').1.keyboard by
    obtain ⟨⟨hqueue, hqueue'⟩ | hanswer, hafter⟩ := hsuffices
    · refine ⟨?_, hafter⟩
      rw [answer_of_queue_eq hqueue, answer_of_queue_eq hqueue', modifiers_congr hafter]
    · exact ⟨hanswer, hafter⟩
  cases hkind : record.kind with
  | keyboardKeymap =>
      by_cases hloads : ∃ keymap, Loads x files record keymap
      · obtain ⟨keymap, hloads⟩ := hloads
        rw [dispatch_of_loads hloads, dispatch_of_loads hloads]
        exact ⟨Or.inl ⟨rfl, rfl⟩, rfl⟩
      · rw [dispatch_of_not_loads hkind hloads, dispatch_of_not_loads hkind hloads]
        exact ⟨Or.inl ⟨rfl, rfl⟩, hview⟩
  | keyboardKey =>
      by_cases haccepts : ∃ code keyState, AcceptsKey dispatcher record code keyState
      · obtain ⟨code, keyState, haccepts⟩ := haccepts
        obtain ⟨event, hevent, hafter, hanswer⟩ := answer_of_acceptsKey haccepts files now
        obtain ⟨event', hevent', hafter', hanswer'⟩ :=
          answer_of_acceptsKey (acceptsKey_of_view_eq hview haccepts) files now'
        obtain ⟨hsame, hshows⟩ := applyKey_congr hview code keyState
        have hevents : event = event' :=
          Option.some.inj (hevent.symm.trans (hsame.trans hevent'))
        rw [hafter, hafter', hanswer, hanswer', hevents, modifiers_congr hshows]
        exact ⟨Or.inr rfl, hshows⟩
      · have haccepts' : ¬ ∃ code keyState, AcceptsKey other record code keyState :=
          fun ⟨code, keyState, h⟩ => haccepts ⟨code, keyState, acceptsKey_of_view_eq hview.symm h⟩
        rw [dispatch_of_not_acceptsKey hkind haccepts, dispatch_of_not_acceptsKey hkind haccepts']
        exact ⟨Or.inl ⟨rfl, rfl⟩, hview⟩
  | keyboardModifiers =>
      simp only [Dispatcher.dispatch, Dispatcher.apply, hkind, true_and, true_or]
      exact setMasks_congr hview _
  | keyboardRepeatInfo =>
      simp only [Dispatcher.dispatch, Dispatcher.apply, hkind, true_and, true_or]
      exact hview
  | pointerMotion | pointerButton | authPending | authFail | authSuccess | wayland | renderer
  | authSubmit => simp [isKeyboard, hkind] at hrecord

def replay (records : List ((Nat → SharedFile) × Record)) : List Step :=
  records.map fun (files, record) => .dispatch files record 0

theorem answers_replay {dispatcher other : Dispatcher x}
    (hview : view dispatcher.keyboard = view other.keyboard) (steps : List Step) :
    answers dispatcher steps = answers other (replay (asked steps)) ∧
      view (run step dispatcher steps).keyboard =
        view (run step other (replay (asked steps))).keyboard := by
  induction steps generalizing dispatcher other with
  | nil => exact ⟨rfl, hview⟩
  | cons first rest ih =>
      cases first with
      | dispatch files record now =>
          cases hrecord : isKeyboard record with
          | true =>
              obtain ⟨hanswer, hafter⟩ := answer_congr hview hrecord files now 0
              obtain ⟨hanswers, hend⟩ := ih hafter
              simp only [asked, hrecord, if_true, replay, List.map_cons, answers, run_cons,
                hanswer, List.cons.injEq, true_and]
              exact ⟨hanswers, hend⟩
          | false =>
              have hkeyboard := keyboard_of_not_isKeyboard hrecord dispatcher files now
              simp only [asked, hrecord, Bool.false_eq_true, if_false, answers, run_cons]
              exact ih (by rw [hkeyboard, hview])
      | tick now =>
          simp only [asked, answers, run_cons]
          exact ih (by rw [keyboard_tick, hview])
      | drain => exact ih hview

theorem answers_congr {dispatcher other : Dispatcher x}
    (hview : view dispatcher.keyboard = view other.keyboard) {steps steps' : List Step}
    (hasked : asked steps = asked steps') :
    answers dispatcher steps = answers other steps' ∧
      view (run step dispatcher steps).keyboard = view (run step other steps').keyboard := by
  obtain ⟨hanswers, hend⟩ := answers_replay hview steps
  obtain ⟨hanswers', hend'⟩ := answers_replay (rfl : view other.keyboard = _) steps'
  rw [hanswers, hend, hanswers', hend', hasked]
  exact ⟨rfl, rfl⟩

structure Renewed (before : Dispatcher x) (keymap : x.Keymap) (after : Dispatcher x) : Prop where
  keyboard : view after.keyboard = some (keymap, x.fresh keymap)
  timing : after.engine.timing = before.engine.timing
  phase : after.engine.phase = .idle
  payload : after.engine.payload = none
  deadline : after.engine.deadline = none
  repeatingCode : after.repeatingCode = none
  pointer : after.pointer = before.pointer
  queue : after.queue = before.queue

theorem renewed_of_loads {files : Nat → SharedFile} {record : Record} {keymap : x.Keymap}
    (h : Loads x files record keymap) (dispatcher : Dispatcher x) (now : Instant) :
    Renewed dispatcher keymap (dispatcher.dispatch files record now).1 := by
  rw [dispatch_of_loads h]
  exact ⟨view_replaced _ _, rfl, rfl, rfl, rfl, rfl, rfl, rfl⟩

/-- A keymap record that is refused, wherever it fails, leaves the whole dispatcher as it was. Any
other renews it, and what the dispatcher went through before makes no difference to later keyboard
records: wherever else the same text is loaded, the same records bring the same. -/
theorem keymap_all_or_nothing (dispatcher : Dispatcher x) (files : Nat → SharedFile)
    (descriptor size : UInt64) (now : Instant) :
    let record : Record := ⟨.keyboardKeymap, descriptor, size⟩
    let after := (dispatcher.dispatch files record now).1
    (Refused x files record → after = dispatcher) ∧
      (¬ Refused x files record → ∃ text keymap,
        Offers files record text ∧ x.compile text = some keymap ∧
          Renewed dispatcher keymap after ∧
          ∀ (other : Dispatcher x) (files' : Nat → SharedFile) (record' : Record) (now' : Instant),
            Offers files' record' text → ∀ steps steps' : List Step, asked steps = asked steps' →
              let after' := (other.dispatch files' record' now').1
              answers after steps = answers after' steps' ∧
                view (run step after steps).keyboard = view (run step after' steps').keyboard) := by
  intro record after
  constructor
  · intro hrefused
    exact dispatch_of_not_loads rfl (not_loads_of_refused hrefused) dispatcher now
  · intro hrefused
    obtain ⟨keymap, hloads⟩ := loads_of_not_refused rfl hrefused
    obtain ⟨text, hoffers, hcompile⟩ := id hloads
    have hafter := renewed_of_loads hloads dispatcher now
    refine ⟨text, keymap, hoffers, hcompile, hafter, ?_⟩
    intro other files' record' now' hoffers' steps steps' hasked
    have hafter' := renewed_of_loads ⟨text, hoffers', hcompile⟩ other now'
    exact answers_congr (hafter.keyboard.trans hafter'.keyboard.symm) hasked

end LockScreen.Proofs.KeymapReplacement
