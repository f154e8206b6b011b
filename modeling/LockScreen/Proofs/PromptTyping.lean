import Mathlib.Data.List.Induction
import LockScreen.Proofs.HandoffHeap
import LockScreen.Proofs.PromptShown

namespace LockScreen.Proofs.PromptTyping

open LockScreen.Text LockScreen.Wire
open LockScreen.Proofs.HandoffHeap LockScreen.Proofs.PipeRecords
open LockScreen.Proofs.PromptShown (handle_eq_react)
open LockScreen.Proofs.Runs

inductive Stroke where
  | submit
  | erase
  | clear
  | write
  | none
deriving DecidableEq, Repr

def stroke : SceneEvent → Stroke
  | .key event =>
      match event.action with
      | .press =>
          if event.key = .returnKey ∨ event.key = .enter then .submit
          else if event.key = .backspace then .erase
          else if event.key = .escape then .clear
          else .write
      | .release => .none
  | .pointer _ | .auth _ => .none

/-- The characters that an event adds to the text: those of its own text, without control
characters. -/
def added (event : SceneEvent) : List Char :=
  match stroke event, event with
  | .write, .key event => event.text.toList.filter fun c => !isControl c
  | _, _ => []

def edit {α : Type} (stroke : Stroke) (added text : List α) : List α :=
  match stroke with
  | .submit | .clear => []
  | .erase => text.dropLast
  | .write => text ++ added
  | .none => text

def typed (events : List SceneEvent) : List Char :=
  events.foldl (fun text event => edit (stroke event) (added event) text) []

def attempt (text : List Char) (event : SceneEvent) : Option String :=
  if stroke event = .submit ∧ text ≠ [] then some (String.ofList text) else none

/-- An event, and the way out as the prompt finds it then, so that any submission may fail. -/
structure Turn where
  event : SceneEvent
  outlet : Outlet

def step (prompt : Prompt) (turn : Turn) : Prompt :=
  (prompt.handle turn.outlet turn.event).2.1

def submissions : Prompt → List Turn → List String
  | _, [] => []
  | prompt, turn :: rest =>
      (prompt.react turn.event).submission.toList ++ submissions (step prompt turn) rest

/-- A character that was typed: the number of the event it came with, and its place among those that
event added. -/
structure Mark where
  number : Nat
  place : Nat
  char : Char
deriving DecidableEq, Repr

def marks (number : Nat) (event : SceneEvent) : List Mark :=
  (added event).zipIdx.map fun entry => ⟨number, entry.2, entry.1⟩

/-- What is written and what was submitted so far, mark by mark. -/
structure Sheet where
  number : Nat
  text : List Mark
  sent : List (List Mark)

def Sheet.next (sheet : Sheet) (event : SceneEvent) : Sheet where
  number := sheet.number + 1
  text := edit (stroke event) (marks sheet.number event) sheet.text
  sent :=
    if stroke event = .submit ∧ sheet.text ≠ [] then sheet.sent ++ [sheet.text] else sheet.sent

def sheet (events : List SceneEvent) : Sheet :=
  events.foldl Sheet.next ⟨0, [], []⟩

def spell (text : List Mark) : String :=
  String.ofList (text.map Mark.char)

section Strokes

variable {prompt : Prompt} {event : SceneEvent}

theorem added_of_stroke_ne (h : stroke event ≠ .write) : added event = [] := by
  unfold added
  split
  · contradiction
  · rfl

structure Reacts (prompt : Prompt) (event : SceneEvent) (reaction : Reaction) : Prop where
  typed : reaction.prompt.typed = edit (stroke event) (added event) prompt.typed
  submission : reaction.submission = attempt prompt.typed event
  auth : (∀ state, event ≠ .auth state) → reaction.prompt.auth =
    if added event = [] then prompt.auth else Prompt.forgive prompt.auth

theorem reacts_of_stroke {reaction : Reaction} {kind : Stroke} (hstroke : stroke event = kind)
    (hkind : kind ≠ .write) (htyped : reaction.prompt.typed = edit kind [] prompt.typed)
    (hsubmission : reaction.submission = if kind = .submit ∧ prompt.typed ≠ [] then
      some (String.ofList prompt.typed) else none)
    (hauth : reaction.prompt.auth = prompt.auth) : Reacts prompt event reaction := by
  subst hstroke
  have hadded : added event = [] := added_of_stroke_ne hkind
  exact ⟨by rw [hadded, htyped], hsubmission, fun _ => by rw [if_pos hadded, hauth]⟩

theorem reacts_press (event : KeyEvent) (h : event.action = .press) :
    Reacts prompt (.key event) (prompt.press event) := by
  unfold Prompt.press
  split
  · rename_i hsubmit
    have hstroke : stroke (.key event) = .submit := by simp only [stroke, h, if_pos hsubmit]
    split
    · rename_i hempty
      have htyped : prompt.typed = [] := List.isEmpty_iff.mp hempty
      exact reacts_of_stroke hstroke (by decide) htyped (by simp [htyped]) rfl
    · rename_i hempty
      have htyped : prompt.typed ≠ [] := fun heq => hempty (List.isEmpty_iff.mpr heq)
      exact reacts_of_stroke hstroke (by decide) rfl (by simp [htyped]) rfl
  rename_i hsubmit
  split
  · rename_i herase
    have hstroke : stroke (.key event) = .erase := by
      simp only [stroke, h, if_neg hsubmit, if_pos herase]
    exact reacts_of_stroke hstroke (by decide) rfl (by simp) rfl
  rename_i herase
  split
  · rename_i hclear
    have hstroke : stroke (.key event) = .clear := by
      simp only [stroke, h, if_neg hsubmit, if_neg herase, if_pos hclear]
    exact reacts_of_stroke hstroke (by decide) rfl (by simp) rfl
  · rename_i hclear
    have hstroke : stroke (.key event) = .write := by
      simp only [stroke, h, if_neg hsubmit, if_neg herase, if_neg hclear]
    have hadded : added (.key event) = event.text.toList.filter fun c => !isControl c := by
      simp only [added, hstroke]
    rw [← hadded]
    dsimp only
    split
    · rename_i hempty
      have hnone : added (.key event) = [] := List.isEmpty_iff.mp hempty
      exact ⟨by rw [hnone, hstroke, edit, List.append_nil], by simp [attempt, hstroke],
        fun _ => (if_pos hnone).symm⟩
    · rename_i hempty
      have hsome : added (.key event) ≠ [] := fun heq => hempty (List.isEmpty_iff.mpr heq)
      exact ⟨by rw [hstroke, edit], by simp [attempt, hstroke], fun _ => (if_neg hsome).symm⟩

theorem reacts_react (prompt : Prompt) (event : SceneEvent) :
    Reacts prompt event (prompt.react event) := by
  cases event with
  | pointer event => exact ⟨rfl, rfl, fun _ => rfl⟩
  | auth state => exact ⟨rfl, rfl, fun h => absurd rfl (h state)⟩
  | key event =>
      cases haction : event.action with
      | release =>
          have hstroke : stroke (.key event) = .none := by simp only [stroke, haction]
          simp only [Prompt.react, haction]
          exact reacts_of_stroke hstroke (by decide) rfl (by simp) rfl
      | press =>
          simp only [Prompt.react, haction]
          exact reacts_press event haction

theorem typed_step (prompt : Prompt) (turn : Turn) : (step prompt turn).typed =
    edit (stroke turn.event) (added turn.event) prompt.typed := by
  rw [step, (handle_eq_react prompt turn.outlet turn.event).2]
  exact (reacts_react prompt turn.event).typed

theorem added_printable {c : Char} (h : c ∈ added event) : isControl c = false := by
  unfold added at h
  split at h
  · simpa using (List.mem_filter.mp h).2
  · cases h

theorem edit_sublist {α : Type} (stroke : Stroke) (added text : List α) :
    (edit stroke added text).Sublist (text ++ added) := by
  cases stroke with
  | submit | clear => exact List.nil_sublist _
  | erase => exact (List.dropLast_sublist text).trans (List.sublist_append_left _ _)
  | write => exact List.Sublist.refl _
  | none => exact List.sublist_append_left _ _

theorem map_edit {α β : Type} (f : α → β) (stroke : Stroke) (added text : List α) :
    (edit stroke added text).map f = edit stroke (added.map f) (text.map f) := by
  cases stroke with
  | submit | clear | none => rfl
  | erase => exact List.map_dropLast
  | write => exact List.map_append

end Strokes

section Text

theorem typed_run (prompt : Prompt) (turns : List Turn) : (run step prompt turns).typed =
    (turns.map Turn.event).foldl (fun text event => edit (stroke event) (added event) text)
      prompt.typed := by
  induction turns generalizing prompt with
  | nil => rfl
  | cons turn rest ih =>
      rw [List.map_cons, List.foldl_cons, ← typed_step]
      exact ih (step prompt turn)

theorem typed_concat (events : List SceneEvent) (event : SceneEvent) :
    typed (events ++ [event]) = edit (stroke event) (added event) (typed events) :=
  List.foldl_concat _ _ _ _

theorem typed_printable (events : List SceneEvent) :
    ∀ c ∈ typed events, isControl c = false := by
  induction events using List.reverseRecOn with
  | nil => exact fun c h => absurd h List.not_mem_nil
  | append_singleton events event ih =>
      intro c h
      rw [typed_concat] at h
      rcases List.mem_append.mp ((edit_sublist _ _ _).subset h) with hold | hnew
      · exact ih c hold
      · exact added_printable hnew

end Text

section Marks

theorem sheet_concat (events : List SceneEvent) (event : SceneEvent) :
    sheet (events ++ [event]) = (sheet events).next event :=
  List.foldl_concat _ _ _ _

theorem marks_char (number : Nat) (event : SceneEvent) :
    (marks number event).map Mark.char = added event := by
  rw [marks, List.map_map]
  exact List.zipIdx_map_fst 0 (added event)

theorem number_sheet (events : List SceneEvent) : (sheet events).number = events.length := by
  induction events using List.reverseRecOn with
  | nil => rfl
  | append_singleton events event ih =>
      rw [sheet_concat, List.length_append, ← ih]
      rfl

theorem text_sheet (events : List SceneEvent) :
    (sheet events).text.map Mark.char = typed events := by
  induction events using List.reverseRecOn with
  | nil => rfl
  | append_singleton events event ih =>
      rw [sheet_concat, typed_concat, Sheet.next, map_edit, marks_char, ih]

def Sheet.all (sheet : Sheet) : List Mark :=
  sheet.sent.flatten ++ sheet.text

theorem all_next (sheet : Sheet) (event : SceneEvent) :
    (sheet.next event).all.Sublist (sheet.all ++ marks sheet.number event) := by
  by_cases hsubmit : stroke event = .submit ∧ sheet.text ≠ []
  · have hnext : (sheet.next event).all = sheet.all := by
      simp only [Sheet.all, Sheet.next, hsubmit, edit, ne_eq, not_false_eq_true, and_self, if_true,
        List.flatten_append, List.flatten_singleton, List.append_nil]
    rw [hnext]
    exact List.sublist_append_left _ _
  -- Only a submission moves the text over; all else is an edit of the text alone.
  · have hsent : (sheet.next event).sent = sheet.sent := if_neg hsubmit
    rw [Sheet.all, Sheet.all, hsent, List.append_assoc]
    exact (edit_sublist (stroke event) (marks sheet.number event) sheet.text).append_left _

def history (events : List SceneEvent) : List Mark :=
  events.zipIdx.flatMap fun entry => marks entry.2 entry.1

theorem history_concat (events : List SceneEvent) (event : SceneEvent) :
    history (events ++ [event]) = history events ++ marks events.length event := by
  simp [history, List.zipIdx_append]

theorem sublist_history (events : List SceneEvent) :
    (sheet events).all.Sublist (history events) := by
  induction events using List.reverseRecOn with
  | nil => exact List.Sublist.refl _
  | append_singleton events event ih =>
      rw [sheet_concat, history_concat, ← number_sheet]
      exact (all_next _ event).trans (ih.append_right _)

theorem number_of_mem_marks {number : Nat} {event : SceneEvent} {mark : Mark}
    (h : mark ∈ marks number event) : mark.number = number := by
  obtain ⟨entry, -, rfl⟩ := List.mem_map.mp h
  rfl

theorem nodup_marks (number : Nat) (event : SceneEvent) : (marks number event).Nodup := by
  apply List.Nodup.of_map Mark.place
  rw [marks, List.map_map]
  show ((added event).zipIdx.map Prod.snd).Nodup
  rw [List.zipIdx_map_snd]
  exact List.nodup_range'

theorem number_of_mem_history {events : List SceneEvent} {mark : Mark}
    (h : mark ∈ history events) : mark.number < events.length := by
  obtain ⟨entry, hentry, hmark⟩ := List.mem_flatMap.mp h
  rw [number_of_mem_marks hmark]
  simpa using List.snd_lt_of_mem_zipIdx hentry

theorem nodup_history (events : List SceneEvent) : (history events).Nodup := by
  induction events using List.reverseRecOn with
  | nil => exact List.nodup_nil
  | append_singleton events event ih =>
      rw [history_concat]
      apply List.Nodup.append ih (nodup_marks _ event)
      intro mark hold hnew
      have hlt := number_of_mem_history hold
      rw [number_of_mem_marks hnew] at hlt
      exact Nat.lt_irrefl _ hlt

theorem sent_sheet (prompt : Prompt) (turns : List Turn) {sheet : Sheet}
    (h : sheet.text.map Mark.char = prompt.typed) :
    (((turns.map Turn.event).foldl Sheet.next sheet).sent.map spell) =
      sheet.sent.map spell ++ submissions prompt turns := by
  induction turns generalizing prompt sheet with
  | nil => exact (List.append_nil _).symm
  | cons turn rest ih =>
      have htext : (sheet.next turn.event).text.map Mark.char = (step prompt turn).typed := by
        rw [typed_step, Sheet.next, map_edit, marks_char, h]
      have hsent : (sheet.next turn.event).sent.map spell =
          sheet.sent.map spell ++ (prompt.react turn.event).submission.toList := by
        rw [(reacts_react prompt turn.event).submission, Sheet.next, attempt, ← h]
        by_cases hsubmit : stroke turn.event = .submit ∧ sheet.text ≠ []
        · simp [hsubmit, spell]
        · have hnone : ¬(stroke turn.event = .submit ∧ sheet.text.map Mark.char ≠ []) := by
            simpa using hsubmit
          simp only [if_neg hsubmit, if_neg hnone, Option.toList_none, List.append_nil]
      rw [List.map_cons, List.foldl_cons, ih (step prompt turn) htext, hsent, submissions,
        List.append_assoc]

end Marks

section Authentication

theorem forgive_forgive (auth : Option AuthState) :
    Prompt.forgive (Prompt.forgive auth) = Prompt.forgive auth := by
  cases auth with
  | none => rfl
  | some state => cases state <;> rfl

theorem auth_run (prompt : Prompt) (turns : List Turn)
    (h : ∀ event ∈ turns.map Turn.event, ∀ state, event ≠ .auth state) :
    (run step prompt turns).auth =
      if ∃ event ∈ turns.map Turn.event, added event ≠ [] then Prompt.forgive prompt.auth
      else prompt.auth := by
  induction turns generalizing prompt with
  | nil => rfl
  | cons turn rest ih =>
      rw [List.map_cons, List.forall_mem_cons] at h
      have hstep : (step prompt turn).auth =
          if added turn.event = [] then prompt.auth else Prompt.forgive prompt.auth := by
        rw [step, (handle_eq_react prompt turn.outlet turn.event).2]
        exact (reacts_react prompt turn.event).auth h.1
      have hrun := ih (step prompt turn) h.2
      show (run step (step prompt turn) rest).auth = _
      simp only [hrun, hstep, List.map_cons, List.exists_mem_cons_iff]
      by_cases hadded : added turn.event = []
      · simp [hadded]
      · simp [hadded, forgive_forgive]

end Authentication

/-- What comes of submitting a secret. If there is an address for it and one for its handle, and the
pipe takes a record, it waits under the handle in the record that is sent; else nothing is sent. -/
def Sends (before : Outlet) (secret : String) (after : Outlet) :
    Except SubmitError Unit → Prop
  | .ok () => before.heap.next + 1 < Handoff.addressLimit ∧ Accepts before.pipe ∧
      ∃ (handle : UInt64) (buffer : Handoff.Buffer),
        after.pipe.queue = before.pipe.queue ++ Record.encode ⟨.authSubmit, handle, 0⟩ ∧
          after.heap.peek handle.toNat = some buffer ∧
          after.heap.payload buffer = Utf8.encode secret
  | .error (.channel fault) => before.heap.next + 1 < Handoff.addressLimit ∧
      ¬Accepts before.pipe ∧ fault = .io (refusal before.pipe) ∧ after.pipe = before.pipe
  | .error .noMemory => ¬before.heap.next + 1 < Handoff.addressLimit ∧ after = before

theorem sends (outlet : Outlet) (secret : String) :
    Sends outlet secret (outlet.submit secret).2.1 (outlet.submit secret).1 := by
  cases hsome : outlet.heap.allocate? (Utf8.encode secret) with
  | none =>
      rw [submit_of_none outlet hsome]
      exact ⟨allocate_eq_none_iff.mp hsome, rfl⟩
  | some allocated =>
      obtain ⟨buffer, heap⟩ := allocated
      have hlimit := (allocate_eq_some hsome).1
      rcases submit_of_some outlet hsome with
        ⟨haccepts, pipe, lines, hsubmit, hqueue⟩ | ⟨haccepts, lines, hsubmit⟩
      · rw [hsubmit]
        refine ⟨hlimit, haccepts, UInt64.ofNat (heap.expose buffer).1, buffer, hqueue, ?_,
          (payload_expose hsome).1⟩
        rw [toNat_handle hsome]
        exact peek_expose heap buffer
      · rw [hsubmit]
        exact ⟨hlimit, haccepts, rfl, rfl⟩

/-- An event that submits a text submits all of it, once, and none of it is left whatever comes of
that. -/
def Answers (prompt : Prompt) (outlet : Outlet) (event : SceneEvent) : Prop :=
  (prompt.react event).submission = attempt prompt.typed event ∧
    match attempt prompt.typed event with
    | none => (prompt.handle outlet event).2.2.1 = outlet
    | some secret =>
        (prompt.handle outlet event).2.2.1 = (outlet.submit secret).2.1 ∧
          Sends outlet secret (outlet.submit secret).2.1 (outlet.submit secret).1 ∧
          (prompt.handle outlet event).2.1.typed = []

theorem outlet_handle (prompt : Prompt) (outlet : Outlet) (event : SceneEvent) :
    (prompt.handle outlet event).2.2.1 =
      match (prompt.react event).submission with
      | none => outlet
      | some secret => (outlet.submit secret).2.1 := by
  unfold Prompt.handle
  dsimp only
  cases (prompt.react event).submission with
  | none => rfl
  | some secret =>
      dsimp only
      rcases outlet.submit secret with ⟨_ | _, after, lines⟩ <;> rfl

theorem answers (prompt : Prompt) (outlet : Outlet) (event : SceneEvent) :
    Answers prompt outlet event := by
  have hreacts := reacts_react prompt event
  refine ⟨hreacts.submission, ?_⟩
  have houtlet := outlet_handle prompt outlet event
  rw [hreacts.submission] at houtlet
  split
  · rename_i hnone
    rw [hnone] at houtlet
    exact houtlet
  · rename_i secret hsome
    rw [hsome] at houtlet
    have hstroke : stroke event = .submit := by
      by_contra hother
      simp [attempt, hother] at hsome
    refine ⟨houtlet, sends outlet secret, ?_⟩
    rw [(handle_eq_react prompt outlet event).2, hreacts.typed, hstroke, edit]

/-- The text of a prompt is what its events made of it. No control character gets into it, and it is
submitted as it is. All that was submitted and all that is written now are among the characters that
were typed, each at most once and in the order of their typing. What is shown of authentication is
what was told last, but for a failure that something was written after. -/
theorem prompt_submits_typed (background : Color) (turns : List Turn) :
    let prompt := run step (.new background) turns
    let events := turns.map Turn.event
    (prompt.typed = typed events ∧ ∀ c ∈ prompt.typed, isControl c = false) ∧
      (∀ outlet event, Answers prompt outlet event) ∧
      ((sheet events).text.map Mark.char = prompt.typed ∧
        (sheet events).sent.map spell = submissions (.new background) turns ∧
        (sheet events).all.Sublist (history events) ∧ (history events).Nodup) ∧
      ((∀ event ∈ events, ∀ state, event ≠ .auth state) → prompt.auth = none) ∧
      ∀ before state after, events = before ++ .auth state :: after →
        (∀ event ∈ after, ∀ state, event ≠ .auth state) →
          prompt.auth =
            if state = .failed ∧ ∃ event ∈ after, added event ≠ [] then none else some state := by
  intro prompt events
  have htyped : prompt.typed = typed events := typed_run (.new background) turns
  refine ⟨⟨htyped, ?_⟩, answers prompt, ⟨?_, ?_, sublist_history events, nodup_history events⟩, ?_, ?_⟩
  · rw [htyped]
    exact typed_printable events
  · rw [htyped]
    exact text_sheet events
  · exact (sent_sheet (.new background) turns rfl).trans (List.nil_append _)
  · intro hquiet
    rw [auth_run _ turns hquiet]
    exact ite_self none
  · intro before state after hevents hquiet
    obtain ⟨earlier, later, rfl, -, hlater⟩ := List.map_eq_append_iff.mp hevents
    obtain ⟨turn, rest, rfl, hturn, rfl⟩ := List.map_eq_cons_iff.mp hlater
    have hauth : (step (run step (.new background) earlier) turn).auth = some state := by
      rw [step, (handle_eq_react _ turn.outlet turn.event).2, hturn]
      rfl
    have hsplit : prompt = run step (step (run step (.new background) earlier) turn) rest := by
      simp only [prompt, run_append, run_cons]
    rw [hsplit, auth_run _ rest hquiet, hauth]
    cases state with
    | failed => simp [Prompt.forgive]
    | pending | success => simp [Prompt.forgive]

end LockScreen.Proofs.PromptTyping
