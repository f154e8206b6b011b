import LockScreen.Proofs.PipeRecords
import LockScreen.Proofs.Runs

namespace LockScreen.Proofs.PipeTraffic

open LockScreen.Wire
open LockScreen.Proofs.Runs LockScreen.Proofs.PipeRecords

variable {α : Type}

inductive Deed where
  | send (record : Record)
  | write (bytes : List UInt8)
  | receive
  | closeWriter

/-- Nobody writes any more once the writing end is closed. -/
def step (pipe : Pipe) : Deed → Pipe
  | .send record => if pipe.writerOpen then (pipe.send record).2.1 else pipe
  | .write bytes => if pipe.writerOpen then (pipe.write bytes).2 else pipe
  | .receive => pipe.receive.2.1
  | .closeWriter => pipe.closeWriter

def start (waits : Bool) : Pipe :=
  { Pipe.new with writerWaits := waits }

def along (what : Pipe → Deed → List α) : Pipe → List Deed → List α
  | _, [] => []
  | pipe, first :: rest => what pipe first ++ along what (step pipe first) rest

def written (pipe : Pipe) : Deed → List (List UInt8)
  | .send record =>
      if pipe.writerOpen then
        match (pipe.send record).1 with
        | .ok () => [record.encode]
        | .error _ => []
      else []
  | .write bytes =>
      if pipe.writerOpen then
        match (pipe.write bytes).1 with
        | .ok taken => [bytes.take taken]
        | .error _ => []
      else []
  | .receive | .closeWriter => []

def drawn (pipe : Pipe) : Deed → List UInt8
  | .receive => pipe.queue.take 24
  | .send _ | .write _ | .closeWriter => []

def answers (pipe : Pipe) : Deed → List (Except Wire.Error (Option Record))
  | .receive => [pipe.receive.1]
  | .send _ | .write _ | .closeWriter => []

def tells : Except Wire.Error (Option Record) → Bool
  | .ok record => record.isSome
  | .error fault => fault ≠ .closed

def Whole : Deed → Prop
  | .write bytes => bytes.length = 24
  | .send _ | .receive | .closeWriter => True

structure Reads (pipe : Pipe) (answer : Except Wire.Error (Option Record)) (after : Pipe) :
    Prop where
  queue : after.queue = pipe.queue.drop 24
  blocked : answer = .ok none ↔ pipe.queue = [] ∧ pipe.writerOpen = true
  closed : answer = .error .closed ↔ pipe.queue = [] ∧ pipe.writerOpen = false
  kept : pipe.queue = [] → after = pipe
  fragment : ∀ got, answer = .error (.partialRecord got) ↔
    got = pipe.queue.length ∧ 0 < got ∧ got < 24
  record : 24 ≤ pipe.queue.length → answer = (Record.decode (pipe.queue.take 24)).map some

theorem fault_of_ofTag {tag : UInt64} {fault : Wire.Error} (h : Kind.ofTag tag = .error fault) :
    fault = .unknownKind tag := by
  unfold Kind.ofTag at h
  split at h <;> cases h
  rfl

theorem decode_of_length_ne {bytes : List UInt8} (h : bytes.length ≠ recordLength) :
    Record.decode bytes = .error (.partialRecord bytes.length) := by
  unfold Record.decode
  rw [if_neg h]

theorem decode_of_length {bytes : List UInt8} (h : bytes.length = recordLength) :
    (∃ record, Record.decode bytes = .ok record) ∨
      ∃ tag, Record.decode bytes = .error (.unknownKind tag) := by
  unfold Record.decode
  rw [if_pos h]
  cases hkind : Kind.ofTag (Record.word bytes) with
  | ok kind => exact Or.inl ⟨_, rfl⟩
  | error fault =>
      rw [fault_of_ofTag hkind]
      exact Or.inr ⟨_, rfl⟩

theorem answer_eq (words : Words) :
    (Record.decode words.bytes).map some = words.answer := by
  rw [decode_bytes, Words.answer]
  cases hkind : Kind.ofTag words.tag with
  | ok kind => rfl
  | error fault =>
      rw [fault_of_ofTag hkind]
      rfl

theorem tells_answer (words : Words) : tells words.answer = true := by
  rw [Words.answer]
  cases Kind.ofTag words.tag with
  | ok kind => rfl
  | error fault => rfl

theorem reads_of_nil {pipe : Pipe} (hqueue : pipe.queue = []) :
    Reads pipe pipe.receive.1 pipe.receive.2.1 := by
  obtain ⟨hanswer, hsame⟩ := receive_of_nil hqueue
  rw [hanswer, hsame]
  cases hopen : pipe.writerOpen with
  | true => constructor <;> simp [hqueue, hopen]
  | false => constructor <;> simp [hqueue, hopen]

theorem reads_of_short {pipe : Pipe} (hqueue : pipe.queue ≠ []) (hshort : pipe.queue.length < 24) :
    Reads pipe pipe.receive.1 pipe.receive.2.1 := by
  obtain ⟨hanswer, hrest, -⟩ := receive_of_ne_nil hqueue
  have hpos : 0 < pipe.queue.length := List.length_pos_iff.mpr hqueue
  have hall : pipe.queue.take recordLength = pipe.queue :=
    List.take_of_length_le (Nat.le_of_lt hshort)
  rw [hanswer, hall, decode_of_length_ne (Nat.ne_of_lt hshort)]
  refine ⟨hrest, by simp [Except.map, hqueue], by simp [Except.map, hqueue],
    fun hnil => absurd hnil hqueue, fun got => ?_, fun hlong => absurd hshort (Nat.not_lt.mpr hlong)⟩
  simp only [Except.map, Except.error.injEq, Error.partialRecord.injEq]
  constructor
  · rintro rfl
    exact ⟨rfl, hpos, hshort⟩
  · rintro ⟨rfl, -⟩
    rfl

theorem reads_of_long {pipe : Pipe} (hlong : 24 ≤ pipe.queue.length) :
    Reads pipe pipe.receive.1 pipe.receive.2.1 := by
  have hqueue : pipe.queue ≠ [] := by
    intro hnil
    simp [hnil] at hlong
  obtain ⟨hanswer, hrest, -⟩ := receive_of_ne_nil hqueue
  have hfull : (pipe.queue.take recordLength).length = recordLength :=
    List.length_take_of_le hlong
  have hnone (got : Nat) : ¬ (got = pipe.queue.length ∧ 0 < got ∧ got < 24) := by omega
  rw [hanswer]
  rcases decode_of_length hfull with ⟨record, hdecode⟩ | ⟨tag, hdecode⟩
  · refine ⟨hrest, ?_, ?_, fun hnil => absurd hnil hqueue, fun got => ?_, fun _ => rfl⟩ <;>
      simp [hdecode, Except.map, hqueue, hnone]
  · refine ⟨hrest, ?_, ?_, fun hnil => absurd hnil hqueue, fun got => ?_, fun _ => rfl⟩ <;>
      simp [hdecode, Except.map, hqueue, hnone]

theorem reads_receive (pipe : Pipe) : Reads pipe pipe.receive.1 pipe.receive.2.1 := by
  by_cases hqueue : pipe.queue = []
  · exact reads_of_nil hqueue
  · by_cases hshort : pipe.queue.length < 24
    · exact reads_of_short hqueue hshort
    · exact reads_of_long (Nat.not_lt.mp hshort)

theorem run_of_closed {pipe : Pipe} (hqueue : pipe.queue = []) (hclosed : pipe.writerOpen = false)
    (deeds : List Deed) : run step pipe deeds = pipe := by
  induction deeds with
  | nil => rfl
  | cons first rest ih =>
      have hsame : step pipe first = pipe := by
        cases first with
        | send record => simp [step, hclosed]
        | write bytes => simp [step, hclosed]
        | receive => exact (receive_of_nil hqueue).2
        | closeWriter =>
            show { pipe with writerOpen := false } = pipe
            rw [← hclosed]
      rw [run_cons, hsame, ih]

theorem write_spec (pipe : Pipe) (bytes : List UInt8) :
    (∃ taken, (pipe.write bytes).1 = .ok taken ∧
        (pipe.write bytes).2.queue = pipe.queue ++ bytes.take taken) ∨
      ∃ errno, pipe.write bytes = (.error errno, pipe) := by
  unfold Pipe.write
  split
  · exact Or.inl ⟨0, rfl, by simp⟩
  · split
    · exact Or.inr ⟨_, rfl⟩
    · dsimp only
      split
      · exact Or.inr ⟨_, rfl⟩
      · exact Or.inl ⟨_, rfl, rfl⟩

theorem queue_step (pipe : Pipe) (deed : Deed) :
    pipe.queue ++ (written pipe deed).flatten = drawn pipe deed ++ (step pipe deed).queue := by
  cases deed with
  | send record =>
      simp only [written, drawn, step, List.nil_append]
      split
      · rcases send_cases pipe record with ⟨-, hsent, hqueue⟩ | ⟨-, hrefused, hsame⟩
        · simp only [hsent, hqueue, List.flatten_cons, List.flatten_nil, List.append_nil]
        · simp only [hrefused, hsame, List.flatten_nil, List.append_nil]
      · simp only [List.flatten_nil, List.append_nil]
  | write bytes =>
      simp only [written, drawn, step, List.nil_append]
      split
      · rcases write_spec pipe bytes with ⟨taken, htaken, hqueue⟩ | ⟨errno, hrefused⟩
        · simp only [htaken, hqueue, List.flatten_cons, List.flatten_nil, List.append_nil]
        · simp only [hrefused, List.flatten_nil, List.append_nil]
      · simp only [List.flatten_nil, List.append_nil]
  | receive =>
      show pipe.queue ++ [] = pipe.queue.take 24 ++ pipe.receive.2.1.queue
      rw [(reads_receive pipe).queue, List.append_nil, List.take_append_drop]
  | closeWriter => exact List.append_nil _

/-- No byte is lost, given out twice or given out of order, however writes and readings cut the
stream. -/
theorem written_eq_drawn_append_queue (pipe : Pipe) (deeds : List Deed) :
    pipe.queue ++ (along written pipe deeds).flatten =
      along drawn pipe deeds ++ (run step pipe deeds).queue := by
  induction deeds generalizing pipe with
  | nil => exact List.append_nil _
  | cons first rest ih =>
      simp only [along, run_cons, List.flatten_append]
      rw [← List.append_assoc, queue_step, List.append_assoc, ih, List.append_assoc]

theorem ofBytes_lt (bytes : List UInt8) : LittleEndian.ofBytes bytes < 256 ^ bytes.length := by
  induction bytes with
  | nil => exact Nat.one_pos
  | cons byte rest ih =>
      have hbyte : byte.toNat < 256 := byte.toNat_lt
      rw [LittleEndian.ofBytes, List.length_cons, Nat.pow_succ']
      omega

theorem toBytes_word {bytes : List UInt8} (h : bytes.length = 8) :
    LittleEndian.toBytes 8 (Record.word bytes).toNat = bytes := by
  have hall : bytes.take 8 = bytes := List.take_of_length_le (Nat.le_of_eq h)
  have hrange : LittleEndian.ofBytes bytes < 2 ^ 64 := by
    have hlt := ofBytes_lt bytes
    rwa [h] at hlt
  have hword := LittleEndian.toBytes_ofBytes bytes
  rw [h] at hword
  rw [Record.word, hall, UInt64.toNat_ofNat', Nat.mod_eq_of_lt hrange, hword]

theorem exists_words {bytes : List UInt8} (h : bytes.length = 24) :
    ∃ words : Words, words.bytes = bytes := by
  refine ⟨⟨Record.word (bytes.take 8), Record.word ((bytes.drop 8).take 8),
    Record.word (bytes.drop 16)⟩, ?_⟩
  have hsplit : bytes = bytes.take 8 ++ (bytes.drop 8).take 8 ++ bytes.drop 16 := by
    rw [List.append_assoc, ← List.drop_drop (i := 8) (j := 8), List.take_append_drop,
      List.take_append_drop]
  rw [Words.bytes, toBytes_word (by simp [h]), toBytes_word (by simp [h]),
    toBytes_word (by simp [h])]
  exact hsplit.symm

def Holds (pipe : Pipe) (waiting : List Words) : Prop :=
  pipe.queue = waiting.flatMap Words.bytes

def Passes (waiting : List Words) (bytes : List (List UInt8))
    (told : List (Except Wire.Error (Option Record))) (left : List Words) : Prop :=
  ∃ sent carried, bytes = sent.map Words.bytes ∧ waiting ++ sent = carried ++ left ∧
    told.filter tells = carried.map Words.answer

theorem Passes.append {waiting middle left : List Words} {bytes bytes' : List (List UInt8)}
    {told told' : List (Except Wire.Error (Option Record))} (h : Passes waiting bytes told middle)
    (h' : Passes middle bytes' told' left) :
    Passes waiting (bytes ++ bytes') (told ++ told') left := by
  obtain ⟨sent, carried, hbytes, hsplit, htold⟩ := h
  obtain ⟨sent', carried', hbytes', hsplit', htold'⟩ := h'
  refine ⟨sent ++ sent', carried ++ carried', ?_, ?_, ?_⟩
  · rw [hbytes, hbytes', List.map_append]
  · rw [← List.append_assoc, hsplit, List.append_assoc, hsplit', List.append_assoc]
  · rw [List.filter_append, htold, htold', List.map_append]

theorem passes_nothing (waiting : List Words) : Passes waiting [] [] waiting :=
  ⟨[], [], rfl, List.append_nil _, rfl⟩

theorem passes_write (waiting : List Words) (words : Words) :
    Passes waiting [words.bytes] [] (waiting ++ [words]) :=
  ⟨[words], [], rfl, rfl, rfl⟩

theorem Holds.write {before after : Pipe} {waiting : List Words} (h : Holds before waiting)
    {words : Words} (hqueue : after.queue = before.queue ++ words.bytes) :
    Holds after (waiting ++ [words]) := by
  rw [Holds, hqueue, h, List.flatMap_append, List.flatMap_singleton]

theorem holds_send {pipe : Pipe} {waiting : List Words} (h : Holds pipe waiting)
    (record : Record) :
    ∃ left, Passes waiting (written pipe (.send record)) [] left ∧
      Holds (step pipe (.send record)) left := by
  simp only [written, step]
  split
  · rcases send_cases pipe record with ⟨-, hsent, hqueue⟩ | ⟨-, hrefused, hsame⟩
    · rw [hsent]
      exact ⟨_, passes_write waiting (.ofRecord record), h.write hqueue⟩
    · rw [hrefused, hsame]
      exact ⟨waiting, passes_nothing waiting, h⟩
  · exact ⟨waiting, passes_nothing waiting, h⟩

theorem holds_write {pipe : Pipe} {waiting : List Words} (h : Holds pipe waiting)
    {bytes : List UInt8} (hlength : bytes.length = 24) :
    ∃ left, Passes waiting (written pipe (.write bytes)) [] left ∧
      Holds (step pipe (.write bytes)) left := by
  obtain ⟨words, rfl⟩ := exists_words hlength
  have hall : words.bytes.take recordLength = words.bytes :=
    List.take_of_length_le (Nat.le_of_eq hlength)
  simp only [written, step]
  split
  · rcases write_cases pipe words.length_bytes with ⟨-, htaken, hqueue⟩ | ⟨-, hrefused⟩
    · simp only [htaken, hall]
      exact ⟨_, passes_write waiting words, h.write hqueue⟩
    · simp only [hrefused]
      exact ⟨waiting, passes_nothing waiting, h⟩
  · exact ⟨waiting, passes_nothing waiting, h⟩

theorem holds_receive {pipe : Pipe} {waiting : List Words} (h : Holds pipe waiting) :
    ∃ left, Passes waiting [] [pipe.receive.1] left ∧ Holds pipe.receive.2.1 left := by
  cases waiting with
  | nil =>
      obtain ⟨hanswer, hsame⟩ := receive_of_nil h
      rw [hsame, hanswer]
      refine ⟨[], ⟨[], [], rfl, rfl, ?_⟩, h⟩
      cases pipe.writerOpen <;> rfl
  | cons words rest =>
      have hqueue : pipe.queue = words.bytes ++ rest.flatMap Words.bytes := h
      have hlength : words.bytes.length = 24 := words.length_bytes
      have hlong : 24 ≤ pipe.queue.length := by
        rw [hqueue, List.length_append, hlength]
        exact Nat.le_add_right 24 _
      have hreads := reads_receive pipe
      refine ⟨rest, ⟨[], [words], rfl, List.append_nil _, ?_⟩, ?_⟩
      · rw [hreads.record hlong, hqueue, List.take_left' hlength, answer_eq,
          List.filter_cons_of_pos (tells_answer words)]
        rfl
      · rw [Holds, hreads.queue, hqueue, List.drop_left' hlength]

theorem holds_run {pipe : Pipe} {waiting : List Words} (h : Holds pipe waiting)
    {deeds : List Deed} (hwhole : ∀ deed ∈ deeds, Whole deed) :
    ∃ left, Passes waiting (along written pipe deeds) (along answers pipe deeds) left ∧
      Holds (run step pipe deeds) left := by
  induction deeds generalizing pipe waiting with
  | nil => exact ⟨waiting, passes_nothing waiting, h⟩
  | cons first rest ih =>
      have hstep : ∃ left, Passes waiting (written pipe first) (answers pipe first) left ∧
          Holds (step pipe first) left := by
        cases first with
        | send record => exact holds_send h record
        | write bytes => exact holds_write h (hwhole _ List.mem_cons_self)
        | receive => exact holds_receive h
        | closeWriter => exact ⟨waiting, passes_nothing waiting, h⟩
      obtain ⟨middle, hfirst, hmiddle⟩ := hstep
      obtain ⟨left, hrest, hleft⟩ :=
        ih hmiddle fun deed hdeed => hwhole deed (List.mem_cons_of_mem _ hdeed)
      exact ⟨left, hfirst.append hrest, hleft⟩

/-- After any deeds of both sides the bytes written are those drawn and those that wait, each
reading says what there is, and a pipe found closed stays so. If all that was written was whole
records, then those answered for are the first of them, each with its answer, and the others wait; a
record is answered with itself. -/
theorem pipe_carries_records (waits : Bool) (deeds : List Deed) :
    let pipe := run step (start waits) deeds
    (along written (start waits) deeds).flatten = along drawn (start waits) deeds ++ pipe.queue ∧
      Reads pipe pipe.receive.1 pipe.receive.2.1 ∧
      (pipe.receive.1 = .error .closed →
        ∀ later, (run step pipe later).receive.1 = .error .closed) ∧
      ((∀ deed ∈ deeds, Whole deed) → ∃ carried waiting : List Words,
        along written (start waits) deeds = (carried ++ waiting).map Words.bytes ∧
        (along answers (start waits) deeds).filter tells = carried.map Words.answer ∧
        pipe.queue = waiting.flatMap Words.bytes) ∧
      ∀ (record : Record) (words : Words), words.bytes = record.encode →
        words.answer = .ok (some record) := by
  intro pipe
  have hreads := reads_receive pipe
  refine ⟨written_eq_drawn_append_queue (start waits) deeds, hreads, ?_, ?_, ?_⟩
  · intro hclosed later
    obtain ⟨hqueue, hopen⟩ := hreads.closed.mp hclosed
    rw [run_of_closed hqueue hopen, hclosed]
  · intro hwhole
    have hempty : Holds (start waits) [] := rfl
    obtain ⟨waiting, ⟨sent, carried, hsent, hsplit, hcarried⟩, hwaiting⟩ := holds_run hempty hwhole
    rw [List.nil_append] at hsplit
    rw [hsplit] at hsent
    exact ⟨carried, waiting, hsent, hcarried, hwaiting⟩
  · intro record words hbytes
    rw [← answer_eq, hbytes, decode_encode]
    rfl

end LockScreen.Proofs.PipeTraffic
