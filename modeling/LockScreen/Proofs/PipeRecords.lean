import Mathlib.Algebra.Group.Nat.Defs
import LockScreen.Outlet

namespace LockScreen.Proofs.PipeRecords

open LockScreen.Wire

theorem ofBytes_toBytes (width n : Nat) :
    LittleEndian.ofBytes (LittleEndian.toBytes width n) = n % 256 ^ width := by
  induction width generalizing n with
  | zero => exact (Nat.mod_one n).symm
  | succ width ih =>
      have hbyte : (UInt8.ofNat n).toNat = n % 256 := UInt8.toNat_ofNat'
      rw [LittleEndian.toBytes, LittleEndian.ofBytes, ih, hbyte, Nat.pow_succ', Nat.mod_mul]

theorem word_append (value : UInt64) (rest : List UInt8) :
    Record.word (LittleEndian.toBytes 8 value.toNat ++ rest) = value := by
  have hfront : (LittleEndian.toBytes 8 value.toNat ++ rest).take 8 =
      LittleEndian.toBytes 8 value.toNat := by
    rw [List.take_append_of_le_length (by simp), List.take_of_length_le (by simp)]
  have hvalue : value.toNat % 256 ^ 8 = value.toNat := Nat.mod_eq_of_lt value.toNat_lt
  rw [Record.word, hfront, ofBytes_toBytes, hvalue, UInt64.ofNat_toNat]

/-- Three words that travel as a record does, whether or not the first is the tag of a kind. -/
structure Words where
  tag : UInt64
  first : UInt64
  second : UInt64
deriving DecidableEq, Repr

namespace Words

def ofRecord (record : Record) : Words :=
  ⟨record.kind.tag, record.first, record.second⟩

def bytes (words : Words) : List UInt8 :=
  LittleEndian.toBytes 8 words.tag.toNat ++ LittleEndian.toBytes 8 words.first.toNat ++
    LittleEndian.toBytes 8 words.second.toNat

def answer (words : Words) : Except Wire.Error (Option Record) :=
  match Kind.ofTag words.tag with
  | .ok kind => .ok (some ⟨kind, words.first, words.second⟩)
  | .error _ => .error (.unknownKind words.tag)

@[simp] theorem length_bytes (words : Words) : words.bytes.length = recordLength := by
  simp [bytes, recordLength]

end Words

theorem decode_bytes (words : Words) :
    Record.decode words.bytes =
      (Kind.ofTag words.tag).map fun kind => ⟨kind, words.first, words.second⟩ := by
  have htag : Record.word words.bytes = words.tag := by
    rw [Words.bytes, List.append_assoc]
    exact word_append _ _
  have hfirst : Record.word (words.bytes.drop 8) = words.first := by
    rw [Words.bytes, List.append_assoc, List.drop_left' (by simp)]
    exact word_append _ _
  have hsecond : Record.word (words.bytes.drop 16) = words.second := by
    rw [Words.bytes, List.drop_left' (by simp), ← List.append_nil (LittleEndian.toBytes _ _)]
    exact word_append _ _
  unfold Record.decode
  rw [if_pos words.length_bytes, htag, hfirst, hsecond]
  cases Kind.ofTag words.tag <;> rfl

theorem decode_encode (record : Record) : Record.decode record.encode = .ok record := by
  show Record.decode (Words.ofRecord record).bytes = .ok record
  rw [decode_bytes]
  simp only [Words.ofRecord, Kind.ofTag_tag]
  rfl

theorem unreadTotal_append (pages more : List Page) :
    Page.unreadTotal (pages ++ more) = Page.unreadTotal pages + Page.unreadTotal more := by
  induction pages with
  | nil => exact (Nat.zero_add _).symm
  | cons page rest ih =>
      rw [List.cons_append, Page.unreadTotal, Page.unreadTotal, ih, Nat.add_assoc]

theorem unreadTotal_topUp {n : Nat} {pages topped : List Page}
    (h : Page.topUp? n pages = some topped) :
    Page.unreadTotal topped = Page.unreadTotal pages + n := by
  induction pages generalizing topped with
  | nil => simp [Page.topUp?] at h
  | cons page rest ih =>
      cases rest with
      | nil =>
          simp only [Page.topUp?] at h
          split at h
          · cases h
            simp only [Page.unreadTotal]
            omega
          · cases h
      | cons next rest =>
          obtain ⟨topped', htopped, rfl⟩ := Option.map_eq_some_iff.mp h
          show page.unread + Page.unreadTotal topped' =
            page.unread + Page.unreadTotal (next :: rest) + n
          rw [ih htopped, Nat.add_assoc]

theorem isSome_topUp {n : Nat} {pages : List Page} : (Page.topUp? n pages).isSome ↔
    ∃ page, pages.getLast? = some page ∧ page.filled + n ≤ pageSize := by
  induction pages with
  | nil => simp [Page.topUp?]
  | cons page rest ih =>
      cases rest with
      | nil => simp [Page.topUp?]
      | cons next rest =>
          rw [Page.topUp?, Option.isSome_map, ih, List.getLast?_cons_cons]
          simp

theorem unreadTotal_fresh (limit : Nat) :
    Page.unreadTotal (Page.fresh limit recordLength) = if limit = 0 then 0 else recordLength := by
  cases limit with
  | zero => rfl
  | succ limit =>
      have hnone : Page.fresh limit 0 = [] := by cases limit <;> rfl
      show Page.unreadTotal (⟨recordLength, recordLength⟩ :: Page.fresh limit 0) = recordLength
      rw [hnone]
      rfl

/-- There is room for a record in the last page, or for one more page. A record is smaller than a
page, so that there is room for all of it or for none. -/
def HasRoom (pipe : Pipe) : Prop :=
  (∃ page, pipe.pages.getLast? = some page ∧ page.filled + recordLength ≤ pageSize) ∨
    pipe.writerWaits = true ∨ pipe.pages.length < pageLimit

theorem unreadTotal_place (pipe : Pipe) :
    (HasRoom pipe ∧
        Page.unreadTotal (pipe.place recordLength) - Page.unreadTotal pipe.pages = recordLength) ∨
      (¬HasRoom pipe ∧
        Page.unreadTotal (pipe.place recordLength) - Page.unreadTotal pipe.pages = 0) := by
  have hodd : recordLength % pageSize = recordLength := rfl
  have hbig : ¬ recordLength = 0 := by decide
  unfold Pipe.place
  dsimp only
  rw [hodd, if_neg hbig, Nat.sub_self]
  cases htop : Page.topUp? recordLength pipe.pages with
  | some topped =>
      have hlast := isSome_topUp.mp (Option.isSome_of_eq_some htop)
      have hnone (limit : Nat) : Page.fresh limit 0 = [] := by cases limit <;> rfl
      left
      dsimp only
      rw [hnone, List.append_nil, unreadTotal_topUp htop, Nat.add_sub_cancel_left]
      exact ⟨Or.inl hlast, rfl⟩
  | none =>
      have hlast : ¬∃ page, pipe.pages.getLast? = some page ∧
          page.filled + recordLength ≤ pageSize := by
        rw [← isSome_topUp, htop]
        exact Bool.false_ne_true
      dsimp only
      rw [unreadTotal_append, Nat.add_sub_cancel_left, unreadTotal_fresh]
      cases hwaits : pipe.writerWaits with
      | true => exact Or.inl ⟨Or.inr (Or.inl hwaits), by simp [recordLength]⟩
      | false =>
          by_cases hmore : pipe.pages.length < pageLimit
          · refine Or.inl ⟨Or.inr (Or.inr hmore), ?_⟩
            exact if_neg (Nat.sub_ne_zero_of_lt hmore)
          · refine Or.inr ⟨by simp [HasRoom, hlast, hwaits, hmore], ?_⟩
            exact if_pos (Nat.sub_eq_zero_of_le (Nat.not_lt.mp hmore))

def Accepts (pipe : Pipe) : Prop :=
  pipe.readerOpen = true ∧ HasRoom pipe

def refusal (pipe : Pipe) : Errno :=
  if pipe.readerOpen then .again else .brokenPipe

theorem write_cases (pipe : Pipe) {bytes : List UInt8} (h : bytes.length = recordLength) :
    (Accepts pipe ∧ (pipe.write bytes).1 = .ok recordLength ∧
        (pipe.write bytes).2.queue = pipe.queue ++ bytes) ∨
      (¬Accepts pipe ∧ pipe.write bytes = (.error (refusal pipe), pipe)) := by
  have hfull : bytes.isEmpty = false := by
    cases bytes with
    | nil => simp [recordLength] at h
    | cons => rfl
  unfold Pipe.write Accepts refusal
  rw [hfull, h]
  cases pipe.readerOpen with
  | false => exact Or.inr ⟨by simp, rfl⟩
  | true =>
      rcases unreadTotal_place pipe with ⟨hroom, hall⟩ | ⟨hroom, hnone⟩
      · left
        simp only [hall]
        refine ⟨⟨trivial, hroom⟩, rfl, ?_⟩
        show pipe.queue ++ bytes.take recordLength = _
        rw [List.take_of_length_le (Nat.le_of_eq h)]
      · right
        simp only [hnone]
        exact ⟨by simpa using hroom, rfl⟩

theorem send_cases (pipe : Pipe) (record : Record) :
    (Accepts pipe ∧ (pipe.send record).1 = .ok () ∧
        (pipe.send record).2.1.queue = pipe.queue ++ record.encode) ∨
      (¬Accepts pipe ∧ (pipe.send record).1 = .error (.io (refusal pipe)) ∧
        (pipe.send record).2.1 = pipe) := by
  rcases write_cases pipe record.length_encode with
    ⟨haccepts, htaken, hqueue⟩ | ⟨haccepts, hrefused⟩
  · left
    unfold Pipe.send
    rcases hwrite : pipe.write record.encode with ⟨written, after⟩
    rw [hwrite] at htaken hqueue
    cases htaken
    exact ⟨haccepts, rfl, hqueue⟩
  · right
    simp only [Pipe.send, hrefused, and_true]
    exact ⟨haccepts, rfl⟩

def Waits (pipe : Pipe) (records : List Record) : Prop :=
  pipe.queue = records.flatMap Record.encode

theorem waits_send {pipe : Pipe} {records : List Record} (h : Waits pipe records)
    (record : Record) :
    ((pipe.send record).1 = .ok () ∧ Waits (pipe.send record).2.1 (records ++ [record])) ∨
      ∃ fault, (pipe.send record).1 = .error fault ∧ (pipe.send record).2.1 = pipe := by
  rcases send_cases pipe record with ⟨-, hsent, hqueue⟩ | ⟨-, hrefused⟩
  · left
    refine ⟨hsent, ?_⟩
    rw [Waits, hqueue, h, List.flatMap_append, List.flatMap_singleton]
  · exact Or.inr ⟨_, hrefused⟩

theorem receive_of_nil {pipe : Pipe} (h : pipe.queue = []) :
    pipe.receive.1 = (if pipe.writerOpen then .ok none else .error .closed) ∧
      pipe.receive.2.1 = pipe := by
  cases hopen : pipe.writerOpen <;> simp [Pipe.receive, Pipe.read, received, h, hopen]

theorem receive_of_ne_nil {pipe : Pipe} (h : pipe.queue ≠ []) :
    pipe.receive.1 = (Record.decode (pipe.queue.take recordLength)).map some ∧
      pipe.receive.2.1.queue = pipe.queue.drop recordLength ∧
      pipe.receive.2.1.writerOpen = pipe.writerOpen := by
  have hfull : pipe.queue.isEmpty = false := List.isEmpty_eq_false_iff.mpr h
  have hread : (received (.ok (pipe.queue.take recordLength))).1 =
      (Record.decode (pipe.queue.take recordLength)).map some := by
    cases hbytes : pipe.queue.take recordLength with
    | nil =>
        rcases List.take_eq_nil_iff.mp hbytes with hzero | hnil
        · exact absurd hzero (by decide)
        · exact absurd hnil h
    | cons first others =>
        simp only [received]
        cases Record.decode (first :: others) <;> rfl
  simp only [Pipe.receive, Pipe.read, hfull, Bool.false_eq_true, if_false, and_true]
  exact hread

theorem receive_nil {pipe : Pipe} (h : Waits pipe []) :
    (∀ record, (pipe.receive).1 ≠ .ok (some record)) ∧ (pipe.receive).2.1 = pipe := by
  obtain ⟨hanswer, hsame⟩ := receive_of_nil h
  refine ⟨fun record => ?_, hsame⟩
  rw [hanswer]
  cases pipe.writerOpen <;> simp

theorem receive_cons {pipe : Pipe} {record : Record} {rest : List Record}
    (h : Waits pipe (record :: rest)) :
    (pipe.receive).1 = .ok (some record) ∧ Waits (pipe.receive).2.1 rest := by
  have hqueue : pipe.queue = record.encode ++ rest.flatMap Record.encode := h
  have hlength : record.encode.length = recordLength := record.length_encode
  have hfull : pipe.queue ≠ [] := by
    apply List.ne_nil_of_length_pos
    rw [hqueue, List.length_append, hlength]
    exact Nat.lt_of_lt_of_le (by decide) (Nat.le_add_right recordLength _)
  obtain ⟨hanswer, hrest, -⟩ := receive_of_ne_nil hfull
  constructor
  · rw [hanswer, hqueue, List.take_left' hlength, decode_encode]
    rfl
  · rw [Waits, hrest, hqueue, List.drop_left' hlength]

def readyFrame (record : Record) : Option UInt64 :=
  if record.kind = .renderer then some record.first else none

def deliveredFrame : Delivery → Option UInt64
  | .record record => readyFrame record
  | .secret _ _ => none

def heardFrames : Except Wire.Error (Option Delivery) → List UInt64
  | .ok (some delivery) => (deliveredFrame delivery).toList
  | _ => []

theorem deliveredFrame_unpack (heap : Handoff.Heap) (record : Record) :
    deliveredFrame (Outlet.unpack heap record).1 = readyFrame record := by
  unfold Outlet.unpack
  split
  · rename_i hkind _
    rw [readyFrame, hkind, if_neg (by decide)]
    rfl
  · rfl

def Announces (outlet : Outlet) (frames : List UInt64) : Prop :=
  ∃ records, Waits outlet.pipe records ∧ records.filterMap readyFrame = frames

theorem announces_of_queue {before after : Outlet} (h : after.pipe.queue = before.pipe.queue)
    (frames : List UInt64) (hframes : Announces before frames) : Announces after frames := by
  obtain ⟨records, hwaits, hready⟩ := hframes
  exact ⟨records, h.trans hwaits, hready⟩

theorem announces_submit {outlet : Outlet} {frames : List UInt64} (h : Announces outlet frames)
    (secret : String) : Announces (outlet.submit secret).2.1 frames := by
  unfold Outlet.submit
  split
  · exact h
  · rename_i buffer heap _
    obtain ⟨records, hwaits, hframes⟩ := h
    dsimp only
    have hsent := waits_send hwaits ⟨.authSubmit, UInt64.ofNat (heap.expose buffer).1, 0⟩
    rcases hsend : outlet.pipe.send ⟨.authSubmit, UInt64.ofNat (heap.expose buffer).1, 0⟩ with
      ⟨result, pipe, lines⟩
    rw [hsend] at hsent
    rcases hsent with ⟨hok, hmore⟩ | ⟨fault, herror, hsame⟩
    · cases hok
      refine ⟨_, hmore, ?_⟩
      rw [List.filterMap_append, hframes]
      exact List.append_nil frames
    · cases herror
      cases hsame
      exact ⟨records, hwaits, hframes⟩

theorem announces_frameReady {outlet : Outlet} {frames : List UInt64}
    (h : Announces outlet frames) (handle : UInt64) :
    ((outlet.frameReady handle).1 = .ok () ∧
        Announces (outlet.frameReady handle).2.1 (frames ++ [handle])) ∨
      ∃ fault, (outlet.frameReady handle).1 = .error fault ∧
        Announces (outlet.frameReady handle).2.1 frames := by
  obtain ⟨records, hwaits, hframes⟩ := h
  rcases waits_send hwaits ⟨.renderer, handle, 0⟩ with ⟨hok, hmore⟩ | ⟨fault, herror, hsame⟩
  · left
    refine ⟨hok, _, hmore, ?_⟩
    rw [List.filterMap_append, hframes]
    rfl
  · right
    refine ⟨fault, herror, records, ?_, hframes⟩
    show Waits (outlet.pipe.send ⟨.renderer, handle, 0⟩).2.1 records
    rw [hsame]
    exact hwaits

theorem announces_receive {outlet : Outlet} {frames : List UInt64} (h : Announces outlet frames) :
    ∃ later, frames = heardFrames outlet.receive.1 ++ later ∧
      Announces outlet.receive.2.1 later := by
  obtain ⟨records, hwaits, hframes⟩ := h
  rcases hreceive : outlet.pipe.receive with ⟨outcome, pipe, lines⟩
  cases records with
  | nil =>
      obtain ⟨hnone, hsame⟩ := receive_nil hwaits
      rw [hreceive] at hnone hsame
      cases hsame
      rcases outcome with fault | _ | record
      · simp only [Outlet.receive, hreceive, heardFrames, List.nil_append]
        exact ⟨frames, rfl, [], hwaits, hframes⟩
      · simp only [Outlet.receive, hreceive, heardFrames, List.nil_append]
        exact ⟨frames, rfl, [], hwaits, hframes⟩
      · exact absurd rfl (hnone record)
  | cons record rest =>
      obtain ⟨hrecord, hrest⟩ := receive_cons hwaits
      rw [hreceive] at hrecord hrest
      cases hrecord
      refine ⟨rest.filterMap readyFrame, ?_, rest, ?_, rfl⟩
      · simp only [Outlet.receive, hreceive, heardFrames, deliveredFrame_unpack]
        rw [← hframes, List.filterMap_cons]
        cases readyFrame record <;> rfl
      · simpa only [Outlet.receive, hreceive] using hrest

end LockScreen.Proofs.PipeRecords
