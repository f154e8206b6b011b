import LockScreen.Proofs.FrameSize
import LockScreen.Proofs.Histories
import LockScreen.Proofs.Runs
import LockScreen.Proofs.SlotUse

namespace LockScreen.Proofs.PublishedFrames

open LockScreen.Frame
open LockScreen.Proofs.Runs LockScreen.Proofs.FrameSize LockScreen.Proofs.SlotUse

variable {σ : Type}

/-- A writer of frames. It writes over the bytes it is given, and so keeps their number. -/
structure Writer (σ : Type) where
  write : Filler σ
  size_write : ∀ pixels state, (write pixels state).2.1.size = pixels.size

structure Call where
  given : ByteArray
  verdict : Verdict
  left : ByteArray

def noted (fill : Filler σ) : Filler (σ × List Call) := fun pixels (state, calls) =>
  let (verdict, left, state) := fill pixels state
  (verdict, left, state, calls ++ [⟨pixels, verdict, left⟩])

inductive Move (σ : Type) where
  | fill (provider : Provider) (writer : Writer σ)
  | release (provider : Provider) (handle : UInt64)

/-- What is seen of a move: what was acquired and which calls of the writer were made for it, or
what was released. -/
inductive Event where
  | asked (acquired : Acquisition) (calls : List Call)
  | released (handle : UInt64)

structure Stage (σ : Type) where
  memory : Memory
  writing : σ
  history : List (Provider × Event)

def step (stage : Stage σ) : Move σ → Stage σ
  | .fill provider writer =>
    let (acquired, memory, (writing, calls), _) :=
      provider.fillNext stage.memory (noted writer.write) (stage.writing, [])
    ⟨memory, writing, stage.history ++ [(provider, .asked acquired calls)]⟩
  | .release provider handle =>
    ⟨provider.release stage.memory handle, stage.writing,
      stage.history ++ [(provider, .released handle)]⟩

def seen (provider : Provider) (history : List (Provider × Event)) : List Event :=
  history.filterMap fun (asked, event) => if asked = provider then some event else none

theorem seen_concat (provider asked : Provider) (history : List (Provider × Event)) (event : Event) :
    seen provider (history ++ [(asked, event)]) =
      seen provider history ++ if asked = provider then [event] else [] := by
  simp only [seen, List.filterMap_append, List.filterMap_cons, List.filterMap_nil]
  by_cases h : asked = provider
  · simp only [h, if_true]
  · simp only [h, if_false]

def Event.Concerns (handle : UInt64) : Event → Prop
  | .asked acquired _ => acquired = .granted handle
  | .released other => other = handle

/-- A frame was kept under a handle, and nothing was kept under the handle or released since. -/
def Published (history : List Event) (handle : UInt64) (pixels : ByteArray) : Prop :=
  ∃ before given after,
    history = before ++ .asked (.granted handle) [⟨given, .kept, pixels⟩] :: after ∧
      ∀ event ∈ after, ¬ event.Concerns handle

theorem published_iff_since {history : List Event} {handle : UInt64} {pixels : ByteArray} :
    Published history handle pixels ↔
      Histories.Since (fun event => ∃ given, event = .asked (.granted handle) [⟨given, .kept, pixels⟩])
        (Event.Concerns handle) history := by
  constructor
  · rintro ⟨before, given, after, h, hafter⟩
    exact ⟨before, _, after, h, ⟨given, rfl⟩, hafter⟩
  · rintro ⟨before, _, after, h, ⟨given, rfl⟩, hafter⟩
    exact ⟨before, given, after, h, hafter⟩

theorem not_published_nil (handle : UInt64) (pixels : ByteArray) : ¬ Published [] handle pixels := by
  rw [published_iff_since]
  exact Histories.not_since_nil

theorem published_concat {history : List Event} {event : Event} {handle : UInt64}
    {pixels : ByteArray} :
    Published (history ++ [event]) handle pixels ↔
      (∃ given, event = .asked (.granted handle) [⟨given, .kept, pixels⟩]) ∨
        ¬ event.Concerns handle ∧ Published history handle pixels := by
  rw [published_iff_since, published_iff_since, Histories.since_concat]

section Filling

theorem firstFree_none {start : Nat} {slots : List Slot} (h : Pool.firstFree start slots = none) :
    ∀ slot ∈ slots, slot.inUse = true := by
  induction slots generalizing start with
  | nil => exact fun _ hslot => absurd hslot List.not_mem_nil
  | cons slot rest ih =>
      cases huse : slot.inUse with
      | false => simp only [Pool.firstFree, huse, Bool.false_eq_true, if_false, reduceCtorEq] at h
      | true =>
          simp only [Pool.firstFree, huse, if_true] at h
          intro other hother
          rcases List.mem_cons.mp hother with rfl | hrest
          · exact huse
          · exact ih h other hrest

theorem firstFree_lowest {start index : Nat} {slots : List Slot} {pixels : ByteArray}
    (h : Pool.firstFree start slots = some (index, pixels)) {lower : Nat} {slot : Slot}
    (hlower : start + lower < index) (hslot : slots[lower]? = some slot) : slot.inUse = true := by
  induction slots generalizing start lower with
  | nil => exact absurd hslot (by simp)
  | cons head rest ih =>
      cases huse : head.inUse with
      | false =>
          simp only [Pool.firstFree, huse, Bool.false_eq_true, if_false, Option.some.injEq,
            Prod.mk.injEq] at h
          omega
      | true =>
          simp only [Pool.firstFree, huse, if_true] at h
          cases lower with
          | zero =>
              rw [List.getElem?_cons_zero, Option.some.injEq] at hslot
              exact hslot ▸ huse
          | succ lower =>
              rw [List.getElem?_cons_succ] at hslot
              exact ih h (by omega) hslot

def answer (handle : UInt64) : Verdict → Acquisition
  | .kept => .granted handle
  | .dropped => .refused
  | .crashed => .crashed

theorem fillNext_noted (pool : Pool) (fill : Filler σ) (state : σ) :
    ((∀ slot ∈ pool.slots, slot.inUse = true) ∧
      ∃ lines, pool.fillNext (noted fill) (state, []) = (.refused, pool, (state, []), lines)) ∨
    ∃ index given verdict left after,
      pool.slots[index]? = some ⟨given, false⟩ ∧
      (∀ lower < index, ∀ slot, pool.slots[lower]? = some slot → slot.inUse = true) ∧
      fill given state = (verdict, left, after) ∧
      pool.fillNext (noted fill) (state, []) =
        (answer (UInt64.ofNat index) verdict, pool.setSlot index ⟨left, verdict == .kept⟩,
          (after, [⟨given, verdict, left⟩]), []) := by
  unfold Pool.fillNext
  cases hfree : Pool.firstFree 0 pool.slots with
  | none => exact Or.inl ⟨firstFree_none hfree, _, rfl⟩
  | some free =>
      obtain ⟨index, given⟩ := free
      obtain ⟨offset, hoffset, hslot⟩ := firstFree_spec hfree
      rw [Nat.zero_add] at hoffset
      subst hoffset
      rcases hfilled : fill given state with ⟨verdict, left, after⟩
      refine Or.inr ⟨index, given, verdict, left, after, hslot,
        fun lower hlower slot => firstFree_lowest hfree (by omega), hfilled, ?_⟩
      simp only [noted, hfilled, List.nil_append]
      cases verdict with
      | kept | dropped | crashed => rfl

end Filling

/-- A pool with so many slots of so many bytes each has the frames that a history tells of. -/
structure Sound (size count : Nat) (pool : Pool) (history : List Event) : Prop where
  frameLength : pool.frameLength = size
  slots : pool.slots.length = count
  sizes : ∀ slot ∈ pool.slots, slot.pixels.size = size
  frames : ∀ handle pixels, pool.frame? handle = some pixels ↔ Published history handle pixels

section Soundness

variable {size count : Nat} {pool : Pool} {history : List Event}

theorem sound_ofSize (size count : Nat) : Sound size count (.ofSize size count) [] where
  frameLength := rfl
  slots := List.length_replicate
  sizes slot hslot := by
    rw [List.eq_of_mem_replicate hslot]
    exact Array.size_replicate
  frames handle pixels := by
    have hunused : (Pool.ofSize size count).frame? handle = none := by
      simp only [Pool.frame?, Pool.ofSize, List.getElem?_replicate]
      split
      · next hsome =>
          split at hsome
          · cases hsome
            rfl
          · cases hsome
      · rfl
    rw [hunused]
    exact iff_of_false (Option.some_ne_none pixels).symm (not_published_nil handle pixels)

theorem Sound.setSlot (h : Sound size count pool history) {index : Nat} {slot : Slot}
    (hsize : slot.pixels.size = size) {event : Event}
    (hframes : ∀ handle pixels, (pool.setSlot index slot).frame? handle = some pixels ↔
      Published (history ++ [event]) handle pixels) :
    Sound size count (pool.setSlot index slot) (history ++ [event]) where
  frameLength := h.frameLength
  slots := List.length_set.trans h.slots
  sizes other hother := by
    rcases List.mem_or_eq_of_mem_set hother with hold | rfl
    · exact h.sizes other hold
    · exact hsize
  frames := hframes

theorem Sound.unconcerned (h : Sound size count pool history) {after : Pool} {event : Event}
    (hevent : ∀ handle, ¬ event.Concerns handle)
    (hsame : ∀ handle, after.frame? handle = pool.frame? handle) (handle : UInt64)
    (pixels : ByteArray) :
    after.frame? handle = some pixels ↔ Published (history ++ [event]) handle pixels := by
  rw [hsame, h.frames, published_concat]
  refine ⟨fun hpublished => Or.inr ⟨hevent handle, hpublished⟩, ?_⟩
  rintro (⟨given, rfl⟩ | ⟨-, hpublished⟩)
  · exact absurd rfl (hevent handle)
  · exact hpublished

theorem Sound.adds (h : Sound size count pool history) {after : Pool} {handle : UInt64}
    {left : ByteArray} (hadds : Adds pool after handle left) (given : ByteArray) (other : UInt64)
    (pixels : ByteArray) :
    after.frame? other = some pixels ↔
      Published (history ++ [.asked (.granted handle) [⟨given, .kept, left⟩]]) other pixels := by
  rw [published_concat]
  by_cases hother : other = handle
  · subst hother
    rw [hadds.added]
    constructor
    · intro hpixels
      cases hpixels
      exact Or.inl ⟨given, rfl⟩
    · rintro (⟨given', hevent⟩ | ⟨hevent, -⟩)
      · cases hevent
        rfl
      · exact absurd rfl hevent
  · rw [hadds.others other hother, h.frames]
    constructor
    · refine fun hpublished => Or.inr ⟨fun hconcerns => hother ?_, hpublished⟩
      cases hconcerns
      rfl
    · rintro (⟨given', hevent⟩ | ⟨-, hpublished⟩)
      · cases hevent
        exact absurd rfl hother
      · exact hpublished

theorem Sound.fill (h : Sound size count pool history) (hcount : count ≤ UInt64.size)
    (writer : Writer σ) (state : σ) :
    let (acquired, filled, (_, calls), _) := pool.fillNext (noted writer.write) (state, [])
    Sound size count filled (history ++ [.asked acquired calls]) := by
  rcases fillNext_noted pool writer.write state with
    ⟨-, lines, hfill⟩ | ⟨index, given, verdict, left, after, hslot, -, hwritten, hfill⟩
  · rw [hfill]
    exact ⟨h.frameLength, h.slots, h.sizes,
      h.unconcerned (fun _ hconcerns => nomatch hconcerns) fun _ => rfl⟩
  rw [hfill]
  have hgiven : given.size = size := h.sizes _ (List.mem_of_getElem? hslot)
  have hleft : left.size = size := by
    rw [← hgiven, ← writer.size_write given state, hwritten]
  refine h.setSlot hleft ?_
  cases verdict with
  | dropped | crashed =>
      exact h.unconcerned (fun _ hconcerns => nomatch hconcerns) (frame?_setSlot_free hslot)
  | kept =>
      have hadds : Adds pool (pool.setSlot index ⟨left, Verdict.kept == .kept⟩)
          (UInt64.ofNat index) left :=
        adds_setSlot (by rw [h.slots]; exact hcount) hslot
      exact h.adds hadds given

theorem Sound.release (h : Sound size count pool history) (handle : UInt64) :
    Sound size count (pool.release handle) (history ++ [.released handle]) := by
  refine ⟨?_, (length_release pool handle).trans h.slots, fun slot hslot => ?_, fun other frame => ?_⟩
  · unfold Pool.release
    split <;> exact h.frameLength
  · unfold Pool.release at hslot
    split at hslot
    · next old hold =>
        rcases List.mem_or_eq_of_mem_set hslot with hkept | rfl
        · exact h.sizes slot hkept
        · exact h.sizes old (List.mem_of_getElem? hold)
    · exact h.sizes slot hslot
  · rw [frame?_release, published_concat]
    by_cases hother : other = handle
    · rw [if_pos hother]
      refine iff_of_false (fun hframe => nomatch hframe) ?_
      rintro (⟨given, hevent⟩ | ⟨hevent, -⟩)
      · cases hevent
      · exact hevent hother.symm
    · rw [if_neg hother, h.frames]
      refine ⟨fun hpublished => Or.inr ⟨fun hconcerns => hother hconcerns.symm, hpublished⟩, ?_⟩
      rintro (⟨given, hevent⟩ | ⟨-, hpublished⟩)
      · cases hevent
      · exact hpublished

theorem slot_of_frame {handle : UInt64} {pixels : ByteArray}
    (hframe : pool.frame? handle = some pixels) :
    ∃ slot, pool.slots[handle.toNat]? = some slot ∧ slot.inUse = true := by
  unfold Pool.frame? at hframe
  split at hframe
  · next slot hslot =>
      cases huse : slot.inUse with
      | true => exact ⟨slot, hslot, huse⟩
      | false =>
          rw [huse] at hframe
          exact absurd hframe (by simp)
  · exact absurd hframe (by simp)

def usedSlots (pool : Pool) : List (Slot × Nat) :=
  pool.slots.zipIdx.filter fun entry => entry.1.inUse

theorem mem_usedSlots {slot : Slot} {index : Nat} :
    (slot, index) ∈ usedSlots pool ↔ pool.slots[index]? = some slot ∧ slot.inUse = true := by
  rw [usedSlots, List.mem_filter, List.mem_zipIdx_iff_getElem?]

theorem nodup_usedSlots (pool : Pool) : ((usedSlots pool).map Prod.snd).Nodup := by
  have hall : (pool.slots.zipIdx.map Prod.snd).Nodup := by
    rw [List.zipIdx_map_snd]
    exact List.nodup_range'
  exact (List.filter_sublist.map Prod.snd).nodup hall

theorem length_usedSlots (pool : Pool) : (usedSlots pool).length = pool.inUse := by
  have hslots : pool.slots.countP Slot.inUse = (pool.slots.zipIdx.map Prod.fst).countP Slot.inUse := by
    rw [List.zipIdx_map_fst]
  rw [Pool.inUse, hslots, List.countP_map, List.countP_eq_length_filter]
  rfl

theorem lt_of_mem_usedSlots {index : Nat} (h : index ∈ (usedSlots pool).map Prod.snd) :
    index < pool.slots.length := by
  obtain ⟨⟨slot, _⟩, hentry, rfl⟩ := List.mem_map.mp h
  exact (List.getElem?_eq_some_iff.mp (mem_usedSlots.mp hentry).1).1

theorem Sound.exists_handles (h : Sound size count pool history) (hcount : count ≤ UInt64.size) :
    ∃ handles : List UInt64, handles.Nodup ∧
      (∀ handle, handle ∈ handles ↔ ∃ pixels, Published history handle pixels) ∧
      pool.inUse = handles.length := by
  have hlength : pool.slots.length ≤ UInt64.size := by rw [h.slots]; exact hcount
  have hbound (index : Nat) (hindex : index ∈ (usedSlots pool).map Prod.snd) : index < UInt64.size :=
    Nat.lt_of_lt_of_le (lt_of_mem_usedSlots hindex) hlength
  refine ⟨((usedSlots pool).map Prod.snd).map UInt64.ofNat, ?_,
    fun handle => ⟨fun hhandle => ?_, ?_⟩, ?_⟩
  · -- Places below 2^64 stay different as handles.
    rw [List.Nodup, List.pairwise_map]
    refine List.Pairwise.imp_of_mem (fun {a b} ha hb hne heq => hne ?_) (nodup_usedSlots pool)
    have hnat := congrArg UInt64.toNat heq
    rwa [UInt64.toNat_ofNat_of_lt' (hbound a ha), UInt64.toNat_ofNat_of_lt' (hbound b hb)] at hnat
  · obtain ⟨index, hindex, rfl⟩ := List.mem_map.mp hhandle
    obtain ⟨⟨slot, _⟩, hentry, rfl⟩ := List.mem_map.mp hindex
    obtain ⟨hslot, huse⟩ := mem_usedSlots.mp hentry
    obtain ⟨pixels, hpixels⟩ := Option.isSome_iff_exists.mp ((inUse_iff hlength hslot).mp huse)
    exact ⟨pixels, (h.frames _ _).mp hpixels⟩
  · rintro ⟨pixels, hpublished⟩
    obtain ⟨slot, hslot, huse⟩ := slot_of_frame ((h.frames _ _).mpr hpublished)
    refine List.mem_map.mpr ⟨handle.toNat, ?_, UInt64.ofNat_toNat⟩
    exact List.mem_map.mpr ⟨(slot, handle.toNat), mem_usedSlots.mpr ⟨hslot, huse⟩, rfl⟩
  · rw [List.length_map, List.length_map, length_usedSlots]

theorem inUse_setSlot_free {index : Nat} {pixels pixels' : ByteArray}
    (hslot : pool.slots[index]? = some ⟨pixels, false⟩) :
    (pool.setSlot index ⟨pixels', false⟩).inUse = pool.inUse := by
  obtain ⟨hindex, hget⟩ := List.getElem?_eq_some_iff.mp hslot
  simp only [Pool.inUse, Pool.setSlot]
  rw [List.countP_set hindex, hget]
  simp only [Bool.false_eq_true, if_false, Nat.sub_zero, Nat.add_zero]

/-- Asking a pool for a buffer. If each of its slots has a frame, no writer is called. Else the
writer is called once, on a whole frame of bytes, and what it says of them decides whether the
lowest handle without a frame is granted. Where none is granted no change is seen. -/
def FillsLowest (pool : Pool) (writer : Writer σ) (writing : σ) : Prop :=
  let (acquired, filled, (after, calls), _) := pool.fillNext (noted writer.write) (writing, [])
  ((∀ index < pool.slots.length, (pool.frame? (UInt64.ofNat index)).isSome = true) ∧
      acquired = .refused ∧ calls = [] ∧ after = writing ∨
    ∃ index < pool.slots.length, pool.frame? (UInt64.ofNat index) = none ∧
      (∀ lower < index, (pool.frame? (UInt64.ofNat lower)).isSome = true) ∧
      ∃ given verdict left, given.size = pool.frameLength ∧
        writer.write given writing = (verdict, left, after) ∧
        calls = [⟨given, verdict, left⟩] ∧ acquired = answer (UInt64.ofNat index) verdict) ∧
  (acquired.handle? = none →
    filled.inUse = pool.inUse ∧ ∀ handle, filled.frame? handle = pool.frame? handle)

theorem Sound.fillsLowest (h : Sound size count pool history) (hcount : count ≤ UInt64.size)
    (writer : Writer σ) (writing : σ) : FillsLowest pool writer writing := by
  have hlength : pool.slots.length ≤ UInt64.size := by rw [h.slots]; exact hcount
  have hshown (index : Nat) (hindex : index < pool.slots.length)
      (huse : ∀ slot, pool.slots[index]? = some slot → slot.inUse = true) :
      (pool.frame? (UInt64.ofNat index)).isSome = true := by
    have hslot := List.getElem?_eq_getElem hindex
    exact (inUse_iff hlength hslot).mp (huse _ hslot)
  unfold FillsLowest
  rcases fillNext_noted pool writer.write writing with
    ⟨hfull, lines, hfill⟩ | ⟨index, given, verdict, left, after, hslot, hlower, hwritten, hfill⟩
  · rw [hfill]
    refine ⟨Or.inl ⟨fun index hindex => ?_, rfl, rfl, rfl⟩, fun _ => ⟨rfl, fun _ => rfl⟩⟩
    exact hshown index hindex fun slot hslot => hfull slot (List.mem_of_getElem? hslot)
  rw [hfill]
  obtain ⟨hindex, -⟩ := List.getElem?_eq_some_iff.mp hslot
  have hfree : pool.frame? (UInt64.ofNat index) = none := by
    have hunused := mt (inUse_iff hlength hslot).mpr (by simp)
    simpa using hunused
  have hsize : given.size = pool.frameLength := by
    rw [h.frameLength]
    exact h.sizes _ (List.mem_of_getElem? hslot)
  refine ⟨Or.inr ⟨index, hindex, hfree, fun lower hless => ?_,
    given, verdict, left, hsize, hwritten, rfl, rfl⟩, fun hnone => ?_⟩
  · exact hshown lower (Nat.lt_trans hless hindex) (hlower lower hless)
  · cases verdict with
    | kept => exact absurd hnone (by simp [answer, Acquisition.handle?])
    | dropped | crashed => exact ⟨inUse_setSlot_free hslot, frame?_setSlot_free hslot⟩

end Soundness

section Memories

variable {memory : Memory} {index : Nat} {pool : Pool}

theorem fillNext_pool (hpool : memory.pools[index]? = some pool) (fill : Filler σ) (state : σ) :
    (Provider.pool index).fillNext memory fill state =
      let (acquired, filled, state, lines) := pool.fillNext fill state
      (acquired, { memory with pools := memory.pools.set index filled }, state, lines) := by
  simp only [Provider.fillNext, hpool]

theorem fillNext_other {provider : Provider} (hother : provider ≠ .pool index) (fill : Filler σ)
    (state : σ) :
    (provider.fillNext memory fill state).2.1.pools[index]? = memory.pools[index]? := by
  cases provider with
  | lender lent =>
      simp only [Provider.fillNext]
      split <;> rfl
  | pool asked =>
      have hne : asked ≠ index := fun h => hother (h ▸ rfl)
      simp only [Provider.fillNext]
      split
      · rfl
      · exact List.getElem?_set_ne hne

theorem release_other {provider : Provider} (hother : provider ≠ .pool index) (handle : UInt64) :
    (provider.release memory handle).pools[index]? = memory.pools[index]? := by
  cases provider with
  | lender lent => rfl
  | pool asked => exact List.getElem?_modify_ne _ _ fun h => hother (h ▸ rfl)

end Memories

def Keeps (size count index : Nat) (stage : Stage σ) : Prop :=
  ∃ pool, stage.memory.pools[index]? = some pool ∧
    Sound size count pool (seen (.pool index) stage.history)

theorem keeps_step {size count index : Nat} (hcount : count ≤ UInt64.size) {stage : Stage σ}
    (h : Keeps size count index stage) (move : Move σ) :
    Keeps size count index (step stage move) := by
  obtain ⟨pool, hpool, hsound⟩ := h
  obtain ⟨hindex, -⟩ := List.getElem?_eq_some_iff.mp hpool
  cases move with
  | fill provider writer =>
      by_cases hprovider : provider = .pool index
      · subst hprovider
        have hfill := hsound.fill hcount writer stage.writing
        rcases hstep : pool.fillNext (noted writer.write) (stage.writing, []) with
          ⟨acquired, filled, ⟨writing, calls⟩, lines⟩
        rw [hstep] at hfill
        refine ⟨filled, ?_, ?_⟩
        · simp only [step, fillNext_pool hpool, hstep]
          exact List.getElem?_set_self hindex
        · simp only [step, fillNext_pool hpool, hstep]
          rw [seen_concat, if_pos rfl]
          exact hfill
      · refine ⟨pool, ?_, ?_⟩
        · simp only [step]
          exact (fillNext_other hprovider _ _).trans hpool
        · simp only [step]
          rw [seen_concat, if_neg hprovider, List.append_nil]
          exact hsound
  | release provider handle =>
      by_cases hprovider : provider = .pool index
      · subst hprovider
        refine ⟨pool.release handle, ?_, ?_⟩
        · simp only [step, Provider.release, List.getElem?_modify_eq, hpool]
          rfl
        · simp only [step]
          rw [seen_concat, if_pos rfl]
          exact hsound.release handle
      · refine ⟨pool, (release_other hprovider handle).trans hpool, ?_⟩
        simp only [step]
        rw [seen_concat, if_neg hprovider, List.append_nil]
        exact hsound

/-- A pool is made for any frames of which a word holds the number of bytes, and a block the bytes.
Such a pool of any number of slots lies in a memory in which anything is filled and released, with
any writers and through any providers. What is seen of those that are the pool tells all that can be
seen of it: its frames are those that were last kept under their handles and not released since, as
many slots are in use as there are such handles, and it fills the lowest slot without a frame. To
release a handle takes its own frame away and no other. -/
theorem pool_shows_published (size : Nat) (slots : UInt64) (before after : List Pool)
    (lenders : List Lender) (writing : σ) (moves : List (Move σ)) :
    let memory : Memory := ⟨before ++ .ofSize size slots.toNat :: after, lenders⟩
    let stage := run step ⟨memory, writing, []⟩ moves
    let history := seen (.pool before.length) stage.history
    (∀ width height, Pool.new? width height slots.toNat =
      let bytes := frameBytes width height
      if UInt64.size ≤ bytes ∨ slots.toNat ≠ 0 ∧ Pool.blockLimit ≤ bytes then none
      else some (.ofSize bytes slots.toNat)) ∧
    ∃ pool, stage.memory.pools[before.length]? = some pool ∧
      pool.frameLength = size ∧ pool.slots.length = slots.toNat ∧
      (∀ handle pixels, pool.frame? handle = some pixels ↔ Published history handle pixels) ∧
      (∃ handles : List UInt64, handles.Nodup ∧
        (∀ handle, handle ∈ handles ↔ ∃ pixels, Published history handle pixels) ∧
        pool.inUse = handles.length) ∧
      (∀ writer : Writer σ, FillsLowest pool writer stage.writing) ∧
      ∀ handle other, (pool.release handle).frame? other =
        if other = handle then none else pool.frame? other := by
  intro memory stage history
  have hcount : slots.toNat ≤ UInt64.size := Nat.le_of_lt slots.toNat_lt
  have hstart : Keeps size slots.toNat before.length (⟨memory, writing, []⟩ : Stage σ) := by
    refine ⟨.ofSize size slots.toNat, ?_, sound_ofSize size slots.toNat⟩
    rw [List.getElem?_append_right (Nat.le_refl _), Nat.sub_self]
    rfl
  obtain ⟨pool, hpool, hsound⟩ :=
    invariant_run (I := Keeps size slots.toNat before.length)
      (fun _ move h => keeps_step hcount h move) hstart moves
  exact ⟨fun width height => new?_eq width height slots.toNat, pool, hpool, hsound.frameLength,
    hsound.slots, hsound.frames, hsound.exists_handles hcount,
    fun writer => hsound.fillsLowest hcount writer stage.writing, frame?_release pool⟩

end LockScreen.Proofs.PublishedFrames
