import Mathlib.Data.List.Nodup
import LockScreen.Proofs.PipeRecords

namespace LockScreen.Proofs.HandoffHeap

open LockScreen.Handoff LockScreen.Text LockScreen.Wire
open LockScreen.Proofs.PipeRecords

variable {heap heap' : Heap} {buffer : Buffer} {handle other address : Nat} {bytes : List UInt8}
  {secret : String}

def due (buffer : Buffer) : Option (Deallocator × Nat) :=
  match buffer.deallocator, buffer.block with
  | some deallocator, some address => some (deallocator, address)
  | _, _ => none

theorem allocate_eq_some (h : heap.allocate? bytes = some (buffer, heap')) :
    heap.next + 1 < addressLimit ∧ buffer = ⟨some heap.next, bytes.length, some .standard⟩ ∧
      heap' = { heap with
        next := heap.next + 1, blocks := (heap.next, bytes ++ [0]) :: heap.blocks } := by
  unfold Heap.allocate? at h
  split at h
  · cases h
  · cases h
    exact ⟨by omega, rfl, rfl⟩

theorem discard_eq (heap : Heap) (buffer : Buffer) :
    heap.discard buffer =
      match due buffer with
      | some (deallocator, address) =>
          { heap with
            blocks := heap.blocks.filter fun entry => entry.1 != address
            freed := heap.freed ++ [(deallocator, address)] }
      | none => heap := by
  rcases buffer with ⟨_ | address, length, _ | deallocator⟩ <;> rfl

theorem discard_next (heap : Heap) (buffer : Buffer) :
    (heap.discard buffer).next = heap.next := by
  rw [discard_eq]
  split <;> rfl

theorem discard_handles (heap : Heap) (buffer : Buffer) :
    (heap.discard buffer).handles = heap.handles := by
  rw [discard_eq]
  split <;> rfl

theorem discard_freed (heap : Heap) (buffer : Buffer) :
    (heap.discard buffer).freed = heap.freed ++ (due buffer).toList := by
  rw [discard_eq]
  cases due buffer with
  | none => exact (List.append_nil _).symm
  | some call => rfl

theorem lookup_filter_ne {α : Type} (entries : List (Nat × α)) {key other : Nat}
    (h : key ≠ other) :
    (entries.filter fun entry => entry.1 != other).lookup key = entries.lookup key := by
  induction entries with
  | nil => rfl
  | cons entry rest ih =>
      obtain ⟨first, value⟩ := entry
      by_cases hfirst : first = other
      · subst hfirst
        rw [List.filter_cons_of_neg (by simp), ih, List.lookup_cons,
          beq_eq_false_iff_ne.mpr h]
      · rw [List.filter_cons_of_pos (by simpa using hfirst), List.lookup_cons, List.lookup_cons,
          ih]

theorem contents_discard (h : address ∉ (due buffer).toList.map Prod.snd) :
    (heap.discard buffer).contents address = heap.contents address := by
  rw [discard_eq]
  cases hdue : due buffer with
  | none => rfl
  | some call =>
      rw [hdue, Option.toList_some, List.map_singleton, List.mem_singleton] at h
      simp only [Heap.contents, lookup_filter_ne heap.blocks h]

theorem contents_allocate (h : heap.allocate? bytes = some (buffer, heap'))
    (hold : address ≠ heap.next) : heap'.contents address = heap.contents address := by
  obtain ⟨-, -, rfl⟩ := allocate_eq_some h
  simp only [Heap.contents, List.lookup_cons, beq_eq_false_iff_ne.mpr hold]

theorem mem_of_peek (h : heap.peek handle = some buffer) : (handle, buffer) ∈ heap.handles := by
  obtain ⟨before, after, hhandles, -⟩ := List.lookup_eq_some_iff.mp h
  rw [hhandles]
  exact List.mem_append_right _ List.mem_cons_self

theorem filter_of_not_mem {entries : List (Nat × Buffer)} (h : handle ∉ entries.map Prod.fst) :
    entries.filter (fun entry => entry.1 != handle) = entries := by
  apply List.filter_eq_self.mpr
  intro entry hentry
  have hne : entry.1 ≠ handle := fun heq => h (heq ▸ List.mem_map_of_mem hentry)
  simpa using hne

theorem perm_of_peek (hnodup : (heap.handles.map Prod.fst).Nodup)
    (h : heap.peek handle = some buffer) :
    heap.handles.Perm
      ((handle, buffer) :: heap.handles.filter fun entry => entry.1 != handle) := by
  obtain ⟨before, after, hhandles, hbefore⟩ := List.lookup_eq_some_iff.mp h
  rw [hhandles, List.map_append, List.map_cons] at hnodup
  have hafter : handle ∉ after.map Prod.fst :=
    (List.nodup_cons.mp (List.nodup_append.mp hnodup).2.1).1
  have hbefore' : handle ∉ before.map Prod.fst := by
    rintro hmem
    obtain ⟨entry, hentry, rfl⟩ := List.mem_map.mp hmem
    simpa using hbefore entry hentry
  rw [hhandles, List.filter_append, List.filter_cons_of_neg (by simp),
    filter_of_not_mem hbefore', filter_of_not_mem hafter]
  exact List.perm_middle

theorem peek_eq_none_iff : heap.peek handle = none ↔ handle ∉ heap.handles.map Prod.fst := by
  rw [Heap.peek, List.lookup_eq_none_iff]
  constructor
  · intro h hmem
    obtain ⟨entry, hentry, rfl⟩ := List.mem_map.mp hmem
    simpa using h entry hentry
  · intro h entry hentry
    have hne : handle ≠ entry.1 := fun heq => h (heq ▸ List.mem_map_of_mem hentry)
    simpa using hne

theorem keys_revise (heap : Heap) (handle : Nat) (change : Buffer → Buffer) :
    (heap.revise handle change).handles.map Prod.fst = heap.handles.map Prod.fst := by
  simp only [Heap.revise, List.map_map]
  apply List.map_congr_left
  intro entry _
  show (if entry.1 = handle then (entry.1, change entry.2) else entry).1 = entry.1
  split <;> rfl

theorem revise_of_not_mem (change : Buffer → Buffer) {entries : List (Nat × Buffer)}
    (h : handle ∉ entries.map Prod.fst) :
    (entries.map fun entry =>
      if entry.1 = handle then (entry.1, change entry.2) else entry) = entries := by
  calc _ = entries.map id := by
        apply List.map_congr_left
        intro entry hentry
        have hne : entry.1 ≠ handle := fun heq => h (heq ▸ List.mem_map_of_mem hentry)
        exact if_neg hne
    _ = entries := List.map_id entries

theorem perm_revise (change : Buffer → Buffer) (hnodup : (heap.handles.map Prod.fst).Nodup)
    (h : heap.peek handle = some buffer) :
    (heap.revise handle change).handles.Perm
      ((handle, change buffer) :: heap.handles.filter fun entry => entry.1 != handle) := by
  have hother : handle ∉ (heap.handles.filter fun entry => entry.1 != handle).map Prod.fst := by
    intro hmem
    obtain ⟨entry, hentry, rfl⟩ := List.mem_map.mp hmem
    simpa using (List.mem_filter.mp hentry).2
  have hperm := (perm_of_peek hnodup h).map fun entry =>
    if entry.1 = handle then (entry.1, change entry.2) else entry
  rw [List.map_cons, revise_of_not_mem change hother, if_pos rfl] at hperm
  exact hperm

/-- Handles are new when they are given out, and none of them is null. -/
structure Issued (heap : Heap) : Prop where
  positive : 0 < heap.next
  range : ∀ handle ∈ heap.handles.map Prod.fst, 0 < handle ∧ handle < heap.next
  nodup : (heap.handles.map Prod.fst).Nodup

theorem Issued.allocate (h : Issued heap)
    (hsome : heap.allocate? bytes = some (buffer, heap')) : Issued heap' := by
  obtain ⟨-, -, rfl⟩ := allocate_eq_some hsome
  refine ⟨Nat.succ_pos _, fun handle hmem => ?_, h.nodup⟩
  obtain ⟨hpos, hlt⟩ := h.range handle hmem
  exact ⟨hpos, Nat.lt_succ_of_lt hlt⟩

theorem Issued.fresh (h : Issued heap) : heap.next ∉ heap.handles.map Prod.fst := by
  intro hmem
  exact Nat.lt_irrefl _ (h.range _ hmem).2

theorem Issued.expose (h : Issued heap) (buffer : Buffer) : Issued (heap.expose buffer).2 := by
  refine ⟨Nat.succ_pos _, ?_, List.nodup_cons.mpr ⟨h.fresh, h.nodup⟩⟩
  intro handle hmem
  show 0 < handle ∧ handle < heap.next + 1
  rcases List.mem_cons.mp hmem with rfl | hmem
  · exact ⟨h.positive, Nat.lt_succ_self _⟩
  · obtain ⟨hpos, hlt⟩ := h.range handle hmem
    exact ⟨hpos, Nat.lt_succ_of_lt hlt⟩

theorem Issued.claim (h : Issued heap) (handle : Nat) : Issued (heap.claim handle).2 := by
  unfold Heap.claim
  split
  · exact h
  · have hsub : ((heap.handles.filter fun entry => entry.1 != handle).map Prod.fst).Sublist
        (heap.handles.map Prod.fst) := List.filter_sublist.map _
    exact ⟨h.positive, fun other hmem => h.range other (hsub.subset hmem), h.nodup.sublist hsub⟩

theorem Issued.discard (h : Issued heap) (buffer : Buffer) : Issued (heap.discard buffer) := by
  refine ⟨?_, ?_, ?_⟩
  · rw [discard_next]
    exact h.positive
  · rw [discard_next, discard_handles]
    exact h.range
  · rw [discard_handles]
    exact h.nodup

theorem Issued.free (h : Issued heap) (handle : Nat) : Issued (heap.free handle) := by
  have hclaim := h.claim handle
  unfold Heap.free
  split
  · rename_i heap' heq
    rwa [heq] at hclaim
  · rename_i buffer heap' heq
    rw [heq] at hclaim
    exact hclaim.discard buffer

theorem Issued.revise (h : Issued heap) (handle : Nat) (change : Buffer → Buffer) :
    Issued (heap.revise handle change) := by
  refine ⟨h.positive, ?_, ?_⟩
  · rw [keys_revise]
    exact h.range
  · rw [keys_revise]
    exact h.nodup

theorem claim_next (heap : Heap) (handle : Nat) : (heap.claim handle).2.next = heap.next := by
  unfold Heap.claim
  split <;> rfl

theorem peek_claim {heap : Heap} {handle other : Nat} (hne : handle ≠ other) :
    (heap.claim other).2.peek handle = heap.peek handle := by
  unfold Heap.claim
  split
  · rfl
  · exact lookup_filter_ne heap.handles hne

theorem peek_free {heap : Heap} {handle other : Nat} (hne : handle ≠ other) :
    (heap.free other).peek handle = heap.peek handle := by
  have hclaim : (heap.claim other).2.peek handle = heap.peek handle := peek_claim hne
  unfold Heap.free
  split
  · rename_i heap' heq
    rwa [heq] at hclaim
  · rename_i buffer heap' heq
    rw [heq] at hclaim
    rw [Heap.peek, discard_handles]
    exact hclaim

theorem lookup_revise (change : Buffer → Buffer) {handle other : Nat} (hne : handle ≠ other)
    (entries : List (Nat × Buffer)) :
    (entries.map fun entry =>
      if entry.1 = other then (entry.1, change entry.2) else entry).lookup handle =
        entries.lookup handle := by
  induction entries with
  | nil => rfl
  | cons entry rest ih =>
      obtain ⟨key, buffer⟩ := entry
      rw [List.map_cons]
      by_cases hkey : key = other
      · subst hkey
        rw [if_pos rfl, List.lookup_cons, List.lookup_cons, beq_eq_false_iff_ne.mpr hne]
        exact ih
      · rw [if_neg hkey, List.lookup_cons, List.lookup_cons, ih]

theorem peek_expose (heap : Heap) (buffer : Buffer) :
    (heap.expose buffer).2.peek (heap.expose buffer).1 = some buffer :=
  List.lookup_cons_self

theorem peek_expose_of_ne (heap : Heap) (buffer : Buffer) {handle : Nat}
    (h : handle ≠ (heap.expose buffer).1) :
    (heap.expose buffer).2.peek handle = heap.peek handle := by
  show List.lookup handle ((_, buffer) :: heap.handles) = _
  have hne : (handle == heap.next) = false := beq_eq_false_iff_ne.mpr h
  rw [List.lookup_cons, hne]
  rfl

theorem handles_free_expose (h : Issued heap) (buffer : Buffer) :
    ((heap.expose buffer).2.free (heap.expose buffer).1).handles = heap.handles := by
  simp only [Heap.free, Heap.claim, peek_expose, discard_handles]
  show List.filter (fun entry => entry.1 != heap.next) ((heap.next, buffer) :: heap.handles) = _
  rw [List.filter_cons_of_neg (by simp), filter_of_not_mem h.fresh]

theorem payload_expose (h : heap.allocate? bytes = some (buffer, heap')) :
    (heap'.expose buffer).2.payload buffer = bytes ∧
      (heap'.expose buffer).2.terminator? buffer = some 0 := by
  obtain ⟨-, rfl, rfl⟩ := allocate_eq_some h
  have hcontents (handles : List (Nat × Buffer)) : Heap.contents ⟨heap.next + 1 + 1,
      (heap.next, bytes ++ [0]) :: heap.blocks, handles, heap.freed⟩ heap.next = bytes ++ [0] := by
    simp only [Heap.contents, List.lookup_cons_self, Option.getD_some]
  simp only [Heap.payload, Heap.terminator?, Heap.expose, Option.bind_some, hcontents]
  exact ⟨List.take_left, List.getElem?_concat_length⟩

theorem toNat_handle (h : heap.allocate? bytes = some (buffer, heap')) :
    (UInt64.ofNat (heap'.expose buffer).1).toNat = (heap'.expose buffer).1 := by
  obtain ⟨hlimit, -, rfl⟩ := allocate_eq_some h
  rw [UInt64.toNat_ofNat']
  exact Nat.mod_eq_of_lt hlimit

theorem submit_of_none (outlet : Outlet)
    (h : outlet.heap.allocate? (Utf8.encode secret) = none) :
    outlet.submit secret = (.error .noMemory, outlet, []) := by
  simp only [Outlet.submit, h]

theorem allocate_eq_none_iff {heap : Heap} {bytes : List UInt8} :
    heap.allocate? bytes = none ↔ ¬heap.next + 1 < addressLimit := by
  simp [Heap.allocate?]

/-- A secret that is sent waits under the handle in its record; one that is not is released
again. -/
theorem submit_of_some (outlet : Outlet)
    (h : outlet.heap.allocate? (Utf8.encode secret) = some (buffer, heap)) :
    (Accepts outlet.pipe ∧ ∃ pipe lines,
        outlet.submit secret = (.ok (), ⟨pipe, (heap.expose buffer).2⟩, lines) ∧
          pipe.queue = outlet.pipe.queue ++
            Record.encode ⟨.authSubmit, UInt64.ofNat (heap.expose buffer).1, 0⟩) ∨
      (¬Accepts outlet.pipe ∧ ∃ lines,
        outlet.submit secret = (.error (.channel (.io (refusal outlet.pipe))),
          ⟨outlet.pipe, (heap.expose buffer).2.free (heap.expose buffer).1⟩, lines)) := by
  have hsent := send_cases outlet.pipe ⟨.authSubmit, UInt64.ofNat (heap.expose buffer).1, 0⟩
  rcases hsend : outlet.pipe.send ⟨.authSubmit, UInt64.ofNat (heap.expose buffer).1, 0⟩ with
    ⟨result, pipe, lines⟩
  rw [hsend] at hsent
  rcases hsent with ⟨haccepts, hok, hqueue⟩ | ⟨haccepts, herror, hsame⟩
  · cases hok
    refine Or.inl ⟨haccepts, pipe, lines, ?_, hqueue⟩
    simp only [Outlet.submit, h, hsend]
  · cases herror
    cases hsame
    refine Or.inr ⟨haccepts, lines, ?_⟩
    simp only [Outlet.submit, h, hsend]

end LockScreen.Proofs.HandoffHeap
