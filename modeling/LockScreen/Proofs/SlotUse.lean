import LockScreen.Render.Loop

namespace LockScreen.Proofs.SlotUse

open LockScreen.Frame LockScreen.Render

variable {σ τ : Type}

theorem firstFree_spec {start index : Nat} {slots : List Slot} {pixels : ByteArray}
    (h : Pool.firstFree start slots = some (index, pixels)) :
    ∃ offset, index = start + offset ∧ slots[offset]? = some ⟨pixels, false⟩ := by
  induction slots generalizing start with
  | nil => cases h
  | cons slot rest ih =>
      obtain ⟨bytes, inUse⟩ := slot
      cases inUse with
      | false =>
          simp only [Pool.firstFree, Bool.false_eq_true, if_false, Option.some.injEq,
            Prod.mk.injEq] at h
          obtain ⟨rfl, rfl⟩ := h
          exact ⟨0, rfl, rfl⟩
      | true =>
          simp only [Pool.firstFree, if_true] at h
          obtain ⟨offset, hindex, hslot⟩ := ih h
          exact ⟨offset + 1, by omega, hslot⟩

theorem frame?_setSlot_self {pool : Pool} {index : Nat} {slot : Slot} {handle : UInt64}
    (hhandle : handle.toNat = index) (hindex : index < pool.slots.length) :
    (pool.setSlot index slot).frame? handle =
      if slot.inUse then some slot.pixels else none := by
  have hset : (pool.slots.set index slot)[handle.toNat]? = some slot := by
    rw [hhandle, List.getElem?_set_self hindex]
  simp only [Pool.frame?, Pool.setSlot, hset]

theorem frame?_setSlot_of_ne {pool : Pool} {index : Nat} {slot : Slot} {handle : UInt64}
    (hhandle : handle.toNat ≠ index) :
    (pool.setSlot index slot).frame? handle = pool.frame? handle := by
  have hset : (pool.slots.set index slot)[handle.toNat]? = pool.slots[handle.toNat]? :=
    List.getElem?_set_ne (Ne.symm hhandle)
  simp only [Pool.frame?, Pool.setSlot, hset]

theorem frame?_setSlot_free {pool : Pool} {index : Nat} {pixels pixels' : ByteArray}
    (hslot : pool.slots[index]? = some ⟨pixels, false⟩) (handle : UInt64) :
    (pool.setSlot index ⟨pixels', false⟩).frame? handle = pool.frame? handle := by
  by_cases hhandle : handle.toNat = index
  · obtain ⟨hindex, -⟩ := List.getElem?_eq_some_iff.mp hslot
    rw [frame?_setSlot_self hhandle hindex]
    simp only [Pool.frame?, hhandle, hslot, Bool.false_eq_true, if_false]
  · exact frame?_setSlot_of_ne hhandle

theorem frame?_release (pool : Pool) (handle other : UInt64) :
    (pool.release handle).frame? other = if other = handle then none else pool.frame? other := by
  have hsame : other = handle ↔ other.toNat = handle.toNat := UInt64.toNat_inj.symm
  unfold Pool.release
  cases hslot : pool.slots[handle.toNat]? with
  | none =>
      by_cases hother : other = handle
      · subst hother
        simp only [Pool.frame?, hslot, if_true]
      · rw [if_neg hother]
  | some slot =>
      obtain ⟨hindex, -⟩ := List.getElem?_eq_some_iff.mp hslot
      by_cases hother : other = handle
      · rw [if_pos hother, frame?_setSlot_self (hsame.mp hother) hindex]
        rfl
      · rw [if_neg hother, frame?_setSlot_of_ne fun h => hother (hsame.mpr h)]

theorem length_release (pool : Pool) (handle : UInt64) :
    (pool.release handle).slots.length = pool.slots.length := by
  unfold Pool.release
  split
  · exact List.length_set
  · rfl

theorem inUse_iff {pool : Pool} {index : Nat} {slot : Slot}
    (hlength : pool.slots.length ≤ UInt64.size) (hslot : pool.slots[index]? = some slot) :
    slot.inUse = true ↔ (pool.frame? (UInt64.ofNat index)).isSome = true := by
  obtain ⟨hindex, -⟩ := List.getElem?_eq_some_iff.mp hslot
  have hhandle : (UInt64.ofNat index).toNat = index :=
    UInt64.toNat_ofNat_of_lt' (Nat.lt_of_lt_of_le hindex hlength)
  simp only [Pool.frame?, hhandle, hslot]
  cases slot.inUse <;> simp

/-- One pool has a frame more than another, and all the frames of the other. -/
structure Adds (before after : Pool) (handle : UInt64) (pixels : ByteArray) : Prop where
  fresh : before.frame? handle = none
  added : after.frame? handle = some pixels
  others : ∀ other, other ≠ handle → after.frame? other = before.frame? other

theorem adds_setSlot {pool : Pool} {index : Nat} {pixels pixels' : ByteArray}
    (hlength : pool.slots.length ≤ UInt64.size)
    (hslot : pool.slots[index]? = some ⟨pixels, false⟩) :
    Adds pool (pool.setSlot index ⟨pixels', true⟩) (UInt64.ofNat index) pixels' := by
  obtain ⟨hindex, -⟩ := List.getElem?_eq_some_iff.mp hslot
  have hhandle : (UInt64.ofNat index).toNat = index :=
    UInt64.toNat_ofNat_of_lt' (Nat.lt_of_lt_of_le hindex hlength)
  refine ⟨?_, ?_, fun other hother => ?_⟩
  · simp only [Pool.frame?, hhandle, hslot]
    rfl
  · exact frame?_setSlot_self hhandle hindex
  · refine frame?_setSlot_of_ne fun hsame => hother ?_
    rw [← hsame, UInt64.ofNat_toNat]

theorem Adds.release {before after : Pool} {handle : UInt64} {pixels : ByteArray}
    (h : Adds before after handle pixels) (other : UInt64) :
    (after.release handle).frame? other = before.frame? other := by
  rw [frame?_release]
  split
  · rename_i hother
    rw [hother, h.fresh]
  · rename_i hother
    exact h.others other hother

/-- What filling does to the frames of a pool: it adds the frame that was written and kept, under
the handle that is granted, or changes none. -/
theorem fillNext_spec {pool : Pool} (hlength : pool.slots.length ≤ UInt64.size)
    (fill : Filler σ) (state : σ) :
    let (acquired, filled, after, _) := pool.fillNext fill state
    filled.slots.length = pool.slots.length ∧
      match acquired.handle? with
      | none => ∀ handle, filled.frame? handle = pool.frame? handle
      | some handle => ∃ pixels pixels', fill pixels state = (.kept, pixels', after) ∧
          Adds pool filled handle pixels' := by
  unfold Pool.fillNext
  cases hfree : Pool.firstFree 0 pool.slots with
  | none => exact ⟨rfl, fun _ => rfl⟩
  | some free =>
      obtain ⟨index, pixels⟩ := free
      obtain ⟨offset, hoffset, hslot⟩ := firstFree_spec hfree
      rw [Nat.zero_add] at hoffset
      subst hoffset
      rcases hfilled : fill pixels state with ⟨verdict, pixels', after⟩
      simp only [hfilled]
      cases verdict with
      | kept => exact ⟨List.length_set, pixels, pixels', hfilled, adds_setSlot hlength hslot⟩
      | dropped | crashed => exact ⟨List.length_set, frame?_setSlot_free hslot⟩

theorem fill_kept {api : Target τ} {pixels pixels' : ByteArray}
    {state after : τ × List Happening}
    (h : Machine.fill api pixels state = (.kept, pixels', after)) :
    ∃ lines, api.read state.1 pixels = (.done, pixels', after.1, lines) := by
  rcases hread : api.read state.1 pixels with ⟨ending, written, target, lines⟩
  simp only [Machine.fill, hread] at h
  cases ending with
  | done =>
      cases h
      exact ⟨lines, rfl⟩
  | failed | crashed => cases h

theorem fillNext_pool_spec {api : Target τ} {memory memory' : Memory} {index : Nat} {pool : Pool}
    {before after : τ} {acquired : Acquisition} {happenings : List Happening}
    {lines : List Log.Line} (hpool : memory.pools[index]? = some pool)
    (hlength : pool.slots.length ≤ UInt64.size)
    (h : (Provider.pool index).fillNext memory (Machine.fill api) (before, []) =
      (acquired, memory', (after, happenings), lines)) :
    ∃ filled, memory' = { memory with pools := memory.pools.set index filled } ∧
      filled.slots.length = pool.slots.length ∧
      match acquired.handle? with
      | none => ∀ handle, filled.frame? handle = pool.frame? handle
      | some handle => ∃ pixels pixels' lines,
          api.read before pixels = (.done, pixels', after, lines) ∧ Adds pool filled handle pixels' := by
  have hfilled := fillNext_spec hlength (Machine.fill api) (before, [])
  rcases hfill : pool.fillNext (Machine.fill api) (before, []) with ⟨granted, filled, state, told⟩
  rw [hfill] at hfilled
  obtain ⟨hslots, hframes⟩ := hfilled
  simp only [Provider.fillNext, hpool, hfill, Prod.mk.injEq] at h
  obtain ⟨rfl, rfl, rfl, rfl⟩ := h
  refine ⟨filled, rfl, hslots, ?_⟩
  cases granted with
  | granted handle =>
      obtain ⟨pixels, pixels', hkept, hadds⟩ := hframes
      obtain ⟨lines, hread⟩ := fill_kept hkept
      exact ⟨pixels, pixels', lines, hread, hadds⟩
  | refused | crashed => exact hframes

end LockScreen.Proofs.SlotUse
