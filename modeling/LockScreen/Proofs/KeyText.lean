import LockScreen.Proofs.KeymapText

namespace LockScreen.Proofs.KeyText

open LockScreen.Text
open LockScreen.Proofs.KeymapText

variable {x : Xkb} {text cut : String} {limit : Nat}

/-- The text starts with the cut, and no longer start of it takes at most `limit` bytes. -/
structure Longest (limit : Nat) (text cut : String) : Prop where
  starts : ∃ rest, text = cut ++ rest
  fits : cut.utf8ByteSize ≤ limit
  longest : ∀ other rest, text = other ++ rest → other.utf8ByteSize ≤ limit →
    other.utf8ByteSize ≤ cut.utf8ByteSize

section Boundaries

theorem valid_append (first second : String) :
    String.Pos.Raw.IsValid (first ++ second) ⟨first.utf8ByteSize⟩ := by
  apply String.Pos.Raw.isValid_iff_exists_append.mpr
  exact ⟨first, second, rfl, rfl⟩

theorem boundary_spec {place : Nat} {found : text.Pos} (h : Utf8.boundary? text place = some found) :
    found.offset.byteIdx ≤ place ∧
      ∀ other ≤ place, String.Pos.Raw.IsValid text ⟨other⟩ → other ≤ found.offset.byteIdx := by
  induction place with
  | zero =>
      rw [Utf8.boundary?] at h
      split at h
      · obtain rfl := Option.some.inj h
        exact ⟨Nat.le_refl 0, fun other hother _ => hother⟩
      · cases h
  | succ place ih =>
      rw [Utf8.boundary?] at h
      split at h
      · obtain rfl := Option.some.inj h
        exact ⟨Nat.le_refl _, fun other hother _ => hother⟩
      · next hinside =>
          obtain ⟨hfits, hlongest⟩ := ih h
          refine ⟨Nat.le_succ_of_le hfits, ?_⟩
          intro other hother hvalid
          have hother' : other ≠ place + 1 := by
            rintro rfl
            exact hinside hvalid
          exact hlongest other (by omega) hvalid

end Boundaries

section Cuts

theorem longest_whole (h : text.utf8ByteSize ≤ limit) : Longest limit text text := by
  refine ⟨⟨"", String.append_empty.symm⟩, h, ?_⟩
  intro other rest hother _
  rw [hother, String.utf8ByteSize_append]
  exact Nat.le_add_right _ _

theorem longest_sliceTo {found : text.Pos} (h : Utf8.boundary? text limit = some found) :
    Longest limit text (text.sliceTo found).copy := by
  obtain ⟨hfits, hlongest⟩ := boundary_spec h
  have hsize : (text.sliceTo found).copy.utf8ByteSize = found.offset.byteIdx := by
    rw [String.Slice.utf8ByteSize_copy, String.utf8ByteSize_sliceTo]
  constructor
  · exact ⟨(text.sliceFrom found).copy, String.sliceTo_append_sliceFrom.symm⟩
  · rw [hsize]
    exact hfits
  · intro other rest hother hsmall
    rw [hsize]
    apply hlongest _ hsmall
    rw [hother]
    exact valid_append other rest

theorem longest_truncate (text : String) (limit : Nat) :
    Longest limit text (Utf8.truncate text limit) := by
  unfold Utf8.truncate
  split
  · next hfits => exact longest_whole hfits
  · exact longest_sliceTo (Option.some_get _).symm

theorem Longest.unique {other : String} (h : Longest limit text cut) (h' : Longest limit text other) :
    cut = other := by
  obtain ⟨rest, hrest⟩ := h.starts
  obtain ⟨rest', hrest'⟩ := h'.starts
  have hsize : cut.utf8ByteSize = other.utf8ByteSize := by
    apply Nat.le_antisymm
    · exact h'.longest cut rest hrest h.fits
    · exact h.longest other rest' hrest' h'.fits
  have hvalid : String.Pos.Raw.IsValid text ⟨cut.utf8ByteSize⟩ := by
    rw [hrest]
    exact valid_append cut rest
  have hsplits : (text.pos ⟨cut.utf8ByteSize⟩ hvalid).Splits cut rest := ⟨hrest, rfl⟩
  have hsplits' : (text.pos ⟨cut.utf8ByteSize⟩ hvalid).Splits other rest' := by
    refine ⟨hrest', ?_⟩
    rw [String.offset_pos, hsize]
    rfl
  exact hsplits.eq_left hsplits'

theorem Longest.eq_iff (h : Longest limit text cut) : cut = text ↔ text.utf8ByteSize ≤ limit := by
  constructor
  · rintro rfl
    exact h.fits
  · intro hfits
    obtain ⟨rest, hrest⟩ := h.starts
    have hwhole := h.longest text "" String.append_empty.symm hfits
    have hnothing : rest = "" := by
      rw [← String.utf8ByteSize_eq_zero_iff]
      rw [hrest, String.utf8ByteSize_append] at hwhole
      omega
    rw [hrest, hnothing, String.append_empty]

theorem Longest.le_add (h : Longest limit text cut) (hcut : cut ≠ text) :
    limit ≤ cut.utf8ByteSize + 3 := by
  obtain ⟨rest, hrest⟩ := h.starts
  obtain ⟨characters, rfl⟩ := rest.exists_eq_ofList
  cases characters with
  | nil => exact absurd (hrest.trans String.append_empty).symm hcut
  | cons c characters =>
      have hfour := c.utf8Size_le_four
      have hone := c.utf8Size_pos
      have hnext : text = (cut ++ String.singleton c) ++ String.ofList characters := by
        rw [hrest, String.append_assoc, String.singleton_eq_ofList, ← String.ofList_append]
        rfl
      have hlong := h.longest _ _ hnext
      rw [String.utf8ByteSize_append, String.utf8ByteSize_singleton] at hlong
      omega

theorem Longest.decode (h : Longest limit text cut) :
    Utf8.decode? ((Utf8.encode text).take cut.utf8ByteSize) = some cut := by
  obtain ⟨rest, rfl⟩ := h.starts
  have hlength : (Utf8.encode cut).length = cut.utf8ByteSize := rfl
  have happend : Utf8.encode (cut ++ rest) = Utf8.encode cut ++ Utf8.encode rest :=
    ByteArray.toList_data_append
  rw [decode_eq_some_iff, happend, ← hlength, List.take_left]

end Cuts

/-- A text is cut at the end of the longest start of it that fits, which a search backwards from the
limit finds before it could pass the start; a text that fits is left as it is. The text of a key
event is cut so at 63 bytes, at least 60 of which are used if anything is cut off. -/
theorem key_text_longest (keyboard : Keyboard x) (code : UInt32) (keyState : KeyState) :
    (∀ text limit,
      (∃ found, Utf8.boundary? text limit = some found ∧
        Utf8.truncate text limit = (text.sliceTo found).copy) ∧
      (∀ cut, Utf8.truncate text limit = cut ↔ Longest limit text cut) ∧
      (Utf8.truncate text limit = text ↔ text.utf8ByteSize ≤ limit)) ∧
    match keyboard.layout, Keyboard.xkbCode? code with
    | some layout, some xkbCode =>
        let full := x.text (Keyboard.transition layout.state xkbCode keyState) xkbCode
        ∃ event, (keyboard.applyKey code keyState).1 = some event ∧
          Longest 63 full event.text ∧
          Utf8.decode? ((Utf8.encode full).take event.text.utf8ByteSize) = some event.text ∧
          (event.text ≠ full → 60 ≤ event.text.utf8ByteSize)
    | _, _ => (keyboard.applyKey code keyState).1 = none := by
  constructor
  · intro text limit
    have hlongest := longest_truncate text limit
    refine ⟨?_, ?_, hlongest.eq_iff⟩
    · obtain ⟨found, hfound⟩ := Option.isSome_iff_exists.mp (Utf8.isSome_boundary? text limit)
      exact ⟨found, hfound, hlongest.unique (longest_sliceTo hfound)⟩
    · intro cut
      constructor
      · rintro rfl
        exact hlongest
      · exact hlongest.unique
  · unfold Keyboard.applyKey
    cases keyboard.layout with
    | none => rfl
    | some layout =>
        cases Keyboard.xkbCode? code with
        | none => rfl
        | some xkbCode =>
            have hlongest := longest_truncate
              (x.text (Keyboard.transition layout.state xkbCode keyState) xkbCode) 63
            refine ⟨_, rfl, hlongest, hlongest.decode, ?_⟩
            intro hcut
            exact Nat.sub_le_of_le_add (hlongest.le_add hcut)

example : Utf8.truncate "aé" 2 = "a" := rfl

end LockScreen.Proofs.KeyText
