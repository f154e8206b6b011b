import Mathlib.Data.Nat.Bitwise
import LockScreen.Pointer
import LockScreen.Proofs.PipeTraffic

namespace LockScreen.Proofs.WireCodec

open LockScreen.Wire
open LockScreen.Proofs.PipeRecords LockScreen.Proofs.PipeTraffic

theorem tag_of_ofTag {tag : UInt64} {kind : Kind} (h : Kind.ofTag tag = .ok kind) :
    kind.tag = tag := by
  unfold Kind.ofTag at h
  split at h
  case h_13 => cases h
  all_goals
    rename_i htag
    cases h
    exact UInt64.toNat_inj.mp htag.symm

theorem ofTag_eq_ok_iff {tag : UInt64} {kind : Kind} :
    Kind.ofTag tag = .ok kind ↔ kind.tag = tag := by
  constructor
  · exact tag_of_ofTag
  · rintro rfl
    exact Kind.ofTag_tag kind

theorem exists_kind_iff {tag : UInt64} :
    (∃ kind : Kind, kind.tag = tag) ↔ 1 ≤ tag.toNat ∧ tag.toNat ≤ 12 := by
  constructor
  · rintro ⟨kind, rfl⟩
    cases kind <;> decide
  · rintro ⟨hleast, hmost⟩
    cases hkind : Kind.ofTag tag with
    | ok kind => exact ⟨kind, tag_of_ofTag hkind⟩
    | error fault =>
        unfold Kind.ofTag at hkind
        split at hkind
        case h_13 =>
          simp only [imp_false] at *
          omega
        all_goals cases hkind

theorem ofBytes_take_bytes (words : Words) :
    LittleEndian.ofBytes (words.bytes.take 8) = words.tag.toNat := by
  have hfront : words.bytes.take 8 = LittleEndian.toBytes 8 words.tag.toNat := by
    rw [Words.bytes, List.append_assoc, List.take_left' (by simp)]
  rw [hfront, ofBytes_toBytes]
  exact Nat.mod_eq_of_lt words.tag.toNat_lt

theorem decode_bytes_eq_ok_iff {words : Words} {record : Record} :
    Record.decode words.bytes = .ok record ↔ words = .ofRecord record := by
  constructor
  · intro h
    rw [decode_bytes] at h
    cases hkind : Kind.ofTag words.tag with
    | error fault =>
        rw [hkind] at h
        cases h
    | ok kind =>
        rw [hkind] at h
        cases h
        simp only [Words.ofRecord, tag_of_ofTag hkind]
  · rintro rfl
    exact decode_encode record

theorem decode_bytes_eq_error_iff {words : Words} {fault : Wire.Error} :
    Record.decode words.bytes = .error fault ↔
      fault = .unknownKind words.tag ∧ ¬ ∃ kind : Kind, kind.tag = words.tag := by
  rw [decode_bytes]
  cases hkind : Kind.ofTag words.tag with
  | ok kind =>
      have hknown : ∃ kind : Kind, kind.tag = words.tag := ⟨kind, tag_of_ofTag hkind⟩
      simp [Except.map, hknown]
  | error other =>
      have hunknown : ¬ ∃ kind : Kind, kind.tag = words.tag := by
        rintro ⟨kind, htag⟩
        rw [ofTag_eq_ok_iff.mpr htag] at hkind
        cases hkind
      rw [fault_of_ofTag hkind]
      simp only [Except.map, Except.error.injEq, hunknown, not_false_eq_true, and_true]
      exact eq_comm

theorem decode_eq_ok_iff {bytes : List UInt8} {record : Record} :
    Record.decode bytes = .ok record ↔ bytes = record.encode := by
  constructor
  · intro h
    have hlength : bytes.length = recordLength := by
      by_contra hne
      rw [decode_of_length_ne hne] at h
      cases h
    obtain ⟨words, rfl⟩ := exists_words hlength
    rw [decode_bytes_eq_ok_iff.mp h]
    rfl
  · rintro rfl
    exact decode_encode record

theorem decode_eq_partialRecord_iff {bytes : List UInt8} {got : Nat} :
    Record.decode bytes = .error (.partialRecord got) ↔
      bytes.length ≠ recordLength ∧ got = bytes.length := by
  by_cases hlength : bytes.length = recordLength
  · obtain ⟨words, rfl⟩ := exists_words hlength
    simp [decode_bytes_eq_error_iff]
  · rw [decode_of_length_ne hlength]
    simp [hlength, eq_comm]

theorem decode_eq_unknownKind_iff {bytes : List UInt8} {tag : UInt64} :
    Record.decode bytes = .error (.unknownKind tag) ↔
      bytes.length = recordLength ∧ LittleEndian.ofBytes (bytes.take 8) = tag.toNat ∧
        ¬ (1 ≤ tag.toNat ∧ tag.toNat ≤ 12) := by
  by_cases hlength : bytes.length = recordLength
  · obtain ⟨words, rfl⟩ := exists_words hlength
    rw [decode_bytes_eq_error_iff, ofBytes_take_bytes, UInt64.toNat_inj, exists_kind_iff]
    constructor
    · rintro ⟨htag, hrange⟩
      cases htag
      exact ⟨hlength, rfl, hrange⟩
    · rintro ⟨-, rfl, hrange⟩
      exact ⟨rfl, hrange⟩
  · rw [decode_of_length_ne hlength]
    simp [hlength]

theorem exists_decode_iff {bytes : List UInt8} :
    (∃ record, Record.decode bytes = .ok record) ↔
      bytes.length = recordLength ∧ 1 ≤ LittleEndian.ofBytes (bytes.take 8) ∧
        LittleEndian.ofBytes (bytes.take 8) ≤ 12 := by
  constructor
  · rintro ⟨record, h⟩
    have hlength : bytes.length = recordLength := by
      rw [decode_eq_ok_iff.mp h]
      exact record.length_encode
    obtain ⟨words, rfl⟩ := exists_words hlength
    have hrange : 1 ≤ words.tag.toNat ∧ words.tag.toNat ≤ 12 :=
      exists_kind_iff.mp ⟨record.kind, congrArg Words.tag (decode_bytes_eq_ok_iff.mp h).symm⟩
    rw [ofBytes_take_bytes]
    exact ⟨hlength, hrange⟩
  · rintro ⟨hlength, hrange⟩
    obtain ⟨words, rfl⟩ := exists_words hlength
    rw [ofBytes_take_bytes] at hrange
    obtain ⟨kind, htag⟩ := exists_kind_iff.mpr hrange
    refine ⟨⟨kind, words.first, words.second⟩, decode_bytes_eq_ok_iff.mpr ?_⟩
    rw [Words.ofRecord, htag]

theorem toNat_join (upper lower : UInt32) :
    (Masks.join upper lower).toNat = upper.toNat * 2 ^ 32 + lower.toNat := by
  have hupper : upper.toNat < 2 ^ 32 := upper.toNat_lt
  have hlower : lower.toNat < 2 ^ 32 := lower.toNat_lt
  have hfits : upper.toNat <<< 32 % 2 ^ 64 = upper.toNat <<< 32 := by
    rw [Nat.shiftLeft_eq]
    omega
  calc (Masks.join upper lower).toNat
      = upper.toNat <<< 32 % 2 ^ 64 ||| lower.toNat := by
        rw [Masks.join, UInt64.toNat_or, UInt64.toNat_shiftLeft, UInt32.toNat_toUInt64,
          UInt32.toNat_toUInt64]
        rfl
    _ = upper.toNat <<< 32 + lower.toNat := by
        rw [hfits, Nat.shiftLeft_add_eq_or_of_lt hlower]
    _ = upper.toNat * 2 ^ 32 + lower.toNat := by rw [Nat.shiftLeft_eq]

theorem toNat_upper (word : UInt64) : (Masks.upper word).toNat = word.toNat / 2 ^ 32 := by
  have hword : word.toNat < 2 ^ 64 := word.toNat_lt
  rw [Masks.upper, UInt64.toNat_toUInt32, UInt64.toNat_shiftRight]
  show word.toNat >>> 32 % 2 ^ 32 = word.toNat / 2 ^ 32
  rw [Nat.shiftRight_eq_div_pow]
  omega

theorem toNat_lower (word : UInt64) : (Masks.lower word).toNat = word.toNat % 2 ^ 32 :=
  UInt64.toNat_toUInt32 word

@[simp] theorem upper_join (upper lower : UInt32) :
    Masks.upper (Masks.join upper lower) = upper := by
  have hlower : lower.toNat < 2 ^ 32 := lower.toNat_lt
  apply UInt32.toNat_inj.mp
  rw [toNat_upper, toNat_join]
  omega

@[simp] theorem lower_join (upper lower : UInt32) :
    Masks.lower (Masks.join upper lower) = lower := by
  have hlower : lower.toNat < 2 ^ 32 := lower.toNat_lt
  apply UInt32.toNat_inj.mp
  rw [toNat_lower, toNat_join]
  omega

@[simp] theorem join_upper_lower (word : UInt64) :
    Masks.join (Masks.upper word) (Masks.lower word) = word := by
  apply UInt64.toNat_inj.mp
  rw [toNat_join, toNat_upper, toNat_lower]
  omega

theorem unpack_pack (masks : Masks) : Masks.unpack masks.pack.1 masks.pack.2 = masks := by
  simp only [Masks.unpack, Masks.pack, upper_join, lower_join]

theorem pack_unpack (first second : UInt64) : (Masks.unpack first second).pack = (first, second) := by
  simp only [Masks.unpack, Masks.pack, join_upper_lower]

/-- Reading is the inverse of writing on just the bytes that are written. It refuses other numbers
of bytes than a record has as partial, and of the right number those whose first word is the tag of
no kind, and takes all others. Any four masks, and any two words as coordinates, are read back as
they were, and any two words are those into which the masks in them are packed. -/
theorem decode_inverts_encode :
    (∀ bytes record, Record.decode bytes = .ok record ↔ bytes = record.encode) ∧
      (∀ bytes, (∃ record, Record.decode bytes = .ok record) ↔
        bytes.length = 24 ∧ 1 ≤ LittleEndian.ofBytes (bytes.take 8) ∧
          LittleEndian.ofBytes (bytes.take 8) ≤ 12) ∧
      (∀ bytes got, Record.decode bytes = .error (.partialRecord got) ↔
        bytes.length ≠ 24 ∧ got = bytes.length) ∧
      (∀ bytes tag, Record.decode bytes = .error (.unknownKind tag) ↔
        bytes.length = 24 ∧ LittleEndian.ofBytes (bytes.take 8) = tag.toNat ∧
          ¬ (1 ≤ tag.toNat ∧ tag.toNat ≤ 12)) ∧
      (∀ masks : Masks, ∃ record, Record.decode (Record.modifiers masks).encode = .ok record ∧
        record.kind = .keyboardModifiers ∧ Masks.unpack record.first record.second = masks) ∧
      (∀ first second, (Masks.unpack first second).pack = (first, second)) ∧
      (∀ x y, ∃ record, Record.decode (Record.motion x y).encode = .ok record ∧
        record.kind = .pointerMotion ∧ ∀ pointer : Pointer,
          (pointer.move record.first record.second).1 = { pointer with x, y }) := by
  refine ⟨fun _ _ => decode_eq_ok_iff, fun _ => exists_decode_iff,
    fun _ _ => decode_eq_partialRecord_iff, fun _ _ => decode_eq_unknownKind_iff,
    fun masks => ?_, pack_unpack, fun x y => ?_⟩
  · exact ⟨.modifiers masks, decode_encode _, rfl, unpack_pack masks⟩
  · exact ⟨.motion x y, decode_encode _, rfl, fun _ => rfl⟩

end LockScreen.Proofs.WireCodec
