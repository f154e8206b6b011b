import LockScreen.Key.Keysym

namespace LockScreen.Proofs.PortableKeys

open LockScreen.Key (ofKeysym named functionOffset)

def IsLower (code : Nat) : Prop :=
  0x61 ≤ code ∧ code ≤ 0x7a

def IsSurrogate (code : Nat) : Prop :=
  0xd800 ≤ code ∧ code ≤ 0xdfff

instance (code : Nat) : Decidable (IsLower code) :=
  inferInstanceAs (Decidable (_ ∧ _))

instance (code : Nat) : Decidable (IsSurrogate code) :=
  inferInstanceAs (Decidable (_ ∧ _))

/-- A code point as keys have it: no letter of ASCII in lower case. -/
def IsCharacter (code : Nat) : Prop :=
  0x20 ≤ code ∧ code ≤ 0x10ffff ∧ ¬ IsSurrogate code ∧ ¬ IsLower code

def AreCases (upper lower : UInt32) : Prop :=
  0x41 ≤ upper.toNat ∧ upper.toNat ≤ 0x5a ∧ lower.toNat = upper.toNat + 0x20

def sides : List (UInt32 × UInt32) :=
  [(0xffe1, 0xffe2), (0xffe3, 0xffe4), (0xffe7, 0xffe8), (0xffe9, 0xffea)]

/-- How a keysym comes to a code that is known. -/
inductive Origin (keysym : UInt32) (code : Nat) : Prop where
  | lower : IsLower keysym.toNat → keysym.toNat = code + 0x20 → Origin keysym code
  | latin : 0x20 ≤ keysym.toNat → keysym.toNat < 0x100 → ¬ IsLower keysym.toNat →
      keysym.toNat = code → Origin keysym code
  | direct : 0x100 ≤ code → code ≤ 0x10ffff → ¬ IsSurrogate code →
      keysym.toNat = code + 0x01000000 → Origin keysym code
  | function : 0xffbe ≤ keysym.toNat → keysym.toNat ≤ 0xffe0 →
      code = keysym.toNat + 0x00ff0072 → Origin keysym code
  | listed (key : Key) : (keysym, key) ∈ named → key.code.toNat = code → Origin keysym code

theorem eq_of_toNat_code {key other : Key} (h : key.code.toNat = other.code.toNat) :
    key = other :=
  congrArg Key.mk (UInt32.toNat_inj.mp h)

section Bands

variable {keysym : UInt32}

theorem ofKeysym_lower (h : IsLower keysym.toNat) :
    (ofKeysym keysym).code.toNat + 0x20 = keysym.toNat := by
  obtain ⟨hlow, hhigh⟩ := h
  simp only [ofKeysym, UInt32.le_iff_toNat_le, UInt32.lt_iff_toNat_lt, UInt32.reduceToNat]
  rw [if_pos (by omega), if_pos ⟨hlow, hhigh⟩]
  simp only [UInt32.toNat_add, UInt32.toNat_sub, UInt32.reduceToNat]
  omega

theorem ofKeysym_latin (hlow : 0x20 ≤ keysym.toNat) (hhigh : keysym.toNat < 0x100)
    (hlower : ¬ IsLower keysym.toNat) : ofKeysym keysym = ⟨keysym⟩ := by
  simp only [ofKeysym, UInt32.le_iff_toNat_le, UInt32.lt_iff_toNat_lt, UInt32.reduceToNat]
  rw [if_pos ⟨hlow, hhigh⟩]
  exact if_neg hlower

theorem toNat_codePoint (h : 0x01000000 ≤ keysym.toNat) :
    (keysym - 0x01000000).toNat = keysym.toNat - 0x01000000 :=
  UInt32.toNat_sub_of_le keysym 0x01000000 h

theorem ofKeysym_direct (hlow : 0x01000100 ≤ keysym.toNat) (hhigh : keysym.toNat ≤ 0x0110ffff) :
    ofKeysym keysym =
      if IsSurrogate (keysym.toNat - 0x01000000) then .unknown else ⟨keysym - 0x01000000⟩ := by
  simp only [ofKeysym, UInt32.le_iff_toNat_le, UInt32.lt_iff_toNat_lt, UInt32.reduceToNat]
  rw [if_neg (by omega), if_pos ⟨hlow, hhigh⟩]
  rw [toNat_codePoint (by omega)]
  rfl

theorem ofKeysym_function (hlow : 0xffbe ≤ keysym.toNat) (hhigh : keysym.toNat ≤ 0xffe0) :
    (ofKeysym keysym).code.toNat = keysym.toNat + 0x00ff0072 := by
  simp only [ofKeysym, UInt32.le_iff_toNat_le, UInt32.lt_iff_toNat_lt, UInt32.reduceToNat]
  rw [if_neg (by omega), if_neg (by omega), if_pos ⟨hlow, hhigh⟩]
  simp only [UInt32.toNat_add, functionOffset, UInt32.reduceToNat]
  omega

theorem ofKeysym_cases (keysym : UInt32) :
    Origin keysym (ofKeysym keysym).code.toNat ∨ ofKeysym keysym = .unknown := by
  by_cases hlatin : 0x20 ≤ keysym.toNat ∧ keysym.toNat < 0x100
  · left
    by_cases hlower : IsLower keysym.toNat
    · exact .lower hlower (ofKeysym_lower hlower).symm
    · refine .latin hlatin.1 hlatin.2 hlower ?_
      rw [ofKeysym_latin hlatin.1 hlatin.2 hlower]
  by_cases hdirect : 0x01000100 ≤ keysym.toNat ∧ keysym.toNat ≤ 0x0110ffff
  · rw [ofKeysym_direct hdirect.1 hdirect.2]
    split
    · exact Or.inr rfl
    · next hsurrogate =>
        left
        show Origin keysym (keysym - 0x01000000).toNat
        rw [toNat_codePoint (by omega)]
        exact .direct (by omega) (by omega) hsurrogate (by omega)
  by_cases hfunction : 0xffbe ≤ keysym.toNat ∧ keysym.toNat ≤ 0xffe0
  · exact Or.inl (.function hfunction.1 hfunction.2 (ofKeysym_function hfunction.1 hfunction.2))
  have hother : ofKeysym keysym = (named.lookup keysym).getD .unknown := by
    simp only [ofKeysym, UInt32.le_iff_toNat_le, UInt32.lt_iff_toNat_lt, UInt32.reduceToNat]
    rw [if_neg hlatin, if_neg hdirect, if_neg hfunction]
  rw [hother]
  cases hlookup : named.lookup keysym with
  | none => exact Or.inr rfl
  | some key =>
      obtain ⟨before, after, hnamed, -⟩ := List.lookup_eq_some_iff.mp hlookup
      refine Or.inl (.listed key ?_ rfl)
      rw [hnamed]
      exact List.mem_append_right _ List.mem_cons_self

end Bands

section Collisions

theorem named_range {keysym : UInt32} {key : Key} (h : (keysym, key) ∈ named) :
    0x01000000 ≤ key.code.toNat ∧ key.code.toNat ≤ 0x01000058 ∧
      ¬ (0x01000030 ≤ key.code.toNat ∧ key.code.toNat ≤ 0x01000052) := by
  have hall : ∀ entry ∈ named, 0x01000000 ≤ entry.2.code.toNat ∧
      entry.2.code.toNat ≤ 0x01000058 ∧
        ¬ (0x01000030 ≤ entry.2.code.toNat ∧ entry.2.code.toNat ≤ 0x01000052) := by decide
  exact hall _ h

theorem named_collide {a b : UInt32} {key : Key} (ha : (a, key) ∈ named) (hb : (b, key) ∈ named) :
    a = b ∨ (a, b) ∈ sides ∨ (b, a) ∈ sides := by
  have hall : ∀ first ∈ named, ∀ second ∈ named, first.2 = second.2 →
      first.1 = second.1 ∨ (first.1, second.1) ∈ sides ∨ (second.1, first.1) ∈ sides := by
    decide
  exact hall _ ha _ hb rfl

theorem ofKeysym_sides {a b : UInt32} (h : (a, b) ∈ sides) :
    ofKeysym a = ofKeysym b ∧ ofKeysym a ≠ .unknown := by
  simp only [sides, List.mem_cons, Prod.mk.injEq, List.not_mem_nil, or_false] at h
  rcases h with ⟨rfl, rfl⟩ | ⟨rfl, rfl⟩ | ⟨rfl, rfl⟩ | ⟨rfl, rfl⟩ <;> decide

theorem ofKeysym_areCases {upper lower : UInt32} (h : AreCases upper lower) :
    ofKeysym upper = ofKeysym lower ∧ ofKeysym upper ≠ .unknown := by
  obtain ⟨hlow, hhigh, hlower⟩ := h
  have hupper : ofKeysym upper = ⟨upper⟩ :=
    ofKeysym_latin (by omega) (by omega) fun h => absurd h.1 (by omega)
  have hcode : (ofKeysym lower).code.toNat + 0x20 = lower.toNat :=
    ofKeysym_lower ⟨by omega, by omega⟩
  rw [hupper]
  constructor
  · apply eq_of_toNat_code
    show upper.toNat = _
    omega
  · intro hunknown
    have hcode : upper.toNat = Key.unknown.code.toNat := congrArg (·.code.toNat) hunknown
    have hnumber : Key.unknown.code.toNat = 0x01ffffff := rfl
    omega

variable {keysym a b : UInt32} {code : Nat}

theorem Origin.range (h : Origin keysym code) :
    IsCharacter code ∨ 0x01000000 ≤ code ∧ code ≤ 0x01000058 := by
  cases h with
  | lower hlower hcode =>
      obtain ⟨hlow, hhigh⟩ := hlower
      refine Or.inl ⟨by omega, by omega, fun h => ?_, fun h => ?_⟩
      · exact absurd h.1 (by omega)
      · exact absurd h.1 (by omega)
  | latin hlow hhigh hlower hcode =>
      rw [hcode] at hlower
      refine Or.inl ⟨by omega, by omega, fun h => ?_, hlower⟩
      exact absurd h.1 (by omega)
  | direct hlow hhigh hsurrogate hcode =>
      refine Or.inl ⟨by omega, hhigh, hsurrogate, fun h => ?_⟩
      exact absurd h.2 (by omega)
  | function hlow hhigh hcode => exact Or.inr ⟨by omega, by omega⟩
  | listed key hnamed hcode =>
      obtain ⟨hlow, hhigh, -⟩ := named_range hnamed
      exact Or.inr ⟨by omega, by omega⟩

theorem Origin.of_character (h : Origin keysym code) (hcode : code < 0x01000000) :
    keysym.toNat = (if code < 0x100 then code else code + 0x01000000) ∨
      0x41 ≤ code ∧ code ≤ 0x5a ∧ keysym.toNat = code + 0x20 := by
  cases h with
  | lower hlower hkeysym =>
      obtain ⟨hlow, hhigh⟩ := hlower
      exact Or.inr ⟨by omega, by omega, hkeysym⟩
  | latin hlow hhigh hlower hkeysym =>
      rw [if_pos (by omega)]
      exact Or.inl hkeysym
  | direct hlow hhigh hsurrogate hkeysym =>
      rw [if_neg (by omega)]
      exact Or.inl hkeysym
  | function hlow hhigh hkeysym => omega
  | listed key hnamed hkeysym =>
      obtain ⟨hlow, -⟩ := named_range hnamed
      omega

theorem Origin.of_function (h : Origin keysym code) (hlow : 0x01000030 ≤ code)
    (hhigh : code ≤ 0x01000052) : keysym.toNat + 0x00ff0072 = code := by
  cases h with
  | lower hlower hkeysym =>
      obtain ⟨-, hlower⟩ := hlower
      omega
  | latin _ _ _ hkeysym => omega
  | direct => omega
  | function _ _ hkeysym => exact hkeysym.symm
  | listed key hnamed hkeysym =>
      obtain ⟨-, -, hother⟩ := named_range hnamed
      exact absurd ⟨by omega, by omega⟩ hother

theorem Origin.of_listed (h : Origin keysym code) (hlow : 0x01000000 ≤ code)
    (hother : ¬ (0x01000030 ≤ code ∧ code ≤ 0x01000052)) :
    ∃ key : Key, (keysym, key) ∈ named ∧ key.code.toNat = code := by
  cases h with
  | lower hlower hkeysym =>
      obtain ⟨-, hlower⟩ := hlower
      omega
  | latin _ _ _ hkeysym => omega
  | direct => omega
  | function _ _ hkeysym => omega
  | listed key hnamed hkeysym => exact ⟨key, hnamed, hkeysym⟩

/-- The band of a code tells of which keysyms it can come. -/
theorem Origin.collide (ha : Origin a code) (hb : Origin b code) :
    a = b ∨ (AreCases a b ∨ AreCases b a) ∨ (a, b) ∈ sides ∨ (b, a) ∈ sides := by
  by_cases hcharacter : code < 0x01000000
  · rcases ha.of_character hcharacter with ha | ⟨hlow, hhigh, ha⟩ <;>
      rcases hb.of_character hcharacter with hb | ⟨hlow', hhigh', hb⟩
    · exact Or.inl (UInt32.toNat_inj.mp (ha.trans hb.symm))
    · rw [if_pos (by omega)] at ha
      exact Or.inr (Or.inl (Or.inl ⟨by omega, by omega, by omega⟩))
    · rw [if_pos (by omega)] at hb
      exact Or.inr (Or.inl (Or.inr ⟨by omega, by omega, by omega⟩))
    · exact Or.inl (UInt32.toNat_inj.mp (ha.trans hb.symm))
  by_cases hfunction : 0x01000030 ≤ code ∧ code ≤ 0x01000052
  · have ha := ha.of_function hfunction.1 hfunction.2
    have hb := hb.of_function hfunction.1 hfunction.2
    exact Or.inl (UInt32.toNat_inj.mp (by omega))
  · obtain ⟨key, ha, hcode⟩ := ha.of_listed (by omega) hfunction
    obtain ⟨key', hb, hcode'⟩ := hb.of_listed (by omega) hfunction
    rw [← eq_of_toNat_code (hcode.trans hcode'.symm)] at hb
    rcases named_collide ha hb with heq | hsides
    · exact Or.inl heq
    · exact Or.inr (Or.inr hsides)

end Collisions

section Checked

def add? (a b : UInt32) : Option UInt32 :=
  if a.toNat + b.toNat < UInt32.size then some (a + b) else none

def sub? (a b : UInt32) : Option UInt32 :=
  if b.toNat ≤ a.toNat then some (a - b) else none

/-- The key of a keysym, found as `Key.ofKeysym` does, nothing if a sum or a difference leaves the
range. -/
def checkedKey (keysym : UInt32) : Option Key :=
  if 0x20 ≤ keysym ∧ keysym < 0x100 then
    if 0x61 ≤ keysym ∧ keysym ≤ 0x7a then
      (sub? keysym 0x61).bind fun letter => (add? letter 0x41).map Key.mk
    else some ⟨keysym⟩
  else if 0x01000100 ≤ keysym ∧ keysym ≤ 0x0110ffff then
    (sub? keysym 0x01000000).map fun codePoint =>
      if 0xd800 ≤ codePoint ∧ codePoint ≤ 0xdfff then .unknown else ⟨codePoint⟩
  else if 0xffbe ≤ keysym ∧ keysym ≤ 0xffe0 then (add? keysym functionOffset).map Key.mk
  else some ((named.lookup keysym).getD .unknown)

def checkedFunction (n : UInt32) : Option (Option Key) :=
  if 1 ≤ n ∧ n ≤ 35 then
    (add? Key.f1.code n).bind fun sum => (sub? sum 1).map fun code => some ⟨code⟩
  else some none

theorem add_of_fits {a b : UInt32} (h : a.toNat + b.toNat < UInt32.size) :
    add? a b = some (a + b) :=
  if_pos h

theorem sub_of_le {a b : UInt32} (h : b.toNat ≤ a.toNat) : sub? a b = some (a - b) :=
  if_pos h

theorem checkedKey_eq (keysym : UInt32) : checkedKey keysym = some (ofKeysym keysym) := by
  unfold checkedKey ofKeysym
  split
  · split
    · next hlower =>
        have hhigh : keysym.toNat ≤ 0x7a := hlower.2
        have hletter : (keysym - 0x61).toNat = keysym.toNat - 0x61 :=
          UInt32.toNat_sub_of_le keysym 0x61 hlower.1
        rw [sub_of_le hlower.1, Option.bind_some, add_of_fits, Option.map_some]
        rw [hletter]
        exact Nat.lt_of_le_of_lt (Nat.add_le_add_right (Nat.sub_le_of_le_add hhigh) _) (by decide)
    · rfl
  · split
    · next hdirect =>
        have hlow : 0x01000100 ≤ keysym.toNat := hdirect.1
        have hoffset : UInt32.toNat 0x01000000 ≤ keysym.toNat := Nat.le_trans (by decide) hlow
        rw [sub_of_le hoffset, Option.map_some]
    · split
      · next hfunction =>
          have hhigh : keysym.toNat ≤ 0xffe0 := hfunction.2
          rw [add_of_fits, Option.map_some]
          exact Nat.lt_of_le_of_lt (Nat.add_le_add_right hhigh _) (by decide)
      · rfl

theorem checkedFunction_eq (n : UInt32) : checkedFunction n = some (Key.function? n) := by
  unfold checkedFunction Key.function?
  split
  · next hrange =>
      have hlow : 1 ≤ n.toNat := hrange.1
      have hhigh : n.toNat ≤ 35 := hrange.2
      have hsum : Key.f1.code.toNat + n.toNat < UInt32.size :=
        Nat.lt_of_le_of_lt (Nat.add_le_add_left hhigh _) (by decide)
      have hpos : UInt32.toNat 1 ≤ (Key.f1.code + n).toNat := by
        rw [UInt32.toNat_add, Nat.mod_eq_of_lt hsum]
        exact Nat.le_trans hlow (Nat.le_add_left _ _)
      rw [add_of_fits hsum, Option.bind_some, sub_of_le hpos, Option.map_some]
  · rfl

end Checked

theorem function_eq_some_iff (n : UInt32) (key : Key) :
    Key.function? n = some key ↔
      1 ≤ n.toNat ∧ n.toNat ≤ 35 ∧ key.code.toNat = 0x01000030 + n.toNat - 1 := by
  have hcode (hlow : 1 ≤ n.toNat) (hhigh : n.toNat ≤ 35) :
      (Key.f1.code + n - 1).toNat = 0x01000030 + n.toNat - 1 := by
    simp only [UInt32.toNat_sub, UInt32.toNat_add, Key.f1, UInt32.reduceToNat]
    omega
  unfold Key.function?
  constructor
  · intro h
    split at h
    · next hrange =>
        cases h
        exact ⟨hrange.1, hrange.2, hcode hrange.1 hrange.2⟩
    · cases h
  · rintro ⟨hlow, hhigh, hkey⟩
    rw [if_pos ⟨hlow, hhigh⟩]
    exact congrArg some (eq_of_toNat_code ((hcode hlow hhigh).trans hkey.symm))

/-- Two keysyms have the same known key just if they are the two cases of a letter, or the two sides
of a modifier. A known key is a character or one of the named block; every character above Latin-1
is the key of its own keysym, and each function key of one keysym alone. No sum or difference on the
way leaves 32 bits. -/
theorem known_keys_distinct :
    (∀ a b : UInt32, a ≠ b →
      (ofKeysym a = ofKeysym b ∧ ofKeysym a ≠ .unknown ↔
        (AreCases a b ∨ AreCases b a) ∨ (a, b) ∈ sides ∨ (b, a) ∈ sides)) ∧
      (∀ keysym, ofKeysym keysym ≠ .unknown →
        IsCharacter (ofKeysym keysym).code.toNat ∨
          0x01000000 ≤ (ofKeysym keysym).code.toNat ∧
            (ofKeysym keysym).code.toNat ≤ 0x01000058) ∧
      (∀ code : UInt32, 0x100 ≤ code.toNat → code.toNat ≤ 0x10ffff → ¬ IsSurrogate code.toNat →
        ∃ keysym : UInt32, keysym.toNat = code.toNat + 0x01000000 ∧ ofKeysym keysym = ⟨code⟩) ∧
      (∀ (keysym n : UInt32), Key.function? n = some (ofKeysym keysym) ↔
        1 ≤ n.toNat ∧ n.toNat ≤ 35 ∧ keysym.toNat = 0xffbe + n.toNat - 1) ∧
      (∀ keysym, checkedKey keysym = some (ofKeysym keysym)) ∧
      ∀ n, checkedFunction n = some (Key.function? n) := by
  have horigin (keysym : UInt32) (h : ofKeysym keysym ≠ .unknown) :
      Origin keysym (ofKeysym keysym).code.toNat :=
    (ofKeysym_cases keysym).resolve_right h
  refine ⟨?_, ?_, ?_, ?_, checkedKey_eq, checkedFunction_eq⟩
  · intro a b hne
    constructor
    · rintro ⟨hsame, hknown⟩
      have ha := horigin a hknown
      rw [hsame] at ha hknown
      exact (ha.collide (horigin b hknown)).resolve_left hne
    · rintro ((hcases | hcases) | (hsides | hsides))
      · exact ofKeysym_areCases hcases
      · obtain ⟨hsame, hknown⟩ := ofKeysym_areCases hcases
        exact ⟨hsame.symm, hsame ▸ hknown⟩
      · exact ofKeysym_sides hsides
      · obtain ⟨hsame, hknown⟩ := ofKeysym_sides hsides
        exact ⟨hsame.symm, hsame ▸ hknown⟩
  · intro keysym hknown
    exact (horigin keysym hknown).range
  · intro code hlow hhigh hsurrogate
    have hkeysym : (code + 0x01000000).toNat = code.toNat + 0x01000000 := by
      rw [UInt32.toNat_add]
      exact Nat.mod_eq_of_lt (Nat.lt_of_le_of_lt (Nat.add_le_add_right hhigh _) (by decide))
    refine ⟨code + 0x01000000, hkeysym, ?_⟩
    rw [ofKeysym_direct (by omega) (by omega), hkeysym, Nat.add_sub_cancel, if_neg hsurrogate,
      UInt32.add_sub_cancel]
  · intro keysym n
    rw [function_eq_some_iff]
    constructor
    · rintro ⟨hlow, hhigh, hcode⟩
      refine ⟨hlow, hhigh, ?_⟩
      have hknown : ofKeysym keysym ≠ .unknown := by
        intro hunknown
        rw [hunknown] at hcode
        have hnumber : Key.unknown.code.toNat = 0x01ffffff := rfl
        omega
      have hfunction := (horigin keysym hknown).of_function (by omega) (by omega)
      omega
    · rintro ⟨hlow, hhigh, hkeysym⟩
      refine ⟨hlow, hhigh, ?_⟩
      rw [ofKeysym_function (by omega) (by omega)]
      omega

end LockScreen.Proofs.PortableKeys
