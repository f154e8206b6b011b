import LockScreen.Proofs.RecordAcceptance

namespace LockScreen.Proofs.KeymapText

open LockScreen.Text
open LockScreen.Proofs.RecordAcceptance

variable {x : Xkb}

def cut (raw : List UInt8) : List UInt8 :=
  raw.takeWhile (· ≠ 0)

def extended (content : List UInt8) (size : Nat) : List UInt8 :=
  content.take size ++ List.replicate (size - content.length) 0

/-- An object of that content can be mapped with that size, or nothing is to be mapped. -/
def Mappable (content : List UInt8) (size : Nat) : Prop :=
  size = 0 ∨ ∃ mapping, (SharedFile.memory content).map size = .ok mapping

def Reaches (content : List UInt8) (size : Nat) : Prop :=
  0 ∈ content.take size ∨ content.length ≤ size

def outcome (loaded : Except KeymapError Unit × Keyboard x × List Effect) :
    Except KeymapError Unit × Keyboard x :=
  (loaded.1, loaded.2.1)

def Gives (loaded : Option (Except KeymapError Unit) × Keyboard x × List Effect)
    (after : Except KeymapError Unit × Keyboard x) : Prop :=
  loaded.1 = some after.1 ∧ loaded.2.1 = after.2

/-- Reading that many bytes of an object up to the first NUL leaves the pages that hold
some of it. -/
def Strays (content : List UInt8) (size : Nat) : Prop :=
  0 ∉ content ∧ content.length < size ∧ SharedFile.pageLength ∣ content.length

/-- What comes of a text: each fault only if none of those before it is there, and a new keymap only
without a fault. -/
inductive Answers (keyboard : Keyboard x) (text : List UInt8) :
    Except KeymapError Unit × Keyboard x → Prop where
  | empty : text = [] → Answers keyboard text (.error .empty, keyboard)
  | encoding : text ≠ [] → (∀ spelled, Utf8.encode spelled ≠ text) →
      Answers keyboard text (.error .invalidUtf8, keyboard)
  | library (spelled : String) : text ≠ [] → Utf8.encode spelled = text →
      x.compile spelled = none → Answers keyboard text (.error .compileFailed, keyboard)
  | loaded (spelled : String) (keymap : x.Keymap) : text ≠ [] → Utf8.encode spelled = text →
      x.compile spelled = some keymap → Answers keyboard text (.ok (), replaced keyboard keymap)

section Bytes

theorem cut_append {text rest : List UInt8} (h : 0 ∈ text ∨ cut rest = []) :
    cut (text ++ rest) = cut text := by
  induction text with
  | nil =>
      rcases h with hmem | hrest
      · exact absurd hmem List.not_mem_nil
      · exact hrest
  | cons first text ih =>
      by_cases hfirst : first = 0
      · simp [cut, hfirst]
      · have htext : 0 ∈ text ∨ cut rest = [] := by
          rcases h with hmem | hrest
          · rcases List.mem_cons.mp hmem with hzero | hmem
            · exact absurd hzero.symm hfirst
            · exact Or.inl hmem
          · exact Or.inr hrest
        have hcons (bytes : List UInt8) : cut (first :: bytes) = first :: cut bytes :=
          List.takeWhile_cons_of_pos (by simpa using hfirst)
        rw [List.cons_append, hcons, hcons, ih htext]

theorem cut_replicate (count : Nat) : cut (List.replicate count 0) = [] := by
  cases count <;> rfl

theorem cut_extended (content : List UInt8) (size : Nat) :
    cut (extended content size) = cut (content.take size) :=
  cut_append (Or.inr (cut_replicate _))

theorem length_cut_lt_iff (raw : List UInt8) : (cut raw).length < raw.length ↔ 0 ∈ raw := by
  have hprefix : cut raw <+: raw := List.takeWhile_prefix _
  have hall : cut raw = raw ↔ 0 ∉ raw := by
    rw [cut, List.takeWhile_eq_self_iff]
    constructor
    · exact fun h hmem => by simpa using h 0 hmem
    · exact fun h byte hmem => decide_eq_true fun hzero => h (hzero ▸ hmem)
  rw [lt_iff_le_and_ne, and_iff_right hprefix.length_le, ne_eq, not_iff_comm, ← hall]
  exact ⟨congrArg List.length, hprefix.eq_of_length⟩

def Ends (mapping : Mapping) : Prop :=
  0 ∈ mapping.bytes ∨ mapping.filled = true

theorem cut_bytes (mapping : Mapping) : cut mapping.bytes = cut mapping.content :=
  cut_append (Or.inr (cut_replicate _))

theorem ends_iff (mapping : Mapping) :
    Ends mapping ↔ 0 ∈ mapping.content ∨ 0 < mapping.zeros ∨ mapping.filled = true := by
  simp [Ends, Mapping.bytes, or_assoc, Nat.pos_iff_ne_zero]

theorem text_of_ends {mapping : Mapping} (h : Ends mapping) :
    mapping.text? = some (cut mapping.bytes) := by
  rw [ends_iff, ← length_cut_lt_iff] at h
  rw [cut_bytes]
  exact if_pos h

theorem text_of_not_ends {mapping : Mapping} (h : ¬Ends mapping) : mapping.text? = none := by
  rw [ends_iff, ← length_cut_lt_iff] at h
  exact if_neg h

theorem map_of_mappable {content : List UInt8} {size : Nat} (h : Mappable content size)
    (hsize : size ≠ 0) :
    (SharedFile.memory content).map size =
        .ok ⟨content.take size, size - content.length, true⟩ ∧
      (SharedFile.paged content).map size =
        .ok ⟨content.take size,
          Nat.min size (SharedFile.wholePages content.length) - content.length,
          size ≤ SharedFile.wholePages content.length⟩ := by
  obtain ⟨mapping, hmap⟩ := h.resolve_left hsize
  unfold SharedFile.map at hmap ⊢
  split at hmap
  · cases hmap
  · rename_i hlength
    dsimp only [SharedFile.mapContent] at hmap
    split at hmap
    · cases hmap
    · rename_i hspace
      simp only [if_neg hlength, SharedFile.mapContent, if_neg hspace, Nat.min_self,
        Nat.le_refl, decide_true, and_self]

theorem wholePages_le_iff (length : Nat) :
    SharedFile.wholePages length ≤ length ↔ SharedFile.pageLength ∣ length := by
  unfold SharedFile.wholePages SharedFile.pageLength
  omega

theorem ends_paged_iff (content : List UInt8) (size : Nat) :
    Ends ⟨content.take size,
        Nat.min size (SharedFile.wholePages content.length) - content.length,
        size ≤ SharedFile.wholePages content.length⟩ ↔ ¬Strays content size := by
  have hpages := wholePages_le_iff content.length
  have hlength : content.length ≤ SharedFile.wholePages content.length := by
    unfold SharedFile.wholePages SharedFile.pageLength
    omega
  rw [ends_iff, Strays, ← hpages, decide_eq_true_eq, Nat.sub_pos_iff_lt, Nat.lt_min]
  by_cases hinside : size ≤ content.length
  · exact iff_of_true (Or.inr (Or.inr (hinside.trans hlength))) fun h =>
      Nat.not_lt.mpr hinside h.2.1
  · have hall : content.take size = content := List.take_of_length_le (Nat.le_of_not_le hinside)
    rw [hall]
    by_cases hmem : 0 ∈ content
    · simp [hmem]
    · simp only [hmem, false_or, not_false_iff, true_and]
      omega

theorem cut_take {content : List UInt8} {size : Nat} (h : Reaches content size) :
    cut (content.take size) = cut content := by
  have hrest : 0 ∈ content.take size ∨ cut (content.drop size) = [] := by
    rcases h with hmem | hlength
    · exact Or.inl hmem
    · right
      rw [List.drop_eq_nil_of_le hlength]
      rfl
  have hwhole := cut_append hrest
  rw [List.take_append_drop] at hwhole
  exact hwhole.symm

theorem decode_eq_some_iff (bytes : List UInt8) (text : String) :
    Utf8.decode? bytes = some text ↔ Utf8.encode text = bytes := by
  simp only [Utf8.decode?, Utf8.encode, String.fromUTF8?, String.toUTF8]
  constructor
  · intro h
    split at h
    · cases h
      rfl
    · cases h
  · rintro rfl
    exact dif_pos text.isValidUTF8

theorem encode_inj {text other : String} (h : Utf8.encode text = Utf8.encode other) :
    text = other :=
  Option.some.inj
    (((decode_eq_some_iff _ text).mpr h).symm.trans ((decode_eq_some_iff _ other).mpr rfl))

end Bytes

section Loads

variable (keyboard : Keyboard x)

theorem load_congr {raw other : List UInt8} (h : cut raw = cut other) :
    keyboard.load raw = keyboard.load other := by
  have htext : Keyboard.keymapText raw = Keyboard.keymapText other := by
    simp only [cut] at h
    simp only [Keyboard.keymapText, h]
  simp only [Keyboard.load, htext]

theorem keymapText_cases (raw : List UInt8) :
    cut raw = [] ∧ Keyboard.keymapText raw = .error .empty ∨
      cut raw ≠ [] ∧ (∀ spelled, Utf8.encode spelled ≠ cut raw) ∧
        Keyboard.keymapText raw = .error .invalidUtf8 ∨
      ∃ spelled, cut raw ≠ [] ∧ Utf8.encode spelled = cut raw ∧
        Keyboard.keymapText raw = .ok spelled := by
  by_cases hempty : cut raw = []
  · have hisEmpty : (cut raw).isEmpty = true := List.isEmpty_iff.mpr hempty
    exact Or.inl ⟨hempty, if_pos hisEmpty⟩
  cases hdecode : Utf8.decode? (cut raw) with
  | none =>
      have hisEmpty : (raw.takeWhile (· ≠ 0)).isEmpty = false := List.isEmpty_eq_false_iff.mpr hempty
      have hspelled : Utf8.decode? (raw.takeWhile (· ≠ 0)) = none := hdecode
      refine Or.inr (Or.inl ⟨hempty, ?_, ?_⟩)
      · intro spelled hencode
        rw [(decode_eq_some_iff _ _).mpr hencode] at hdecode
        cases hdecode
      · simp only [Keyboard.keymapText, hisEmpty, hspelled, Bool.false_eq_true, if_false]
  | some spelled =>
      have htext : Keyboard.keymapText raw = .ok spelled :=
        keymapText_eq_ok_iff.mpr ⟨hempty, hdecode⟩
      exact Or.inr (Or.inr ⟨spelled, hempty, (decode_eq_some_iff _ _).mp hdecode, htext⟩)

theorem answers_load (raw : List UInt8) :
    Answers keyboard (cut raw) (outcome (keyboard.load raw)) := by
  rcases keymapText_cases raw with ⟨hempty, htext⟩ | ⟨hsome, hspelled, htext⟩ |
    ⟨spelled, hsome, hspelled, htext⟩
  · simp only [Keyboard.load, htext]
    exact .empty hempty
  · simp only [Keyboard.load, htext]
    exact .encoding hsome hspelled
  · cases hcompile : x.compile spelled with
    | none =>
        simp only [Keyboard.load, htext, hcompile]
        exact .library spelled hsome hspelled hcompile
    | some keymap =>
        obtain ⟨effects, hload⟩ := load_of_text keyboard htext hcompile
        rw [hload]
        exact .loaded spelled keymap hsome hspelled hcompile

theorem gives_zero (content : List UInt8) (file : SharedFile) (descriptor : Nat) :
    Gives (keyboard.loadShared descriptor file 0)
      (outcome (keyboard.load (extended content 0))) := by
  have hnothing : extended content 0 = [] := by simp [extended]
  rw [hnothing]
  exact ⟨rfl, rfl⟩

theorem gives_of_text {file : SharedFile} {size : Nat} {mapping : Mapping} {raw : List UInt8}
    (hsize : size ≠ 0) (hmap : file.map size = .ok mapping)
    (htext : mapping.text? = some (cut raw)) (descriptor : Nat) :
    Gives (keyboard.loadShared descriptor file size) (outcome (keyboard.load raw)) := by
  have hcut : cut (cut raw) = cut raw := List.takeWhile_idem
  rw [← load_congr keyboard hcut]
  simp only [Keyboard.loadShared, if_neg hsize, hmap, htext]
  exact ⟨rfl, rfl⟩

theorem gives_memory {content : List UInt8} {size : Nat} (h : Mappable content size)
    (descriptor : Nat) :
    Gives (keyboard.loadShared descriptor (.memory content) size)
      (outcome (keyboard.load (extended content size))) := by
  by_cases hsize : size = 0
  · subst hsize
    exact gives_zero keyboard content _ descriptor
  · refine gives_of_text keyboard hsize (map_of_mappable h hsize).1 ?_ descriptor
    exact text_of_ends (Or.inr rfl)

theorem paged_cases {content : List UInt8} {size : Nat} (h : Mappable content size)
    (descriptor : Nat) :
    (Strays content size ∧ (keyboard.loadShared descriptor (.paged content) size).1 = none) ∨
      (¬Strays content size ∧ Gives (keyboard.loadShared descriptor (.paged content) size)
        (outcome (keyboard.load (extended content size)))) := by
  by_cases hsize : size = 0
  · subst hsize
    exact Or.inr ⟨fun hstrays => Nat.not_lt_zero _ hstrays.2.1,
      gives_zero keyboard content _ descriptor⟩
  have hmap := (map_of_mappable h hsize).2
  have hends := ends_paged_iff content size
  by_cases hstrays : Strays content size
  · have htext := text_of_not_ends fun hend => hends.mp hend hstrays
    simp only [Keyboard.loadShared, if_neg hsize, hmap, htext]
    exact Or.inl ⟨hstrays, trivial⟩
  · refine Or.inr ⟨hstrays, gives_of_text keyboard hsize hmap ?_ descriptor⟩
    rw [text_of_ends (hends.mpr hstrays), cut_bytes, cut_extended]

end Loads

theorem Answers.unique {keyboard : Keyboard x} {text : List UInt8}
    {after other : Except KeymapError Unit × Keyboard x} (h : Answers keyboard text after)
    (h' : Answers keyboard text other) : after = other := by
  cases h with
  | empty hempty =>
      cases h' with
      | empty => rfl
      | encoding hsome | library _ hsome | loaded _ _ hsome => exact absurd hempty hsome
  | encoding hsome hspelled =>
      cases h' with
      | empty hempty => exact absurd hempty hsome
      | encoding => rfl
      | library spelled _ h | loaded spelled _ _ h => exact absurd h (hspelled spelled)
  | library spelled hsome hspelled hcompile =>
      cases h' with
      | empty hempty => exact absurd hempty hsome
      | encoding _ h => exact absurd hspelled (h spelled)
      | library => rfl
      | loaded spelled' keymap _ hspelled' hcompile' =>
          rw [encode_inj (hspelled.trans hspelled'.symm), hcompile'] at hcompile
          cases hcompile
  | loaded spelled keymap hsome hspelled hcompile =>
      cases h' with
      | empty hempty => exact absurd hempty hsome
      | encoding _ h => exact absurd hspelled (h spelled)
      | library spelled' _ hspelled' hcompile' =>
          rw [encode_inj (hspelled.trans hspelled'.symm), hcompile'] at hcompile
          cases hcompile
      | loaded spelled' keymap' _ hspelled' hcompile' =>
          rw [encode_inj (hspelled.trans hspelled'.symm), hcompile'] at hcompile
          cases hcompile
          rfl

/-- A NUL and all behind it make no difference to a load. A mapping is loaded as its bytes are, with
zeros behind the end of the object, and as the whole content is once the first NUL or the end is in
it; where only whole pages can be read, that is so unless the reading strays from them, which ends
the process. What comes of a load is told by the text before the first NUL, and by nothing else. -/
theorem load_reads_to_nul (keyboard : Keyboard x) :
    (∀ text tail, keyboard.load (text ++ 0 :: tail) = keyboard.load text) ∧
      (∀ content size descriptor, Mappable content size →
        let mapped := keyboard.loadShared descriptor (.memory content) size
        let paged := keyboard.loadShared descriptor (.paged content) size
        Gives mapped (outcome (keyboard.load (extended content size))) ∧
          (Reaches content size → Gives mapped (outcome (keyboard.load content))) ∧
          (paged.1 = none ↔ Strays content size) ∧
          (¬Strays content size → Gives paged (outcome (keyboard.load (extended content size))))) ∧
      ∀ raw after,
        outcome (keyboard.load raw) = after ↔ Answers keyboard (raw.takeWhile (· ≠ 0)) after := by
  refine ⟨?_, ?_, ?_⟩
  · intro text tail
    exact load_congr keyboard (cut_append (Or.inr rfl))
  · intro content size descriptor hmappable mapped paged
    have hmapped := gives_memory keyboard hmappable descriptor
    refine ⟨hmapped, fun hreaches => ?_, ?_⟩
    · have hcut := (cut_extended content size).trans (cut_take hreaches)
      rwa [load_congr keyboard hcut] at hmapped
    · rcases paged_cases keyboard hmappable descriptor with ⟨hstrays, hkilled⟩ | ⟨hstrays, hgives⟩
      · exact ⟨iff_of_true hkilled hstrays, fun h => absurd hstrays h⟩
      · refine ⟨iff_of_false (fun hkilled => ?_) hstrays, fun _ => hgives⟩
        exact Option.some_ne_none _ (hgives.1.symm.trans hkilled)
  · intro raw after
    constructor
    · rintro rfl
      exact answers_load keyboard raw
    · exact fun hafter => (answers_load keyboard raw).unique hafter

end LockScreen.Proofs.KeymapText
