import LockScreen.Prompt
import LockScreen.Settings

namespace LockScreen.Proofs.ColorGrammar

open LockScreen.Text LockScreen.Toml

inductive Digit (c : Char) (value : Nat) : Prop where
  | decimal : value < 10 → c.toNat = 0x30 + value → Digit c value
  | lower : 10 ≤ value → value < 16 → c.toNat = 0x61 + (value - 10) → Digit c value
  | upper : 10 ≤ value → value < 16 → c.toNat = 0x41 + (value - 10) → Digit c value

def Pair (first second : Char) (byte : Nat) : Prop :=
  ∃ high low, Digit first high ∧ Digit second low ∧ byte = 16 * high + low

/-- What two characters are read as: the byte that two digits spell, the value of a digit behind a
plus sign, and 255 if they are neither. -/
inductive Reads (first second : Char) : Nat → Prop where
  | pair {byte : Nat} : Pair first second byte → Reads first second byte
  | signed {low : Nat} : first = '+' → Digit second low → Reads first second low
  | neither : (∀ byte, ¬ Pair first second byte) → (first = '+' → ∀ low, ¬ Digit second low) →
      Reads first second 255

inductive Triple (relation : Char → Char → Nat → Prop) : List Char → Nat → Nat → Nat → Prop where
  | mk {a b c d e f : Char} {red green blue : Nat} : relation a b red → relation c d green →
      relation e f blue → Triple relation [a, b, c, d, e, f] red green blue

def IsAscii (characters : List Char) : Prop :=
  ∀ c ∈ characters, c.toNat < 128

def digits (text : String) : List Char :=
  text.toList.dropWhile (· = '#')

def Spells (text : String) : Nat → Nat → Nat → Prop :=
  Triple Pair (digits text)

/-- The text is not to be a colour, and yet some pair in it gives a byte other than 255. -/
def Misread (text : String) : Prop :=
  IsAscii (digits text) ∧
    ∃ red green blue, Triple Reads (digits text) red green blue ∧
      ¬ (red = 255 ∧ green = 255 ∧ blue = 255)

def shade (red green blue : Nat) : Color :=
  .opaque255 (.ofNat red) (.ofNat green) (.ofNat blue)

structure Means (text : String) (color : Color) : Prop where
  spelled : ∀ red green blue, Spells text red green blue → color = shade red green blue
  read : ∀ red green blue, IsAscii (digits text) →
    Triple Reads (digits text) red green blue → color = shade red green blue
  malformed : (∀ red green blue, ¬ Spells text red green blue) →
    (color = .white ↔ ¬ Misread text)

section Components

/-- The bits are those of a single-precision number no further from a byte over 255 than half a unit
in its last place. -/
def Nearest (byte : UInt8) (bits : UInt32) : Prop :=
  let exponent := bits.toNat / 8388608
  let significand := 8388608 + bits.toNat % 8388608
  byte = 0 ∧ bits = 0 ∨
    byte ≠ 0 ∧ exponent ≤ 127 ∧
      2 * (255 * significand) ≤ 2 * (byte.toNat <<< (150 - exponent)) + 255 ∧
      2 * (byte.toNat <<< (150 - exponent)) ≤ 2 * (255 * significand) + 255

instance (byte : UInt8) (bits : UInt32) : Decidable (Nearest byte bits) :=
  inferInstanceAs (Decidable (_ ∧ _ ∨ _ ∧ _))

theorem all_bytes {property : UInt8 → Prop} (h : ∀ n < 256, property (.ofNat n)) (byte : UInt8) :
    property byte := by
  have hbyte := h byte.toNat byte.toNat_lt
  rwa [UInt8.ofNat_toNat] at hbyte

theorem component_nearest (byte : UInt8) : Nearest byte (Color.component byte) := by
  revert byte
  apply all_bytes
  decide +kernel

theorem component_eq_one_iff (byte : UInt8) : Color.component byte = Color.one ↔ byte = 255 := by
  revert byte
  apply all_bytes
  decide +kernel

theorem shade_eq_white_iff {red green blue : Nat} (hred : red < 256) (hgreen : green < 256)
    (hblue : blue < 256) :
    shade red green blue = .white ↔ red = 255 ∧ green = 255 ∧ blue = 255 := by
  have hcomponent {byte : Nat} (h : byte < 256) :
      Color.component (UInt8.ofNat byte) = Color.one ↔ byte = 255 := by
    rw [component_eq_one_iff, ← UInt8.toNat_inj, UInt8.toNat_ofNat_of_lt' h]
    rfl
  simp only [shade, Color.opaque255, Color.white, Color.mk.injEq, hcomponent hred,
    hcomponent hgreen, hcomponent hblue, and_true]

end Components

section Pairs

theorem digit_eq_some_iff (c : Char) (value : Nat) :
    Numeral.digit? 16 c = some value ↔ Digit c value := by
  have hle (first second : Char) : first ≤ second ↔ first.toNat ≤ second.toNat := Iff.rfl
  simp only [Numeral.digit?, Option.filter_eq_some_iff, decide_eq_true_eq, hle, Char.reduceToNat]
  constructor
  · rintro ⟨hvalue, hbase⟩
    split at hvalue
    · next hdecimal =>
        obtain ⟨hlow, hhigh⟩ := hdecimal
        have hvalue := Option.some.inj hvalue
        exact .decimal (by omega) (by omega)
    · split at hvalue
      · next hlower =>
          obtain ⟨hlow, hhigh⟩ := hlower
          have hvalue := Option.some.inj hvalue
          exact .lower (by omega) hbase (by omega)
      · split at hvalue
        · next hupper =>
            obtain ⟨hlow, hhigh⟩ := hupper
            have hvalue := Option.some.inj hvalue
            exact .upper (by omega) hbase (by omega)
        · cases hvalue
  · intro h
    cases h with
    | decimal hvalue hc =>
        refine ⟨?_, by omega⟩
        rw [if_pos (by omega)]
        exact congrArg some (by omega)
    | lower hlow hhigh hc =>
        refine ⟨?_, hhigh⟩
        rw [if_neg (by omega), if_pos (by omega)]
        exact congrArg some (by omega)
    | upper hlow hhigh hc =>
        refine ⟨?_, hhigh⟩
        rw [if_neg (by omega), if_neg (by omega), if_pos (by omega)]
        exact congrArg some (by omega)

variable {a b : Char} {value byte : Nat}

theorem Digit.lt (h : Digit a value) : value < 16 := by
  cases h with
  | decimal hvalue => omega
  | lower _ hvalue | upper _ hvalue => exact hvalue

theorem Digit.ascii (h : Digit a value) : 0x30 ≤ a.toNat ∧ a.toNat < 128 := by
  cases h with
  | decimal _ hc | lower _ _ hc | upper _ _ hc => omega

theorem Digit.ne_plus (h : Digit a value) : a ≠ '+' := by
  rintro rfl
  exact absurd h.ascii.1 (by decide)

theorem digit_eq_none (h : ∀ value, ¬ Digit a value) : Numeral.digit? 16 a = none := by
  cases hdigit : Numeral.digit? 16 a with
  | none => rfl
  | some value => exact absurd ((digit_eq_some_iff a value).mp hdigit) (h value)

theorem unsigned_of_ne_plus (h : a ≠ '+') (rest : List Char) :
    Numeral.unsigned 16 256 (a :: rest) = Numeral.bounded 16 256 0 (a :: rest) := by
  unfold Numeral.unsigned
  split <;> simp_all

theorem bounded_of_digit (h : Digit a value) (acc : Nat) (rest : List Char)
    (hfits : acc * 16 + value < 256) :
    Numeral.bounded 16 256 acc (a :: rest) = Numeral.bounded 16 256 (acc * 16 + value) rest := by
  rw [Numeral.bounded, (digit_eq_some_iff a value).mpr h]
  exact if_pos hfits

theorem bounded_of_not_digit (h : ∀ value, ¬ Digit a value) (acc : Nat) (rest : List Char) :
    Numeral.bounded 16 256 acc (a :: rest) = .error .invalidDigit := by
  rw [Numeral.bounded, digit_eq_none h]

theorem pair_of_reads (h : Reads a b byte) : Color.pair [a, b] = UInt8.ofNat byte := by
  cases h with
  | pair h =>
      obtain ⟨high, low, hhigh, hlow, rfl⟩ := h
      have hhigh' := hhigh.lt
      have hlow' := hlow.lt
      rw [Color.pair, unsigned_of_ne_plus hhigh.ne_plus, bounded_of_digit hhigh 0 [b] (by omega),
        bounded_of_digit hlow _ [] (by omega), Nat.zero_mul, Nat.zero_add, Nat.mul_comm]
      rfl
  | signed hplus hlow =>
      have hlow' := hlow.lt
      subst hplus
      show Color.pair ['+', b] = _
      rw [Color.pair, Numeral.unsigned, bounded_of_digit hlow 0 [] (by omega), Nat.zero_mul,
        Nat.zero_add]
      · rfl
      · exact List.cons_ne_nil b []
  | neither hpair hsigned =>
      have hfault : ∃ fault, Numeral.unsigned 16 256 [a, b] = .error fault := by
        by_cases hplus : a = '+'
        · subst hplus
          refine ⟨.invalidDigit, ?_⟩
          rw [Numeral.unsigned, bounded_of_not_digit (hsigned rfl)]
          exact List.cons_ne_nil b []
        · rw [unsigned_of_ne_plus hplus]
          by_cases hhigh : ∃ high, Digit a high
          · obtain ⟨high, hhigh⟩ := hhigh
            have hhigh' := hhigh.lt
            refine ⟨.invalidDigit, ?_⟩
            rw [bounded_of_digit hhigh 0 [b] (by omega), bounded_of_not_digit]
            exact fun low hlow => hpair _ ⟨high, low, hhigh, hlow, rfl⟩
          · exact ⟨.invalidDigit, bounded_of_not_digit (not_exists.mp hhigh) 0 [b]⟩
      obtain ⟨fault, hfault⟩ := hfault
      rw [Color.pair, hfault]
      rfl

theorem exists_reads (a b : Char) : ∃ byte, Reads a b byte := by
  by_cases hpair : ∃ byte, Pair a b byte
  · obtain ⟨byte, hpair⟩ := hpair
    exact ⟨byte, .pair hpair⟩
  by_cases hsigned : a = '+' ∧ ∃ low, Digit b low
  · obtain ⟨hplus, low, hlow⟩ := hsigned
    exact ⟨low, .signed hplus hlow⟩
  · refine ⟨255, .neither (not_exists.mp hpair) ?_⟩
    intro hplus low hlow
    exact hsigned ⟨hplus, low, hlow⟩

theorem Reads.lt (h : Reads a b byte) : byte < 256 := by
  cases h with
  | pair h =>
      obtain ⟨high, low, hhigh, hlow, rfl⟩ := h
      have hhigh := hhigh.lt
      have hlow := hlow.lt
      omega
  | signed _ hlow => exact Nat.lt_trans hlow.lt (by decide)
  | neither => decide

end Pairs

section Texts

theorem Triple.mono {relation other : Char → Char → Nat → Prop}
    (himp : ∀ a b byte, relation a b byte → other a b byte) {text : List Char}
    {red green blue : Nat} (h : Triple relation text red green blue) :
    Triple other text red green blue := by
  cases h with
  | mk hred hgreen hblue =>
      exact .mk (himp _ _ _ hred) (himp _ _ _ hgreen) (himp _ _ _ hblue)

variable {text : String} {red green blue : Nat}

theorem Triple.length {relation : Char → Char → Nat → Prop} {characters : List Char}
    (h : Triple relation characters red green blue) : characters.length = 6 := by
  cases h
  rfl

theorem digits_of_spells (h : Spells text red green blue) :
    ∀ c ∈ digits text, ∃ value, Digit c value := by
  unfold Spells at h
  generalize digits text = characters at h
  cases h with
  | mk hred hgreen hblue =>
      obtain ⟨_, _, ha, hb, -⟩ := hred
      obtain ⟨_, _, hc, hd, -⟩ := hgreen
      obtain ⟨_, _, he, hf, -⟩ := hblue
      simp only [List.forall_mem_cons]
      exact ⟨⟨_, ha⟩, ⟨_, hb⟩, ⟨_, hc⟩, ⟨_, hd⟩, ⟨_, he⟩, ⟨_, hf⟩,
        fun _ h => absurd h List.not_mem_nil⟩

theorem ascii_of_spells (h : Spells text red green blue) : IsAscii (digits text) := by
  intro c hc
  obtain ⟨_, hdigit⟩ := digits_of_spells h c hc
  exact hdigit.ascii.2

theorem all_isAscii {characters : List Char} :
    characters.all Color.isAscii = true ↔ IsAscii characters := by
  simp only [List.all_eq_true, Color.isAscii, decide_eq_true_eq, IsAscii]

theorem parse_of_six (hsix : (digits text).length = 6) (hascii : IsAscii (digits text)) :
    Color.parse text = Color.ofDigits (digits text) :=
  if_pos (Bool.and_eq_true_iff.mpr ⟨decide_eq_true hsix, all_isAscii.mpr hascii⟩)

theorem parse_of_not_six (h : ¬ ((digits text).length = 6 ∧ IsAscii (digits text))) :
    Color.parse text = .white := by
  refine if_neg ?_
  intro htest
  obtain ⟨hsix, hall⟩ := Bool.and_eq_true_iff.mp htest
  exact h ⟨of_decide_eq_true hsix, all_isAscii.mp hall⟩

theorem parse_of_reads (hascii : IsAscii (digits text))
    (h : Triple Reads (digits text) red green blue) : Color.parse text = shade red green blue := by
  rw [parse_of_six h.length hascii]
  generalize digits text = characters at h
  cases h with
  | mk hred hgreen hblue =>
      rw [shade, ← pair_of_reads hred, ← pair_of_reads hgreen, ← pair_of_reads hblue]
      rfl

theorem exists_triple {characters : List Char} (h : characters.length = 6) :
    ∃ red green blue, Triple Reads characters red green blue := by
  match characters, h with
  | [a, b, c, d, e, f], _ =>
      obtain ⟨red, hred⟩ := exists_reads a b
      obtain ⟨green, hgreen⟩ := exists_reads c d
      obtain ⟨blue, hblue⟩ := exists_reads e f
      exact ⟨red, green, blue, .mk hred hgreen hblue⟩

theorem Triple.lt {characters : List Char} (h : Triple Reads characters red green blue) :
    red < 256 ∧ green < 256 ∧ blue < 256 := by
  cases h with
  | mk hred hgreen hblue => exact ⟨hred.lt, hgreen.lt, hblue.lt⟩

theorem parse_eq_white_iff (text : String) : Color.parse text = .white ↔ ¬ Misread text := by
  constructor
  · rintro hwhite ⟨hascii, red, green, blue, hreads, hother⟩
    obtain ⟨hred, hgreen, hblue⟩ := hreads.lt
    rw [parse_of_reads hascii hreads] at hwhite
    exact hother ((shade_eq_white_iff hred hgreen hblue).mp hwhite)
  · intro hmisread
    by_cases hsix : (digits text).length = 6 ∧ IsAscii (digits text)
    · obtain ⟨red, green, blue, hreads⟩ := exists_triple hsix.1
      obtain ⟨hred, hgreen, hblue⟩ := hreads.lt
      rw [parse_of_reads hsix.2 hreads, shade_eq_white_iff hred hgreen hblue]
      apply Decidable.byContradiction
      intro hother
      exact hmisread ⟨hsix.2, red, green, blue, hreads, hother⟩
    · exact parse_of_not_six hsix

theorem means_parse (text : String) : Means text (Color.parse text) where
  spelled _ _ _ h := parse_of_reads (ascii_of_spells h) (h.mono fun _ _ _ => Reads.pair)
  read _ _ _ hascii h := parse_of_reads hascii h
  malformed _ := parse_eq_white_iff text

end Texts

section Slices

def byteLength : List Char → Nat
  | [] => 0
  | c :: rest => c.utf8Size + byteLength rest

def splitAt? : Nat → List Char → Option (List Char × List Char)
  | 0, text => some ([], text)
  | _ + 1, [] => none
  | place + 1, c :: rest =>
    if c.utf8Size ≤ place + 1 then
      (splitAt? (place + 1 - c.utf8Size) rest).map fun parts => (c :: parts.1, parts.2)
    else none

def slice? (first last : Nat) (text : List Char) : Option (List Char) :=
  (splitAt? last text).bind fun parts => (splitAt? first parts.1).map Prod.snd

/-- The colour of a text, found by bytes as `Color.parse` finds it by characters, nothing if a slice
is out of place. -/
def parseBytes? (text : String) : Option Color :=
  if byteLength (digits text) ≠ 6 ∨ ¬ (digits text).all Color.isAscii then some .white
  else do
    let red ← slice? 0 2 (digits text)
    let green ← slice? 2 4 (digits text)
    let blue ← slice? 4 6 (digits text)
    return .opaque255 (Color.pair red) (Color.pair green) (Color.pair blue)

theorem utf8Size_of_ascii {c : Char} (h : c.toNat < 128) : c.utf8Size = 1 :=
  Char.utf8Size_eq_one_iff.mpr (UInt32.le_iff_toNat_le.mpr (Nat.le_of_lt_succ h))

theorem splitAt_of_ascii (place : Nat) (text : List Char) (hascii : IsAscii text)
    (hplace : place ≤ text.length) : splitAt? place text = some (text.take place, text.drop place) := by
  induction text generalizing place with
  | nil =>
      obtain rfl : place = 0 := Nat.le_zero.mp hplace
      rfl
  | cons c rest ih =>
      cases place with
      | zero => rfl
      | succ place =>
          obtain ⟨hc, hrest⟩ := List.forall_mem_cons.mp hascii
          rw [splitAt?, utf8Size_of_ascii hc, if_pos (Nat.le_add_left 1 place), Nat.add_sub_cancel,
            ih place hrest (Nat.le_of_succ_le_succ hplace)]
          rfl

theorem slice_of_ascii {text : List Char} {first last : Nat} (hascii : IsAscii text)
    (hfirst : first ≤ last) (hlast : last ≤ text.length) :
    slice? first last text = some ((text.drop first).take (last - first)) := by
  have hbefore : splitAt? first (text.take last) =
      some ((text.take last).take first, (text.take last).drop first) := by
    apply splitAt_of_ascii
    · intro c hc
      exact hascii c (List.mem_of_mem_take hc)
    · rw [List.length_take]
      omega
  rw [slice?, splitAt_of_ascii last text hascii hlast, Option.bind_some, hbefore, Option.map_some,
    List.drop_take]

theorem byteLength_of_ascii {text : List Char} (hascii : IsAscii text) :
    byteLength text = text.length := by
  induction text with
  | nil => rfl
  | cons c rest ih =>
      obtain ⟨hc, hrest⟩ := List.forall_mem_cons.mp hascii
      rw [byteLength, utf8Size_of_ascii hc, ih hrest, List.length_cons, Nat.add_comm]

theorem parseBytes_eq (text : String) : parseBytes? text = some (Color.parse text) := by
  unfold parseBytes?
  by_cases hascii : IsAscii (digits text)
  · rw [byteLength_of_ascii hascii]
    by_cases hsix : (digits text).length = 6
    · have hsmall : ¬ ((digits text).length ≠ 6 ∨ ¬ (digits text).all Color.isAscii) := by
        rintro (hother | hother)
        · exact hother hsix
        · exact hother (all_isAscii.mpr hascii)
      have hlast : ((digits text).drop 4).take (6 - 4) = (digits text).drop 4 := by
        apply List.take_of_length_le
        rw [List.length_drop]
        omega
      rw [if_neg hsmall, slice_of_ascii hascii (by decide) (by omega),
        slice_of_ascii hascii (by decide) (by omega), slice_of_ascii hascii (by decide) (by omega),
        hlast, parse_of_six hsix hascii]
      rfl
    · rw [if_pos (Or.inl hsix), parse_of_not_six fun h => hsix h.1]
  · rw [if_pos (Or.inr fun hall => hascii (all_isAscii.mp hall)),
      parse_of_not_six fun h => hascii h.2]

end Slices

section Themes

def Sets (entries : Entries) (name : String) (before after : Color) : Prop :=
  entries.lookup name = none ∧ after = before ∨
    ∃ text, entries.lookup name = some (.text text) ∧ Means text after

/-- What loading a theme does to a prompt. A theme that could not be loaded changes nothing. -/
inductive Themes (prompt : Prompt) (toml : Library) (files : FileTree) (path : String) :
    Except AssetError Unit → Prompt → Prop where
  | builtIn : path.isEmpty → Themes prompt toml files path (.ok ()) prompt
  | file {document : String} {entries : Entries} {background accent : Color} : ¬ path.isEmpty →
      (files path).readText = .ok document → toml document = some entries →
      Sets entries "background" prompt.background background →
      Sets entries "accent" prompt.accent accent →
      Themes prompt toml files path (.ok ()) { prompt with background, accent }
  | refused {fault : AssetError} : Themes prompt toml files path (.error fault) prompt

theorem sets_of_themeColor {entries : Entries} {name : String} {before after : Color}
    (h : Prompt.themeColor entries name before = some after) : Sets entries name before after := by
  unfold Prompt.themeColor Fields.field at h
  cases hlookup : (Fields.named entries).get? 0 name with
  | none =>
      rw [hlookup] at h
      exact Or.inl ⟨hlookup, (Option.some.inj h).symm⟩
  | some item =>
      rw [hlookup] at h
      obtain ⟨text, htext, rfl⟩ := Option.map_eq_some_iff.mp h
      cases item with
      | text content =>
          obtain rfl := Option.some.inj htext
          exact Or.inr ⟨content, hlookup, means_parse content⟩
      | _ => cases htext

theorem themes_load (prompt : Prompt) (toml : Library) (files : FileTree) (path : String) :
    Themes prompt toml files path (prompt.load toml files path).1
      (prompt.load toml files path).2.1 := by
  unfold Prompt.load
  by_cases hpath : path.isEmpty
  · rw [if_pos hpath]
    exact .builtIn hpath
  rw [if_neg hpath]
  cases hread : (files path).readText with
  | error cause => exact .refused
  | ok document =>
      cases htheme : prompt.applyTheme toml document with
      | none =>
          simp only [htheme]
          exact .refused
      | some after =>
          simp only [htheme]
          simp only [Prompt.applyTheme, Option.bind_eq_bind, Option.bind_eq_some_iff] at htheme
          obtain ⟨entries, hentries, background, hbackground, accent, haccent, hafter⟩ := htheme
          obtain rfl := Option.some.inj hafter
          exact .file hpath hread hentries (sets_of_themeColor hbackground)
            (sets_of_themeColor haccent)

end Themes

/-- Every text has a colour: the one that it spells, or else white unless it is misread. So it is
with the background in the settings and with the colours of a theme. -/
theorem colors_read (text : String) (settings : Settings) (prompt : Prompt) (toml : Library)
    (files : FileTree) (path : String) :
    (∀ byte, Nearest byte (Color.component byte)) ∧
      (Means text (Color.parse text) ∧ parseBytes? text = some (Color.parse text)) ∧
      Means settings.output.clearColor settings.background ∧
      Themes prompt toml files path (prompt.load toml files path).1
        (prompt.load toml files path).2.1 := by
  refine ⟨component_nearest, ⟨means_parse text, parseBytes_eq text⟩, ?_, ?_⟩
  · exact means_parse settings.output.clearColor
  · exact themes_load prompt toml files path

/-- Texts that spell no colour and are not white. -/
theorem malformed_read_as_colors :
    ((∀ red green blue, ¬ Spells "#gg0000" red green blue) ∧
      Color.parse "#gg0000" = shade 255 0 0 ∧ shade 255 0 0 ≠ .white) ∧
      (∀ red green blue, ¬ Spells "#+1+2+3" red green blue) ∧
      Color.parse "#+1+2+3" = shade 1 2 3 ∧ shade 1 2 3 ≠ .white := by
  have hletter : ∀ value, ¬ Digit 'g' value := by
    intro value h
    cases (digit_eq_some_iff 'g' value).mpr h
  refine ⟨⟨?_, rfl, by decide⟩, ?_, rfl, by decide⟩
  · intro red green blue h
    obtain ⟨value, hvalue⟩ := digits_of_spells h 'g' (by decide)
    exact hletter value hvalue
  · intro red green blue h
    obtain ⟨value, hvalue⟩ := digits_of_spells h '+' (by decide)
    exact hvalue.ne_plus rfl

end LockScreen.Proofs.ColorGrammar
