import LockScreen.Options

namespace LockScreen.Proofs.CommandLine

open LockScreen.Text

def flags : OptionName → List String
  | .config => ["--config", "-c"]
  | .frames => ["--frames", "-n"]
  | .snapshot => ["--snapshot", "-s"]

def behindSign (text : String) : List Char :=
  match text.toList with
  | '+' :: rest => rest
  | characters => characters

/-- The text is that number in decimal digits, with a plus sign or without. -/
structure Counts (text : String) (count : Nat) : Prop where
  nonempty : behindSign text ≠ []
  digits : ∀ c ∈ behindSign text, c.isDigit
  spelled : Nat.ofDigitChars 10 (behindSign text) 0 = count
  fits : count < UInt64.size

/-- Why a text is no number, by the first character from the left at which it goes wrong. -/
inductive Miscounts (text : String) : Numeral.Fault → Prop where
  | nothing : text.toList = [] → Miscounts text .empty
  | sign : text.toList = ['+'] → Miscounts text .invalidDigit
  | stray {digits rest : List Char} {c : Char} : behindSign text = digits ++ c :: rest →
      (∀ c ∈ digits, c.isDigit) → Nat.ofDigitChars 10 digits 0 < UInt64.size → ¬ c.isDigit →
      Miscounts text .invalidDigit
  | size {digits rest : List Char} : behindSign text = digits ++ rest →
      (∀ c ∈ digits, c.isDigit) → UInt64.size ≤ Nat.ofDigitChars 10 digits 0 →
      Miscounts text .tooLarge

abbrev Pair := String × String

def written (pairs : List Pair) : List String :=
  pairs.flatMap fun pair => [pair.1, pair.2]

def Takes (pair : Pair) : Prop :=
  ∃ name, pair.1 ∈ flags name ∧ (name = .frames → ∃ count, Counts pair.2 count)

def last? (name : OptionName) (pairs : List Pair) : Option String :=
  ((pairs.filter fun pair => pair.1 ∈ flags name).map Prod.snd).getLast?

structure Chosen (pairs : List Pair) (options : Options) : Prop where
  config : options.config = last? .config pairs
  frames : match last? .frames pairs with
    | none => options.frames = 1
    | some text => Counts text options.frames
  snapshot : options.snapshot = last? .snapshot pairs

/-- Arguments that are at fault from the first one on. -/
inductive Offends : List String → UsageError → Prop where
  | unknown {flag : String} {rest : List String} : (∀ name, flag ∉ flags name) →
      Offends (flag :: rest) (.unknownArgument flag)
  | missing {name : OptionName} {flag : String} : flag ∈ flags name →
      Offends [flag] (.missingValue flag)
  | count {flag value : String} {rest : List String} {fault : Numeral.Fault} :
      flag ∈ flags .frames → Miscounts value fault →
      Offends (flag :: value :: rest) (.badFrameCount value fault)

section Numbers

theorem digit_of_isDigit {c : Char} (h : c.isDigit) :
    Numeral.digit? 10 c = some (c.toNat - '0'.toNat) := by
  obtain ⟨hlow, hhigh⟩ := Char.isDigit_iff_toNat.mp h
  have hdigit : '0' ≤ c ∧ c ≤ '9' := ⟨hlow, hhigh⟩
  rw [Numeral.digit?, if_pos hdigit, Option.filter_some, if_pos]
  apply decide_eq_true
  have hzero : '0'.toNat = 48 := rfl
  have hnine : '9'.toNat = 57 := rfl
  omega

theorem digit_of_not_isDigit {c : Char} (h : ¬ c.isDigit) : Numeral.digit? 10 c = none := by
  have hdigit : ¬ ('0' ≤ c ∧ c ≤ '9') := by
    rintro ⟨hlow, hhigh⟩
    exact h (Char.isDigit_iff_toNat.mpr ⟨hlow, hhigh⟩)
  rw [Numeral.digit?, if_neg hdigit, Option.filter_eq_none_iff]
  intro value hvalue
  split at hvalue
  · obtain rfl := Option.some.inj hvalue
    simp
  · split at hvalue
    · obtain rfl := Option.some.inj hvalue
      simp
    · cases hvalue

theorem le_ofDigitChars (digits : List Char) (init : Nat) :
    init ≤ Nat.ofDigitChars 10 digits init := by
  induction digits generalizing init with
  | nil => exact Nat.le_refl init
  | cons c digits ih =>
      rw [Nat.ofDigitChars_cons]
      have hrest := ih (10 * init + (c.toNat - '0'.toNat))
      omega

variable {digits rest : List Char} {acc bound : Nat}

theorem bounded_cons {c : Char} (hc : c.isDigit) :
    Numeral.bounded 10 bound acc (c :: rest) =
      if 10 * acc + (c.toNat - '0'.toNat) < bound then
        Numeral.bounded 10 bound (10 * acc + (c.toNat - '0'.toNat)) rest
      else .error .tooLarge := by
  rw [Numeral.bounded, digit_of_isDigit hc, Nat.mul_comm acc 10]

theorem bounded_append (hdigits : ∀ c ∈ digits, c.isDigit)
    (hfits : Nat.ofDigitChars 10 digits acc < bound) :
    Numeral.bounded 10 bound acc (digits ++ rest) =
      Numeral.bounded 10 bound (Nat.ofDigitChars 10 digits acc) rest := by
  induction digits generalizing acc with
  | nil => rfl
  | cons c digits ih =>
      obtain ⟨hc, hdigits⟩ := List.forall_mem_cons.mp hdigits
      rw [Nat.ofDigitChars_cons] at hfits ⊢
      have hfirst := Nat.lt_of_le_of_lt (le_ofDigitChars digits _) hfits
      rw [List.cons_append, bounded_cons hc, if_pos hfirst]
      exact ih hdigits hfits

theorem bounded_of_large (hdigits : ∀ c ∈ digits, c.isDigit) (hacc : acc < bound)
    (hlarge : bound ≤ Nat.ofDigitChars 10 digits acc) :
    Numeral.bounded 10 bound acc (digits ++ rest) = .error .tooLarge := by
  induction digits generalizing acc with
  | nil => exact absurd hlarge (Nat.not_le.mpr hacc)
  | cons c digits ih =>
      obtain ⟨hc, hdigits⟩ := List.forall_mem_cons.mp hdigits
      rw [Nat.ofDigitChars_cons] at hlarge
      rw [List.cons_append, bounded_cons hc]
      split
      · next hfits => exact ih hdigits hfits hlarge
      · rfl

theorem digits_cases (characters : List Char) (bound acc : Nat) (hacc : acc < bound) :
    ((∀ c ∈ characters, c.isDigit) ∧ Nat.ofDigitChars 10 characters acc < bound) ∨
      (∃ digits c rest, characters = digits ++ c :: rest ∧ (∀ c ∈ digits, c.isDigit) ∧
        Nat.ofDigitChars 10 digits acc < bound ∧ ¬ c.isDigit) ∨
      ∃ digits rest, characters = digits ++ rest ∧ (∀ c ∈ digits, c.isDigit) ∧
        bound ≤ Nat.ofDigitChars 10 digits acc := by
  induction characters generalizing acc with
  | nil => exact Or.inl ⟨fun _ h => absurd h List.not_mem_nil, hacc⟩
  | cons first characters ih =>
      by_cases hfirst : first.isDigit
      · have hcons {digits : List Char} (h : ∀ c ∈ digits, c.isDigit) :
            ∀ c ∈ first :: digits, c.isDigit := List.forall_mem_cons.mpr ⟨hfirst, h⟩
        by_cases hfits : 10 * acc + (first.toNat - '0'.toNat) < bound
        · rcases ih _ hfits with ⟨hdigits, hvalue⟩ | ⟨digits, c, rest, rfl, hdigits, hvalue, hc⟩ |
            ⟨digits, rest, rfl, hdigits, hvalue⟩
          · rw [← Nat.ofDigitChars_cons] at hvalue
            exact Or.inl ⟨hcons hdigits, hvalue⟩
          · rw [← Nat.ofDigitChars_cons] at hvalue
            exact Or.inr (Or.inl ⟨first :: digits, c, rest, rfl, hcons hdigits, hvalue, hc⟩)
          · rw [← Nat.ofDigitChars_cons] at hvalue
            exact Or.inr (Or.inr ⟨first :: digits, rest, rfl, hcons hdigits, hvalue⟩)
        · refine Or.inr (Or.inr ⟨[first], characters, rfl, ?_, Nat.not_lt.mp hfits⟩)
          exact hcons fun _ h => absurd h List.not_mem_nil
      · refine Or.inr (Or.inl ⟨[], first, characters, rfl, ?_, hacc, hfirst⟩)
        exact fun _ h => absurd h List.not_mem_nil

variable {text : String} {count : Nat} {fault : Numeral.Fault}

theorem unsigned_of_behindSign (h : behindSign text ≠ []) (bound : Nat) :
    Numeral.unsigned 10 bound text.toList = Numeral.bounded 10 bound 0 (behindSign text) := by
  unfold behindSign at h ⊢
  generalize text.toList = characters at h ⊢
  cases characters with
  | nil => exact absurd rfl h
  | cons first rest =>
      by_cases hsign : first = '+'
      · subst hsign
        cases rest with
        | nil => exact absurd rfl h
        | cons second rest => rfl
      · have hbare : (match first :: rest with
            | '+' :: rest => rest
            | characters => characters) = first :: rest := by
          split
          · next heq => exact absurd (List.cons.inj heq).1 hsign
          · rfl
        rw [hbare]
        unfold Numeral.unsigned
        split
        · next heq => cases heq
        · next heq => exact absurd (List.cons.inj heq).1 hsign
        · next heq => exact absurd (List.cons.inj heq).1 hsign
        · rfl

theorem unsigned_of_counts (h : Counts text count) :
    Numeral.unsigned 10 UInt64.size text.toList = .ok count := by
  have hfits : Nat.ofDigitChars 10 (behindSign text) 0 < UInt64.size := by
    rw [h.spelled]
    exact h.fits
  rw [unsigned_of_behindSign h.nonempty, ← List.append_nil (behindSign text),
    bounded_append h.digits hfits, h.spelled]
  rfl

theorem unsigned_of_miscounts (h : Miscounts text fault) :
    Numeral.unsigned 10 UInt64.size text.toList = .error fault := by
  cases h with
  | nothing h | sign h => rw [h]; rfl
  | @stray digits rest c h hdigits hfits hc =>
      have hsome : behindSign text ≠ [] := by
        rw [h]
        exact List.append_ne_nil_of_right_ne_nil _ (List.cons_ne_nil _ _)
      rw [unsigned_of_behindSign hsome, h, bounded_append hdigits hfits, Numeral.bounded,
        digit_of_not_isDigit hc]
  | @size digits rest h hdigits hlarge =>
      have hsome : behindSign text ≠ [] := by
        rw [h]
        rintro hnil
        obtain ⟨rfl, -⟩ := List.append_eq_nil_iff.mp hnil
        exact absurd hlarge (by decide)
      rw [unsigned_of_behindSign hsome, h, bounded_of_large hdigits (by decide) hlarge]

theorem counts_or_miscounts (text : String) :
    (∃ count, Counts text count) ∨ ∃ fault, Miscounts text fault := by
  by_cases hsome : behindSign text = []
  · right
    unfold behindSign at hsome
    split at hsome
    · next rest htext =>
        subst hsome
        exact ⟨_, .sign htext⟩
    · exact ⟨_, .nothing hsome⟩
  · rcases digits_cases (behindSign text) UInt64.size 0 (by decide) with ⟨hdigits, hfits⟩ |
      ⟨digits, c, rest, htext, hdigits, hfits, hc⟩ | ⟨digits, rest, htext, hdigits, hlarge⟩
    · exact Or.inl ⟨_, hsome, hdigits, rfl, hfits⟩
    · exact Or.inr ⟨_, .stray htext hdigits hfits hc⟩
    · exact Or.inr ⟨_, .size htext hdigits hlarge⟩

end Numbers

section Pairs

theorem ofArgument_eq_some_iff (flag : String) (name : OptionName) :
    OptionName.ofArgument? flag = some name ↔ flag ∈ flags name := by
  have hmem (first second : String) : flag ∈ [first, second] ↔ flag = first ∨ flag = second := by
    rw [List.mem_cons, List.mem_singleton]
  constructor
  · intro h
    unfold OptionName.ofArgument? at h
    split at h
    · next hconfig =>
        cases h
        exact (hmem _ _).mpr hconfig
    · split at h
      · next hframes =>
          cases h
          exact (hmem _ _).mpr hframes
      · split at h
        · next hsnapshot =>
            cases h
            exact (hmem _ _).mpr hsnapshot
        · cases h
  · intro h
    cases name with
    | config | frames | snapshot =>
        obtain rfl | rfl := (hmem _ _).mp h
        · decide
        · decide

theorem ofArgument_eq_none_iff (flag : String) :
    OptionName.ofArgument? flag = none ↔ ∀ name, flag ∉ flags name := by
  rw [Option.eq_none_iff_forall_ne_some]
  constructor
  · intro h name hflag
    exact h name ((ofArgument_eq_some_iff flag name).mpr hflag)
  · intro h name hname
    exact h name ((ofArgument_eq_some_iff flag name).mp hname)

theorem flags_unique {flag : String} {name other : OptionName} (h : flag ∈ flags name)
    (h' : flag ∈ flags other) : name = other := by
  rw [← ofArgument_eq_some_iff] at h h'
  exact Option.some.inj (h.symm.trans h')

theorem Counts.unique {text : String} {count other : Nat} (h : Counts text count)
    (h' : Counts text other) : count = other :=
  h.spelled.symm.trans h'.spelled

theorem last_concat (name : OptionName) (pairs : List Pair) (pair : Pair) :
    last? name (pairs ++ [pair]) =
      if pair.1 ∈ flags name then some pair.2 else last? name pairs := by
  unfold last?
  split
  · next h => simp [h]
  · next h => simp [h]

theorem Chosen.unique {pairs : List Pair} {options other : Options} (h : Chosen pairs options)
    (h' : Chosen pairs other) : options = other := by
  obtain ⟨config, frames, snapshot⟩ := options
  obtain ⟨config', frames', snapshot'⟩ := other
  obtain rfl : config = config' := h.config.trans h'.config.symm
  obtain rfl : snapshot = snapshot' := h.snapshot.trans h'.snapshot.symm
  have hframes := h.frames
  have hframes' := h'.frames
  cases hlast : last? .frames pairs with
  | none =>
      rw [hlast] at hframes hframes'
      obtain rfl : frames = frames' := hframes.trans hframes'.symm
      rfl
  | some text =>
      rw [hlast] at hframes hframes'
      obtain rfl : frames = frames' := hframes.unique hframes'
      rfl

variable {pairs before : List Pair} {options : Options}

theorem chosen_concat {name : OptionName} {flag value : String} (hflag : flag ∈ flags name)
    (htakes : name = .frames → ∃ count, Counts value count) (hchosen : Chosen before options) :
    ∃ after, options.set name value = .ok after ∧ Chosen (before ++ [(flag, value)]) after := by
  have hother {other : OptionName} (h : other ≠ name) : flag ∉ flags other := by
    intro hother
    exact h (flags_unique hother hflag)
  obtain ⟨hconfig, hframes, hsnapshot⟩ := hchosen
  cases name with
  | config =>
      refine ⟨{ options with config := some value }, rfl, ?_, ?_, ?_⟩
      · rw [last_concat, if_pos hflag]
      · rw [last_concat, if_neg (hother (by decide))]
        exact hframes
      · rw [last_concat, if_neg (hother (by decide))]
        exact hsnapshot
  | frames =>
      obtain ⟨count, hcount⟩ := htakes rfl
      have hset : options.set .frames value = .ok { options with frames := count } := by
        have hread : Numeral.unsigned 10 Options.frameLimit value.toList = .ok count :=
          unsigned_of_counts hcount
        simp only [Options.set, hread]
      refine ⟨{ options with frames := count }, hset, ?_, ?_, ?_⟩
      · rw [last_concat, if_neg (hother (by decide))]
        exact hconfig
      · rw [last_concat, if_pos hflag]
        exact hcount
      · rw [last_concat, if_neg (hother (by decide))]
        exact hsnapshot
  | snapshot =>
      refine ⟨{ options with snapshot := some value }, rfl, ?_, ?_, ?_⟩
      · rw [last_concat, if_neg (hother (by decide))]
        exact hconfig
      · rw [last_concat, if_neg (hother (by decide))]
        exact hframes
      · rw [last_concat, if_pos hflag]

theorem setAll_written (htakes : ∀ pair ∈ pairs, Takes pair) (hchosen : Chosen before options)
    (rest : List String) :
    ∃ after, Options.setAll (written pairs ++ rest) options = Options.setAll rest after ∧
      Chosen (before ++ pairs) after := by
  induction pairs generalizing before options with
  | nil =>
      rw [List.append_nil]
      exact ⟨options, rfl, hchosen⟩
  | cons pair pairs ih =>
      obtain ⟨⟨name, hflag, hcount⟩, hrest⟩ := List.forall_mem_cons.mp htakes
      obtain ⟨next, hset, hnext⟩ := chosen_concat hflag hcount hchosen
      obtain ⟨after, hafter, hend⟩ := ih hrest hnext
      refine ⟨after, ?_, ?_⟩
      · rw [← hafter]
        show Options.setAll (pair.1 :: pair.2 :: (written pairs ++ rest)) options = _
        rw [Options.setAll, (ofArgument_eq_some_iff _ _).mpr hflag]
        simp only [hset]
      · rw [List.append_assoc] at hend
        exact hend

theorem setAll_of_offends {arguments : List String} {fault : UsageError}
    (h : Offends arguments fault) (options : Options) :
    Options.setAll arguments options = .error fault := by
  cases h with
  | unknown hflag =>
      rw [Options.setAll, (ofArgument_eq_none_iff _).mpr hflag]
  | missing hflag =>
      rw [Options.setAll, (ofArgument_eq_some_iff _ _).mpr hflag]
  | @count flag value rest fault hflag hvalue =>
      have hread : Numeral.unsigned 10 Options.frameLimit value.toList = .error fault :=
        unsigned_of_miscounts hvalue
      rw [Options.setAll, (ofArgument_eq_some_iff _ _).mpr hflag]
      simp only [Options.set, hread]

theorem takes_or_offends (flag : String) (arguments : List String) :
    (∃ value rest, arguments = value :: rest ∧ Takes (flag, value)) ∨
      ∃ fault, Offends (flag :: arguments) fault := by
  cases hname : OptionName.ofArgument? flag with
  | none => exact Or.inr ⟨_, .unknown ((ofArgument_eq_none_iff flag).mp hname)⟩
  | some name =>
      have hflag := (ofArgument_eq_some_iff flag name).mp hname
      cases arguments with
      | nil => exact Or.inr ⟨_, .missing hflag⟩
      | cons value rest =>
          by_cases hframes : name = .frames
          · subst hframes
            rcases counts_or_miscounts value with hcount | ⟨fault, hfault⟩
            · exact Or.inl ⟨value, rest, rfl, .frames, hflag, fun _ => hcount⟩
            · exact Or.inr ⟨_, .count hflag hfault⟩
          · exact Or.inl ⟨value, rest, rfl, name, hflag, fun h => absurd h hframes⟩

theorem exists_written (arguments : List String) :
    ∃ pairs rest, arguments = written pairs ++ rest ∧ (∀ pair ∈ pairs, Takes pair) ∧
      (rest = [] ∨ ∃ fault, Offends rest fault) := by
  match arguments with
  | [] => exact ⟨[], [], rfl, fun _ h => absurd h List.not_mem_nil, Or.inl rfl⟩
  | flag :: arguments =>
      rcases takes_or_offends flag arguments with ⟨value, rest, hvalue, htakes⟩ | hfault
      · have hshorter : rest.length < (flag :: arguments).length := by
          rw [hvalue]
          exact Nat.lt_succ_of_lt (Nat.lt_succ_self _)
        obtain ⟨pairs, tail, hrest, hpairs, hend⟩ := exists_written rest
        refine ⟨(flag, value) :: pairs, tail, ?_, List.forall_mem_cons.mpr ⟨htakes, hpairs⟩, hend⟩
        rw [hvalue, hrest]
        rfl
      · exact ⟨[], flag :: arguments, rfl, fun _ h => absurd h List.not_mem_nil, Or.inr hfault⟩
termination_by arguments.length

end Pairs

def requests : List String := ["-h", "--help", "-V", "--version"]

theorem not_any_of_requests {asks : String → Bool} {arguments : List String}
    (hasks : ∀ argument, asks argument → argument ∈ requests)
    (h : ∀ argument ∈ arguments, argument ∉ requests) : ¬ arguments.any asks := by
  rw [List.any_eq_true]
  rintro ⟨argument, hmem, hargument⟩
  exact h argument hmem (hasks argument hargument)

theorem request_of_none {arguments : List String} (h : ∀ argument ∈ arguments, argument ∉ requests) :
    Request.ofArguments arguments = (Options.ofArguments arguments).map Request.run := by
  have hhelp : ¬ arguments.any Request.asksForHelp := by
    apply not_any_of_requests _ h
    intro argument hasks
    simp only [Request.asksForHelp, Bool.or_eq_true, decide_eq_true_eq] at hasks
    rcases hasks with rfl | rfl
    · decide
    · decide
  have hversion : ¬ arguments.any Request.asksForVersion := by
    apply not_any_of_requests _ h
    intro argument hasks
    simp only [Request.asksForVersion, Bool.or_eq_true, decide_eq_true_eq] at hasks
    rcases hasks with rfl | rfl
    · decide
    · decide
  rw [Request.ofArguments, if_neg hhelp, if_neg hversion]

theorem ofArguments_written {pairs : List Pair} (htakes : ∀ pair ∈ pairs, Takes pair)
    (rest : List String) :
    ∃ after, Options.ofArguments (written pairs ++ rest) = Options.setAll rest after ∧
      Chosen pairs after := by
  have hdefault : Chosen [] Options.default := ⟨rfl, rfl, rfl⟩
  exact setAll_written htakes hdefault rest

theorem ofArguments_of_written {pairs : List Pair} (htakes : ∀ pair ∈ pairs, Takes pair) :
    ∃ after, Options.ofArguments (written pairs) = .ok after ∧ Chosen pairs after := by
  obtain ⟨after, hafter, hchosen⟩ := ofArguments_written htakes []
  rw [List.append_nil] at hafter
  exact ⟨after, hafter, hchosen⟩

theorem ofArguments_of_offends {pairs : List Pair} {rest : List String} {fault : UsageError}
    (htakes : ∀ pair ∈ pairs, Takes pair) (hfault : Offends rest fault) :
    Options.ofArguments (written pairs ++ rest) = .error fault := by
  obtain ⟨after, hafter, -⟩ := ofArguments_written htakes rest
  rw [hafter]
  exact setAll_of_offends hfault after

/-- A command line is accepted just if it is a row of pairs that can be taken, and the options are
then the last values given; it is refused for what is at fault behind the pairs that can be taken.
Unless it asks for help or for the version, these options are run with. -/
theorem arguments_read (arguments : List String) :
    ((∃ options, Options.ofArguments arguments = .ok options) ↔
      ∃ pairs, arguments = written pairs ∧ ∀ pair ∈ pairs, Takes pair) ∧
    (∀ options, Options.ofArguments arguments = .ok options ↔
      ∃ pairs, arguments = written pairs ∧ (∀ pair ∈ pairs, Takes pair) ∧ Chosen pairs options) ∧
    (∀ fault, Options.ofArguments arguments = .error fault ↔
      ∃ pairs rest, arguments = written pairs ++ rest ∧ (∀ pair ∈ pairs, Takes pair) ∧
        Offends rest fault) ∧
    ((∀ argument ∈ arguments, argument ∉ requests) →
      Request.ofArguments arguments = (Options.ofArguments arguments).map Request.run) := by
  obtain ⟨pairs, rest, harguments, htakes, hend⟩ := exists_written arguments
  have hok {options : Options} (h : Options.ofArguments arguments = .ok options) :
      arguments = written pairs ∧ Chosen pairs options := by
    rcases hend with rfl | ⟨fault, hfault⟩
    · obtain ⟨after, hafter, hchosen⟩ := ofArguments_of_written htakes
      rw [List.append_nil] at harguments
      rw [harguments, hafter] at h
      obtain rfl := Except.ok.inj h
      exact ⟨harguments, hchosen⟩
    · rw [harguments, ofArguments_of_offends htakes hfault] at h
      cases h
  refine ⟨⟨?_, ?_⟩, ?_, ?_, request_of_none⟩
  · rintro ⟨options, h⟩
    exact ⟨pairs, (hok h).1, htakes⟩
  · rintro ⟨others, rfl, hothers⟩
    obtain ⟨after, hafter, -⟩ := ofArguments_of_written hothers
    exact ⟨after, hafter⟩
  · intro options
    constructor
    · intro h
      exact ⟨pairs, (hok h).1, htakes, (hok h).2⟩
    · rintro ⟨others, rfl, hothers, hchosen⟩
      obtain ⟨after, hafter, hchosen'⟩ := ofArguments_of_written hothers
      rw [hafter, hchosen.unique hchosen']
  · intro fault
    constructor
    · intro h
      rcases hend with rfl | ⟨other, hother⟩
      · obtain ⟨after, hafter, -⟩ := ofArguments_of_written htakes
        rw [List.append_nil] at harguments
        rw [harguments, hafter] at h
        cases h
      · have hsame := ofArguments_of_offends htakes hother
        rw [← harguments, h] at hsame
        obtain rfl := Except.error.inj hsame
        exact ⟨pairs, rest, harguments, htakes, hother⟩
    · rintro ⟨others, rest, rfl, hothers, hfault⟩
      exact ofArguments_of_offends hothers hfault

example : Options.ofArguments ["-c", "--frames", "-n", "+2", "--config", "x"] =
    .ok ⟨some "x", 2, none⟩ :=
  rfl

end LockScreen.Proofs.CommandLine
