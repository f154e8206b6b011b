import LockScreen.Frame.Readback

namespace LockScreen.Proofs.FrameSize

open LockScreen.Frame

variable {σ : Type}

/-- The bytes of a frame, however many they are. -/
def frameBytes (width height : UInt32) : Nat :=
  width.toNat * height.toNat * bytesPerPixel

theorem product?_eq_some_iff {a b product : UInt64} :
    product? a b = some product ↔ product.toNat = a.toNat * b.toNat := by
  unfold product?
  split
  · rename_i hfits
    have hproduct : (a * b).toNat = a.toNat * b.toNat := by
      rw [UInt64.toNat_mul]
      exact Nat.mod_eq_of_lt hfits
    rw [Option.some.injEq, ← hproduct, UInt64.toNat_inj]
    exact eq_comm
  · rename_i hwide
    refine iff_of_false (Option.some_ne_none product).symm fun hproduct => hwide ?_
    rw [← hproduct]
    exact product.toNat_lt

theorem length?_eq_some_iff {width height : UInt32} {length : UInt64} :
    length? width height = some length ↔ length.toNat = frameBytes width height := by
  have hpixels : product? width.toUInt64 height.toUInt64 =
      some (width.toUInt64 * height.toUInt64) := by
    have hless : width.toNat * height.toNat < UInt64.size :=
      Nat.mul_lt_mul'' width.toNat_lt height.toNat_lt
    rw [product?_eq_some_iff, UInt64.toNat_mul, UInt32.toNat_toUInt64, UInt32.toNat_toUInt64]
    exact Nat.mod_eq_of_lt hless
  have harea := product?_eq_some_iff.mp hpixels
  rw [UInt32.toNat_toUInt64, UInt32.toNat_toUInt64] at harea
  rw [length?, hpixels, Option.bind_eq_bind, Option.bind_some, product?_eq_some_iff, harea]
  rfl

theorem length?_eq_none_iff {width height : UInt32} :
    length? width height = none ↔ UInt64.size ≤ frameBytes width height := by
  constructor
  · intro hnone
    refine Nat.le_of_not_lt fun hfits => ?_
    have hlength : length? width height = some (UInt64.ofNat (frameBytes width height)) :=
      length?_eq_some_iff.mpr (UInt64.toNat_ofNat_of_lt' hfits)
    rw [hnone] at hlength
    cases hlength
  · intro hwide
    cases hlength : length? width height with
    | none => rfl
    | some length =>
        have hbytes := length?_eq_some_iff.mp hlength
        exact absurd (hbytes ▸ length.toNat_lt) (Nat.not_lt.mpr hwide)

theorem new?_eq (width height : UInt32) (slots : Nat) :
    Pool.new? width height slots =
      let bytes := frameBytes width height
      if UInt64.size ≤ bytes ∨ slots ≠ 0 ∧ Pool.blockLimit ≤ bytes then none
      else some (.ofSize bytes slots) := by
  dsimp only
  cases hlength : length? width height with
  | none =>
      rw [if_pos (Or.inl (length?_eq_none_iff.mp hlength)), Pool.new?, hlength]
      rfl
  | some length =>
      have hbytes := length?_eq_some_iff.mp hlength
      have hfits : ¬ UInt64.size ≤ length.toNat := Nat.not_le_of_lt length.toNat_lt
      rw [← hbytes, Pool.new?, hlength, Option.bind_eq_bind, Option.bind_some]
      simp only [hfits, false_or]

section Reading

variable (source : PixelSource σ) (target : ByteArray) (state : σ) {need : Nat}

theorem read_of_wide (hwide : UInt64.size ≤ frameBytes source.width source.height) :
    read source target state = (.crashed, target, state) := by
  rw [Frame.read, length?_eq_none_iff.mpr hwide]

theorem read_of_fits (hneed : frameBytes source.width source.height = need)
    (hfits : need < UInt64.size) :
    read source target state =
      (.ofExcept (readBytes source need target state).1, (readBytes source need target state).2) := by
  have hlength : length? source.width source.height = some (UInt64.ofNat need) :=
    length?_eq_some_iff.mpr ((UInt64.toNat_ofNat_of_lt' hfits).trans hneed.symm)
  simp only [Frame.read, hlength, UInt64.toNat_ofNat_of_lt' hfits]

theorem readBytes_of_short (hshort : target.size < need) :
    readBytes source need target state =
      (.error (.bufferTooSmall need target.size), target, state) := by
  rw [readBytes, if_pos hshort]

theorem readBytes_zero : readBytes source 0 target state = (.ok (), target, state) := by
  rw [readBytes, if_neg (Nat.not_lt_zero _), if_pos rfl]

theorem readBytes_ne_tooSmall (hlong : need ≤ target.size) (need' got : Nat) :
    (readBytes source need target state).1 ≠ .error (.bufferTooSmall need' got) := by
  unfold readBytes
  rw [if_neg (Nat.not_lt.mpr hlong)]
  split
  · exact fun h => nomatch h
  · dsimp only
    split
    · exact fun h => nomatch h
    · dsimp only
      split <;> exact fun h => nomatch h

end Reading

theorem ofExcept_ne_crashed {ε : Type} (result : Except ε Unit) :
    Ending.ofExcept result ≠ .crashed := by
  rcases result with _ | ⟨⟨⟩⟩ <;> exact nofun

theorem ofExcept_eq_failed_iff {ε : Type} {result : Except ε Unit} {fault : ε} :
    Ending.ofExcept result = .failed fault ↔ result = .error fault := by
  rcases result with other | ⟨⟨⟩⟩
  · exact ⟨fun h => by cases h; rfl, fun h => by cases h; rfl⟩
  · exact ⟨nofun, nofun⟩

/-- Whoever reads a frame of 2^64 bytes or more does not survive it, whatever the destination, and
neither the destination nor the framebuffer is touched. For every other frame the destinations that
are too small are just the shorter ones: they are refused with the number of the bytes of the frame,
and not touched either. So a destination is always refused just for the frames of fewer bytes than
2^64, and only a frame without a byte is ever read into a destination without one. -/
theorem short_target_refused_iff (source : PixelSource σ) (state : σ) :
    let bytes := frameBytes source.width source.height
    (∀ target : ByteArray,
      if UInt64.size ≤ bytes then read source target state = (.crashed, target, state)
      else if target.size < bytes then
        read source target state = (.failed (.bufferTooSmall bytes target.size), target, state)
      else (read source target state).1 ≠ .crashed ∧
        ∀ need got, (read source target state).1 ≠ .failed (.bufferTooSmall need got)) ∧
    (∀ length, length? source.width source.height = some length ↔ length.toNat = bytes) ∧
    ((∀ target : ByteArray, target.size < bytes →
        read source target state = (.failed (.bufferTooSmall bytes target.size), target, state)) ↔
      bytes < UInt64.size) ∧
    ((read source ByteArray.empty state).1 = .done ↔ bytes = 0) := by
  intro bytes
  have hrefused (hfits : bytes < UInt64.size) (target : ByteArray) (hshort : target.size < bytes) :
      read source target state = (.failed (.bufferTooSmall bytes target.size), target, state) := by
    rw [read_of_fits source target state rfl hfits, readBytes_of_short source target state hshort]
    rfl
  refine ⟨fun target => ?_, fun length => length?_eq_some_iff,
    ⟨fun halways => Nat.lt_of_not_le fun hwide => ?_, hrefused⟩, fun hread => ?_, fun hzero => ?_⟩
  · split
    · next hwide => exact read_of_wide source target state hwide
    · next hfits =>
        split
        · next hshort => exact hrefused (Nat.lt_of_not_le hfits) target hshort
        · next hlong =>
            rw [read_of_fits source target state rfl (Nat.lt_of_not_le hfits)]
            refine ⟨ofExcept_ne_crashed _, fun need got hfailed => ?_⟩
            exact readBytes_ne_tooSmall source target state (Nat.not_lt.mp hlong) need got
              (ofExcept_eq_failed_iff.mp hfailed)
  · have hempty := halways .empty (Nat.lt_of_lt_of_le (by decide) hwide)
    rw [read_of_wide source .empty state hwide] at hempty
    cases hempty
  · refine Nat.eq_zero_of_not_pos fun hsome => ?_
    rcases Nat.lt_or_ge bytes UInt64.size with hfits | hwide
    · rw [hrefused hfits .empty hsome] at hread
      cases hread
    · rw [read_of_wide source .empty state hwide] at hread
      cases hread
  · rw [read_of_fits source .empty state hzero (by decide), readBytes_zero]
    rfl

def vast : PixelSource Unit where
  width := 2147483648
  height := 2147483648
  bind _ := (.ok (), ())
  readRow _ _ size := (Pool.blank size, ())
  takeError _ := (0, ())
  unbind _ := ()

/-- A destination without a byte is too small for it, and is not refused. -/
theorem vast_read_crashes :
    ByteArray.empty.size < frameBytes vast.width vast.height ∧
      read vast ByteArray.empty () = (.crashed, ByteArray.empty, ()) :=
  ⟨by decide, rfl⟩

end LockScreen.Proofs.FrameSize
