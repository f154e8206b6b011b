import LockScreen.Proofs.FrameSize

namespace LockScreen.Proofs.FrameReadback

open LockScreen.Frame
open LockScreen.Proofs.FrameSize

variable {σ : Type}

inductive Access where
  | bind (bound : Bool)
  | row (number wanted : Nat) (bytes : ByteArray)
  | takeError (code : UInt32)
  | unbind

def noted (source : PixelSource σ) : PixelSource (σ × List Access) where
  width := source.width
  height := source.height
  bind := fun (state, uses) =>
    match source.bind state with
    | (.ok (), state) => (.ok (), state, uses ++ [.bind true])
    | (.error status, state) => (.error status, state, uses ++ [.bind false])
  readRow := fun (state, uses) number wanted =>
    let (bytes, state) := source.readRow state number wanted
    (bytes, state, uses ++ [.row number.toNat wanted bytes])
  takeError := fun (state, uses) =>
    let (code, state) := source.takeError state
    (code, state, uses ++ [.takeError code])
  unbind := fun (state, uses) => (source.unbind state, uses ++ [.unbind])

theorem frameBytes_noted (source : PixelSource σ) :
    frameBytes (noted source).width (noted source).height = frameBytes source.width source.height :=
  rfl

section Bytes

theorem getElem?_append (front back : ByteArray) (i : Nat) :
    (front ++ back)[i]? = if i < front.size then front[i]? else back[i - front.size]? := by
  change (front ++ back).data[i]? = _
  rw [ByteArray.data_append, Array.getElem?_append]
  rfl

theorem getElem?_extract (bytes : ByteArray) (start stop i : Nat) :
    (bytes.extract start stop)[i]? =
      if i < min stop bytes.size - start then bytes[start + i]? else none := by
  change (bytes.extract start stop).data[i]? = _
  rw [ByteArray.data_extract, Array.getElem?_extract]
  rfl

theorem getElem?_of_size_le {bytes : ByteArray} {i : Nat} (h : bytes.size ≤ i) :
    bytes[i]? = none :=
  Array.getElem?_eq_none h

theorem exists_getElem? {bytes : ByteArray} {i : Nat} (h : i < bytes.size) :
    ∃ byte, bytes[i]? = some byte :=
  ⟨bytes.data[i], Array.getElem?_eq_getElem h⟩

theorem size_overlay (bytes under : ByteArray) : (overlay bytes under).size = under.size := by
  simp only [overlay, ByteArray.size_append, ByteArray.size_extract]
  omega

theorem getElem?_overlay {bytes under : ByteArray} {i : Nat} (h : i < under.size) :
    (overlay bytes under)[i]? = (bytes[i]? <|> under[i]?) := by
  rw [overlay, getElem?_append, getElem?_extract, getElem?_extract, ByteArray.size_extract]
  by_cases hi : i < bytes.size
  · obtain ⟨byte, hbyte⟩ := exists_getElem? hi
    rw [if_pos (by omega), if_pos (by omega), Nat.zero_add, hbyte]
    rfl
  · rw [if_neg (by omega), if_pos (by omega), getElem?_of_size_le (Nat.not_lt.mp hi)]
    rw [show bytes.size + (i - (min under.size bytes.size - 0)) = i by omega]
    rfl

end Bytes

theorem toNat_row {height : UInt32} {rows y : Nat} (hrows : y + (rows + 1) = height.toNat) :
    (height - 1 - UInt32.ofNat y).toNat = rows := by
  have hheight : height.toNat < UInt32.size := height.toNat_lt
  have hy : (UInt32.ofNat y).toNat = y := UInt32.toNat_ofNat_of_lt' (by omega)
  have hone : (1 : UInt32) ≤ height := UInt32.le_iff_toNat_le.mpr (by rw [UInt32.toNat_one]; omega)
  have hless : (height - 1).toNat = height.toNat - 1 := UInt32.toNat_sub_of_le _ _ hone
  have hle : UInt32.ofNat y ≤ height - 1 := UInt32.le_iff_toNat_le.mpr (by omega)
  rw [UInt32.toNat_sub_of_le _ _ hle, hless, hy]
  omega

def rowUses (rowLength rows : Nat) (bytes : Nat → ByteArray) : List Access :=
  (List.range rows).reverse.map fun number => .row number rowLength (bytes number)

theorem rowUses_succ (rowLength rows : Nat) (bytes : Nat → ByteArray) :
    rowUses rowLength (rows + 1) bytes =
      .row rows rowLength (bytes rows) :: rowUses rowLength rows bytes := by
  simp only [rowUses, List.range_succ, List.reverse_append, List.reverse_singleton,
    List.singleton_append, List.map_cons]

theorem rowUses_congr {rowLength rows : Nat} {bytes bytes' : Nat → ByteArray}
    (h : ∀ number < rows, bytes number = bytes' number) :
    rowUses rowLength rows bytes = rowUses rowLength rows bytes' := by
  refine List.map_congr_left fun number hnumber => ?_
  rw [h number (List.mem_range.mp (List.mem_reverse.mp hnumber))]

/-- The rows of a frame from some row on, read behind those that were read before: each is asked for
once, and what it gives stands at its place, over the bytes that were there. -/
theorem readRows_spec (source : PixelSource σ) (rowLength : Nat) (target : ByteArray)
    (rows y : Nat) (done : ByteArray) (state : σ) (uses : List Access)
    (hrows : y + rows = source.height.toNat)
    (htarget : (y + rows) * rowLength ≤ target.size) (hdone : done.size = y * rowLength) :
    ∃ (bytes : Nat → ByteArray) (front : ByteArray) (after : σ),
      readRows source rowLength target rows y done state = (front, after) ∧
      readRows (noted source) rowLength target rows y done (state, uses) =
        (front, after, uses ++ rowUses rowLength rows bytes) ∧
      front.size = (y + rows) * rowLength ∧
      (∀ i < y * rowLength, front[i]? = done[i]?) ∧
      ∀ number < rows, ∀ i < rowLength,
        front[(source.height.toNat - 1 - number) * rowLength + i]? =
          ((bytes number)[i]? <|>
            target[(source.height.toNat - 1 - number) * rowLength + i]?) := by
  induction rows generalizing y done state uses with
  | zero =>
      refine ⟨fun _ => .empty, done, state, rfl, ?_, hdone, fun _ _ => rfl,
        fun _ h => absurd h (Nat.not_lt_zero _)⟩
      simp only [readRows, rowUses, List.range_zero, List.reverse_nil, List.map_nil, List.append_nil]
  | succ rows ih =>
      have hnumber := toNat_row hrows
      have hnext : y * rowLength + rowLength = (y + 1) * rowLength := (Nat.succ_mul y rowLength).symm
      have hreach : (y + 1) * rowLength ≤ target.size :=
        Nat.le_trans (Nat.mul_le_mul_right rowLength (by omega)) htarget
      rcases hread : source.readRow state (source.height - 1 - UInt32.ofNat y) rowLength with
        ⟨given, next⟩
      have hunder : (target.extract (y * rowLength) ((y + 1) * rowLength)).size = rowLength := by
        rw [ByteArray.size_extract]
        omega
      obtain ⟨row, hrow⟩ : ∃ row, row =
          overlay given (target.extract (y * rowLength) ((y + 1) * rowLength)) := ⟨_, rfl⟩
      have hsize : row.size = rowLength := by rw [hrow, size_overlay, hunder]
      have hlonger : (done ++ row).size = (y + 1) * rowLength := by
        rw [ByteArray.size_append, hdone, hsize, hnext]
      obtain ⟨bytes, front, after, hplain, hnoted, hfront, hbefore, hlater⟩ :=
        ih (y + 1) (done ++ row) next (uses ++ [.row rows rowLength given]) (by omega)
          (by rw [show y + 1 + rows = y + (rows + 1) by omega]; exact htarget) hlonger
      refine ⟨fun number => if number = rows then given else bytes number, front, after,
        ?_, ?_, ?_, fun i hi => ?_, fun number hlt i hi => ?_⟩
      · simp only [readRows, hread]
        rw [← hrow]
        exact hplain
      · have hrest :
            rowUses rowLength rows (fun number => if number = rows then given else bytes number) =
              rowUses rowLength rows bytes :=
          rowUses_congr fun number hlt => if_neg (Nat.ne_of_lt hlt)
        have hnote :
            (noted source).readRow (state, uses) (source.height - 1 - UInt32.ofNat y) rowLength =
              (given, next, uses ++ [.row rows rowLength given]) := by
          simp only [noted, hread, hnumber]
        have hheight : (noted source).height = source.height := rfl
        simp only [readRows, hheight, hnote]
        rw [List.append_assoc] at hnoted
        rw [← hrow, rowUses_succ, if_pos rfl, hrest]
        exact hnoted
      · rw [hfront]
        congr 1
        omega
      · rw [hbefore i (by omega), getElem?_append, if_pos (by omega)]
      · dsimp only
        by_cases hlast : number = rows
        · have hplace : source.height.toNat - 1 - number = y := by omega
          have hthere : (target.extract (y * rowLength) ((y + 1) * rowLength))[i]? =
              target[y * rowLength + i]? := by
            rw [getElem?_extract, if_pos (by omega)]
          rw [hplace, if_pos hlast, hbefore _ (by omega), getElem?_append, if_neg (by omega), hdone,
            Nat.add_sub_cancel_left, hrow, getElem?_overlay (by omega), hthere]
        · rw [if_neg hlast]
          exact hlater number (by omega) i hi

section Reading

theorem readBytes_of_unbound (source : PixelSource σ) {need : Nat} {target : ByteArray}
    {state bound : σ} {status : UInt32} (hlong : need ≤ target.size) (hsome : need ≠ 0)
    (hbind : source.bind state = (.error status, bound)) :
    readBytes source need target state = (.error (.incomplete status), target, bound) := by
  rw [readBytes, if_neg (Nat.not_lt.mpr hlong), if_neg hsome, hbind]

theorem readBytes_of_bound (source : PixelSource σ) {need : Nat} {target front : ByteArray}
    {state bound after final : σ} {rows : Nat} {code : UInt32} (hlong : need ≤ target.size)
    (hsome : need ≠ 0) (hcount : need / (source.width.toNat * bytesPerPixel) = rows)
    (hbind : source.bind state = (.ok (), bound))
    (hrows : readRows source (source.width.toNat * bytesPerPixel) target rows 0 .empty bound =
      (front, after))
    (herror : source.takeError after = (code, final)) :
    readBytes source need target state =
      (if code = 0 then .ok () else .error (.gl code),
        front ++ target.extract front.size target.size, source.unbind final) := by
  rw [readBytes, if_neg (Nat.not_lt.mpr hlong), if_neg hsome, hbind]
  simp only [hcount, hrows, herror]

variable {source : PixelSource σ} {target : ByteArray} {state bound : σ}

def endingOf (code : UInt32) : Ending ReadbackError :=
  if code = 0 then .done else .failed (.gl code)

theorem ofExcept_error (code : UInt32) :
    Ending.ofExcept (if code = 0 then .ok () else .error (.gl code)) = endingOf code := by
  rw [endingOf, apply_ite Ending.ofExcept]
  rfl

theorem read_of_granted (hfits : frameBytes source.width source.height ≤ target.size)
    (hsize : target.size < UInt64.size) (harea : source.width.toNat * source.height.toNat ≠ 0)
    (hbind : source.bind state = (.ok (), bound)) :
    ∃ (row : Nat → ByteArray) (front : ByteArray) (code : UInt32) (final : σ),
      let pixels := front ++ target.extract front.size target.size
      read source target state = (endingOf code, pixels, final) ∧
      read (noted source) target (state, []) = (endingOf code, pixels, final,
        .bind true :: rowUses (source.width.toNat * bytesPerPixel) source.height.toNat row ++
          [.takeError code, .unbind]) ∧
      front.size = source.height.toNat * (source.width.toNat * bytesPerPixel) ∧
      ∀ number < source.height.toNat, ∀ i < source.width.toNat * bytesPerPixel,
        front[(source.height.toNat - 1 - number) * (source.width.toNat * bytesPerPixel) + i]? =
          ((row number)[i]? <|>
            target[(source.height.toNat - 1 - number) *
              (source.width.toNat * bytesPerPixel) + i]?) := by
  have hword := Nat.lt_of_le_of_lt hfits hsize
  have hsome : frameBytes source.width source.height ≠ 0 := Nat.mul_ne_zero harea (by decide)
  have hwide : 0 < source.width.toNat * bytesPerPixel :=
    Nat.mul_pos (Nat.pos_of_ne_zero fun h => harea (by rw [h, Nat.zero_mul])) (by decide)
  have hrowwise : frameBytes source.width source.height =
      source.height.toNat * (source.width.toNat * bytesPerPixel) := by
    rw [frameBytes, Nat.mul_comm source.width.toNat, Nat.mul_assoc]
  have hcount : frameBytes source.width source.height / (source.width.toNat * bytesPerPixel) =
      source.height.toNat := by
    rw [hrowwise]
    exact Nat.mul_div_cancel _ hwide
  have hnoted : (noted source).bind (state, []) = (.ok (), bound, [.bind true]) := by
    simp only [noted, hbind, List.nil_append]
  obtain ⟨row, front, after, hrows, hrowsNoted, hfront, -, hplaces⟩ :=
    readRows_spec source (source.width.toNat * bytesPerPixel) target source.height.toNat 0 .empty
      bound [.bind true] (Nat.zero_add _)
      (by rw [Nat.zero_add, ← hrowwise]; exact hfits) (Nat.zero_mul _).symm
  rw [Nat.zero_add] at hfront
  rcases herror : source.takeError after with ⟨code, final⟩
  have herrorNoted (uses : List Access) :
      (noted source).takeError (after, uses) = (code, final, uses ++ [.takeError code]) := by
    simp only [noted, herror]
  refine ⟨row, front, code, source.unbind final, ?_, ?_, hfront, hplaces⟩
  · rw [read_of_fits source target state rfl hword,
      readBytes_of_bound source hfits hsome hcount hbind hrows herror, ofExcept_error]
  · rw [read_of_fits (noted source) target (state, []) (frameBytes_noted source) hword,
      readBytes_of_bound (noted source) hfits hsome hcount hnoted hrowsNoted (herrorNoted _),
      ofExcept_error]
    simp only [noted, List.append_assoc, List.cons_append, List.nil_append]

end Reading

theorem component_lt {width x c : Nat} (hx : x < width) (hc : c < bytesPerPixel) :
    x * bytesPerPixel + c < width * bytesPerPixel := by
  have hnext : (x + 1) * bytesPerPixel ≤ width * bytesPerPixel := Nat.mul_le_mul_right _ hx
  rw [Nat.succ_mul] at hnext
  omega

/-- A frame is read into any destination that holds its bytes. Nothing is bound for a frame without
a byte. A framebuffer that cannot be bound leaves the destination as it is. Of one that is bound
each row is read once, the pending error is taken and it is unbound, all in this order and whatever
the error; each byte of the destination is then that of its row, counted from the top, and the bytes
behind the frame are as before. -/
theorem frame_read_flipped (source : PixelSource σ) (target : ByteArray) (state : σ)
    (hfits : frameBytes source.width source.height ≤ target.size)
    (hsize : target.size < UInt64.size) :
    let width := source.width.toNat
    let height := source.height.toNat
    let (result, pixels, after, uses) := read (noted source) target (state, [])
    read source target state = (result, pixels, after) ∧
    pixels.size = target.size ∧
    if width * height = 0 then result = .done ∧ pixels = target ∧ uses = []
    else
      match (source.bind state).1 with
      | .error status =>
          result = .failed (.incomplete status) ∧ pixels = target ∧ uses = [.bind false]
      | .ok () =>
          ∃ (row : Nat → ByteArray) (code : UInt32),
            uses = .bind true ::
              ((List.range height).reverse.map fun number =>
                .row number (width * bytesPerPixel) (row number)) ++
              [.takeError code, .unbind] ∧
            result = (if code = 0 then .done else .failed (.gl code)) ∧
            (∀ y < height, ∀ x < width, ∀ c < bytesPerPixel,
              pixels[(y * width + x) * bytesPerPixel + c]? =
                ((row (height - 1 - y))[x * bytesPerPixel + c]? <|>
                  target[(y * width + x) * bytesPerPixel + c]?)) ∧
            ∀ i, width * height * bytesPerPixel ≤ i → pixels[i]? = target[i]? := by
  intro width height
  have hword := Nat.lt_of_le_of_lt hfits hsize
  by_cases harea : width * height = 0
  · have hzero : frameBytes source.width source.height = 0 := by
      rw [frameBytes, harea, Nat.zero_mul]
    rw [read_of_fits (noted source) target (state, []) hzero (by decide), readBytes_zero]
    simp only [harea, if_true]
    rw [read_of_fits source target state hzero (by decide), readBytes_zero]
    exact ⟨rfl, trivial, rfl, trivial, trivial⟩
  rcases hbind : source.bind state with ⟨status | ⟨⟨⟩⟩, bound⟩
  · have hsome : frameBytes source.width source.height ≠ 0 := Nat.mul_ne_zero harea (by decide)
    have hnoted : (noted source).bind (state, []) = (.error status, bound, [.bind false]) := by
      simp only [noted, hbind, List.nil_append]
    rw [read_of_fits (noted source) target (state, []) (frameBytes_noted source) hword,
      readBytes_of_unbound (noted source) hfits hsome hnoted]
    simp only [harea, if_false]
    rw [read_of_fits source target state rfl hword, readBytes_of_unbound source hfits hsome hbind]
    exact ⟨rfl, trivial, rfl, trivial, trivial⟩
  obtain ⟨row, front, code, final, hread, hnoted, hfront, hplaces⟩ :=
    read_of_granted hfits hsize harea hbind
  have hrowwise : width * height * bytesPerPixel = height * (width * bytesPerPixel) := by
    rw [Nat.mul_comm width, Nat.mul_assoc]
  have hfull : front.size = width * height * bytesPerPixel := hfront.trans hrowwise.symm
  rw [hnoted]
  simp only [harea, if_false]
  refine ⟨hread, ?_, row, code, rfl, rfl, fun y hy x hx c hc => ?_, fun i hi => ?_⟩
  · have hin : width * height * bytesPerPixel ≤ target.size := hfits
    rw [ByteArray.size_append, ByteArray.size_extract, hfull]
    omega
  · have hplace : (y * width + x) * bytesPerPixel + c =
        y * (width * bytesPerPixel) + (x * bytesPerPixel + c) := by
      rw [Nat.add_mul, Nat.mul_assoc, Nat.add_assoc]
    have hin := component_lt hx hc
    have hbefore : y * (width * bytesPerPixel) + (x * bytesPerPixel + c) < front.size := by
      have hnext : (y + 1) * (width * bytesPerPixel) ≤ height * (width * bytesPerPixel) :=
        Nat.mul_le_mul_right _ hy
      rw [Nat.succ_mul] at hnext
      omega
    have hrow := hplaces (height - 1 - y) (by omega) (x * bytesPerPixel + c) hin
    rw [show source.height.toNat - 1 - (height - 1 - y) = y by omega] at hrow
    rw [hplace, getElem?_append, if_pos hbefore, hrow]
  · rw [getElem?_append, if_neg (by omega), getElem?_extract, hfull]
    by_cases hend : i < target.size
    · rw [if_pos (by omega), Nat.add_sub_cancel' hi]
    · rw [if_neg (by omega), getElem?_of_size_le (Nat.not_lt.mp hend)]

def twoRows : PixelSource Unit where
  width := 1
  height := 2
  bind _ := (.ok (), ())
  readRow _ number size := (⟨Array.replicate size (UInt8.ofNat number.toNat)⟩, ())
  takeError _ := (0x502, ())
  unbind _ := ()

def nineBytes : ByteArray := ⟨Array.replicate 9 0xee⟩

theorem twoRows_flipped :
    frameBytes twoRows.width twoRows.height ≤ nineBytes.size ∧ nineBytes.size < UInt64.size ∧
      (read (noted twoRows) nineBytes ((), [])).2.2.2 =
        [.bind true, .row 1 4 ⟨#[1, 1, 1, 1]⟩, .row 0 4 ⟨#[0, 0, 0, 0]⟩, .takeError 0x502, .unbind] ∧
      ∃ pixels, read twoRows nineBytes () = (.failed (.gl 0x502), pixels, ()) ∧
        pixels.size = nineBytes.size ∧ ∀ i, 8 ≤ i → pixels[i]? = nineBytes[i]? := by
  have hfits : frameBytes twoRows.width twoRows.height ≤ nineBytes.size := by decide
  have hsize : nineBytes.size < UInt64.size := by decide
  obtain ⟨hread, hwhole, row, code, -, -, -, hbehind⟩ :=
    frame_read_flipped twoRows nineBytes () hfits hsize
  exact ⟨hfits, hsize, rfl, _, hread, hwhole, hbehind⟩

end LockScreen.Proofs.FrameReadback
