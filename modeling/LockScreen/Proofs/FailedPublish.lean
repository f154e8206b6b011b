import LockScreen.Keyboard.Table
import LockScreen.Proofs.FrameTriggers
import LockScreen.Proofs.SlotUse

/-!
What becomes of a frame of which word could not be sent. It is given back to the provider that is
installed then, so that the publishing is undone if that is still the pool that gave the buffer.
Else the buffer stays in use, and another pool loses the frame that has its handle.
-/

namespace LockScreen.Proofs.FailedPublish

open LockScreen.Frame LockScreen.Render LockScreen.Repeat LockScreen.Wire
open LockScreen.Proofs.Runs LockScreen.Proofs.LoopRuns LockScreen.Proofs.LoopSteps
open LockScreen.Proofs.SlotUse
open LockScreen.Proofs.FrameTriggers (still)

variable {x : Xkb} {τ : Type}

def frameAt (memory : Memory) (index : Nat) (handle : UInt64) : Option ByteArray :=
  memory.pools[index]?.bind (·.frame? handle)

theorem frameAt_set {memory : Memory} {index : Nat} {pool filled : Pool}
    (hpool : memory.pools[index]? = some pool) (other : Nat) (handle : UInt64) :
    frameAt { memory with pools := memory.pools.set index filled } other handle =
      if other = index then filled.frame? handle else frameAt memory other handle := by
  obtain ⟨hindex, -⟩ := List.getElem?_eq_some_iff.mp hpool
  by_cases hother : other = index
  · rw [if_pos hother, hother, frameAt, List.getElem?_set_self hindex]
    rfl
  · rw [if_neg hother, frameAt, List.getElem?_set_ne (Ne.symm hother)]
    rfl

theorem frameAt_release (memory : Memory) (index other : Nat) (handle handle' : UInt64) :
    frameAt ((Provider.pool index).release memory handle) other handle' =
      if other = index ∧ handle' = handle then none else frameAt memory other handle' := by
  by_cases hother : other = index
  · subst hother
    simp only [frameAt, Provider.release, List.getElem?_modify_eq, true_and]
    cases memory.pools[other]? with
    | none => split <;> rfl
    | some pool => exact frame?_release pool handle handle'
  · rw [if_neg fun h => hother h.1]
    simp only [frameAt, Provider.release]
    rw [List.getElem?_modify_ne _ _ (Ne.symm hother)]

section Attempts

variable (api : Target τ) {course : Course x τ}

theorem run_others (deeds : List Deed) (hdeeds : ∀ deed ∈ deeds, ∀ memory, deed ≠ .memory memory) :
    (run (step api) course (deeds.map .others)).machine.memory = course.machine.memory ∧
      (run (step api) course (deeds.map .others)).place = course.place := by
  induction deeds generalizing course with
  | nil => exact ⟨rfl, rfl⟩
  | cons deed rest ih =>
      obtain ⟨hmemory, hplace⟩ := @ih (step api course (.others deed)) fun other hother =>
        hdeeds other (List.mem_cons_of_mem _ hother)
      refine ⟨hmemory.trans ?_, hplace⟩
      have hdeed := hdeeds deed List.mem_cons_self
      cases deed with
      | memory held => exact absurd rfl (hdeed held)
      | ask | look | provide | stop | join | input | outlet => rfl

theorem step_acquiring {issuer : Nat} {pool : Pool} (world : World)
    (hplace : course.place = .acquiring)
    (hissuer : course.machine.life.provider = some (.pool issuer))
    (hpool : course.machine.memory.pools[issuer]? = some pool)
    (hslots : pool.slots.length ≤ UInt64.size) :
    let after := step api course (.thread world)
    ∃ filled, after.machine.memory = { course.machine.memory with
        pools := course.machine.memory.pools.set issuer filled } ∧
      (after.place = .ending ∨
        ∃ handle pixels, after.place = .publishing handle ∧ Adds pool filled handle pixels) := by
  obtain ⟨machine, place, log⟩ := course
  cases hplace
  obtain ⟨after, place', entries, core, hstep, -, hadvances⟩ :=
    step_cases api world machine log .acquiring
  rw [hstep]
  cases hadvances with
  | asksNobody hnone => exact absurd (hnone.symm.trans hissuer) nofun
  | asks provider acquired memory target happenings lines hprovider hfill =>
      cases hprovider.symm.trans hissuer
      obtain ⟨filled, hmemory, -, hgranted⟩ := fillNext_pool_spec hpool hslots hfill
      refine ⟨filled, hmemory, ?_⟩
      cases hhandle : acquired.handle? with
      | none => exact Or.inl rfl
      | some handle =>
          rw [hhandle] at hgranted
          obtain ⟨-, pixels, -, -, hadds⟩ := hgranted
          exact Or.inr ⟨handle, pixels, rfl, hadds⟩
  | askingCrashes provider memory target happenings lines hprovider hfill =>
      cases hprovider.symm.trans hissuer
      obtain ⟨filled, hmemory, -, -⟩ := fillNext_pool_spec hpool hslots hfill
      exact ⟨filled, hmemory, Or.inl rfl⟩

theorem step_publishing {handle : UInt64} (world : World)
    (hplace : course.place = .publishing handle) :
    let after := step api course (.thread world)
    after.machine.memory = course.machine.memory ∧
      (after.place = .ending ∨ after.place = .returning handle) := by
  obtain ⟨machine, place, log⟩ := course
  cases hplace
  obtain ⟨after, place', entries, core, hstep, -, hadvances⟩ :=
    step_cases api world machine log (.publishing handle)
  rw [hstep]
  cases hadvances with
  | publishes => exact ⟨rfl, Or.inl rfl⟩
  | publishesNot => exact ⟨rfl, Or.inr rfl⟩

theorem step_ending (world : World) (hplace : course.place = .ending) (handle : UInt64) :
    (step api course (.thread world)).place ≠ .returning handle := by
  obtain ⟨machine, place, log⟩ := course
  cases hplace
  obtain ⟨after, place', entries, core, hstep, -, hadvances⟩ := step_cases api world machine log .ending
  rw [hstep]
  cases hadvances with
  | ends | died => exact nofun

theorem memory_returning {handle : UInt64} (world : World) (hplace : course.place = .returning handle) :
    (step api course (.thread world)).machine.memory =
      course.machine.life.provider.elim course.machine.memory
        (·.release course.machine.memory handle) := by
  obtain ⟨machine, place, log⟩ := course
  cases hplace
  obtain ⟨after, place', entries, core, hstep, -, hadvances⟩ :=
    step_cases api world machine log (.returning handle)
  rw [hstep]
  cases hadvances with
  | keeps _ hprovider | givesBack _ provider hprovider =>
      rw [hprovider]
      rfl

/-- A buffer is filled, and word of it sent; others do something between the two, and after them. -/
def attempt (api : Target τ) (course : Course x τ) (world : World) (between behind : List Deed) :
    Course x τ :=
  let filled := step api course (.thread world)
  let told := step api (run (step api) filled (between.map .others)) (.thread world)
  run (step api) told (behind.map .others)

theorem attempt_spec {world : World} {between behind : List Deed} {issuer : Nat} {pool : Pool}
    {handle : UInt64} (hplace : course.place = .acquiring)
    (hissuer : course.machine.life.provider = some (.pool issuer))
    (hpool : course.machine.memory.pools[issuer]? = some pool)
    (hslots : pool.slots.length ≤ UInt64.size)
    (hothers : ∀ deed ∈ between ++ behind, ∀ memory, deed ≠ .memory memory)
    (hfailed : (attempt api course world between behind).place = .returning handle) :
    ∃ filled pixels, Adds pool filled handle pixels ∧
      (attempt api course world between behind).machine.memory =
        { course.machine.memory with pools := course.machine.memory.pools.set issuer filled } := by
  obtain ⟨filled, hmemory, hgranted⟩ := step_acquiring api world hplace hissuer hpool hslots
  obtain ⟨hheld, hthere⟩ := @run_others _ _ api (step api course (.thread world)) between
    fun deed hdeed => hothers deed (List.mem_append_left behind hdeed)
  obtain ⟨hheld', hthere'⟩ := @run_others _ _ api
    (step api (run (step api) (step api course (.thread world)) (between.map .others)) (.thread world))
    behind fun deed hdeed => hothers deed (List.mem_append_right between hdeed)
  rw [attempt, hthere'] at hfailed
  rcases hgranted with hended | ⟨granted, pixels, hpublishing, hadds⟩
  · exact absurd hfailed (step_ending api world (hthere.trans hended) handle)
  · obtain ⟨hsame, hsent | hrefused⟩ := step_publishing api world (hthere.trans hpublishing)
    · exact absurd (hsent.symm.trans hfailed) Place.noConfusion
    · cases hrefused.symm.trans hfailed
      exact ⟨filled, pixels, hadds, ((hheld'.trans hsame).trans hheld).trans hmemory⟩

end Attempts

/-- A frame of which word could not be sent is taken back, as if it had not been published, exactly
when the pool that gave its buffer is still installed. When it is another pool, the buffer stays in
use, and that pool has no frame under the handle any more. -/
theorem undone_iff_installed (api : Target τ) (course : Course x τ) (world : World)
    (between behind : List Deed) (issuer : Nat) (pool : Pool) (handle : UInt64)
    (hplace : course.place = .acquiring)
    (hissuer : course.machine.life.provider = some (.pool issuer))
    (hpool : course.machine.memory.pools[issuer]? = some pool)
    (hslots : pool.slots.length ≤ UInt64.size)
    (hothers : ∀ deed ∈ between ++ behind, ∀ memory, deed ≠ .memory memory)
    (hfailed : (attempt api course world between behind).place = .returning handle) :
    let told := attempt api course world between behind
    let after := (step api told (.thread world)).machine.memory
    ((∀ index other, frameAt after index other = frameAt course.machine.memory index other) ↔
        told.machine.life.provider = some (.pool issuer)) ∧
      ∀ index, told.machine.life.provider = some (.pool index) → index ≠ issuer →
        (frameAt after issuer handle).isSome = true ∧ frameAt after index handle = none := by
  intro told after
  obtain ⟨filled, pixels, hadds, hmemory⟩ :=
    attempt_spec api hplace hissuer hpool hslots hothers hfailed
  have hissued (index : Nat) (other : UInt64) : frameAt told.machine.memory index other =
      if index = issuer then filled.frame? other
      else frameAt course.machine.memory index other := by
    rw [show told.machine.memory = _ from hmemory]
    exact frameAt_set hpool index other
  have hbefore (other : UInt64) :
      frameAt course.machine.memory issuer other = pool.frame? other := by
    simp only [frameAt, hpool, Option.bind_some]
  have hreturned : after = told.machine.life.provider.elim told.machine.memory
      (·.release told.machine.memory handle) := memory_returning api world hfailed
  -- Nobody but the pool itself frees a slot of it, so that the buffer stays in use if another one
  -- is asked.
  have hleft (hgone : told.machine.life.provider ≠ some (.pool issuer)) :
      frameAt after issuer handle = some pixels := by
    have hsame : frameAt after issuer handle = frameAt told.machine.memory issuer handle := by
      rw [hreturned]
      rcases hprovider : told.machine.life.provider with _ | index | index
      · rfl
      · rw [Option.elim_some, frameAt_release, if_neg]
        rintro ⟨rfl, -⟩
        exact hgone hprovider
      · rfl
    rw [hsame, hissued, if_pos rfl, hadds.added]
  refine ⟨⟨fun hundone => ?_, fun hinstalled index other => ?_⟩, fun index hother hne => ⟨?_, ?_⟩⟩
  · apply Decidable.byContradiction
    intro hgone
    have hnone := hundone issuer handle
    rw [hleft hgone, hbefore, hadds.fresh] at hnone
    exact Option.some_ne_none pixels hnone
  · rw [hreturned, hinstalled, Option.elim_some, frameAt_release, hissued]
    by_cases hindex : index = issuer
    · rw [hindex, if_pos rfl, hbefore, ← hadds.release, frame?_release]
      simp only [true_and]
    · rw [if_neg fun h => hindex h.1, if_neg hindex]
  · rw [hleft]
    · rfl
    · rw [hother]
      exact fun hsame => hne (by simpa using hsame)
  · rw [hreturned, hother, Option.elim_some, frameAt_release, if_pos ⟨rfl, rfl⟩]

def fullPools : Course (.ofTables []) Unit :=
  let life : Life := { Life.new with
    thread := .serving
    loadRequested := true
    provider := some (.pool 1) }
  let turn : Move := .thread ⟨fun _ => .memory [], fun _ => 0, .answered⟩
  run (step still) (start life none () .new .new ⟨[.ofSize 4 1, .ofSize 4 1], []⟩)
    (List.replicate 10 turn ++ .others (.provide (.pool 0)) ::
      .others (.outlet Outlet.new.closeReader) :: .others .ask :: List.replicate 7 turn)

theorem undone_at_full_pools :
    let world : World := ⟨fun _ => .memory [], fun _ => 0, .answered⟩
    let told := attempt still fullPools world [.provide (.pool 0)] []
    fullPools.place = .acquiring ∧ told.place = .returning 0 ∧
      (frameAt fullPools.machine.memory 1 0).isSome = true ∧
      (∀ index other, frameAt (step still told (.thread world)).machine.memory index other =
        frameAt fullPools.machine.memory index other) := by
  intro world told
  have hplace : fullPools.place = .acquiring := by rfl
  have hfailed : told.place = .returning 0 := by rfl
  have hother : (frameAt fullPools.machine.memory 1 0).isSome = true := by rfl
  obtain ⟨hundone, -⟩ := undone_iff_installed still fullPools world [.provide (.pool 0)] [] 0
    (.ofSize 4 1) 0 hplace rfl rfl (by decide) (by simp) hfailed
  exact ⟨hplace, hfailed, hother, hundone.mpr rfl⟩

/-- The second pool is installed again while word of the frame in the first is sent, and loses its
own. -/
theorem released_at_other_pool :
    ¬ ∀ (x : Xkb) (api : Target Unit) (course : Course x Unit) (world : World)
      (between behind : List Provider) (issuer : Nat) (handle : UInt64),
      course.place = .acquiring → course.machine.life.provider = some (.pool issuer) →
      (attempt api course world (between.map .provide) (behind.map .provide)).place =
        .returning handle →
      ∀ index other,
        (frameAt (step api (attempt api course world (between.map .provide)
          (behind.map .provide)) (.thread world)).machine.memory index other).isSome =
        (frameAt course.machine.memory index other).isSome := by
  intro hundone
  have hkept := hundone _ still fullPools ⟨fun _ => .memory [], fun _ => 0, .answered⟩ [.pool 1] [] 0 0
    rfl rfl rfl 1 0
  have hlost : (false : Bool) = true := hkept
  exact Bool.false_ne_true hlost

end LockScreen.Proofs.FailedPublish
