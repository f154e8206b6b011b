import LockScreen.Keyboard.Table
import LockScreen.Proofs.LoopSteps
import LockScreen.Proofs.PipeRecords
import LockScreen.Proofs.SlotUse
import LockScreen.Proofs.TargetRefinement
import LockScreen.Render.Screen
import LockScreen.Render.Stage

/-!
Frames between a render thread and the consumer of its pool. A ledger is kept of the frames of which
word was sent and that were not released: between two iterations these are the slots in use, and
until it is released every one of them stays as it was read back.
-/

namespace LockScreen.Proofs.FrameLedger

open LockScreen.Frame LockScreen.Render LockScreen.Repeat LockScreen.Wire
open LockScreen.Proofs.Runs LockScreen.Proofs.LoopRuns LockScreen.Proofs.LoopSteps
open LockScreen.Proofs.PipeRecords LockScreen.Proofs.SlotUse LockScreen.Proofs.TargetRefinement

variable {x : Xkb} {σ τ : Type}

inductive Submits : Outlet → Outlet → Prop where
  | refl (outlet : Outlet) : Submits outlet outlet
  | submit {before after : Outlet} (secret : String) :
      Submits before after → Submits before (after.submit secret).2.1

/-- A scene can submit secrets, and it has no other way to the consumer. -/
def OnlySubmits (api : Target τ) : Prop :=
  ∀ state outlet event, Submits outlet (api.handle state outlet event).2.2.1

theorem submits_handle (prompt : Prompt) (outlet : Outlet) (event : SceneEvent) :
    Submits outlet (prompt.handle outlet event).2.2.1 := by
  unfold Prompt.handle
  dsimp only
  split
  · exact .refl outlet
  · rename_i secret _
    have hsubmit := Submits.submit secret (.refl outlet)
    rcases hsent : outlet.submit secret with ⟨_ | _, sent, lines⟩
    · rwa [hsent] at hsubmit
    · rwa [hsent] at hsubmit

theorem onlySubmits_stage (toml : Toml.Library) (files : FileTree) (path : String) :
    OnlySubmits (Stage.target toml files path : Target (Stage σ)) :=
  fun stage => submits_handle stage.prompt

theorem onlySubmits_screen (device : Graphics.Device σ) (toml : Toml.Library) (files : FileTree)
    (path : String) : OnlySubmits (Screen.target device toml files path) :=
  fun screen => submits_handle screen.prompt

theorem Submits.announces {before after : Outlet} (h : Submits before after)
    {frames : List UInt64} (hframes : Announces before frames) : Announces after frames := by
  induction h with
  | refl => exact hframes
  | submit secret _ ih => exact announces_submit ih secret

def transcriber : Scribe τ ByteArray where
  load _ bytes := bytes
  draw _ _ := .empty
  read pixels _ := pixels

structure Ledger (x : Xkb) (τ : Type) where
  course : Course x (τ × ByteArray)
  /-- The frames of which word was sent and that were not released, each with the bytes read back
  for it. -/
  out : List (UInt64 × ByteArray)
  held : List UInt64

inductive Turn where
  | thread (world : World)
  | ask
  | look
  | stop
  | input (pipe : Pipe)
  | receive
  | release (handle : UInt64)
  | exchange (pipe : Pipe)

def sentFrame (course : Course x (τ × ByteArray)) : List (UInt64 × ByteArray) :=
  match course.place with
  | .publishing handle =>
      match (course.machine.outlet.frameReady handle).1 with
      | .ok () => [(handle, course.machine.target.2)]
      | .error _ => []
  | _ => []

namespace Ledger

def others (api : Target τ) (ledger : Ledger x τ) (deed : Deed) : Ledger x τ :=
  { ledger with course := step (transcriber.attend api) ledger.course (.others deed) }

/-- A turn. The control thread stops only a thread it owns, and the consumer releases only what it
holds. -/
def take (api : Target τ) (ledger : Ledger x τ) : Turn → Ledger x τ
  | .thread world =>
      { ledger with
        course := step (transcriber.attend api) ledger.course (.thread world)
        out := ledger.out ++ sentFrame ledger.course }
  | .ask => ledger.others api .ask
  | .look => ledger.others api .look
  | .stop => if ledger.course.machine.life.owned then ledger.others api .stop else ledger
  | .input pipe => ledger.others api (.input pipe)
  | .receive =>
      let (outcome, outlet, _) := ledger.course.machine.outlet.receive
      { ledger.others api (.outlet outlet) with held := ledger.held ++ heardFrames outcome }
  | .release handle =>
      if handle ∈ ledger.held then
        { ledger.others api
            (.memory ((Provider.pool 0).release ledger.course.machine.memory handle)) with
          out := ledger.out.eraseP (·.1 == handle)
          held := ledger.held.erase handle }
      else ledger
  | .exchange pipe =>
      let outlet := ledger.course.machine.outlet
      ledger.others api (.outlet { outlet with pipe := { pipe with queue := outlet.pipe.queue } })

end Ledger

def pooled (life : Life) : Life :=
  { life with provider := some (.pool 0) }

def Ledger.start (life : Life) (timing : Option Timing) (target : τ) (input pipe : Pipe)
    (heap : Handoff.Heap) (pool : Pool) : Ledger x τ where
  course := LoopRuns.start (pooled life) timing (target, .empty) input
    ⟨{ pipe with queue := [] }, heap⟩ ⟨[pool], []⟩
  out := []
  held := []

section Accounts

/-- The frames of a pool that can be read are these, and there is one for each handle. -/
structure Accounts (pool : Pool) (frames : List (UInt64 × ByteArray)) : Prop where
  nodup : (frames.map Prod.fst).Nodup
  frame : ∀ handle bytes, pool.frame? handle = some bytes ↔ (handle, bytes) ∈ frames

variable {pool after : Pool} {frames : List (UInt64 × ByteArray)} {handle : UInt64}
  {bytes : ByteArray}

theorem accounts_ofSize (size slots : Nat) : Accounts (.ofSize size slots) [] := by
  refine ⟨List.nodup_nil, fun handle bytes => iff_of_false ?_ List.not_mem_nil⟩
  simp only [Pool.ofSize, Pool.frame?, List.getElem?_replicate]
  split
  · rename_i slot hslot
    split at hslot
    · cases hslot
      exact (Option.some_ne_none bytes).symm
    · cases hslot
  · exact (Option.some_ne_none bytes).symm

theorem Accounts.same (h : Accounts pool frames)
    (hsame : ∀ handle, after.frame? handle = pool.frame? handle) : Accounts after frames :=
  ⟨h.nodup, fun handle bytes => by rw [hsame, h.frame]⟩

theorem Accounts.mem_handles (h : Accounts pool frames) :
    handle ∈ frames.map Prod.fst ↔ (pool.frame? handle).isSome = true := by
  rw [List.mem_map, Option.isSome_iff_exists]
  constructor
  · rintro ⟨⟨_, bytes⟩, hmem, rfl⟩
    exact ⟨bytes, (h.frame _ bytes).mpr hmem⟩
  · rintro ⟨bytes, hbytes⟩
    exact ⟨(handle, bytes), (h.frame handle bytes).mp hbytes, rfl⟩

theorem Accounts.add (h : Accounts pool frames) (hadds : Adds pool after handle bytes) :
    Accounts after (frames ++ [(handle, bytes)]) := by
  have hnew : handle ∉ frames.map Prod.fst := by
    rw [h.mem_handles, hadds.fresh]
    exact Bool.false_ne_true
  refine ⟨?_, fun other bytes' => ?_⟩
  · rw [List.map_append, List.nodup_append]
    refine ⟨h.nodup, List.pairwise_singleton _ _, fun other hother last hlast hsame => ?_⟩
    rw [hsame, List.mem_singleton.mp hlast] at hother
    exact hnew hother
  · rw [List.mem_append, List.mem_singleton, Prod.mk.injEq]
    by_cases hother : other = handle
    · subst hother
      have hnone : (other, bytes') ∉ frames := fun hmem =>
        hnew (List.mem_map.mpr ⟨_, hmem, rfl⟩)
      rw [hadds.added, Option.some.injEq]
      constructor
      · exact fun hbytes => Or.inr ⟨rfl, hbytes.symm⟩
      · rintro (hmem | ⟨-, hbytes⟩)
        · exact absurd hmem hnone
        · exact hbytes.symm
    · rw [hadds.others other hother, h.frame]
      constructor
      · exact Or.inl
      · rintro (hmem | ⟨hsame, -⟩)
        · exact hmem
        · exact absurd hsame hother

theorem eraseP_handle (frames : List (UInt64 × ByteArray)) (handle : UInt64) :
    (frames.eraseP (·.1 == handle)).map Prod.fst = (frames.map Prod.fst).erase handle := by
  rw [List.erase_eq_eraseP', List.eraseP_map]
  rfl

theorem mem_eraseP_handle (hnodup : (frames.map Prod.fst).Nodup) (entry : UInt64 × ByteArray) :
    entry ∈ frames.eraseP (·.1 == handle) ↔ entry.1 ≠ handle ∧ entry ∈ frames := by
  constructor
  · intro hmem
    have hhandle : entry.1 ∈ (frames.map Prod.fst).erase handle := by
      rw [← eraseP_handle]
      exact List.mem_map.mpr ⟨entry, hmem, rfl⟩
    exact ⟨(hnodup.mem_erase_iff.mp hhandle).1, List.mem_of_mem_eraseP hmem⟩
  · rintro ⟨hne, hmem⟩
    exact (List.mem_eraseP_of_neg (by simpa using hne)).mpr hmem

theorem Accounts.release (h : Accounts pool frames) (handle : UInt64) :
    Accounts (pool.release handle) (frames.eraseP (·.1 == handle)) := by
  refine ⟨?_, fun other bytes => ?_⟩
  · rw [eraseP_handle]
    exact h.nodup.erase handle
  · rw [frame?_release, mem_eraseP_handle h.nodup]
    split
    · rename_i hother
      exact iff_of_false (Option.some_ne_none bytes).symm fun hmem => hmem.1 hother
    · rename_i hother
      rw [h.frame]
      exact (and_iff_right hother).symm

theorem Accounts.undo (h : Accounts pool (frames ++ [(handle, bytes)])) :
    Accounts (pool.release handle) frames := by
  have hnew : handle ∉ frames.map Prod.fst := by
    have hnodup := h.nodup
    rw [List.map_append, List.nodup_append] at hnodup
    exact fun hmem => hnodup.2.2 handle hmem handle List.mem_cons_self rfl
  have herase : (frames ++ [(handle, bytes)]).eraseP (·.1 == handle) = frames := by
    rw [List.eraseP_append_right _ fun entry hentry => ?_]
    · simp
    · rw [Bool.not_eq_true, beq_eq_false_iff_ne]
      rintro rfl
      exact hnew (List.mem_map.mpr ⟨entry, hentry, rfl⟩)
  have hreleased := h.release handle
  rwa [herase] at hreleased

end Accounts

def inFlight (course : Course x (τ × ByteArray)) : List (UInt64 × ByteArray) :=
  match course.place with
  | .publishing handle | .returning handle => [(handle, course.machine.target.2)]
  | _ => []

/-- What the pool holds is accounted for, and so is what the consumer was or will be told of. -/
structure Balanced (slots : Nat) (ledger : Ledger x τ) : Prop where
  provider : ledger.course.machine.life.provider = some (.pool 0)
  books : ∃ pool, ledger.course.machine.memory.pools = [pool] ∧ pool.slots.length = slots ∧
    Accounts pool (ledger.out ++ inFlight ledger.course)
  consumer : ∃ frames, Announces ledger.course.machine.outlet frames ∧
    (ledger.held ++ frames).Perm (ledger.out.map Prod.fst)

section Steps

variable {api : Target τ} {machine after : Machine x (τ × ByteArray)}

structure Aside (before after : Machine x (τ × ByteArray)) : Prop where
  provider : after.life.provider = before.life.provider
  memory : after.memory = before.memory
  announces : ∀ frames, Announces before.outlet frames → Announces after.outlet frames

theorem Aside.refl (machine : Machine x (τ × ByteArray)) : Aside machine machine :=
  ⟨rfl, rfl, fun _ => id⟩

theorem Aside.trans {before between after : Machine x (τ × ByteArray)}
    (h : Aside before between) (h' : Aside between after) : Aside before after :=
  ⟨h'.provider.trans h.provider, h'.memory.trans h.memory,
    fun frames hframes => h'.announces frames (h.announces frames hframes)⟩

theorem aside_die (machine : Machine x (τ × ByteArray)) (crashed : Bool) :
    Aside machine (machine.die crashed).1 :=
  ⟨(finish_keeps machine.life crashed).2, rfl, announces_of_queue rfl⟩

theorem aside_attempted : Aside machine (attempted (transcriber.attend api) machine) :=
  ⟨rfl, rfl, fun _ => id⟩

theorem aside_handed (honly : OnlySubmits api) (event : SceneEvent) :
    Aside machine (handed (transcriber.attend api) machine event) :=
  ⟨rfl, rfl, fun _ hframes => (honly machine.target.1 machine.outlet event).announces hframes⟩

theorem aside_painted : Aside machine (painted (transcriber.attend api) machine) :=
  ⟨rfl, rfl, fun _ => id⟩

end Steps

section Preservation

variable {api : Target τ} {slots : Nat} {ledger : Ledger x τ}
  {machine after : Machine x (τ × ByteArray)} {place place' : Place} {log log' : List Entry}
  {out : List (UInt64 × ByteArray)} {held : List UInt64}

theorem Balanced.aside (h : Balanced slots ⟨⟨machine, place, log⟩, out, held⟩)
    (haside : Aside machine after)
    (hflight : inFlight ⟨after, place', log'⟩ = inFlight ⟨machine, place, log⟩) :
    Balanced slots ⟨⟨after, place', log'⟩, out, held⟩ := by
  obtain ⟨hprovider, ⟨pool, hpool, hlength, haccounts⟩, frames, hframes, hperm⟩ := h
  refine ⟨haside.provider.trans hprovider, ⟨pool, ?_, hlength, ?_⟩, frames,
    haside.announces frames hframes, hperm⟩
  · show after.memory.pools = [pool]
    rw [haside.memory]
    exact hpool
  · show Accounts pool (out ++ inFlight ⟨after, place', log'⟩)
    rw [hflight]
    exact haccounts

theorem Balanced.unsent (h : Balanced slots ⟨⟨machine, place, log⟩, out, held⟩)
    (haside : Aside machine after)
    (hflight : inFlight ⟨after, place', log'⟩ = inFlight ⟨machine, place, log⟩) :
    Balanced slots ⟨⟨after, place', log'⟩, out ++ [], held⟩ := by
  rw [List.append_nil]
  exact h.aside haside hflight

theorem Balanced.asked (hslots : slots ≤ UInt64.size)
    (h : Balanced slots ⟨⟨machine, .acquiring, log⟩, out, held⟩) {provider : Provider}
    {acquired : Acquisition} {memory : Memory} {target : τ × ByteArray}
    {happenings : List Happening} {lines : List Log.Line}
    (hprovider : machine.life.provider = some provider)
    (hfill : provider.fillNext machine.memory (Machine.fill (transcriber.attend api))
      (machine.target, []) = (acquired, memory, (target, happenings), lines)) :
    Balanced slots ⟨⟨{ machine with memory, target }, acquired.handle?.elim .ending .publishing,
      log'⟩, out ++ [], held⟩ := by
  obtain ⟨hpooled, ⟨pool, hpool, hlength, haccounts⟩, hconsumer⟩ := h
  have haccounts : Accounts pool out := by
    rw [← List.append_nil out]
    exact haccounts
  cases hprovider.symm.trans hpooled
  have hfirst : machine.memory.pools[0]? = some pool := congrArg (·[0]?) hpool
  obtain ⟨filled, rfl, hfilled, hgranted⟩ := fillNext_pool_spec hfirst (hlength ▸ hslots) hfill
  rw [List.append_nil]
  refine ⟨hpooled, ⟨filled, congrArg (·.set 0 filled) hpool, hfilled.trans hlength, ?_⟩,
    hconsumer⟩
  cases hhandle : acquired.handle? with
  | none =>
      rw [hhandle] at hgranted
      show Accounts filled (out ++ [])
      rw [List.append_nil]
      exact haccounts.same hgranted
  | some handle =>
      rw [hhandle] at hgranted
      obtain ⟨pixels, pixels', lines, hread, hadds⟩ := hgranted
      have hbytes : target.2 = pixels' := by
        have hleft := congrArg (·.2.1) hread
        have hnoted := congrArg (·.2.2.1.2) hread
        exact hnoted.symm.trans hleft
      show Accounts filled (out ++ [(handle, target.2)])
      rw [hbytes]
      exact haccounts.add hadds

section Publishing

variable {handle : UInt64} {outlet : Outlet} {lines : List Log.Line}

theorem Balanced.published (h : Balanced slots ⟨⟨machine, .publishing handle, log⟩, out, held⟩)
    (hsent : machine.outlet.frameReady handle = (.ok (), outlet, lines)) :
    Balanced slots ⟨⟨{ machine with outlet }, .ending, log'⟩,
      out ++ [(handle, machine.target.2)], held⟩ := by
  obtain ⟨hprovider, ⟨pool, hpool, hlength, haccounts⟩, frames, hframes, hperm⟩ := h
  have htold := announces_frameReady hframes handle
  rw [hsent] at htold
  rcases htold with ⟨-, hannounces⟩ | ⟨fault, herror, -⟩
  · refine ⟨hprovider, ⟨pool, hpool, hlength, ?_⟩, frames ++ [handle], hannounces, ?_⟩
    · show Accounts pool ((out ++ [(handle, machine.target.2)]) ++ [])
      rw [List.append_nil]
      exact haccounts
    · show (held ++ (frames ++ [handle])).Perm ((out ++ [(handle, machine.target.2)]).map Prod.fst)
      rw [← List.append_assoc, List.map_append]
      exact hperm.append_right [handle]
  · cases herror

theorem Balanced.publishedNot {fault : Wire.Error}
    (h : Balanced slots ⟨⟨machine, .publishing handle, log⟩, out, held⟩)
    (hsent : machine.outlet.frameReady handle = (.error fault, outlet, lines)) :
    Balanced slots ⟨⟨{ machine with outlet }, .returning handle, log'⟩, out ++ [], held⟩ := by
  obtain ⟨hprovider, hbooks, frames, hframes, hperm⟩ := h
  have htold := announces_frameReady hframes handle
  rw [hsent] at htold
  rw [List.append_nil]
  rcases htold with ⟨hok, -⟩ | ⟨fault', -, hannounces⟩
  · cases hok
  · exact ⟨hprovider, hbooks, frames, hannounces, hperm⟩

theorem Balanced.givenBack (h : Balanced slots ⟨⟨machine, .returning handle, log⟩, out, held⟩)
    {provider : Provider} (hprovider : machine.life.provider = some provider) :
    Balanced slots ⟨⟨{ machine with memory := provider.release machine.memory handle }, .ending,
      log'⟩, out ++ [], held⟩ := by
  obtain ⟨hpooled, ⟨pool, hpool, hlength, haccounts⟩, hconsumer⟩ := h
  cases hprovider.symm.trans hpooled
  rw [List.append_nil]
  refine ⟨hpooled, ⟨pool.release handle, ?_, (length_release pool handle).trans hlength, ?_⟩,
    hconsumer⟩
  · exact congrArg (·.modify 0 (·.release handle)) hpool
  · show Accounts (pool.release handle) (out ++ [])
    rw [List.append_nil]
    exact haccounts.undo

end Publishing

theorem balanced_thread (honly : OnlySubmits api) (hslots : slots ≤ UInt64.size)
    (h : Balanced slots ledger) (world : World) :
    Balanced slots (ledger.take api (.thread world)) := by
  obtain ⟨⟨machine, place, log⟩, out, held⟩ := ledger
  obtain ⟨after, place', entries, core, hstep, -, hadvances⟩ :=
    step_cases (transcriber.attend api) world machine log place
  rw [Ledger.take, hstep]
  cases hadvances with
  | leaves => exact h.unsent (aside_die machine false) rfl
  | begins | loadsNot | delivered | drawsNot | asksNobody | ends | died | gone =>
      exact h.unsent (.refl machine) rfl
  | listens | ticks | takes => exact h.unsent ⟨rfl, rfl, fun _ => id⟩ rfl
  | loads => exact h.unsent aside_attempted rfl
  | loadCrashes => exact h.unsent (aside_attempted.trans (aside_die _ true)) rfl
  | delivers event => exact h.unsent (aside_handed honly event) rfl
  | deliveryCrashes event => exact h.unsent ((aside_handed honly event).trans (aside_die _ true)) rfl
  | draws | drawsInVain => exact h.unsent aside_painted rfl
  | drawingCrashes => exact h.unsent (aside_painted.trans (aside_die _ true)) rfl
  | asks provider acquired memory target happenings lines hprovider hfill =>
      exact h.asked hslots hprovider hfill
  | askingCrashes provider memory target happenings lines hprovider hfill =>
      have hasked : Balanced slots ⟨⟨{ machine with memory, target }, .ending, log⟩, out ++ [], held⟩ :=
        h.asked hslots hprovider hfill
      exact hasked.aside (aside_die _ true) rfl
  | publishes handle outlet lines hsent =>
      simp only [sentFrame, hsent]
      exact h.published hsent
  | publishesNot handle fault outlet lines hsent =>
      simp only [sentFrame, hsent]
      exact h.publishedNot hsent
  | keeps handle hprovider => exact absurd (hprovider.symm.trans h.provider) nofun
  | givesBack handle provider hprovider => exact h.givenBack hprovider

theorem Balanced.others (h : Balanced slots ledger) {deed : Deed}
    (haside : Aside ledger.course.machine (deed.act ledger.course.machine))
    (htarget : (deed.act ledger.course.machine).target = ledger.course.machine.target) :
    Balanced slots (ledger.others api deed) := by
  obtain ⟨⟨machine, place, log⟩, out, held⟩ := ledger
  refine h.aside haside ?_
  have hbytes : (deed.act machine).target.2 = machine.target.2 := congrArg Prod.snd htarget
  simp only [inFlight, hbytes]

theorem balanced_receive (h : Balanced slots ledger) :
    Balanced slots (ledger.take api .receive) := by
  obtain ⟨hprovider, hbooks, frames, hframes, hperm⟩ := h
  obtain ⟨later, hfirst, hlater⟩ := announces_receive hframes
  refine ⟨hprovider, hbooks, later, hlater, ?_⟩
  show (ledger.held ++ heardFrames ledger.course.machine.outlet.receive.1 ++ later).Perm _
  rw [List.append_assoc, ← hfirst]
  exact hperm

theorem balanced_release (h : Balanced slots ledger) (handle : UInt64) :
    Balanced slots (ledger.take api (.release handle)) := by
  by_cases hheld : handle ∈ ledger.held
  · obtain ⟨hprovider, ⟨pool, hpool, hlength, haccounts⟩, frames, hframes, hperm⟩ := h
    have hout : handle ∈ ledger.out.map Prod.fst :=
      hperm.subset (List.mem_append_left frames hheld)
    simp only [Ledger.take, if_pos hheld]
    refine ⟨hprovider, ⟨pool.release handle, ?_, (length_release pool handle).trans hlength, ?_⟩,
      frames, hframes, ?_⟩
    · exact congrArg (·.modify 0 (·.release handle)) hpool
    · have hreleased := haccounts.release handle
      obtain ⟨entry, hentry, hhandle⟩ := List.mem_map.mp hout
      have herase : (ledger.out ++ inFlight ledger.course).eraseP (·.1 == handle) =
          ledger.out.eraseP (·.1 == handle) ++ inFlight ledger.course :=
        List.eraseP_append_left (by simpa using hhandle) _ hentry
      rwa [herase] at hreleased
    · show (ledger.held.erase handle ++ frames).Perm _
      rw [eraseP_handle, ← List.erase_append_left frames hheld]
      exact hperm.erase handle
  · simp only [Ledger.take, if_neg hheld]
    exact h

theorem balanced_take (honly : OnlySubmits api) (hslots : slots ≤ UInt64.size)
    (h : Balanced slots ledger) (turn : Turn) : Balanced slots (ledger.take api turn) := by
  cases turn with
  | thread world => exact balanced_thread honly hslots h world
  | ask => exact h.others ⟨rfl, rfl, fun _ => id⟩ rfl
  | look => exact h.others ⟨(look_keeps _).2.2, rfl, fun _ => id⟩ rfl
  | stop =>
      simp only [Ledger.take]
      split
      · rename_i howned
        exact h.others ⟨(requestStop_keeps _).2.2 howned, rfl, fun _ => id⟩ rfl
      · exact h
  | input pipe => exact h.others ⟨rfl, rfl, fun _ => id⟩ rfl
  | receive => exact balanced_receive h
  | release handle => exact balanced_release h handle
  | exchange pipe => exact h.others ⟨rfl, rfl, announces_of_queue rfl⟩ rfl

end Preservation

theorem balanced_start (life : Life) (timing : Option Timing) (target : τ) (input pipe : Pipe)
    (heap : Handoff.Heap) (size slots : Nat) :
    Balanced slots (Ledger.start life timing target input pipe heap (.ofSize size slots) :
      Ledger x τ) where
  provider := rfl
  books := ⟨.ofSize size slots, rfl, List.length_replicate, accounts_ofSize size slots⟩
  consumer := ⟨[], ⟨[], rfl, rfl⟩, .refl []⟩

theorem course_run (api : Target τ) (ledger : Ledger x τ) (turns : List Turn) :
    ∃ moves, (run (Ledger.take api) ledger turns).course =
      run (step (transcriber.attend api)) ledger.course moves := by
  induction turns generalizing ledger with
  | nil => exact ⟨[], rfl⟩
  | cons turn rest ih =>
      obtain ⟨moves, hmoves⟩ := ih (ledger.take api turn)
      have hturn : ∃ first, (ledger.take api turn).course =
          run (step (transcriber.attend api)) ledger.course first := by
        cases turn with
        | thread world => exact ⟨[.thread world], rfl⟩
        | ask | look | input | receive | exchange => exact ⟨[.others _], rfl⟩
        | stop =>
            simp only [Ledger.take]
            split
            · exact ⟨[.others _], rfl⟩
            · exact ⟨[], rfl⟩
        | release handle =>
            simp only [Ledger.take]
            split
            · exact ⟨[.others _], rfl⟩
            · exact ⟨[], rfl⟩
      obtain ⟨first, hfirst⟩ := hturn
      refine ⟨first ++ moves, ?_⟩
      rw [run_append, ← hfirst]
      exact hmoves

/-- In every run of a render loop with a new pool of any number of slots, whatever fails in it, and
among all the consumer does and others do: no handle is out twice, every frame that is out stays as
it was read back, and between two iterations just the slots of the frames that are out are in use.
The frames that are out are those the consumer holds and those it will be told of. -/
theorem slots_conserved (api : Target τ) (honly : OnlySubmits api) (life : Life)
    (timing : Option Timing) (target : τ) (input pipe : Pipe) (heap : Handoff.Heap)
    (size : Nat) (slots : UInt64) (turns : List Turn) :
    let opened : Ledger x τ :=
      .start life timing target input pipe heap (.ofSize size slots.toNat)
    let ledger := run (Ledger.take api) opened turns
    let machine := ledger.course.machine
    (∃ moves, courseImage Prod.fst ledger.course =
      run (step api) (courseImage Prod.fst opened.course) moves) ∧
    ∃ pool, machine.memory.pools = [pool] ∧ pool.slots.length = slots.toNat ∧
      (ledger.out.map Prod.fst).Nodup ∧
      (∀ entry ∈ ledger.out, pool.frame? entry.1 = some entry.2) ∧
      (ledger.course.place = .checking → ∀ index slot, pool.slots[index]? = some slot →
        (slot.inUse = true ↔ UInt64.ofNat index ∈ ledger.out.map Prod.fst)) ∧
      ∃ frames, Announces machine.outlet frames ∧
        (ledger.held ++ frames).Perm (ledger.out.map Prod.fst) := by
  intro opened ledger machine
  have hslots : slots.toNat ≤ UInt64.size := Nat.le_of_lt slots.toNat_lt
  have hbalanced : Balanced slots.toNat ledger :=
    invariant_run (I := Balanced slots.toNat) (fun _ turn h => balanced_take honly hslots h turn)
      (balanced_start life timing target input pipe heap size slots.toNat) turns
  obtain ⟨-, ⟨pool, hpool, hlength, haccounts⟩, hconsumer⟩ := hbalanced
  obtain ⟨moves, hmoves⟩ := course_run api opened turns
  refine ⟨⟨moves, ?_⟩, pool, hpool, hlength, ?_, ?_, ?_, hconsumer⟩
  · rw [show ledger.course = run (step (transcriber.attend api)) opened.course moves from hmoves]
    exact (run_image (attend_refines transcriber api) opened.course moves).symm
  · have hnodup := haccounts.nodup
    rw [List.map_append] at hnodup
    exact (List.nodup_append.mp hnodup).1
  · intro entry hentry
    exact (haccounts.frame entry.1 entry.2).mpr (List.mem_append_left _ hentry)
  · intro hplace index slot hslot
    have hflight : inFlight ledger.course = [] := by
      simp only [inFlight, hplace]
    rw [hflight, List.append_nil] at haccounts
    rw [inUse_iff (Nat.le_trans (Nat.le_of_eq hlength) hslots) hslot]
    exact haccounts.mem_handles.symm

def counting : Target UInt8 where
  load count := (.done, count, [])
  handle count outlet _ := (some false, count, outlet, [])
  draw count := (.done, count, [])
  read count _ := (.done, ⟨#[count, 0, 0, 255]⟩, count + 1, [])

/-- Two frames fill the pool, and there is no slot for the third. When the first is released, a
fourth gets its slot, and has to give it back. -/
def crowded : List Turn :=
  let turns (count : Nat) : List Turn :=
    List.replicate count (.thread ⟨fun _ => .memory [], fun _ => 0, .answered⟩)
  turns 10 ++ .receive :: .ask :: turns 10 ++ .ask :: turns 9 ++
    .release 0 :: .exchange Pipe.new.closeReader :: .ask :: turns 11

def crowdedLedger : Ledger (.ofTables []) UInt8 :=
  run (Ledger.take counting) (.start { Life.new with thread := .serving, loadRequested := true } none
    0 .new .new .new (.ofSize 4 2)) crowded

theorem second_frame_conserved :
    crowdedLedger.course.place = .checking ∧
      crowdedLedger.out = [(1, ⟨#[1, 0, 0, 255]⟩)] ∧
      ∃ pool, crowdedLedger.course.machine.memory.pools = [pool] ∧
        pool.frame? 1 = some ⟨#[1, 0, 0, 255]⟩ ∧
        ∀ index slot, pool.slots[index]? = some slot →
          (slot.inUse = true ↔ UInt64.ofNat index = 1) := by
  have hplace : crowdedLedger.course.place = .checking := by rfl
  have hout : crowdedLedger.out = [(1, ⟨#[1, 0, 0, 255]⟩)] := by rfl
  obtain ⟨-, pool, hpool, -, -, hframes, hslots, -⟩ := @slots_conserved (.ofTables []) _ counting
    (fun _ outlet _ => .refl outlet) { Life.new with thread := .serving, loadRequested := true }
    none 0 .new .new .new 4 2 crowded
  refine ⟨hplace, hout, pool, hpool, hframes _ (hout ▸ List.mem_singleton_self _), ?_⟩
  intro index slot hslot
  have huse : slot.inUse = true ↔ UInt64.ofNat index ∈ crowdedLedger.out.map Prod.fst :=
    hslots hplace index slot hslot
  rw [hout] at huse
  exact huse.trans List.mem_singleton

end LockScreen.Proofs.FrameLedger
