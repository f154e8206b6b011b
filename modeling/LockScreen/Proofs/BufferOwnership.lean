import Mathlib.Data.List.Nodup
import LockScreen.Proofs.HandoffRuns
import LockScreen.Proofs.Runs

namespace LockScreen.Proofs.BufferOwnership

open LockScreen.Handoff LockScreen.Text LockScreen.Wire
open LockScreen.Proofs.HandoffHeap LockScreen.Proofs.HandoffRuns LockScreen.Proofs.PipeRecords
open LockScreen.Proofs.Runs

def blocks (buffers : List Buffer) : List Nat :=
  buffers.filterMap Buffer.block

/-- What holds of all that was made, given up and let go of. -/
structure Sound (estate : Estate) : Prop where
  issued : Issued estate.heap
  fresh : ∀ address ∈ estate.made.map Prod.fst, address < estate.heap.next
  distinct : (estate.made.map Prod.fst).Nodup
  /-- Each block has one owner, or had one that let go of it, or was taken out of its buffer. -/
  settled : ∀ address, (blocks estate.owners).count address +
    (blocks estate.dropped).count address + estate.severed.count address =
      (estate.made.map Prod.fst).count address
  freed : estate.heap.freed = estate.dropped.filterMap due
  contents : ∀ entry ∈ estate.made, entry.1 ∉ estate.heap.freed.map Prod.snd →
    estate.heap.contents entry.1 = entry.2 ++ [0]

section Steps

variable {estate after : Estate} {buffer : Buffer}

theorem blocks_perm {buffers others : List Buffer} (h : buffers.Perm others) (address : Nat) :
    (blocks buffers).count address = (blocks others).count address :=
  (h.filterMap Buffer.block).count_eq address

theorem blocks_cons (buffer : Buffer) (buffers : List Buffer) (address : Nat) :
    (blocks (buffer :: buffers)).count address =
      buffer.block.toList.count address + (blocks buffers).count address := by
  cases hblock : buffer.block with
  | none => simp [blocks, hblock]
  | some block => simp [blocks, hblock, List.count_cons, Nat.add_comm]

theorem Sound.moved (h : Sound estate) (hmoved : Moved estate after)
    (hissued : Issued after.heap) (hnext : estate.heap.next ≤ after.heap.next) :
    Sound after where
  issued := hissued
  fresh address hmem := by
    rw [hmoved.made] at hmem
    exact Nat.lt_of_lt_of_le (h.fresh address hmem) hnext
  distinct := by
    rw [hmoved.made]
    exact h.distinct
  settled address := by
    rw [blocks_perm hmoved.owners, hmoved.dropped, hmoved.severed, hmoved.made]
    exact h.settled address
  freed := by rw [hmoved.freed, hmoved.dropped, h.freed]
  contents entry hmem hfreed := by
    rw [hmoved.made] at hmem
    rw [hmoved.freed] at hfreed
    rw [Heap.contents, hmoved.blocks]
    exact h.contents entry hmem hfreed

theorem Sound.released (h : Sound estate) (hreleased : Released estate after buffer)
    (hissued : Issued after.heap) : Sound after where
  issued := hissued
  fresh address hmem := by
    rw [hreleased.made] at hmem
    rw [hreleased.next]
    exact h.fresh address hmem
  distinct := by
    rw [hreleased.made]
    exact h.distinct
  settled address := by
    have hbefore := h.settled address
    have hdropped : (blocks after.dropped).count address =
        (blocks estate.dropped).count address + buffer.block.toList.count address := by
      rw [hreleased.dropped, blocks_perm (List.perm_append_singleton _ _), blocks_cons,
        Nat.add_comm]
    rw [blocks_perm hreleased.owners, blocks_cons] at hbefore
    rw [hdropped, hreleased.severed, hreleased.made]
    omega
  freed := by
    have hcall : [buffer].filterMap due = (due buffer).toList := by
      cases hdue : due buffer <;> simp [hdue]
    rw [hreleased.freed, hreleased.dropped, List.filterMap_append, h.freed, hcall]
  contents entry hmem hfreed := by
    rw [hreleased.made] at hmem
    rw [hreleased.freed, List.map_append, List.mem_append, not_or] at hfreed
    rw [hreleased.contents _ hfreed.2]
    exact h.contents entry hmem hfreed.1

theorem Sound.make (h : Sound estate) (bytes : List UInt8) : Sound (estate.make bytes) := by
  cases hsome : estate.heap.allocate? bytes with
  | none =>
      rw [show estate.make bytes = estate by simp only [Estate.make, hsome]]
      exact h
  | some allocated =>
      obtain ⟨buffer, heap⟩ := allocated
      have hissued := h.issued.allocate hsome
      have hkept (address : Nat) (hne : address ≠ estate.heap.next) :=
        contents_allocate hsome hne
      rw [make_of_some hsome]
      obtain ⟨-, hbuffer, rfl⟩ := allocate_eq_some hsome
      have hblock : buffer.block = some estate.heap.next := congrArg Buffer.block hbuffer
      have hnew : estate.heap.next ∉ estate.made.map Prod.fst := fun hmem =>
        Nat.lt_irrefl _ (h.fresh _ hmem)
      have hmade : ((estate.made ++ [(estate.heap.next, bytes)]).map Prod.fst).Perm
          (estate.heap.next :: estate.made.map Prod.fst) := by
        rw [List.map_append]
        exact List.perm_append_singleton _ _
      refine ⟨hissued, ?_, ?_, ?_, h.freed, ?_⟩
      · intro address hmem
        rcases List.mem_cons.mp (hmade.subset hmem) with rfl | hmem
        · exact Nat.lt_succ_self _
        · exact Nat.lt_succ_of_lt (h.fresh address hmem)
      · exact hmade.nodup_iff.mpr (List.nodup_cons.mpr ⟨hnew, h.distinct⟩)
      · intro address
        have howners : (estate.owned ++ [buffer] ++ estate.heap.handles.map Prod.snd).Perm
            (buffer :: estate.owners) := by
          rw [List.append_assoc]
          exact List.perm_middle
        have hsettled := h.settled address
        show (blocks (estate.owned ++ [buffer] ++ _)).count address +
          (blocks estate.dropped).count address + estate.severed.count address = _
        rw [blocks_perm howners, blocks_cons, hmade.count_eq, List.count_cons, hblock,
          Option.toList_some, List.count_singleton]
        omega
      · intro entry hmem hfreed
        rcases List.mem_append.mp hmem with hmem | hmem
        · have hlt := h.fresh entry.1 (List.mem_map_of_mem hmem)
          rw [hkept entry.1 (Nat.ne_of_lt hlt)]
          exact h.contents entry hmem hfreed
        · rw [List.mem_singleton.mp hmem]
          simp only [Heap.contents, List.lookup_cons_self, Option.getD_some]

theorem Sound.expose (h : Sound estate) (index : Nat) : Sound (estate.expose index) := by
  refine h.moved (moved_expose estate index) ?_ ?_
  · unfold Estate.expose
    split
    · exact h.issued.expose _
    · exact h.issued
  · unfold Estate.expose
    split
    · exact Nat.le_succ _
    · exact Nat.le_refl _

theorem Sound.claim (h : Sound estate) (handle : Nat) : Sound (estate.claim handle) :=
  h.moved (moved_claim h.issued handle) (h.issued.claim handle)
    (Nat.le_of_eq (claim_next _ _).symm)

theorem Sound.discard (h : Sound estate) (index : Nat) : Sound (estate.discard index) := by
  cases howned : estate.owned[index]? with
  | none =>
      rw [show estate.discard index = estate by simp only [Estate.discard, howned]]
      exact h
  | some buffer =>
      refine h.released (released_discard howned) ?_
      simp only [Estate.discard, howned]
      exact h.issued.discard buffer

theorem Sound.free (h : Sound estate) (handle : Nat) : Sound (estate.free handle) := by
  cases hpeek : estate.heap.peek handle with
  | none =>
      rw [free_of_none hpeek]
      exact h
  | some buffer => exact h.released (released_free h.issued hpeek) (h.issued.free handle)

theorem Sound.revise (h : Sound estate) (handle : Nat) (revision : Revision) :
    Sound (estate.revise handle revision) := by
  refine ⟨h.issued.revise handle _, h.fresh, h.distinct, fun address => ?_, h.freed, h.contents⟩
  have hsettled := h.settled address
  cases hpeek : estate.heap.peek handle with
  | none =>
      have hsame : (estate.revise handle revision).owners = estate.owners :=
        congrArg (estate.owned ++ List.map Prod.snd ·)
          (revise_of_not_mem revision.apply (peek_eq_none_iff.mp hpeek))
      have hsevered : (estate.revise handle revision).severed = estate.severed := by
        simp [Estate.revise, hpeek]
      rw [hsame, hsevered]
      exact hsettled
  | some buffer =>
      let others := estate.owned ++
        (estate.heap.handles.filter fun entry => entry.1 != handle).map Prod.snd
      have hbefore : estate.owners.Perm (buffer :: others) := owners_of_peek h.issued hpeek
      have hafter : (estate.revise handle revision).owners.Perm
          (revision.apply buffer :: others) :=
        (((perm_revise revision.apply h.issued.nodup hpeek).map Prod.snd).append_left _).trans
          List.perm_middle
      have hsevered : (estate.revise handle revision).severed =
          estate.severed ++ if revision.keeps then [] else buffer.block.toList := by
        simp only [Estate.revise, hpeek, Option.bind_some]
      rw [blocks_perm hbefore, blocks_cons] at hsettled
      rw [blocks_perm hafter, blocks_cons, hsevered, List.count_append]
      show _ + (blocks estate.dropped).count address + _ =
        (estate.made.map Prod.fst).count address
      cases hkeeps : revision.keeps with
      | true =>
          simp only [Revision.apply, hkeeps, if_true, List.count_nil]
          omega
      | false =>
          simp only [Revision.apply, hkeeps, Bool.false_eq_true, if_false, Option.toList_none,
            List.count_nil]
          omega

theorem Sound.exchange (h : Sound estate) (pipe : Pipe) : Sound { estate with pipe } :=
  ⟨h.issued, h.fresh, h.distinct, h.settled, h.freed, h.contents⟩

end Steps

section Runs

variable {estate : Estate}

theorem sound_step (h : Sound estate) (deed : Deed) : Sound (step estate deed) := by
  cases deed with
  | make bytes => exact h.make bytes
  | expose index => exact h.expose index
  | claim handle => exact h.claim handle
  | discard index => exact h.discard index
  | free handle => exact h.free handle
  | submit secret =>
      exact submit_keeps (fun _ bytes h => h.make bytes) (fun _ index h => h.expose index)
        (fun _ handle h => h.free handle) (fun _ pipe h => h.exchange pipe) h secret
  | exchange pipe => exact h.exchange pipe
  | revise handle revision => exact h.revise handle revision

theorem sound_start (pipe : Pipe) : Sound (.start pipe) := by
  refine ⟨⟨Nat.one_pos, ?_, List.nodup_nil⟩, ?_, List.nodup_nil, fun _ => rfl, rfl, ?_⟩
  · exact fun _ hmem => absurd hmem List.not_mem_nil
  · exact fun _ hmem => absurd hmem List.not_mem_nil
  · exact fun _ hmem => absurd hmem List.not_mem_nil

theorem sound_run (h : Sound estate) (deeds : List Deed) : Sound (run step estate deeds) :=
  invariant_run (I := Sound) (fun _ deed h => sound_step h deed) h deeds

theorem freed_step (h : Sound estate) (deed : Deed) :
    (step estate deed).heap.freed = estate.heap.freed ++ (lets estate deed).filterMap due := by
  rw [(sound_step h deed).freed, dropped_step, List.filterMap_append, h.freed]

theorem moved_step (h : Sound estate) {move : Deed} (hmove : move.isMove = true) :
    Moved estate (step estate move) := by
  cases move with
  | expose index => exact moved_expose estate index
  | claim handle => exact moved_claim h.issued handle
  | make | discard | free | submit | exchange | revise => cases hmove

theorem moved_run (h : Sound estate) {moves : List Deed}
    (hmoves : ∀ move ∈ moves, move.isMove = true) : Moved estate (run step estate moves) := by
  have hrun : Sound (run step estate moves) ∧ Moved estate (run step estate moves) :=
    run_keeps_all (I := fun later => Sound later ∧ Moved estate later)
      (fun _ move hmove h => ⟨sound_step h.1 move, h.2.trans (moved_step h.1 hmove)⟩)
      ⟨h, ⟨.refl _, rfl, rfl, rfl, rfl, rfl⟩⟩ hmoves
  exact hrun.2

theorem peek_submit {handle : Nat} {buffer : Buffer} (hold : handle < estate.heap.next)
    (hpeek : estate.heap.peek handle = some buffer) (secret : String) :
    (estate.submit secret).heap.peek handle = some buffer := by
  cases hsome : estate.heap.allocate? (Utf8.encode secret) with
  | none =>
      rw [submit_eq_of_none hsome]
      exact hpeek
  | some allocated =>
      obtain ⟨other, heap⟩ := allocated
      obtain ⟨-, -, hheap⟩ := allocate_eq_some hsome
      have hnew : handle ≠ (heap.expose other).1 := by
        rw [hheap]
        exact Nat.ne_of_lt (Nat.lt_succ_of_lt hold)
      have hexposed : (exposed estate secret other heap).heap.peek handle = some buffer := by
        refine (peek_expose_of_ne heap other hnew).trans ?_
        rw [hheap]
        exact hpeek
      rcases submit_eq hsome with ⟨-, pipe, _, _, -, hsubmit, -⟩ | ⟨-, _, _, -, hsubmit⟩
      · rw [hsubmit]
        exact hexposed
      · rw [hsubmit]
        exact (peek_free hnew).trans hexposed

theorem peek_step (h : Sound estate) {handle : Nat} {buffer : Buffer}
    (hpeek : estate.heap.peek handle = some buffer) {deed : Deed} (hspares : deed.spares handle) :
    (step estate deed).heap.peek handle = some buffer := by
  have hold : handle < estate.heap.next :=
    (h.issued.range handle (List.mem_map_of_mem (mem_of_peek hpeek))).2
  cases deed with
  | make bytes =>
      cases hsome : estate.heap.allocate? bytes with
      | none => simpa only [step, Estate.make, hsome] using hpeek
      | some allocated =>
          obtain ⟨other, heap⟩ := allocated
          obtain ⟨-, -, hheap⟩ := allocate_eq_some hsome
          rw [step, make_of_some hsome, hheap]
          exact hpeek
  | expose index =>
      simp only [step, Estate.expose]
      split
      · exact (peek_expose_of_ne _ _ (Nat.ne_of_lt hold)).trans hpeek
      · exact hpeek
  | claim other => exact (peek_claim hspares).trans hpeek
  | discard index =>
      simp only [step, Estate.discard]
      split
      · rw [Heap.peek, discard_handles]
        exact hpeek
      · exact hpeek
  | free other => exact (peek_free hspares).trans hpeek
  | submit secret => exact peek_submit hold hpeek secret
  | exchange pipe => exact hpeek
  | revise other revision => exact (lookup_revise _ hspares _).trans hpeek

theorem peek_run (h : Sound estate) {handle : Nat} {buffer : Buffer}
    (hpeek : estate.heap.peek handle = some buffer) {deeds : List Deed}
    (hspares : ∀ deed ∈ deeds, deed.spares handle) :
    (run step estate deeds).heap.peek handle = some buffer := by
  have hrun : Sound (run step estate deeds) ∧
      (run step estate deeds).heap.peek handle = some buffer :=
    run_keeps_all (I := fun later => Sound later ∧ later.heap.peek handle = some buffer)
      (fun _ deed hspares h => ⟨sound_step h.1 deed, peek_step h.1 h.2 hspares⟩) ⟨h, hpeek⟩ hspares
  exact hrun.2

/-- Buffers that nobody changed are as they were made. -/
def Pristine (estate : Estate) : Prop :=
  ∀ buffer ∈ estate.owners, ∃ entry ∈ estate.made,
    buffer = ⟨some entry.1, entry.2.length, some .standard⟩

theorem Pristine.moved {after : Estate} (h : Pristine estate) (hmoved : Moved estate after) :
    Pristine after := by
  intro buffer hmem
  rw [hmoved.made]
  exact h buffer (hmoved.owners.subset hmem)

theorem Pristine.released {after : Estate} {buffer : Buffer} (h : Pristine estate)
    (hreleased : Released estate after buffer) : Pristine after := by
  intro other hmem
  rw [hreleased.made]
  exact h other (hreleased.owners.symm.subset (List.mem_cons_of_mem _ hmem))

theorem Pristine.make (h : Pristine estate) (bytes : List UInt8) :
    Pristine (estate.make bytes) := by
  cases hsome : estate.heap.allocate? bytes with
  | none => simpa only [Estate.make, hsome] using h
  | some allocated =>
      obtain ⟨buffer, heap⟩ := allocated
      rw [make_of_some hsome]
      obtain ⟨-, rfl, rfl⟩ := allocate_eq_some hsome
      intro other hmem
      simp only [Estate.owners, List.append_assoc, List.mem_append, List.mem_singleton] at hmem
      rcases hmem with hmem | rfl | hmem
      · obtain ⟨entry, hentry, hother⟩ := h other (List.mem_append_left _ hmem)
        exact ⟨entry, List.mem_append_left _ hentry, hother⟩
      · exact ⟨_, List.mem_append_right _ (List.mem_singleton_self _), rfl⟩
      · obtain ⟨entry, hentry, hother⟩ := h other (List.mem_append_right _ hmem)
        exact ⟨entry, List.mem_append_left _ hentry, hother⟩

theorem pristine_free (hissued : Issued estate.heap) (h : Pristine estate) (handle : Nat) :
    Pristine (estate.free handle) := by
  cases hpeek : estate.heap.peek handle with
  | none =>
      rw [free_of_none hpeek]
      exact h
  | some buffer => exact h.released (released_free hissued hpeek)

theorem pristine_step (hsound : Sound estate) (h : Pristine estate) {deed : Deed}
    (hdeed : deed.isRevision = false) : Pristine (step estate deed) := by
  cases deed with
  | make bytes => exact h.make bytes
  | expose index => exact h.moved (moved_expose estate index)
  | claim handle => exact h.moved (moved_claim hsound.issued handle)
  | discard index =>
      cases howned : estate.owned[index]? with
      | none => simpa only [step, Estate.discard, howned] using h
      | some buffer => exact h.released (released_discard howned)
  | free handle => exact pristine_free hsound.issued h handle
  | submit secret =>
      have hboth : Sound (estate.submit secret) ∧ Pristine (estate.submit secret) := by
        refine submit_keeps (P := fun estate => Sound estate ∧ Pristine estate) ?_ ?_ ?_ ?_
          ⟨hsound, h⟩ secret
        · exact fun _ bytes h => ⟨h.1.make bytes, h.2.make bytes⟩
        · exact fun _ index h => ⟨h.1.expose index, h.2.moved (moved_expose _ index)⟩
        · exact fun _ handle h => ⟨h.1.free handle, pristine_free h.1.issued h.2 handle⟩
        · exact fun _ pipe h => ⟨h.1.exchange pipe, h.2⟩
      exact hboth.2
  | exchange pipe => exact h
  | revise handle revision => cases hdeed

theorem pristine_run (hsound : Sound estate) (h : Pristine estate) {deeds : List Deed}
    (hdeeds : ∀ deed ∈ deeds, deed.isRevision = false) : Pristine (run step estate deeds) := by
  have hrun : Sound (run step estate deeds) ∧ Pristine (run step estate deeds) :=
    run_keeps_all (I := fun later => Sound later ∧ Pristine later)
      (fun _ deed hdeed h => ⟨sound_step h.1 deed, pristine_step h.1 h.2 hdeed⟩) ⟨hsound, h⟩ hdeeds
  exact hrun.2

end Runs

/-- The books of an estate: no block is freed twice, nor while it has an owner, none has two, and
none is lost; and each that has one holds the bytes it was made from and a zero behind them. -/
structure Accounted (estate : Estate) : Prop where
  once : (estate.heap.freed.map Prod.snd).Nodup
  disowned : ∀ address ∈ estate.heap.freed.map Prod.snd, address ∉ blocks estate.owners
  sole : (blocks estate.owners).Nodup
  settled : (blocks estate.owners ++ blocks estate.dropped ++ estate.severed).Perm
    (estate.made.map Prod.fst)
  contents : ∀ address ∈ blocks estate.owners, ∃ bytes, (address, bytes) ∈ estate.made ∧
    estate.heap.contents address = bytes ++ [0]

theorem freed_sublist (buffers : List Buffer) :
    ((buffers.filterMap due).map Prod.snd).Sublist (blocks buffers) := by
  induction buffers with
  | nil => exact .refl _
  | cons buffer rest ih =>
      rcases buffer with ⟨_ | address, length, _ | deallocator⟩
      · exact ih
      · exact ih
      · exact ih.cons address
      · exact ih.cons_cons address

theorem Sound.accounted {estate : Estate} (h : Sound estate) : Accounted estate := by
  have hsettled : (blocks estate.owners ++ blocks estate.dropped ++ estate.severed).Perm
      (estate.made.map Prod.fst) := by
    apply List.perm_iff_count.mpr
    intro address
    rw [List.count_append, List.count_append]
    exact h.settled address
  have hnodup := (List.nodup_append.mp (hsettled.nodup_iff.mpr h.distinct)).1
  obtain ⟨howners, hdropped, hapart⟩ := List.nodup_append.mp hnodup
  have hfreed : ∀ address ∈ estate.heap.freed.map Prod.snd, address ∈ blocks estate.dropped := by
    intro address hmem
    rw [h.freed] at hmem
    exact (freed_sublist estate.dropped).subset hmem
  have hdisowned : ∀ address ∈ estate.heap.freed.map Prod.snd,
      address ∉ blocks estate.owners := by
    intro address hmem howner
    exact hapart address howner address (hfreed address hmem) rfl
  refine ⟨?_, hdisowned, howners, hsettled, ?_⟩
  · rw [h.freed]
    exact hdropped.sublist (freed_sublist estate.dropped)
  · intro address hmem
    have hmade : address ∈ estate.made.map Prod.fst :=
      hsettled.subset (List.mem_append_left _ (List.mem_append_left _ hmem))
    obtain ⟨entry, hentry, rfl⟩ := List.mem_map.mp hmade
    exact ⟨entry.2, hentry, h.contents entry hentry fun hfreed => hdisowned _ hfreed hmem⟩

/-- What a submission comes to. It needs an address for a block and one for a handle, and a pipe
that takes the record. A secret that is sent waits under a new handle, the one in its record; of one
that is refused nothing is left but the call that freed it. -/
def Submits (estate : Estate) (secret : String) : Prop :=
  let after := step estate (.submit secret)
  after.outlet = (estate.outlet.submit secret).2.1 ∧ after.owned = estate.owned ∧
    match (estate.outlet.submit secret).1 with
    | .ok () =>
        estate.heap.next + 1 < addressLimit ∧ Accepts estate.pipe ∧
          after.heap.freed = estate.heap.freed ∧ ∃ (handle : UInt64) (buffer : Buffer),
          after.pipe.queue = estate.pipe.queue ++ Record.encode ⟨.authSubmit, handle, 0⟩ ∧
            estate.heap.peek handle.toNat = none ∧ after.heap.peek handle.toNat = some buffer ∧
            after.heap.payload buffer = Utf8.encode secret ∧
            after.heap.terminator? buffer = some 0
    | .error (.channel fault) =>
        estate.heap.next + 1 < addressLimit ∧ ¬Accepts estate.pipe ∧
          fault = .io (refusal estate.pipe) ∧ after.pipe = estate.pipe ∧ after.owners = estate.owners ∧
          ∃ address, address ∉ estate.made.map Prod.fst ∧
            after.made = estate.made ++ [(address, Utf8.encode secret)] ∧
            after.heap.freed = estate.heap.freed ++ [(.standard, address)]
    | .error .noMemory => ¬estate.heap.next + 1 < addressLimit ∧ after = estate

theorem submits {estate : Estate} (h : Sound estate) (secret : String) :
    Submits estate secret := by
  refine ⟨outlet_submit estate secret, ?_⟩
  cases hsome : estate.heap.allocate? (Utf8.encode secret) with
  | none =>
      rw [submit_of_none estate.outlet hsome]
      simp only [step, submit_eq_of_none hsome, and_true, true_and]
      exact allocate_eq_none_iff.mp hsome
  | some allocated =>
      obtain ⟨buffer, heap⟩ := allocated
      have hpayload := payload_expose hsome
      have hissued := h.issued.allocate hsome
      obtain ⟨hlimit, hbuffer, hheap⟩ := allocate_eq_some hsome
      have hhandle : (heap.expose buffer).1 = estate.heap.next + 1 := by rw [hheap]; rfl
      rcases submit_eq hsome with
        ⟨haccepts, pipe, lines, outlet, hresult, hafter, hqueue⟩ |
        ⟨haccepts, lines, outlet, hresult, hafter⟩
      · simp only [step, hafter, hresult]
        have hword := toNat_handle hsome
        have hnew : estate.heap.peek (estate.heap.next + 1) = none :=
          peek_eq_none_iff.mpr fun hmem =>
            Nat.not_succ_le_self _ (Nat.le_of_lt (h.issued.range _ hmem).2)
        refine ⟨rfl, hlimit, haccepts, ?_, UInt64.ofNat (heap.expose buffer).1, buffer, hqueue, ?_, ?_,
          hpayload⟩
        · show heap.freed = estate.heap.freed
          rw [hheap]
        · rw [hword, hhandle]
          exact hnew
        · rw [hword]
          exact peek_expose heap buffer
      · have hexposed : Issued (exposed estate secret buffer heap).heap := hissued.expose buffer
        have hreleased := released_free hexposed (peek_expose heap buffer)
        simp only [step, hafter, hresult]
        refine ⟨rfl, hlimit, haccepts, trivial, rfl, ?_, estate.heap.next, ?_, rfl, ?_⟩
        · show estate.owned ++ ((heap.expose buffer).2.free (heap.expose buffer).1).handles.map _ = _
          rw [handles_free_expose hissued, hheap]
          rfl
        · exact fun hmem => Nat.lt_irrefl _ (h.fresh _ hmem)
        · rw [hreleased.freed, hbuffer]
          show heap.freed ++ _ = _
          rw [hheap]
          rfl

/-- In any run of makings, handovers, releases and submissions, among any uses others make of the
pipe and any changes foreign code makes to buffers that wait: letting go of a buffer that has a
block and a deallocator calls the one with the other, and nothing else calls any; the books are in
order, so that no block is freed twice, or under an owner; a buffer that nobody changed reads back
as it was made; moves change nothing, and until it is consumed a handle stands for what was given up
for it. -/
theorem blocks_freed_once (pipe : Pipe) (deeds : List Deed) :
    let estate := run step (.start pipe) deeds
    Accounted estate ∧
      (∀ deed, (step estate deed).heap.freed =
        estate.heap.freed ++ (lets estate deed).filterMap due) ∧
      ((∀ deed ∈ deeds, deed.isRevision = false) → ∀ buffer ∈ estate.owners,
        ∃ entry ∈ estate.made, buffer = ⟨some entry.1, entry.2.length, some .standard⟩ ∧
          estate.heap.payload buffer = entry.2 ∧ estate.heap.terminator? buffer = some 0) ∧
      (∀ moves, (∀ move ∈ moves, move.isMove = true) → Moved estate (run step estate moves)) ∧
      (∀ index buffer, estate.owned[index]? = some buffer →
        (step estate (.expose index)).heap.peek (estate.heap.expose buffer).1 = some buffer) ∧
      (∀ handle buffer later, estate.heap.peek handle = some buffer →
        (∀ deed ∈ later, deed.spares handle) →
          (run step estate later).heap.peek handle = some buffer) ∧
      ∀ secret, Submits estate secret := by
  intro estate
  have hsound : Sound estate := sound_run (sound_start pipe) deeds
  refine ⟨hsound.accounted, freed_step hsound, fun hdeeds buffer hbuffer => ?_,
    fun _ => moved_run hsound, fun index buffer howned => ?_,
    fun _ _ _ hpeek => peek_run hsound hpeek, submits hsound⟩
  · have hpristine : Pristine estate :=
      pristine_run (sound_start pipe) (fun _ hmem => absurd hmem List.not_mem_nil) hdeeds
    obtain ⟨entry, hentry, rfl⟩ := hpristine buffer hbuffer
    have hfreed : entry.1 ∉ estate.heap.freed.map Prod.snd := fun hmem =>
      hsound.accounted.disowned _ hmem (List.mem_filterMap.mpr ⟨_, hbuffer, rfl⟩)
    have hcontents := hsound.contents entry hentry hfreed
    refine ⟨entry, hentry, rfl, ?_, ?_⟩
    · simp only [Heap.payload, hcontents]
      exact List.take_left
    · simp only [Heap.terminator?, Option.bind_some, hcontents]
      exact List.getElem?_concat_length
  · simp only [step, Estate.expose, howned]
    exact peek_expose estate.heap buffer

end LockScreen.Proofs.BufferOwnership
