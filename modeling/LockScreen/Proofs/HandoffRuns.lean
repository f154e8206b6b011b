import Mathlib.Data.List.Perm.Basic
import LockScreen.Proofs.HandoffHeap

namespace LockScreen.Proofs.HandoffRuns

open LockScreen.Handoff LockScreen.Text LockScreen.Wire
open LockScreen.Proofs.HandoffHeap LockScreen.Proofs.PipeRecords

/-- What foreign code makes of a buffer that waits under a handle. It may take the block out of it,
but puts no other block into it. -/
structure Revision where
  keeps : Bool
  length : Nat
  deallocator : Option Deallocator

def Revision.apply (revision : Revision) (buffer : Buffer) : Buffer where
  block := if revision.keeps then buffer.block else none
  length := revision.length
  deallocator := revision.deallocator

structure Estate where
  pipe : Pipe
  heap : Heap
  owned : List Buffer
  made : List (Nat × List UInt8)
  dropped : List Buffer
  severed : List Nat

namespace Estate

def start (pipe : Pipe) : Estate := ⟨pipe, .new, [], [], [], []⟩

def owners (estate : Estate) : List Buffer :=
  estate.owned ++ estate.heap.handles.map Prod.snd

def make (estate : Estate) (bytes : List UInt8) : Estate :=
  match estate.heap.allocate? bytes with
  | some (buffer, heap) =>
      { estate with
        heap
        owned := estate.owned ++ [buffer]
        made := estate.made ++ buffer.block.toList.map (·, bytes) }
  | none => estate

def expose (estate : Estate) (index : Nat) : Estate :=
  match estate.owned[index]? with
  | some buffer =>
      { estate with
        heap := (estate.heap.expose buffer).2, owned := estate.owned.eraseIdx index }
  | none => estate

def claim (estate : Estate) (handle : Nat) : Estate :=
  { estate with
    heap := (estate.heap.claim handle).2
    owned := estate.owned ++ (estate.heap.claim handle).1.toList }

def discard (estate : Estate) (index : Nat) : Estate :=
  match estate.owned[index]? with
  | some buffer =>
      { estate with
        heap := estate.heap.discard buffer
        owned := estate.owned.eraseIdx index
        dropped := estate.dropped ++ [buffer] }
  | none => estate

def free (estate : Estate) (handle : Nat) : Estate :=
  { estate with
    heap := estate.heap.free handle
    dropped := estate.dropped ++ (estate.heap.peek handle).toList }

def revise (estate : Estate) (handle : Nat) (revision : Revision) : Estate :=
  { estate with
    heap := estate.heap.revise handle revision.apply
    severed := estate.severed ++
      if revision.keeps then [] else ((estate.heap.peek handle).bind Buffer.block).toList }

def outlet (estate : Estate) : Outlet := ⟨estate.pipe, estate.heap⟩

def submit (estate : Estate) (secret : String) : Estate :=
  let (result, outlet, _) := estate.outlet.submit secret
  match estate.heap.allocate? (Utf8.encode secret) with
  | none => { estate with pipe := outlet.pipe, heap := outlet.heap }
  | some (buffer, _) =>
      { estate with
        pipe := outlet.pipe
        heap := outlet.heap
        made := estate.made ++ buffer.block.toList.map (·, Utf8.encode secret)
        dropped :=
          match result with
          | .ok () => estate.dropped
          | .error _ => estate.dropped ++ [buffer] }

end Estate

/-- A buffer that is owned is meant by its index, and one that waits by its handle. A handle that
was consumed stands for nothing any more, and the null handle never does for anything. -/
inductive Deed where
  | make (bytes : List UInt8)
  | expose (index : Nat)
  | claim (handle : Nat)
  | discard (index : Nat)
  | free (handle : Nat)
  | submit (secret : String)
  | exchange (pipe : Pipe)
  | revise (handle : Nat) (revision : Revision)

def step (estate : Estate) : Deed → Estate
  | .make bytes => estate.make bytes
  | .expose index => estate.expose index
  | .claim handle => estate.claim handle
  | .discard index => estate.discard index
  | .free handle => estate.free handle
  | .submit secret => estate.submit secret
  | .exchange pipe => { estate with pipe }
  | .revise handle revision => estate.revise handle revision

/-- The buffers that a deed lets go of: one that is discarded, the one of a handle that is freed,
and that of a secret that could not be sent. -/
def lets (estate : Estate) : Deed → List Buffer
  | .discard index => estate.owned[index]?.toList
  | .free handle => (estate.heap.peek handle).toList
  | .submit secret =>
      match estate.heap.allocate? (Utf8.encode secret), (estate.outlet.submit secret).1 with
      | some (buffer, _), .error _ => [buffer]
      | some _, .ok () | none, _ => []
  | .make _ | .expose _ | .claim _ | .exchange _ | .revise _ _ => []

def Deed.isMove : Deed → Bool
  | expose _ | claim _ => true
  | make _ | discard _ | free _ | submit _ | exchange _ | revise _ _ => false

def Deed.isRevision : Deed → Bool
  | revise _ _ => true
  | make _ | expose _ | claim _ | discard _ | free _ | submit _ | exchange _ => false

def Deed.spares (handle : Nat) : Deed → Prop
  | claim other | free other | revise other _ => handle ≠ other
  | make _ | expose _ | discard _ | submit _ | exchange _ => True

structure Moved (before after : Estate) : Prop where
  owners : after.owners.Perm before.owners
  freed : after.heap.freed = before.heap.freed
  blocks : after.heap.blocks = before.heap.blocks
  made : after.made = before.made
  dropped : after.dropped = before.dropped
  severed : after.severed = before.severed

theorem Moved.trans {before between after : Estate} (h : Moved before between)
    (h' : Moved between after) : Moved before after where
  owners := h'.owners.trans h.owners
  freed := h'.freed.trans h.freed
  blocks := h'.blocks.trans h.blocks
  made := h'.made.trans h.made
  dropped := h'.dropped.trans h.dropped
  severed := h'.severed.trans h.severed

structure Released (before after : Estate) (buffer : Buffer) : Prop where
  owners : before.owners.Perm (buffer :: after.owners)
  dropped : after.dropped = before.dropped ++ [buffer]
  freed : after.heap.freed = before.heap.freed ++ (due buffer).toList
  contents : ∀ address, address ∉ (due buffer).toList.map Prod.snd →
    after.heap.contents address = before.heap.contents address
  next : after.heap.next = before.heap.next
  made : after.made = before.made
  severed : after.severed = before.severed

section Deeds

variable {estate after : Estate} {buffer : Buffer} {heap : Heap} {secret : String}

theorem owned_perm {index : Nat} (h : estate.owned[index]? = some buffer) :
    (buffer :: estate.owned.eraseIdx index).Perm estate.owned := by
  obtain ⟨hindex, rfl⟩ := List.getElem?_eq_some_iff.mp h
  exact List.getElem_cons_eraseIdx_perm hindex

theorem moved_expose (estate : Estate) (index : Nat) : Moved estate (estate.expose index) := by
  unfold Estate.expose
  split
  · rename_i buffer howned
    refine ⟨?_, rfl, rfl, rfl, rfl, rfl⟩
    exact List.perm_middle.trans ((owned_perm howned).append_right _)
  · exact ⟨.refl _, rfl, rfl, rfl, rfl, rfl⟩

theorem moved_claim (h : Issued estate.heap) (handle : Nat) :
    Moved estate (estate.claim handle) := by
  unfold Estate.claim Heap.claim
  split
  · have hsame : estate.owned ++ (none : Option Buffer).toList = estate.owned :=
      List.append_nil _
    exact ⟨.of_eq (congrArg (· ++ _) hsame), rfl, rfl, rfl, rfl, rfl⟩
  · rename_i buffer hpeek
    refine ⟨?_, rfl, rfl, rfl, rfl, rfl⟩
    have hperm := ((perm_of_peek h.nodup hpeek).map Prod.snd).symm
    show (estate.owned ++ [buffer] ++ _).Perm _
    rw [List.append_assoc]
    exact hperm.append_left _

theorem released_discard {index : Nat} (h : estate.owned[index]? = some buffer) :
    Released estate (estate.discard index) buffer := by
  have hdiscard : estate.discard index =
      { estate with
        heap := estate.heap.discard buffer
        owned := estate.owned.eraseIdx index
        dropped := estate.dropped ++ [buffer] } := by
    simp only [Estate.discard, h]
  rw [hdiscard]
  refine ⟨?_, rfl, discard_freed _ _, fun address hdue => contents_discard hdue,
    discard_next _ _, rfl, rfl⟩
  show estate.owners.Perm (buffer :: (estate.owned.eraseIdx index ++ _))
  rw [discard_handles]
  exact (owned_perm h).symm.append_right _

theorem owners_of_peek (h : Issued estate.heap) {handle : Nat}
    (hpeek : estate.heap.peek handle = some buffer) :
    estate.owners.Perm (buffer :: (estate.owned ++
      (estate.heap.handles.filter fun entry => entry.1 != handle).map Prod.snd)) :=
  (((perm_of_peek h.nodup hpeek).map Prod.snd).append_left _).trans List.perm_middle

theorem released_free (h : Issued estate.heap) {handle : Nat}
    (hpeek : estate.heap.peek handle = some buffer) :
    Released estate (estate.free handle) buffer := by
  have hfree : estate.free handle =
      { estate with
        heap := { estate.heap with
          handles := estate.heap.handles.filter fun entry => entry.1 != handle }.discard buffer
        dropped := estate.dropped ++ [buffer] } := by
    simp only [Estate.free, Heap.free, Heap.claim, hpeek]
    rfl
  rw [hfree]
  refine ⟨?_, rfl, discard_freed _ _, fun address hdue => contents_discard hdue,
    discard_next _ _, rfl, rfl⟩
  show estate.owners.Perm (buffer :: (estate.owned ++ _))
  rw [discard_handles]
  exact owners_of_peek h hpeek

theorem free_of_none {handle : Nat} (h : estate.heap.peek handle = none) :
    estate.free handle = estate := by
  simp only [Estate.free, Heap.free, Heap.claim, h, Option.toList_none, List.append_nil]

theorem make_of_some {bytes : List UInt8}
    (h : estate.heap.allocate? bytes = some (buffer, heap)) :
    estate.make bytes =
      { estate with
        heap
        owned := estate.owned ++ [buffer]
        made := estate.made ++ [(estate.heap.next, bytes)] } := by
  obtain ⟨-, hbuffer, -⟩ := allocate_eq_some h
  simp only [Estate.make, h, hbuffer]
  rfl

def exposed (estate : Estate) (secret : String) (buffer : Buffer) (heap : Heap) : Estate :=
  { estate with
    heap := (heap.expose buffer).2
    made := estate.made ++ [(estate.heap.next, Utf8.encode secret)] }

theorem expose_make (h : estate.heap.allocate? (Utf8.encode secret) = some (buffer, heap)) :
    (estate.make (Utf8.encode secret)).expose estate.owned.length =
      exposed estate secret buffer heap := by
  rw [make_of_some h]
  simp only [Estate.expose, List.getElem?_concat_length, List.eraseIdx_append_of_length_le,
    Nat.le_refl, Nat.sub_self, List.eraseIdx_cons_zero, List.append_nil, exposed]

/-- A submission makes a buffer and gives it up, and takes it back to let go of it if it is not
sent. -/
theorem submit_eq (h : estate.heap.allocate? (Utf8.encode secret) = some (buffer, heap)) :
    (Accepts estate.pipe ∧ ∃ pipe lines outlet,
        estate.outlet.submit secret = (.ok (), outlet, lines) ∧
          estate.submit secret = { exposed estate secret buffer heap with pipe } ∧
          pipe.queue = estate.pipe.queue ++
            Record.encode ⟨.authSubmit, UInt64.ofNat (heap.expose buffer).1, 0⟩) ∨
      (¬Accepts estate.pipe ∧ ∃ lines outlet,
        estate.outlet.submit secret =
            (.error (.channel (.io (refusal estate.pipe))), outlet, lines) ∧
          estate.submit secret =
            (exposed estate secret buffer heap).free (heap.expose buffer).1) := by
  have hblock : buffer.block = some estate.heap.next :=
    congrArg Buffer.block (allocate_eq_some h).2.1
  rcases submit_of_some estate.outlet h with
    ⟨haccepts, pipe, lines, hsubmit, hqueue⟩ | ⟨haccepts, lines, hsubmit⟩
  · refine Or.inl ⟨haccepts, pipe, lines, _, hsubmit, ?_, hqueue⟩
    simp only [Estate.submit, hsubmit, h, hblock]
    rfl
  · refine Or.inr ⟨haccepts, lines, _, hsubmit, ?_⟩
    simp only [Estate.submit, hsubmit, h, hblock, Estate.free]
    rw [exposed, peek_expose]
    rfl

theorem submit_eq_of_none (h : estate.heap.allocate? (Utf8.encode secret) = none) :
    estate.submit secret = estate := by
  have hsubmit := submit_of_none estate.outlet h
  simp only [Estate.submit, hsubmit, h]
  rfl

theorem submit_keeps {P : Estate → Prop} (hmake : ∀ estate bytes, P estate → P (estate.make bytes))
    (hexpose : ∀ estate index, P estate → P (estate.expose index))
    (hfree : ∀ estate handle, P estate → P (estate.free handle))
    (hpipe : ∀ (estate : Estate) pipe, P estate → P { estate with pipe }) (h : P estate)
    (secret : String) : P (estate.submit secret) := by
  cases hsome : estate.heap.allocate? (Utf8.encode secret) with
  | none =>
      rw [submit_eq_of_none hsome]
      exact h
  | some allocated =>
      have hexposed := hexpose _ estate.owned.length (hmake _ (Utf8.encode secret) h)
      rw [expose_make hsome] at hexposed
      rcases submit_eq hsome with ⟨-, pipe, _, _, -, hsubmit, -⟩ | ⟨-, _, _, -, hsubmit⟩
      · rw [hsubmit]
        exact hpipe _ pipe hexposed
      · rw [hsubmit]
        exact hfree _ _ hexposed

theorem outlet_submit (estate : Estate) (secret : String) :
    (estate.submit secret).outlet = (estate.outlet.submit secret).2.1 := by
  cases hsome : estate.heap.allocate? (Utf8.encode secret) with
  | none | some =>
      simp only [Estate.submit, hsome]
      rfl

theorem dropped_step (estate : Estate) (deed : Deed) :
    (step estate deed).dropped = estate.dropped ++ lets estate deed := by
  cases deed with
  | make bytes =>
      simp only [step, Estate.make, lets, List.append_nil]
      split <;> rfl
  | expose index =>
      simp only [step, Estate.expose, lets, List.append_nil]
      split <;> rfl
  | discard index =>
      cases howned : estate.owned[index]? with
      | none => simp [step, Estate.discard, lets, howned]
      | some buffer => simp [step, Estate.discard, lets, howned]
  | submit secret =>
      cases hsome : estate.heap.allocate? (Utf8.encode secret) with
      | none => simp [step, Estate.submit, lets, hsome]
      | some allocated =>
          rcases hsubmit : estate.outlet.submit secret with ⟨_ | _, outlet, lines⟩
          · simp [step, Estate.submit, lets, hsome, hsubmit]
          · simp [step, Estate.submit, lets, hsome, hsubmit]
  | free handle => rfl
  | claim handle | exchange pipe | revise handle revision => exact (List.append_nil _).symm

end Deeds

end LockScreen.Proofs.HandoffRuns
