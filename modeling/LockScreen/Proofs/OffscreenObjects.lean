import LockScreen.Graphics.Offscreen
import LockScreen.Graphics.Software
import LockScreen.Proofs.CallTraces

/-!
The renderbuffers and framebuffers behind an offscreen picture. One that comes about holds all that
was created for it until it is destroyed. One that does not gives back what was created only if it
got as far as its framebuffer: renderbuffers are left behind when the next object cannot be had.
-/

namespace LockScreen.Proofs.OffscreenObjects

open LockScreen.Graphics
open LockScreen.Proofs.CallTraces

variable {σ : Type}

inductive Object where
  | renderbuffer (name : UInt32)
  | framebuffer (name : UInt32)
deriving DecidableEq

inductive Touch where
  | create (object : Object)
  | delete (object : Object)
  | bind (framebuffer : Option UInt32)
deriving DecidableEq

def touch? : Call → Option Touch
  | .createRenderbuffer name => name.map fun name => .create (.renderbuffer name)
  | .createFramebuffer name => name.map fun name => .create (.framebuffer name)
  | .command (.deleteRenderbuffer name) => some (.delete (.renderbuffer name))
  | .command (.deleteFramebuffer name) => some (.delete (.framebuffer name))
  | .command (.bindFramebuffer framebuffer) => some (.bind framebuffer)
  | _ => none

def created (touches : List Touch) : List Object :=
  touches.filterMap fun
    | .create object => some object
    | _ => none

def deleted (touches : List Touch) : List Object :=
  touches.filterMap fun
    | .delete object => some object
    | _ => none

/-- The framebuffer that is bound in the end. One that is deleted while it is bound is unbound by
that. -/
def boundAfter (bound : Option UInt32) : List Touch → Option UInt32
  | [] => bound
  | .create _ :: rest => boundAfter bound rest
  | .delete object :: rest => boundAfter (bound.filter fun name => object ≠ .framebuffer name) rest
  | .bind framebuffer :: rest => boundAfter framebuffer rest

def parts (offscreen : Offscreen) : List Object :=
  [.framebuffer offscreen.framebuffer, .renderbuffer offscreen.color,
    .renderbuffer offscreen.depthStencil]

/-- Each object is deleted as often as it was created. -/
def GivenBack (touches : List Touch) : Prop :=
  (deleted touches).Perm (created touches)

inductive Ending : Except Report Offscreen → List Touch → Prop where
  | noColor {report : Report} : Ending (.error report) []
  | noDepth {report : Report} (color : UInt32) :
      Ending (.error report) [.create (.renderbuffer color)]
  | noFramebuffer {report : Report} (color depthStencil : UInt32) :
      Ending (.error report)
        [.create (.renderbuffer color), .create (.renderbuffer depthStencil)]
  | incomplete {report : Report} (color depthStencil framebuffer : UInt32) :
      Ending (.error report)
        [.create (.renderbuffer color), .create (.renderbuffer depthStencil),
          .create (.framebuffer framebuffer), .bind (some framebuffer), .bind none,
          .delete (.framebuffer framebuffer), .delete (.renderbuffer color),
          .delete (.renderbuffer depthStencil)]
  | complete (offscreen : Offscreen) :
      Ending (.ok offscreen)
        [.create (.renderbuffer offscreen.color), .create (.renderbuffer offscreen.depthStencil),
          .create (.framebuffer offscreen.framebuffer), .bind (some offscreen.framebuffer),
          .bind none]

section Programs

variable (device : Device σ)

theorem yields_renderbuffer (storage : Storage) (width height : UInt32) :
    Yields touch? (Offscreen.renderbuffer device storage width height) fun name touches =>
      touches = (name.map fun name => Touch.create (.renderbuffer name)).toList := by
  apply (yields_ask _ _).bind
  rintro (_ | name) _ rfl
  · exact yields_pure rfl
  · apply (yields_performAll device _).bind
    rintro _ _ rfl
    exact yields_pure rfl

theorem yields_destroy (offscreen : Offscreen) :
    Yields touch? (offscreen.destroy device) fun _ touches =>
      touches = (parts offscreen).map .delete :=
  yields_performAll device _

theorem yields_assemble (framebuffer color depthStencil width height : UInt32) :
    Yields touch? (Offscreen.assemble device framebuffer color depthStencil width height)
      fun result touches =>
        Ending result
          ([.create (.renderbuffer color), .create (.renderbuffer depthStencil),
            .create (.framebuffer framebuffer)] ++ touches) := by
  apply (yields_performAll device _).bind
  rintro _ _ rfl
  apply (yields_ask _ _).bind
  rintro status _ rfl
  apply (yields_perform device _).bind
  rintro _ _ rfl
  split
  · apply (yields_logLine _ _ _).bind
    rintro _ _ rfl
    apply yields_pure
    exact .complete ⟨framebuffer, color, depthStencil, width, height⟩
  · apply (yields_performAll device _).bind
    rintro _ _ rfl
    apply yields_pure
    exact .incomplete color depthStencil framebuffer

theorem yields_create (width height : UInt32) :
    Yields touch? (Offscreen.create device width height) Ending := by
  apply (yields_renderbuffer device _ _ _).bind
  rintro (_ | color) _ rfl
  · exact yields_pure .noColor
  · apply (yields_renderbuffer device _ _ _).bind
    rintro (_ | depthStencil) _ rfl
    · exact yields_pure (.noDepth color)
    · apply (yields_perform device _).bind
      rintro _ _ rfl
      apply (yields_ask _ _).bind
      rintro (_ | framebuffer) _ rfl
      · exact yields_pure (.noFramebuffer color depthStencil)
      · exact yields_assemble device _ _ _ _ _

end Programs

section Endings

theorem perm_rotated (framebuffer color depthStencil : Object) :
    [framebuffer, color, depthStencil].Perm [color, depthStencil, framebuffer] :=
  (List.perm_append_comm : ([framebuffer] ++ [color, depthStencil]).Perm _)

variable {report : Report} {result : Except Report Offscreen} {touches : List Touch}

theorem Ending.nothing_bound (h : Ending result touches) : boundAfter none touches = none := by
  cases h with
  | noColor | noDepth | noFramebuffer | incomplete | complete => rfl

theorem Ending.givenBack_iff (h : Ending (.error report) touches) :
    GivenBack touches ↔
      created touches = [] ∨ ∃ name, Object.framebuffer name ∈ created touches := by
  cases h with
  | noColor => exact iff_of_true .nil (Or.inl rfl)
  | noDepth color =>
      apply iff_of_false
      · intro h
        exact List.cons_ne_nil _ _ h.symm.eq_nil
      · rintro (h | ⟨name, h⟩)
        · exact List.cons_ne_nil _ _ h
        · cases List.mem_singleton.mp h
  | noFramebuffer color depthStencil =>
      apply iff_of_false
      · intro h
        exact List.cons_ne_nil _ _ h.symm.eq_nil
      · rintro (h | ⟨name, h⟩)
        · exact List.cons_ne_nil _ _ h
        · rcases List.mem_cons.mp h with h | h
          · cases h
          · cases List.mem_singleton.mp h
  | incomplete color depthStencil framebuffer =>
      apply iff_of_true
      · exact perm_rotated _ _ _
      · exact Or.inr ⟨framebuffer, List.mem_of_getLast? rfl⟩

theorem Ending.givenBack_or (h : Ending (.error report) touches) :
    GivenBack touches ∨ deleted touches = [] := by
  cases h with
  | noColor | noDepth | noFramebuffer => exact Or.inr rfl
  | incomplete color depthStencil framebuffer =>
      exact Or.inl (perm_rotated _ _ _)

end Endings

/-- A picture that comes about holds its three objects, and destroying it deletes each of them. If
it does not come about, what was created for it is given back just if nothing was, or if its
framebuffer was among it. Otherwise all of it is left behind. No framebuffer is left bound. -/
theorem objects_given_back_iff (device : Device σ) (width height : UInt32) (rig : Rig σ) :
    ∃ touches,
      seen touch? (Offscreen.create device width height rig).2 = seen touch? rig ++ touches ∧
      boundAfter none touches = none ∧
      match (Offscreen.create device width height rig).1 with
      | .ok offscreen =>
          (created touches).Perm (parts offscreen) ∧ deleted touches = [] ∧
            (∀ bound, boundAfter bound touches = none) ∧
            ∀ later, ∃ undone,
              seen touch? (offscreen.destroy device later).2 = seen touch? later ++ undone ∧
                created undone = [] ∧ deleted undone = parts offscreen
      | .error _ =>
          (GivenBack touches ↔
            created touches = [] ∨ ∃ name, Object.framebuffer name ∈ created touches) ∧
          (GivenBack touches ∨ deleted touches = []) := by
  obtain ⟨touches, htouches, hending⟩ := yields_create device width height rig
  refine ⟨touches, htouches, hending.nothing_bound, ?_⟩
  generalize (Offscreen.create device width height rig).1 = result at hending
  cases result with
  | error report => exact ⟨hending.givenBack_iff, hending.givenBack_or⟩
  | ok offscreen =>
      obtain ⟨⟩ := hending
      refine ⟨(perm_rotated _ _ _).symm, rfl, fun _ => rfl, ?_⟩
      intro later
      obtain ⟨undone, hundone, rfl⟩ := yields_destroy device offscreen later
      exact ⟨_, hundone, rfl, rfl⟩

def scant (objects : Nat) : Device Software :=
  let next (software : Software) : Option UInt32 × Software :=
    if software.names < objects then software.name else (none, software)
  { Software.device with createRenderbuffer := next, createFramebuffer := next }

def endingWith (objects : Nat) : Except Report Offscreen × Rig Software :=
  Offscreen.create (scant objects) 64 64 (.new (.new []))

theorem renderbuffers_left :
    ((endingWith 1).1 = .error (.ofMessage
        "Failed to create FBO depth buffer: Unable to create Renderbuffer object") ∧
      created (seen touch? (endingWith 1).2) = [.renderbuffer 1] ∧
      deleted (seen touch? (endingWith 1).2) = []) ∧
    (endingWith 2).1 = .error (.ofMessage
        "Failed to create FBO: Unable to create Framebuffer object") ∧
      created (seen touch? (endingWith 2).2) = [.renderbuffer 1, .renderbuffer 2] ∧
      deleted (seen touch? (endingWith 2).2) = [] :=
  ⟨⟨rfl, rfl, rfl⟩, rfl, rfl, rfl⟩

end LockScreen.Proofs.OffscreenObjects
