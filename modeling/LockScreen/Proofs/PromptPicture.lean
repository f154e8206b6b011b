import LockScreen.Graphics.Software
import LockScreen.Proofs.PromptLayout

namespace LockScreen.Proofs.PromptPicture

open LockScreen.Graphics LockScreen.Proofs.PromptLayout

def InFrame (width height : Nat) (column row : Int) : Prop :=
  0 ≤ column ∧ column < width ∧ 0 ≤ row ∧ row < height

instance (width height : Nat) (column row : Int) : Decidable (InFrame width height column row) :=
  inferInstanceAs (Decidable (_ ∧ _))

structure Agree (width height : Nat) (canvas other : Canvas) : Prop where
  scissoring : canvas.scissoring = other.scissoring
  scissor : canvas.scissor = other.scissor
  clearColor : canvas.clearColor = other.clearColor
  pixel : ∀ column row, InFrame width height column row →
    canvas.pixel column row = other.pixel column row

/-- The commands that fill parts of a framebuffer and say which. A rectangle does not have a
negative width or height. -/
def IsFilling : Command → Prop
  | .scissorTest _ | .clearColor _ | .clear _ => True
  | .scissor _ _ width height => 0 ≤ width.toInt ∧ 0 ≤ height.toInt
  | _ => False

section Agreement

variable {σ : Type} {width height : Nat} {canvas between other : Canvas}

theorem Agree.refl (canvas : Canvas) : Agree width height canvas canvas :=
  ⟨rfl, rfl, rfl, fun _ _ _ => rfl⟩

theorem Agree.trans (h : Agree width height canvas between) (h' : Agree width height between other) :
    Agree width height canvas other where
  scissoring := h.scissoring.trans h'.scissoring
  scissor := h.scissor.trans h'.scissor
  clearColor := h.clearColor.trans h'.clearColor
  pixel column row hin := (h.pixel column row hin).trans (h'.pixel column row hin)

theorem Agree.fill (h : Agree width height canvas other) :
    Agree width height canvas.fill other.fill := by
  unfold Canvas.fill
  rw [h.scissoring, h.scissor, h.clearColor]
  split
  · refine ⟨rfl, rfl, rfl, fun column row hin => ?_⟩
    simp only [h.pixel column row hin]
  · exact ⟨rfl, rfl, rfl, fun _ _ _ => rfl⟩

theorem Agree.perform (h : Agree width height canvas other) {command : Command}
    (hcommand : IsFilling command) :
    Agree width height (canvas.perform command) (other.perform command) := by
  cases command with
  | scissorTest on => exact ⟨rfl, h.scissor, h.clearColor, h.pixel⟩
  | scissor x y width height => exact ⟨h.scissoring, rfl, h.clearColor, h.pixel⟩
  | clearColor color => exact ⟨h.scissoring, h.scissor, rfl, h.pixel⟩
  | clear planes => exact h.fill
  | bindRenderbuffer | renderbufferStorage | bindFramebuffer | attach | viewport | packTightly | finish
  | deleteFramebuffer | deleteRenderbuffer => exact hcommand.elim

theorem Agree.performAll {commands : List Command} (hcommands : ∀ command ∈ commands, IsFilling command)
    (h : Agree width height canvas other) :
    Agree width height (canvas.performAll commands) (other.performAll commands) := by
  induction commands generalizing canvas other with
  | nil => exact h
  | cons command rest ih =>
      exact ih (fun next hnext => hcommands next (List.mem_cons_of_mem _ hnext))
        (h.perform (hcommands command List.mem_cons_self))

end Agreement

section Filling

def painted (canvas : Canvas) (rect : Rect) : Canvas :=
  { canvas with
    scissor := rect
    pixel := fun column row =>
      if rect.contains column row then canvas.clearColor else canvas.pixel column row }

section Blocks

variable {y side x : Int32} {left stride : Int} {count : Nat}

def Columns (left stride : Int) (count : Nat) : Prop :=
  ∀ index : Nat, index ≤ count →
    IsExactly (Prompt.signed? (left + index * stride)) (left + index * stride)

theorem Columns.later (h : Columns left stride (count + 1)) : Columns (left + stride) stride count := by
  intro index hindex
  have hlater := h (index + 1) (Nat.succ_le_succ hindex)
  rwa [Int.natCast_succ, Int.add_mul, Int.one_mul, Int.add_comm (index * stride),
    ← Int.add_assoc] at hlater

end Blocks

end Filling

section Picture

def barColor (accent : Color) : Option AuthState → Color
  | none => accent
  | some .pending => .amber
  | some .failed => .scarlet
  | some .success => .emerald

def drawn {σ : Type} (device : Device σ) (prompt : Prompt) (width height : UInt32) (rig : Rig σ) :
    Rig σ :=
  (Rig.performAll device (prompt.draw width height).commands rig).2

variable {width height : UInt32} {prompt : Prompt}

def ground (prompt : Prompt) (width height : UInt32) : Canvas :=
  { scissoring := true
    scissor := bar width.toNat height.toNat
    clearColor := prompt.accent
    pixel := fun column row =>
      if (bar width.toNat height.toNat).contains column row then barColor prompt.accent prompt.auth
      else prompt.background }

end Picture

end LockScreen.Proofs.PromptPicture
