import LockScreen.Graphics.Device

namespace LockScreen.Proofs.CallTraces

open LockScreen.Graphics

variable {σ α β κ : Type} {view : Call → Option κ}

def seen (view : Call → Option κ) (rig : Rig σ) : List κ :=
  rig.trace.filterMap view

def Yields (view : Call → Option κ) (program : StateM (Rig σ) α) (P : α → List κ → Prop) : Prop :=
  ∀ rig, ∃ new, seen view (program rig).2 = seen view rig ++ new ∧ P (program rig).1 new

section Rules

variable {P : α → List κ → Prop} {Q : β → List κ → Prop}

theorem yields_pure {value : α} (h : P value []) :
    Yields view (pure value : StateM (Rig σ) α) P :=
  fun _ => ⟨[], (List.append_nil _).symm, h⟩

theorem Yields.bind {first : StateM (Rig σ) α} {next : α → StateM (Rig σ) β}
    (h : Yields view first P)
    (hnext : ∀ value early, P value early →
      Yields view (next value) fun result late => Q result (early ++ late)) :
    Yields view (first >>= next) Q := by
  intro rig
  obtain ⟨early, hearly, hvalue⟩ := h rig
  obtain ⟨late, hlate, hresult⟩ := hnext _ early hvalue (first rig).2
  refine ⟨early ++ late, ?_, hresult⟩
  rw [← List.append_assoc, ← hearly]
  exact hlate

theorem Yields.mono {program : StateM (Rig σ) α} {R : α → List κ → Prop}
    (h : Yields view program P) (himp : ∀ value new, P value new → R value new) :
    Yields view program R := by
  intro rig
  obtain ⟨new, hnew, hvalue⟩ := h rig
  exact ⟨new, hnew, himp _ _ hvalue⟩

theorem yields_ask (query : σ → α × σ) (call : α → Call) :
    Yields view (Rig.ask query call) fun answer new => new = (view (call answer)).toList := by
  intro rig
  refine ⟨_, ?_, rfl⟩
  simp only [seen, Rig.trace, Rig.ask, List.reverse_cons, List.filterMap_append]
  cases hcall : view (call (query rig.state).1) <;> simp [hcall]

theorem yields_logLine (level : Log.Level) (target message : String) :
    Yields view (Rig.logLine level target message : StateM (Rig σ) Unit) fun _ new => new = [] :=
  fun _ => ⟨[], (List.append_nil _).symm, rfl⟩

theorem yields_perform (device : Device σ) (command : Command) :
    Yields view (Rig.perform device command) fun _ new => new = (view (.command command)).toList :=
  yields_ask _ _

theorem yields_performAll (device : Device σ) (commands : List Command) :
    Yields view (Rig.performAll device commands) fun _ new =>
      new = commands.filterMap fun command => view (.command command) := by
  induction commands with
  | nil => exact yields_pure rfl
  | cons command rest ih =>
      apply (yields_perform device command).bind
      rintro _ _ rfl
      apply ih.mono
      rintro _ _ rfl
      rw [List.filterMap_cons]
      cases view (.command command) with
      | none => rfl
      | some value => rfl

end Rules

end LockScreen.Proofs.CallTraces
