namespace LockScreen.Proofs.Histories

variable {ε : Type} {history before after : List ε} {event last : ε}

theorem concat_eq_split (h : history ++ [last] = before ++ event :: after) :
    (before = history ∧ event = last ∧ after = []) ∨
      ∃ between, after = between ++ [last] ∧ history = before ++ event :: between := by
  rcases List.eq_nil_or_concat after with rfl | ⟨between, final, rfl⟩
  · obtain ⟨hbefore, hevent⟩ := List.append_singleton_inj.mp h
    exact Or.inl ⟨hbefore.symm, hevent.symm, rfl⟩
  · rw [List.concat_eq_append, ← List.cons_append, ← List.append_assoc] at h
    obtain ⟨hhistory, rfl⟩ := List.append_singleton_inj.mp h
    exact Or.inr ⟨between, List.concat_eq_append, hhistory⟩

section Told

variable {Fits : List ε → ε → Prop}

def Told (Fits : List ε → ε → Prop) (history : List ε) : Prop :=
  ∀ before event after, history = before ++ event :: after → Fits before event

theorem told_nil : Told Fits [] := by
  intro before event after h
  exact absurd h.symm (List.append_ne_nil_of_right_ne_nil _ (List.cons_ne_nil _ _))

theorem Told.concat (h : Told Fits history) (hlast : Fits history last) :
    Told Fits (history ++ [last]) := by
  intro before event after hsplit
  rcases concat_eq_split hsplit with ⟨rfl, rfl, -⟩ | ⟨between, -, hhistory⟩
  · exact hlast
  · exact h before event between hhistory

end Told

section Since

variable {Starts Stops : ε → Prop}

def Since (Starts Stops : ε → Prop) (history : List ε) : Prop :=
  ∃ before event after, history = before ++ event :: after ∧ Starts event ∧
    ∀ later ∈ after, ¬ Stops later

theorem not_since_nil : ¬ Since Starts Stops [] := by
  rintro ⟨before, event, after, h, -⟩
  exact List.append_ne_nil_of_right_ne_nil _ (List.cons_ne_nil _ _) h.symm

theorem since_concat :
    Since Starts Stops (history ++ [last]) ↔
      Starts last ∨ ¬ Stops last ∧ Since Starts Stops history := by
  constructor
  · rintro ⟨before, event, after, hsplit, hstarts, hafter⟩
    rcases concat_eq_split hsplit with ⟨-, rfl, -⟩ | ⟨between, rfl, hhistory⟩
    · exact Or.inl hstarts
    · obtain ⟨hbetween, hlast⟩ := List.forall_mem_append.mp hafter
      right
      exact ⟨hlast last (List.mem_singleton_self last), before, event, between, hhistory, hstarts,
        hbetween⟩
  · rintro (hlast | ⟨hlast, before, event, after, rfl, hstarts, hafter⟩)
    · exact ⟨history, last, [], rfl, hlast, fun _ h => absurd h List.not_mem_nil⟩
    · refine ⟨before, event, after ++ [last], List.append_assoc _ _ _, hstarts, ?_⟩
      refine List.forall_mem_append.mpr ⟨hafter, ?_⟩
      intro later hlater
      rw [List.mem_singleton.mp hlater]
      exact hlast

end Since

end LockScreen.Proofs.Histories
