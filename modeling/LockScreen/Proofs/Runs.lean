namespace LockScreen.Proofs.Runs

variable {σ μ : Type}

def run (step : σ → μ → σ) (state : σ) (moves : List μ) : σ :=
  moves.foldl step state

section Run

variable (step : σ → μ → σ) (state : σ)

@[simp] theorem run_nil : run step state [] = state :=
  rfl

@[simp] theorem run_cons (first : μ) (rest : List μ) :
    run step state (first :: rest) = run step (step state first) rest :=
  rfl

@[simp] theorem run_append (first second : List μ) :
    run step state (first ++ second) = run step (run step state first) second :=
  List.foldl_append

end Run

section Invariants

variable {step : σ → μ → σ} {state : σ} {I : σ → Prop}

theorem invariant_run (hstep : ∀ state move, I state → I (step state move)) (hstart : I state)
    (moves : List μ) : I (run step state moves) := by
  induction moves generalizing state with
  | nil => exact hstart
  | cons first rest ih => exact ih (hstep _ _ hstart)

theorem run_keeps_all {K : μ → Prop} (hstep : ∀ state move, K move → I state → I (step state move))
    (hstart : I state) {moves : List μ} (h : ∀ move ∈ moves, K move) :
    I (run step state moves) := by
  induction moves generalizing state with
  | nil => exact hstart
  | cons first rest ih =>
      rw [List.forall_mem_cons] at h
      exact ih (hstep _ _ h.1 hstart) h.2

/-- Every step of a run has a property, in the state in which it is taken. -/
def Throughout (step : σ → μ → σ) (P : σ → μ → Prop) : σ → List μ → Prop
  | _, [] => True
  | state, first :: rest => P state first ∧ Throughout step P (step state first) rest

variable {P : σ → μ → Prop}

theorem throughout_append (state : σ) (first second : List μ) :
    Throughout step P state (first ++ second) ↔
      Throughout step P state first ∧ Throughout step P (run step state first) second := by
  induction first generalizing state with
  | nil => exact (and_iff_right trivial).symm
  | cons head rest ih => simp only [List.cons_append, Throughout, run_cons, ih, and_assoc]

theorem run_keeps (hstep : ∀ state move, I state → P state move → I (step state move))
    (hstart : I state) {moves : List μ} (h : Throughout step P state moves) :
    I (run step state moves) := by
  induction moves generalizing state with
  | nil => exact hstart
  | cons first rest ih => exact ih (hstep _ _ hstart h.1) h.2

/-- A view of a system whose steps it sees as steps of another sees its runs as runs of the
other. -/
theorem run_view {τ : Type} {other : τ → μ → τ} {view : σ → τ}
    (hstep : ∀ state move, other (view state) move = view (step state move)) (state : σ)
    (moves : List μ) : run other (view state) moves = view (run step state moves) := by
  induction moves generalizing state with
  | nil => rfl
  | cons first rest ih => rw [run_cons, run_cons, hstep, ih]

end Invariants

end LockScreen.Proofs.Runs
