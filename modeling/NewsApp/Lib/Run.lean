import Mathlib.Data.List.Basic

/-!
# Runs of partial step functions

A system is a step function `σ → α → Option σ`: the state after an event, or `none` when the event
cannot happen there. Two kinds of statement about runs are used: what holds in every state (`Always`),
and what holds of every step (`EachStep`). The rules at the end derive both from one-step lemmas.
-/

namespace NewsApp.Lib

variable {σ α : Type*} (step : σ → α → Option σ)

/-- The state after the events, when each of them can happen in turn. -/
def run : σ → List α → Option σ
  | s, [] => some s
  | s, a :: as => (step s a).bind fun s' => run s' as

def Reachable (s t : σ) : Prop := ∃ as, run step s as = some t

/-- `P` holds in every state of the run. A run ends before the first event that cannot happen. -/
def Always (P : σ → Prop) : σ → List α → Prop
  | s, [] => P s
  | s, a :: as => P s ∧ ∀ s', step s a = some s' → Always P s' as

def EachStep (R : σ → α → σ → Prop) : σ → List α → Prop
  | _, [] => True
  | s, a :: as => ∀ s', step s a = some s' → R s a s' ∧ EachStep R s' as

variable {step}

/-! ## Composition -/

@[simp] theorem run_nil (s : σ) : run step s [] = some s := rfl

theorem run_cons_of_step {s s' : σ} {a : α} (h : step s a = some s') (as : List α) :
    run step s (a :: as) = run step s' as := by
  simp [run, h]

theorem run_append (s : σ) (as bs : List α) :
    run step s (as ++ bs) = (run step s as).bind fun t => run step t bs := by
  induction as generalizing s with
  | nil => rfl
  | cons a as ih =>
      cases h : step s a with
      | none => simp [run, h]
      | some s' => simp [run, h, ih]

/-! ## Invariants -/

theorem run_invariant {P : σ → Prop} (hstep : ∀ {s a s'}, P s → step s a = some s' → P s') {s t : σ}
    {as : List α} (hs : P s) (h : run step s as = some t) : P t := by
  induction as generalizing s with
  | nil => cases h; exact hs
  | cons a as ih =>
      obtain ⟨s', ha, hrun⟩ := Option.bind_eq_some_iff.mp h
      exact ih (hstep hs ha) hrun

theorem Reachable.invariant {P : σ → Prop} (hstep : ∀ {s a s'}, P s → step s a = some s' → P s')
    {s t : σ} (hs : P s) (h : Reachable step s t) : P t := by
  obtain ⟨as, has⟩ := h
  exact run_invariant hstep hs has

/-! ## Every state and every step -/

theorem Always.here {P : σ → Prop} {s : σ} {as : List α} (h : Always step P s as) : P s := by
  cases as with
  | nil => exact h
  | cons a as => exact h.1

theorem always_iff_eachStep {P : σ → Prop} {s : σ} {as : List α} :
    Always step P s as ↔ P s ∧ EachStep step (fun _ _ s' => P s') s as := by
  induction as generalizing s with
  | nil => simp [Always, EachStep]
  | cons a as ih =>
      simp only [Always, EachStep, ih]

theorem always_iff_take {P : σ → Prop} {s : σ} {as : List α} :
    Always step P s as ↔ ∀ n t, run step s (as.take n) = some t → P t := by
  constructor
  · intro h n t ht
    induction n generalizing s as with
    | zero => cases ht; exact h.here
    | succ n ih =>
        cases as with
        | nil => cases ht; exact h
        | cons a as =>
            obtain ⟨s', ha, hrun⟩ := Option.bind_eq_some_iff.mp ht
            exact ih (h.2 s' ha) hrun
  · intro h
    induction as generalizing s with
    | nil => exact h 0 s rfl
    | cons a as ih =>
        refine ⟨h 0 s rfl, fun s' ha => ih fun n t ht => h (n + 1) t ?_⟩
        rw [List.take_succ_cons, run_cons_of_step ha, ht]

/-- Two properties of steps hold along the same runs when they agree on every step from a state where
the invariant `I` holds, and a step with the property keeps `I`. -/
theorem eachStep_iff {I : σ → Prop} {R C : σ → α → σ → Prop}
    (hexact : ∀ {s a s'}, I s → step s a = some s' → (R s a s' ↔ C s a s'))
    (hkeep : ∀ {s a s'}, I s → step s a = some s' → C s a s' → I s') {s : σ} (hs : I s)
    (as : List α) : EachStep step R s as ↔ EachStep step C s as := by
  induction as generalizing s with
  | nil => exact Iff.rfl
  | cons a as ih =>
      refine forall_congr' fun s' => forall_congr' fun ha => ?_
      rw [hexact hs ha]
      exact and_congr_right fun hC => ih (hkeep hs ha hC)

/-- The guard `C` on steps is exact for the state property `P`: runs from a state with `P` and the
invariant `I` stay in `P` exactly when all their steps meet `C`. -/
theorem always_iff_guarded {I P : σ → Prop} {C : σ → α → Prop}
    (hI : ∀ {s a s'}, I s → step s a = some s' → I s')
    (hexact : ∀ {s a s'}, I s → P s → step s a = some s' → (P s' ↔ C s a)) {s : σ} (hs : I s)
    (hP : P s) (as : List α) :
    Always step P s as ↔ EachStep step (fun s a _ => C s a) s as := by
  rw [always_iff_eachStep, and_iff_right hP]
  exact eachStep_iff (I := fun s => I s ∧ P s) (R := fun _ _ s' => P s') (C := fun s a _ => C s a)
    (fun h ha => hexact h.1 h.2 ha) (fun h ha hC => ⟨hI h.1 ha, (hexact h.1 h.2 ha).mpr hC⟩) ⟨hs, hP⟩ as

end NewsApp.Lib
