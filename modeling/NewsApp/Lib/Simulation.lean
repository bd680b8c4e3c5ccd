import Mathlib.Algebra.GroupWithZero.Nat
import Mathlib.Data.List.Induction
import NewsApp.Lib.Run

/-!
# Simulations, histories and accounts of runs

Rules that turn a lemma about one step into one about a run, where the conclusion speaks of the events: a
run of another system that follows this one, a property of the state and of the events so far, a sum over
the events, and their order.
-/

namespace NewsApp.Lib

variable {σ τ α β : Type*} {step : σ → α → Option σ} {step' : τ → β → Option τ}

/-! ## Simulations -/

/-- The events of another system: each event of the run becomes the list `f` of the state it happens in. -/
def translated (step : σ → α → Option σ) (f : σ → α → List β) : σ → List α → List β
  | _, [] => []
  | s, a :: as =>
      match step s a with
      | some s' => f s a ++ translated step f s' as
      | none => f s a

theorem translated_cons {f : σ → α → List β} {s s' : σ} {a : α} (h : step s a = some s') (as : List α) :
    translated step f s (a :: as) = f s a ++ translated step f s' as := by
  simp [translated, h]

theorem translated_concat (f : σ → α → List β) {s t : σ} {as : List α} (h : run step s as = some t) (a : α) :
    translated step f s (as ++ [a]) = translated step f s as ++ f t a := by
  induction as generalizing s with
  | nil =>
      cases h
      cases ha : step t a <;> simp [translated, ha]
  | cons b bs ih =>
      obtain ⟨s', hb, hrun⟩ := Option.bind_eq_some_iff.mp h
      rw [List.cons_append, translated_cons hb, translated_cons hb, ih hrun, List.append_assoc]

theorem mem_translated {f : σ → α → List β} {s : σ} {as : List α} {b : β} (h : b ∈ translated step f s as) :
    ∃ t, ∃ a ∈ as, b ∈ f t a := by
  induction as generalizing s with
  | nil => cases h
  | cons a as ih =>
      cases ha : step s a with
      | none => exact ⟨s, a, List.mem_cons_self, by simpa [translated, ha] using h⟩
      | some s' =>
          rw [translated_cons ha, List.mem_append] at h
          rcases h with h | h
          · exact ⟨s, a, List.mem_cons_self, h⟩
          · obtain ⟨t, a', ha', hb⟩ := ih h
            exact ⟨t, a', List.mem_cons_of_mem a ha', hb⟩

theorem mem_translated_of_mem {f : σ → α → List β} {s t : σ} {as : List α} {a : α} {b : β}
    (hb : ∀ s, b ∈ f s a) (ha : a ∈ as) (h : run step s as = some t) : b ∈ translated step f s as := by
  induction as generalizing s with
  | nil => cases ha
  | cons a' as ih =>
      obtain ⟨s', hstep, hrun⟩ := Option.bind_eq_some_iff.mp h
      rw [translated_cons hstep, List.mem_append]
      rcases List.mem_cons.mp ha with rfl | ha
      · exact Or.inl (hb s)
      · exact Or.inr (ih ha hrun)

/-- Forward simulation: when the other system follows every step with the translated events, it follows
every run. -/
theorem run_simulates {R : σ → τ → Prop} {f : σ → α → List β}
    (hsim : ∀ {s t a s'}, R s t → step s a = some s' → ∃ t', run step' t (f s a) = some t' ∧ R s' t')
    {s s' : σ} {t : τ} {as : List α} (h : R s t) (hrun : run step s as = some s') :
    ∃ t', run step' t (translated step f s as) = some t' ∧ R s' t' := by
  induction as generalizing s t with
  | nil => cases hrun; exact ⟨t, rfl, h⟩
  | cons a as ih =>
      obtain ⟨s₁, ha, hrun⟩ := Option.bind_eq_some_iff.mp hrun
      obtain ⟨t₁, ht₁, h₁⟩ := hsim h ha
      obtain ⟨t', ht', h'⟩ := ih h₁ hrun
      exact ⟨t', by rw [translated_cons ha, run_append, ht₁]; exact ht', h'⟩

/-- Maps of the states and of the events that every step respects, also where an event cannot happen. -/
theorem run_map {f : σ → τ} {g : α → β} (h : ∀ s a, step' (f s) (g a) = (step s a).map f) (s : σ)
    (as : List α) : run step' (f s) (as.map g) = (run step s as).map f := by
  induction as generalizing s with
  | nil => rfl
  | cons a as ih =>
      rw [List.map_cons, run, run, h]
      cases step s a with
      | none => rfl
      | some s' => exact ih s'

/-! ## Histories -/

theorem run_concat {s t : σ} {as : List α} {a : α} (h : run step s (as ++ [a]) = some t) :
    ∃ s', run step s as = some s' ∧ step s' a = some t := by
  rw [run_append] at h
  obtain ⟨s', hrun, ha⟩ := Option.bind_eq_some_iff.mp h
  obtain ⟨t', ha, hnil⟩ := Option.bind_eq_some_iff.mp ha
  cases hnil
  exact ⟨s', hrun, ha⟩

/-- A property of the events so far and of the state, which each step carries on. -/
theorem run_history {P : List α → σ → Prop} {s t : σ} {as : List α} (hnil : P [] s)
    (hstep : ∀ {as a s' t}, run step s as = some s' → P as s' → step s' a = some t → P (as ++ [a]) t)
    (hrun : run step s as = some t) : P as t := by
  induction as using List.reverseRecOn generalizing t with
  | nil => cases hrun; exact hnil
  | append_singleton as a ih =>
      obtain ⟨s', hrun, ha⟩ := run_concat hrun
      exact hstep hrun (ih hrun) ha

/-- What only some of the events keep holds after the runs that have no others. -/
theorem run_invariant_of_mem {P : σ → Prop} {E : α → Prop}
    (hstep : ∀ {s a s'}, P s → E a → step s a = some s' → P s') {s t : σ} {as : List α} (hs : P s)
    (hE : ∀ a ∈ as, E a) (hrun : run step s as = some t) : P t := by
  induction as generalizing s with
  | nil => cases hrun; exact hs
  | cons a as ih =>
      obtain ⟨s', ha, hrun⟩ := Option.bind_eq_some_iff.mp hrun
      rw [List.forall_mem_cons] at hE
      exact ih (hstep hs hE.1 ha) hE.2 hrun

/-! ## Accounts -/

/-- What the events cost is covered by what they bring in and by the credit that is used up. -/
theorem run_account {I : σ → Prop} (credit : σ → Nat) (cost gain : α → Nat)
    (hI : ∀ {s a s'}, I s → step s a = some s' → I s')
    (hstep : ∀ {s a s'}, I s → step s a = some s' → credit s' + cost a ≤ credit s + gain a)
    {s t : σ} {as : List α} (hs : I s) (hrun : run step s as = some t) :
    credit t + (as.map cost).sum ≤ credit s + (as.map gain).sum := by
  induction as generalizing s with
  | nil => cases hrun; simp
  | cons a as ih =>
      obtain ⟨s', ha, hrun⟩ := Option.bind_eq_some_iff.mp hrun
      have hhere := hstep hs ha
      have hrest := ih (hI hs ha) hrun
      simp only [List.map_cons, List.sum_cons]
      omega

/-! ## Independent events -/

/-- Events that commute in pairs can happen in any order. -/
theorem run_perm (step : σ → α → Option σ) {I : α → α → Prop} (hsymm : ∀ {a b}, I a b → I b a)
    (hcomm : ∀ {a b}, I a b → ∀ s, (step s a).bind (fun t => step t b) = (step s b).bind fun t => step t a)
    {as bs : List α} (hI : as.Pairwise I) (hperm : as.Perm bs) (s : σ) : run step s as = run step s bs := by
  induction hperm generalizing s with
  | nil => rfl
  | cons a _ ih => exact Option.bind_congr fun s' _ => ih hI.of_cons s'
  | swap a b as =>
      have hba : I b a := List.rel_of_pairwise_cons hI List.mem_cons_self
      calc run step s (b :: a :: as)
          = ((step s b).bind fun t => step t a).bind fun t => run step t as := (Option.bind_assoc _ _ _).symm
        _ = ((step s a).bind fun t => step t b).bind fun t => run step t as := by rw [hcomm hba]
        _ = run step s (a :: b :: as) := Option.bind_assoc _ _ _
  | trans hperm _ ih₁ ih₂ => rw [ih₁ hI s, ih₂ ((hperm.pairwise_iff hsymm).mp hI) s]

end NewsApp.Lib
