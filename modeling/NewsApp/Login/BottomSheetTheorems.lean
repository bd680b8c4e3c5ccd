import NewsApp.Login.BottomSheet

/-!
# The sheet rests at its edges
-/

namespace NewsApp.Login.Sheet

open Lib

variable {screen : Screen} {s s' : Sheet}

/-! ## Heights -/

theorem lerpDouble_mem {a b t : ℚ} (hab : a ≤ b) (ht : t ∈ Set.Icc 0 1) : lerpDouble a b t ∈ Set.Icc a b := by
  have h0 : 0 ≤ (b - a) * t := mul_nonneg (sub_nonneg.mpr hab) ht.1
  have h1 : (b - a) * t ≤ b - a := mul_le_of_le_one_right (sub_nonneg.mpr hab) ht.2
  exact ⟨by unfold lerpDouble; linarith only [h0], by unfold lerpDouble; linarith only [h1]⟩

theorem height_mem (screen : Screen) (s : Sheet) :
    s.height screen ∈ Set.Icc screen.minHeight screen.maxHeight :=
  lerpDouble_mem screen.le s.controller.value.2

/-! ## Steps -/

/-- The status agrees with the value, and the sheet is dragged, animated or at an edge. -/
structure Inv (s : Sheet) : Prop where
  status : s.controller.StatusAgrees
  edge : s.AtRest → s.controller.value = 0 ∨ s.controller.value = 1

theorem Inv.of_isAnimating (h : s.controller.isAnimating = true) : s.Inv :=
  ⟨AnimationController.statusAgrees_of_isAnimating h, fun hrest => by
    rw [hrest.2] at h
    cases h⟩

theorem initState_inv : initState.Inv := ⟨AnimationController.init_statusAgrees, fun _ => Or.inl rfl⟩

theorem dragStart_inv (h : s.Inv) : Inv { s with dragging := true } :=
  ⟨h.status, fun hrest => by cases hrest.1⟩

theorem handleDragUpdate_inv (maxHeight primaryDelta : ℚ) (hdrag : s.dragging = true) :
    (s.handleDragUpdate maxHeight primaryDelta).Inv :=
  ⟨AnimationController.setValue_statusAgrees _ _, fun hrest => by
    have hfree : s.dragging = false := hrest.1
    rw [hdrag] at hfree
    cases hfree⟩

/-- Both early returns leave the sheet animated or open: a stopped animation with status completed is at 1. -/
theorem handleDragEnd_inv (maxHeight dy : ℚ) (hstatus : s.controller.StatusAgrees) :
    (s.handleDragEnd maxHeight dy).Inv := by
  unfold handleDragEnd
  split_ifs with hreturn
  · -- at rest, the first early return is excluded, and the second is at 1
    refine ⟨hstatus, fun hrest => ?_⟩
    have hcompleted : s.controller.status = .completed := by
      rcases hreturn with hanim | hcompleted
      · rw [hrest.2] at hanim
        cases hanim
      · exact hcompleted
    exact Or.inr ((hstatus hrest.2).1.mp hcompleted)
  · exact Inv.of_isAnimating rfl

theorem finish_inv (s : Sheet) : Inv { s with controller := s.controller.finish } :=
  ⟨s.controller.finish_statusAgrees, fun _ => s.controller.finish_value⟩

theorem step_inv {e : SheetEvent} (h : s.Inv) (hstep : step screen s e = some s') : s'.Inv := by
  cases e with
  | tap =>
      cases hstep
      exact Inv.of_isAnimating rfl
  | dragStart =>
      simp only [step, Option.ite_none_right_eq_some, Option.some.injEq] at hstep
      obtain ⟨_, rfl⟩ := hstep
      exact dragStart_inv h
  | dragUpdate primaryDelta =>
      simp only [step, Option.ite_none_right_eq_some, Option.some.injEq] at hstep
      obtain ⟨hdrag, rfl⟩ := hstep
      exact handleDragUpdate_inv screen.maxHeight primaryDelta hdrag
  | dragEnd dy =>
      simp only [step, Option.ite_none_right_eq_some, Option.some.injEq] at hstep
      obtain ⟨_, rfl⟩ := hstep
      exact handleDragEnd_inv screen.maxHeight dy h.status
  | tick x =>
      simp only [step, Option.ite_none_right_eq_some, Option.some.injEq] at hstep
      obtain ⟨hanim, rfl⟩ := hstep
      exact Inv.of_isAnimating hanim
  | finish =>
      simp only [step, Option.ite_none_right_eq_some, Option.some.injEq] at hstep
      obtain ⟨_, rfl⟩ := hstep
      exact finish_inv s

theorem Inv.atEdge (h : s.Inv) (hrest : s.AtRest) : s.AtEdge := by
  refine ⟨(h.edge hrest).imp (congrArg Subtype.val) (congrArg Subtype.val), ?_⟩
  rw [(h.status hrest.2).1]
  exact Subtype.ext_iff

/-! ## Runs -/

/-- In every state of every run, the sheet is between its edges in height, and it is at one of them when
nobody drags and nothing is animated. -/
theorem never_rests_half_open (screen : Screen) (es : List SheetEvent) :
    Always (step screen) (fun s => (s.AtRest → s.AtEdge) ∧
      screen.minHeight ≤ s.height screen ∧ s.height screen ≤ screen.maxHeight) initState es := by
  rw [always_iff_take]
  intro n t hrun
  exact ⟨(run_invariant step_inv initState_inv hrun).atEdge, height_mem screen t⟩

/-- A drag over a running fling that is let go halfway, with the fling that follows it. -/
example : (run (step (.of true 640 (by decide))) initState
    [.tap, .tick (3 / 4), .dragStart, .dragUpdate 160, .dragEnd 0, .finish]).map
      (fun s => (s.controller.value : ℚ)) = some 1 := by decide +kernel

end NewsApp.Login.Sheet
