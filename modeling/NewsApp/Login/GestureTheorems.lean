import NewsApp.Lib.Simulation
import NewsApp.Login.BottomSheetTheorems

/-!
# What the gestures do to the sheet

The end of a drag and a tap decide where the sheet comes to rest, whatever the frames of the animation are.
A drag moves the sheet less than the finger.
-/

namespace NewsApp.Login

open Lib

theorem Screen.maxHeight_pos (screen : Screen) : 0 < screen.maxHeight := screen.pos.trans_le screen.le

def SheetEvent.IsFrame : SheetEvent → Prop
  | .tick _ => True
  | .finish => True
  | _ => False

namespace Sheet

variable {screen : Screen} {s s' : Sheet} {b : Set.Icc (0 : ℚ) 1}

/-! ## Coming to rest -/

/-- The sheet goes to the bound, or is there. -/
structure GoesTo (b : Set.Icc (0 : ℚ) 1) (s : Sheet) : Prop where
  animated : s.controller.isAnimating = true → AnimationController.bound s.controller.direction = b
  stopped : s.controller.isAnimating = false → s.controller.value = b

theorem step_goesTo {e : SheetEvent} (hs : s.GoesTo b) (he : e.IsFrame) (h : step screen s e = some s') :
    s'.GoesTo b := by
  cases e with
  | tick x =>
      simp only [step, Option.ite_none_right_eq_some, Option.some.injEq] at h
      obtain ⟨hanim, rfl⟩ := h
      refine ⟨fun _ => hs.animated hanim, fun hstop => ?_⟩
      rw [AnimationController.tick_isAnimating, hanim] at hstop
      cases hstop
  | finish =>
      simp only [step, Option.ite_none_right_eq_some, Option.some.injEq] at h
      obtain ⟨hanim, rfl⟩ := h
      refine ⟨fun hanim' => ?_, fun _ => ?_⟩
      · rw [AnimationController.finish_isAnimating] at hanim'
        cases hanim'
      · rw [AnimationController.finish_value_eq]
        exact hs.animated hanim
  | _ => cases he

theorem GoesTo.value_of_run {fs : List SheetEvent} (hs : s.GoesTo b) (hfs : ∀ e ∈ fs, e.IsFrame)
    (hrun : run (step screen) s fs = some s') (hrest : s'.AtRest) : s'.controller.value = b :=
  (run_invariant_of_mem step_goesTo hs hfs hrun).stopped hrest.2

theorem goesTo_fling {v : ℚ} (hv : AnimationController.bound (s.controller.fling v).direction = b)
    (dragging : Bool) : GoesTo b ⟨s.controller.fling v, dragging⟩ :=
  ⟨fun _ => hv, nofun⟩

/-! ## The end of a drag and a tap -/

/-- Where a drag that ends with the velocity `dy` leaves the sheet. A sheet that was dragged open stays open,
however it is let go, and an animation that no update has stopped goes on. -/
def release (s : Sheet) (dy : ℚ) : Set.Icc (0 : ℚ) 1 :=
  if s.controller.isAnimating then AnimationController.bound s.controller.direction
  else if s.controller.value = 1 ∨ dy < 0 then 1
  else if 0 < dy ∨ (s.controller.value : ℚ) < 1 / 2 then 0
  else 1

/-- Where a tap sends the sheet: an open one that stands still is closed, any other is opened. -/
def toggled (s : Sheet) : Set.Icc (0 : ℚ) 1 :=
  if s.controller.isAnimating = false ∧ s.controller.value = 1 then 0 else 1

theorem flingVelocity_direction (screen : Screen) (dy : ℚ) (hopen : s.controller.value ≠ 1)
    (hanim : s.controller.isAnimating = false) (dragging : Bool) :
    AnimationController.bound
      (s.controller.fling (flingVelocity screen.maxHeight dy { s with dragging })).direction =
      s.release dy := by
  have hneg : dy / screen.maxHeight < 0 ↔ dy < 0 := by rw [div_lt_iff₀ screen.maxHeight_pos, zero_mul]
  have hpos : 0 < dy / screen.maxHeight ↔ 0 < dy := div_pos_iff_of_pos_right screen.maxHeight_pos
  simp only [release, hanim, Bool.false_eq_true, if_false, hopen, false_or, flingVelocity, gt_iff_lt, hneg,
    hpos]
  by_cases hup : dy < 0
  · have hv : 0 < max 2 (-(dy / screen.maxHeight)) := lt_max_of_lt_left two_pos
    rw [if_pos hup, if_pos hup, AnimationController.fling_direction_of_pos hv]
    rfl
  · by_cases hdown : 0 < dy
    · have hv : min (-2) (-(dy / screen.maxHeight)) < 0 := min_lt_of_left_lt (by norm_num)
      rw [if_neg hup, if_pos hdown, if_neg hup, if_pos (Or.inl hdown),
        AnimationController.fling_direction_of_neg hv]
      rfl
    · rw [if_neg hup, if_neg hdown, if_neg hup]
      by_cases hhalf : (s.controller.value : ℚ) < 1 / 2
      · rw [if_pos hhalf, if_pos (Or.inr hhalf), AnimationController.fling_direction_of_neg (by norm_num)]
        rfl
      · rw [if_neg hhalf, if_neg (not_or.mpr ⟨hdown, hhalf⟩),
          AnimationController.fling_direction_of_pos two_pos]
        rfl

theorem handleDragEnd_goesTo (hs : s.Inv) (dy : ℚ) (dragging : Bool) :
    GoesTo (s.release dy) (handleDragEnd screen.maxHeight dy { s with dragging }) := by
  unfold handleDragEnd
  by_cases hanim : s.controller.isAnimating = true
  · rw [if_pos (Or.inl hanim)]
    refine ⟨fun _ => ?_, fun hstop => absurd (hstop.symm.trans hanim) Bool.false_ne_true⟩
    rw [release, if_pos hanim]
  · have hstop : s.controller.isAnimating = false := by simpa using hanim
    have hstatus : s.controller.status = .completed ↔ s.controller.value = 1 := (hs.status hstop).1
    by_cases hopen : s.controller.value = 1
    · rw [if_pos (Or.inr (hstatus.mpr hopen))]
      refine ⟨fun hanim' => absurd hanim' hanim, fun _ => ?_⟩
      rw [release, if_neg hanim, if_pos (Or.inl hopen)]
      exact hopen
    · rw [if_neg (not_or.mpr ⟨hanim, fun hcompleted => hopen (hstatus.mp hcompleted)⟩)]
      exact goesTo_fling (flingVelocity_direction screen dy hopen hstop dragging) dragging

/-- The status of a running animation is not that of an open sheet. -/
def Flinging (s : Sheet) : Prop := s.controller.isAnimating = true → s.controller.status ≠ .completed

theorem initState_flinging : initState.Flinging := fun hanim => nomatch hanim

theorem fling_flinging (c : AnimationController) (v : ℚ) (dragging : Bool) :
    Flinging ⟨c.fling v, dragging⟩ := by
  intro _
  simp only [AnimationController.fling]
  split_ifs <;> nofun

theorem step_flinging {e : SheetEvent} (hs : s.Flinging) (h : step screen s e = some s') : s'.Flinging := by
  cases e with
  | tap =>
      cases h
      exact fling_flinging _ _ _
  | dragStart =>
      simp only [step, Option.ite_none_right_eq_some, Option.some.injEq] at h
      obtain ⟨_, rfl⟩ := h
      exact hs
  | dragUpdate primaryDelta =>
      simp only [step, Option.ite_none_right_eq_some, Option.some.injEq] at h
      obtain ⟨_, rfl⟩ := h
      exact fun hanim => absurd hanim Bool.false_ne_true
  | dragEnd dy =>
      simp only [step, Option.ite_none_right_eq_some, Option.some.injEq] at h
      obtain ⟨_, rfl⟩ := h
      unfold handleDragEnd
      split_ifs
      · exact hs
      · exact fling_flinging _ _ _
  | tick x =>
      simp only [step, Option.ite_none_right_eq_some, Option.some.injEq] at h
      obtain ⟨_, rfl⟩ := h
      exact hs
  | finish =>
      simp only [step, Option.ite_none_right_eq_some, Option.some.injEq] at h
      obtain ⟨_, rfl⟩ := h
      intro hanim
      rw [AnimationController.finish_isAnimating] at hanim
      cases hanim

theorem toggle_goesTo (hs : s.Inv) (hflinging : s.Flinging) : GoesTo s.toggled s.toggle := by
  have hcompleted : s.controller.status = .completed ↔
      s.controller.isAnimating = false ∧ s.controller.value = 1 := by
    constructor
    · intro hcompleted
      have hstop : s.controller.isAnimating = false := by
        by_contra hanim
        exact hflinging (by simpa using hanim) hcompleted
      exact ⟨hstop, (hs.status hstop).1.mp hcompleted⟩
    · rintro ⟨hstop, hopen⟩
      exact (hs.status hstop).1.mpr hopen
  refine goesTo_fling ?_ s.dragging
  simp only [toggled, ← hcompleted]
  by_cases hopen : s.controller.status = .completed
  · rw [if_pos hopen, AnimationController.fling_direction_of_neg (by simp [hopen])]
    rfl
  · rw [if_neg hopen, AnimationController.fling_direction_of_pos (by simp [hopen])]
    rfl

/-- From every state that can be reached, the end of a drag and a tap decide where the sheet comes to rest:
whatever the frames after them are, at rest it is where they sent it. -/
theorem gesture_decides (screen : Screen) (es : List SheetEvent) :
    Always (step screen) (fun s =>
      (∀ dy fs s', (∀ e ∈ fs, e.IsFrame) → run (step screen) s (.dragEnd dy :: fs) = some s' →
        s'.AtRest → s'.controller.value = s.release dy) ∧
      ∀ fs s', (∀ e ∈ fs, e.IsFrame) → run (step screen) s (.tap :: fs) = some s' →
        s'.AtRest → s'.controller.value = s.toggled) initState es := by
  rw [always_iff_take]
  intro n s hrun
  have hs : s.Inv := run_invariant step_inv initState_inv hrun
  have hflinging : s.Flinging := run_invariant step_flinging initState_flinging hrun
  constructor
  · intro dy fs s' hfs hrun' hrest
    obtain ⟨s₁, h₁, hrun'⟩ := Option.bind_eq_some_iff.mp hrun'
    simp only [step, Option.ite_none_right_eq_some, Option.some.injEq] at h₁
    obtain ⟨_, rfl⟩ := h₁
    exact (handleDragEnd_goesTo hs dy false).value_of_run hfs hrun' hrest
  · intro fs s' hfs hrun' hrest
    obtain ⟨s₁, h₁, hrun'⟩ := Option.bind_eq_some_iff.mp hrun'
    cases h₁
    exact (toggle_goesTo hs hflinging).value_of_run hfs hrun' hrest

/-! ## Liveness -/

@[simp] theorem handleDragEnd_dragging (maxHeight dy : ℚ) (s : Sheet) :
    (s.handleDragEnd maxHeight dy).dragging = s.dragging := by
  unfold handleDragEnd
  split_ifs <;> rfl

/-- The sheet rests at an edge, or is animated, and then the last frame of the animation brings it to rest
there, after any other frames. -/
def Settles (screen : Screen) (s : Sheet) : Prop :=
  s.AtRest ∧ s.AtEdge ∨ s.controller.isAnimating = true ∧ ∀ xs : List ℚ, ∃ s',
    run (step screen) s (xs.map .tick ++ [.finish]) = some s' ∧ s'.AtRest ∧ s'.AtEdge

theorem run_ticks (screen : Screen) (hanim : s.controller.isAnimating = true) (xs : List ℚ) :
    ∃ s', run (step screen) s (xs.map .tick) = some s' ∧ s'.controller.isAnimating = true ∧
      s'.dragging = s.dragging := by
  induction xs generalizing s with
  | nil => exact ⟨s, rfl, hanim, rfl⟩
  | cons x xs ih =>
      have htick : step screen s (.tick x) = some { s with controller := s.controller.tick x } := by
        simp [step, hanim]
      obtain ⟨s', hrun, hanim', hdragging⟩ := ih (s := { s with controller := s.controller.tick x }) hanim
      exact ⟨s', (run_cons_of_step htick _).trans hrun, hanim', hdragging⟩

theorem Inv.settles (hs : s.Inv) (screen : Screen) (hdragging : s.dragging = false) : s.Settles screen := by
  cases hanim : s.controller.isAnimating with
  | false => exact Or.inl ⟨⟨hdragging, hanim⟩, hs.atEdge ⟨hdragging, hanim⟩⟩
  | true =>
      refine Or.inr ⟨hanim, fun xs => ?_⟩
      obtain ⟨t, hrun, hanim', hdragging'⟩ := run_ticks screen hanim xs
      have hfinish : step screen t .finish = some { t with controller := t.controller.finish } := by
        simp [step, hanim']
      have hrest : AtRest { t with controller := t.controller.finish } :=
        ⟨hdragging'.trans hdragging, AnimationController.finish_isAnimating t.controller⟩
      have hinv : Inv { t with controller := t.controller.finish } :=
        step_inv (run_invariant step_inv hs hrun) hfinish
      refine ⟨_, ?_, hrest, hinv.atEdge hrest⟩
      rw [run_append, hrun]
      exact run_cons_of_step hfinish []

/-- From every state that can be reached, a sheet that nobody drags settles at an edge, and a sheet that is
dragged does so once the drag ends, with whatever velocity. -/
theorem comes_to_rest (screen : Screen) (es : List SheetEvent) :
    Always (step screen) (fun s => (s.dragging = false → s.Settles screen) ∧
      (s.dragging = true → ∀ dy, ∃ s', step screen s (.dragEnd dy) = some s' ∧ s'.dragging = false ∧
        s'.Settles screen)) initState es := by
  rw [always_iff_take]
  intro n s hrun
  have hs : s.Inv := run_invariant step_inv initState_inv hrun
  refine ⟨hs.settles screen, fun hdragging dy => ?_⟩
  have hend : step screen s (.dragEnd dy) =
      some (handleDragEnd screen.maxHeight dy { s with dragging := false }) := by simp [step, hdragging]
  have hfree : (handleDragEnd screen.maxHeight dy { s with dragging := false }).dragging = false := by simp
  exact ⟨_, hend, hfree, (step_inv hs hend).settles screen hfree⟩

/-! ## Following the finger -/

/-- The pixels that the sheet moves for one pixel of the finger. -/
def speed (screen : Screen) : ℚ := 1 - screen.minHeight / screen.maxHeight

theorem speed_mul (screen : Screen) (x : ℚ) :
    speed screen * x = (screen.maxHeight - screen.minHeight) * (x / screen.maxHeight) := by
  have hne : screen.maxHeight ≠ 0 := screen.maxHeight_pos.ne'
  unfold speed
  field_simp

theorem height_sub (screen : Screen) (s s' : Sheet) : s'.height screen - s.height screen =
    (screen.maxHeight - screen.minHeight) * ((s'.controller.value : ℚ) - s.controller.value) := by
  unfold height lerp lerpDouble
  ring

theorem handleDragUpdate_height_le (screen : Screen) (s : Sheet) (delta : ℚ) :
    |(s.handleDragUpdate screen.maxHeight delta).height screen - s.height screen| ≤
      speed screen * |delta| := by
  have hpos := screen.maxHeight_pos
  have hclamp : |(AnimationController.clamp (s.controller.value - delta / screen.maxHeight) : ℚ) -
      s.controller.value| ≤ |delta| / screen.maxHeight := by
    have habs := Set.abs_projIcc_sub_projIcc (α := ℚ) zero_le_one
      (c := s.controller.value - delta / screen.maxHeight) (d := s.controller.value)
    rw [sub_sub_cancel_left, abs_neg, abs_div, abs_of_pos hpos, Set.projIcc_val] at habs
    exact habs
  rw [height_sub, speed_mul, abs_mul, abs_of_nonneg (sub_nonneg.mpr screen.le)]
  exact mul_le_mul_of_nonneg_left hclamp (sub_nonneg.mpr screen.le)

theorem handleDragUpdate_value {maxHeight delta : ℚ}
    (hinside : (s.controller.value : ℚ) - delta / maxHeight ∈ Set.Icc 0 1) :
    ((s.handleDragUpdate maxHeight delta).controller.value : ℚ) = s.controller.value - delta / maxHeight :=
  congrArg Subtype.val (Set.projIcc_of_mem zero_le_one hinside)

theorem handleDragUpdate_height (screen : Screen) (s : Sheet) (delta : ℚ)
    (hinside : (s.controller.value : ℚ) - delta / screen.maxHeight ∈ Set.Icc 0 1) :
    (s.handleDragUpdate screen.maxHeight delta).height screen = s.height screen - speed screen * delta := by
  have hvalue := handleDragUpdate_value hinside
  have hsub := height_sub screen s (s.handleDragUpdate screen.maxHeight delta)
  rw [hvalue] at hsub
  rw [speed_mul]
  linarith only [hsub]

theorem run_dragUpdate_cons {delta : ℚ} {deltas : List ℚ}
    (h : run (step screen) s ((delta :: deltas).map .dragUpdate) = some s') :
    run (step screen) (s.handleDragUpdate screen.maxHeight delta) (deltas.map .dragUpdate) = some s' := by
  obtain ⟨s₁, h₁, hrun⟩ := Option.bind_eq_some_iff.mp h
  simp only [step, Option.ite_none_right_eq_some, Option.some.injEq] at h₁
  obtain ⟨_, rfl⟩ := h₁
  exact hrun

/-- In a drag the sheet never moves further than the finger: it goes `speed` times as far at most, which is
less than one, and exactly so far as long as it does not meet an edge. -/
theorem follows_finger (screen : Screen) (s : Sheet) (deltas : List ℚ) (s' : Sheet)
    (hrun : run (step screen) s (deltas.map .dragUpdate) = some s') :
    |s'.height screen - s.height screen| ≤ speed screen * (deltas.map abs).sum ∧ speed screen < 1 ∧
      ((∀ n, (s.controller.value : ℚ) - (deltas.take n).sum / screen.maxHeight ∈ Set.Icc 0 1) →
        s'.height screen = s.height screen - speed screen * deltas.sum) := by
  refine ⟨?_, sub_lt_self _ (div_pos screen.pos screen.maxHeight_pos), ?_⟩
  · induction deltas generalizing s with
    | nil => cases hrun; simp
    | cons delta deltas ih =>
        have hrest := ih _ (run_dragUpdate_cons hrun)
        have hhere := handleDragUpdate_height_le screen s delta
        have htriangle := abs_sub_le (s'.height screen)
          ((s.handleDragUpdate screen.maxHeight delta).height screen) (s.height screen)
        rw [List.map_cons, List.sum_cons, mul_add]
        linarith only [hrest, hhere, htriangle]
  · induction deltas generalizing s with
    | nil =>
        intro _
        cases hrun
        simp
    | cons delta deltas ih =>
        intro hinside
        have hfirst : (s.controller.value : ℚ) - delta / screen.maxHeight ∈ Set.Icc 0 1 := by
          simpa using hinside 1
        have hvalue := handleDragUpdate_value hfirst
        have hrest := ih _ (run_dragUpdate_cons hrun) fun n => by
          rw [hvalue, sub_sub, ← add_div]
          simpa using hinside (n + 1)
        rw [hrest, handleDragUpdate_height screen s delta hfirst, List.sum_cons]
        ring

/-- Two updates of a drag from the closed sheet. -/
theorem follows_finger_sample :
    ∃ s', run (step (.of true 640 (by decide))) ⟨.init, true⟩ ([-160, -160].map .dragUpdate) = some s' ∧
      |s'.height (.of true 640 (by decide)) - height (.of true 640 (by decide)) ⟨.init, true⟩| ≤
        speed (.of true 640 (by decide)) * ([-160, -160].map abs).sum :=
  ⟨_, rfl, (follows_finger (.of true 640 (by decide)) ⟨.init, true⟩ [-160, -160] _ rfl).1⟩

end Sheet

end NewsApp.Login
