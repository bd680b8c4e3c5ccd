import Mathlib

/-!
# `AnimationController` with the bounds 0 and 1

The value is a number of the unit interval by its type. A running animation is a fling: its ticks set any
value, and its last tick sets the bound it goes to.
-/

namespace NewsApp

inductive AnimationStatus
  | dismissed
  | forward
  | reverse
  | completed
  deriving DecidableEq, Repr

inductive AnimationDirection
  | forward
  | reverse
  deriving DecidableEq, Repr

def AnimationDirection.status : AnimationDirection → AnimationStatus
  | .forward => .forward
  | .reverse => .reverse

structure AnimationController where
  value : Set.Icc (0 : ℚ) 1
  status : AnimationStatus
  direction : AnimationDirection
  isAnimating : Bool

namespace AnimationController

def clamp (x : ℚ) : Set.Icc (0 : ℚ) 1 := Set.projIcc 0 1 zero_le_one x

def init : AnimationController := ⟨0, .dismissed, .forward, false⟩

/-- Assigns `value`, which stops the animation. The direction stays that of the last animation. -/
def setValue (c : AnimationController) (x : ℚ) : AnimationController :=
  { value := clamp x
    status := if clamp x = 0 then .dismissed else if clamp x = 1 then .completed else c.direction.status
    direction := c.direction
    isAnimating := false }

def fling (c : AnimationController) (velocity : ℚ) : AnimationController :=
  let direction := if velocity < 0 then AnimationDirection.reverse else .forward
  { value := c.value, status := direction.status, direction, isAnimating := true }

def tick (c : AnimationController) (x : ℚ) : AnimationController := { c with value := clamp x }

/-- The last tick of the animation. -/
def finish (c : AnimationController) : AnimationController :=
  match c.direction with
  | .forward => { c with value := 1, status := .completed, isAnimating := false }
  | .reverse => { c with value := 0, status := .dismissed, isAnimating := false }

@[simp] theorem tick_isAnimating (c : AnimationController) (x : ℚ) :
    (c.tick x).isAnimating = c.isAnimating := rfl

@[simp] theorem finish_isAnimating (c : AnimationController) : c.finish.isAnimating = false := by
  unfold finish
  cases c.direction <;> rfl

/-! ## The status of a stopped controller -/

theorem lowerBound_ne_upperBound : (0 : Set.Icc (0 : ℚ) 1) ≠ 1 := by decide

/-- Without a running animation, the status tells whether the value is at a bound. -/
def StatusAgrees (c : AnimationController) : Prop :=
  c.isAnimating = false → ((c.status = .completed ↔ c.value = 1) ∧ (c.status = .dismissed ↔ c.value = 0))

theorem statusAgrees_of_isAnimating {c : AnimationController} (h : c.isAnimating = true) :
    c.StatusAgrees := fun hstop => by
  rw [h] at hstop
  cases hstop

theorem init_statusAgrees : init.StatusAgrees := fun _ => ⟨by decide, by decide⟩

theorem setValue_statusAgrees (c : AnimationController) (x : ℚ) : (c.setValue x).StatusAgrees := by
  intro _
  have hdir : c.direction.status ≠ .completed ∧ c.direction.status ≠ .dismissed := by
    cases c.direction <;> exact ⟨nofun, nofun⟩
  simp only [setValue]
  split_ifs with h0 h1
  · simp [h0, lowerBound_ne_upperBound]
  · simp [h1, lowerBound_ne_upperBound.symm]
  · simp [h0, h1, hdir.1, hdir.2]

theorem finish_statusAgrees (c : AnimationController) : c.finish.StatusAgrees := by
  intro _
  unfold finish
  cases c.direction with
  | forward => exact ⟨by simp, by simp [lowerBound_ne_upperBound.symm]⟩
  | reverse => exact ⟨by simp [lowerBound_ne_upperBound], by simp⟩

/-- The bound that an animation goes to. -/
def bound : AnimationDirection → Set.Icc (0 : ℚ) 1
  | .forward => 1
  | .reverse => 0

@[simp] theorem finish_value_eq (c : AnimationController) : c.finish.value = bound c.direction := by
  unfold finish
  cases c.direction <;> rfl

theorem fling_direction_of_pos {c : AnimationController} {v : ℚ} (h : 0 < v) :
    (c.fling v).direction = .forward := if_neg h.le.not_gt

theorem fling_direction_of_neg {c : AnimationController} {v : ℚ} (h : v < 0) :
    (c.fling v).direction = .reverse := if_pos h

theorem finish_value (c : AnimationController) : c.finish.value = 0 ∨ c.finish.value = 1 := by
  unfold finish
  cases c.direction with
  | forward => exact Or.inr rfl
  | reverse => exact Or.inl rfl

end AnimationController

end NewsApp
