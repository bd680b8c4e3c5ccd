import NewsApp.Flutter.AnimationController
import NewsApp.Lib.Run

/-!
# The sign-up sheet of `lib/login_page.dart`

The state of `_BottomSheetState` is its controller, with whether a vertical drag is in progress. Numbers
are rationals.
-/

namespace NewsApp.Login

/-- The height of the closed sheet. -/
def minHeight (isAndroid : Bool) : ℚ := if isAndroid then 80 else 150

/-- The heights of the closed and of the open sheet. -/
structure Screen where
  minHeight : ℚ
  maxHeight : ℚ
  pos : 0 < minHeight
  le : minHeight ≤ maxHeight

theorem minHeight_pos (isAndroid : Bool) : 0 < minHeight isAndroid := by
  cases isAndroid <;> decide

def Screen.of (isAndroid : Bool) (maxHeight : ℚ) (h : Login.minHeight isAndroid ≤ maxHeight) : Screen :=
  ⟨Login.minHeight isAndroid, maxHeight, minHeight_pos isAndroid, h⟩

def lerpDouble (a b t : ℚ) : ℚ := a + (b - a) * t

structure Sheet where
  controller : AnimationController
  dragging : Bool

inductive SheetEvent
  | tap
  | dragStart
  | dragUpdate (primaryDelta : ℚ)
  /-- The velocity of a drag end is in pixels per second, downwards. -/
  | dragEnd (dy : ℚ)
  | tick (x : ℚ)
  | finish

namespace Sheet

def initState : Sheet := ⟨.init, false⟩

def lerp (s : Sheet) (min max : ℚ) : ℚ := lerpDouble min max s.controller.value

def height (screen : Screen) (s : Sheet) : ℚ := s.lerp screen.minHeight screen.maxHeight

def toggle (s : Sheet) : Sheet :=
  let isOpen : Bool := s.controller.status = .completed
  { s with controller := s.controller.fling (if isOpen then -2 else 2) }

def handleDragUpdate (maxHeight primaryDelta : ℚ) (s : Sheet) : Sheet :=
  { s with controller := s.controller.setValue (s.controller.value - primaryDelta / maxHeight) }

def flingVelocity (maxHeight dy : ℚ) (s : Sheet) : ℚ :=
  let flingVelocity := dy / maxHeight
  if flingVelocity < 0 then max 2 (-flingVelocity)
  else if flingVelocity > 0 then min (-2) (-flingVelocity)
  else if (s.controller.value : ℚ) < 1 / 2 then -2
  else 2

def handleDragEnd (maxHeight dy : ℚ) (s : Sheet) : Sheet :=
  if s.controller.isAnimating ∨ s.controller.status = .completed then s
  else { s with controller := s.controller.fling (s.flingVelocity maxHeight dy) }

/-- A drag starts without a callback. The gestures may come while an animation runs. -/
def step (screen : Screen) (s : Sheet) : SheetEvent → Option Sheet
  | .tap => some s.toggle
  | .dragStart => if !s.dragging then some { s with dragging := true } else none
  | .dragUpdate primaryDelta =>
      if s.dragging then some (s.handleDragUpdate screen.maxHeight primaryDelta) else none
  | .dragEnd dy =>
      if s.dragging then some (handleDragEnd screen.maxHeight dy { s with dragging := false }) else none
  | .tick x => if s.controller.isAnimating then some { s with controller := s.controller.tick x } else none
  | .finish => if s.controller.isAnimating then some { s with controller := s.controller.finish } else none

def AtRest (s : Sheet) : Prop := s.dragging = false ∧ s.controller.isAnimating = false

/-- The sheet is closed or open, and the status tells which. -/
def AtEdge (s : Sheet) : Prop :=
  ((s.controller.value : ℚ) = 0 ∨ (s.controller.value : ℚ) = 1) ∧
    (s.controller.status = .completed ↔ (s.controller.value : ℚ) = 1)

end Sheet

end NewsApp.Login
