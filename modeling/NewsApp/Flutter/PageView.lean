import Mathlib.Algebra.Order.Ring.Rat

/-!
# `PageView` and its controllers

The scroll position of a `PageView` is attached to the controller that the last build passed to it. A build
with another controller detaches the position from the old one, which nothing disposes, and attaches it to
the new one; the position itself stays. Page positions are exact rationals.
-/

namespace NewsApp.Flutter

structure PageController where
  initialPage : ℚ
  /-- How often `addListener` was called. -/
  listeners : Nat

namespace PageController

def addListener (c : PageController) : PageController := { c with listeners := c.listeners + 1 }

end PageController

structure PageView where
  page : ℚ
  controller : PageController
  detached : List PageController

namespace PageView

/-- Only the first controller's `initialPage` is used. -/
def initState (controller : PageController) : PageView := ⟨controller.initialPage, controller, []⟩

def didUpdateWidget (v : PageView) (controller : PageController) : PageView :=
  { v with controller, detached := v.detached ++ [v.controller] }

def scrollTo (v : PageView) (page : ℚ) : PageView := { v with page }

end PageView

end NewsApp.Flutter
