import Mathlib.Algebra.Order.Field.Basic
import Mathlib.Topology.Algebra.Monoid
import Mathlib.Topology.Order.OrderClosed
import Mathlib.Topology.Order.Lattice

/-!
# Linear functions with a kink at zero

A function that is linear on each side of zero, with one slope on the right and another one on the left.
When the right slope is the larger one it is a maximum of two linear functions, which gives its order and
continuity.
-/

namespace NewsApp.Lib

variable {K : Type*} [Field K] [LinearOrder K]

/-- Slope `a` on the right of zero, slope `b` elsewhere. -/
def kink (a b x : K) : K := x * if 0 < x then a else b

@[simp] theorem kink_zero (a b : K) : kink a b 0 = 0 := by simp [kink]

theorem kink_of_pos {a b x : K} (h : 0 < x) : kink a b x = x * a := by simp [kink, h]

theorem kink_of_nonpos {a b x : K} (h : x ≤ 0) : kink a b x = x * b := by simp [kink, h.not_gt]

theorem max_zero_lt_max_zero {x y : K} (h : x < y) (hy : 0 < max y 0) : max x 0 < max y 0 := by
  have hy' : 0 < y := by
    by_contra hle
    rw [max_eq_right (not_lt.mp hle)] at hy
    exact hy.false
  rw [max_eq_left hy'.le]
  exact max_lt h hy'

variable [IsStrictOrderedRing K]

theorem kink_eq_max {a b : K} (hba : b ≤ a) (x : K) : kink a b x = max (x * a) (x * b) := by
  rcases le_or_gt x 0 with h | h
  · rw [kink_of_nonpos h, max_eq_right (mul_le_mul_of_nonpos_left hba h)]
  · rw [kink_of_pos h, max_eq_left (mul_le_mul_of_nonneg_left hba h.le)]

theorem kink_strictMono {a b : K} (hb : 0 < b) (hba : b ≤ a) : StrictMono (kink a b) := by
  intro x y hxy
  rw [kink_eq_max hba, kink_eq_max hba]
  exact max_lt_max (mul_lt_mul_of_pos_right hxy (hb.trans_le hba)) (mul_lt_mul_of_pos_right hxy hb)

theorem kink_continuous [TopologicalSpace K] [OrderClosedTopology K] [ContinuousMul K] {a b : K}
    (hba : b ≤ a) : Continuous (kink a b) := by
  rw [funext (kink_eq_max hba)]
  exact (continuous_id.mul continuous_const).max (continuous_id.mul continuous_const)

end NewsApp.Lib
