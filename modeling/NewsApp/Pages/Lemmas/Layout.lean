import Mathlib
import NewsApp.Lib.Kink
import NewsApp.Pages.BreakingNewsScroll

/-!
# The layout of the cards

In the box that `AspectRatio` enforces, the start offset of a card is a kinked function of its distance to
the page position, cut off at the padding.
-/

namespace NewsApp.BreakingNewsScroll

open Lib

/-- The box of a given height. -/
def box (H : ℚ) : BoxConstraints := ⟨widgetAspectRatio * H, H⟩

theorem primaryCardLeft_box (H : ℚ) : primaryCardLeft (box H) = 13 / 100 * H + 13 := by
  simp only [primaryCardLeft, safeWidth, widthOfPrimarycard, heightOfPrimaryCard, safeHeight, box,
    widgetAspectRatio, cardAspectRatio, padding]
  ring

theorem primaryCardLeft_box_pos {H : ℚ} (hH : 0 < H) : 0 < primaryCardLeft (box H) := by
  rw [primaryCardLeft_box]
  linarith

theorem horizontalInset_pos {c : BoxConstraints} (h : 0 < primaryCardLeft c) : 0 < horizontalInset c := by
  rw [horizontalInset]
  linarith

/-! ## The start offset -/

def rawStart (c : BoxConstraints) (x : ℚ) : ℚ := primaryCardLeft c + horizontalInset c * kink 15 1 x

theorem start_eq (c : BoxConstraints) (p : ℚ) (i : Nat) :
    start c p i = padding + max (rawStart c (delta p i)) 0 := by
  rw [start, rawStart, kink, isOnRight]
  congr 2
  by_cases h : 0 < delta p i
  · simp only [h, decide_true, ↓reduceIte]
    ring
  · simp only [h, decide_false, Bool.false_eq_true, ↓reduceIte]
    ring

theorem rawStart_strictMono {c : BoxConstraints} (h : 0 < primaryCardLeft c) : StrictMono (rawStart c) := by
  intro x y hxy
  have hkink : kink 15 1 x < kink 15 1 y := kink_strictMono one_pos (by norm_num) hxy
  exact add_lt_add_right (mul_lt_mul_of_pos_left hkink (horizontalInset_pos h)) _

theorem rawStart_continuous (c : BoxConstraints) : Continuous (rawStart c) := by
  have hkink : Continuous (kink 15 1 : ℚ → ℚ) := kink_continuous (by norm_num)
  unfold rawStart
  fun_prop

theorem padding_le_start (c : BoxConstraints) (p : ℚ) (i : Nat) : padding ≤ start c p i := by
  rw [start_eq]
  exact le_add_of_nonneg_right (le_max_right _ _)

theorem start_le_start {c : BoxConstraints} (h : 0 < primaryCardLeft c) {p q : ℚ} {i j : Nat}
    (hd : delta p i ≤ delta q j) : start c p i ≤ start c q j := by
  rw [start_eq, start_eq]
  exact add_le_add_right (max_le_max_right 0 ((rawStart_strictMono h).monotone hd)) _

theorem start_lt_start {c : BoxConstraints} (h : 0 < primaryCardLeft c) {p q : ℚ} {i j : Nat}
    (hd : delta p i < delta q j) (hj : padding < start c q j) : start c p i < start c q j := by
  rw [start_eq] at hj
  rw [start_eq, start_eq]
  exact add_lt_add_right (max_zero_lt_max_zero (rawStart_strictMono h hd) (lt_add_iff_pos_right _ |>.mp hj)) _

theorem delta_lt_delta (p : ℚ) {i j : Nat} (h : i < j) : delta p i < delta p j := by
  have hcast : (i : ℚ) < j := by exact_mod_cast h
  simp only [delta]
  linarith

theorem delta_antitone (i : Nat) : Antitone fun p => delta p i :=
  fun _ _ h => sub_le_sub_left h _

theorem start_continuous (c : BoxConstraints) (i : Nat) : Continuous fun p => start c p i := by
  simp only [start_eq]
  have hraw := rawStart_continuous c
  unfold delta
  fun_prop

/-! ## The insets and the width -/

theorem top_antitone (p : ℚ) {i j : Nat} (h : i < j) : top p j ≤ top p i := by
  have hd := delta_lt_delta p h
  have hmax : max (-delta p j) 0 ≤ max (-delta p i) 0 := max_le_max_right 0 (by linarith)
  simp only [top, verticalInsets]
  linarith

theorem bottom_eq_top (p : ℚ) (i : Nat) : bottom p i = top p i := rfl

theorem start_le_primary {c : BoxConstraints} (h : 0 < primaryCardLeft c) {p : ℚ} {i : Nat}
    (hd : delta p i ≤ 0) : start c p i ≤ padding + primaryCardLeft c := by
  have hinset : horizontalInset c * delta p i ≤ 0 :=
    mul_nonpos_of_nonneg_of_nonpos (horizontalInset_pos h).le hd
  rw [start_eq, rawStart, kink_of_nonpos hd, mul_one]
  exact add_le_add_right (max_le (by linarith) h.le) _

theorem start_add_width_le {H : ℚ} (hH : 0 < H) {p : ℚ} {i : Nat} (hi : (i : ℚ) ≤ p) :
    start (box H) p i + cardAspectRatio * (H - top p i - bottom p i) ≤ (box H).maxWidth := by
  have hd : delta p i ≤ 0 := by
    rw [delta]
    linarith
  have hstart := start_le_primary (primaryCardLeft_box_pos hH) hd
  have htop : top p i = 10 - 20 * delta p i := by
    rw [top, max_eq_left (by linarith), padding, verticalInsets]
    ring
  rw [primaryCardLeft_box, padding] at hstart
  rw [bottom_eq_top, htop]
  simp only [box, widgetAspectRatio, cardAspectRatio] at hstart ⊢
  linarith

/-! ## Cards in front of one another -/

/-- The box that `AspectRatio` makes of a width. -/
def boxOfWidth (W : ℚ) : BoxConstraints := ⟨W, W / widgetAspectRatio⟩

/-- The width of a card, whose `AspectRatio` gets the height between top and bottom. -/
def cardWidth (c : BoxConstraints) (p : ℚ) (i : Nat) : ℚ :=
  cardAspectRatio * (c.maxHeight - top p i - bottom p i)

/-- What card `i` covers from left to right. The text direction is right to left, so that the start edge of
the box is the right one. -/
def extent (c : BoxConstraints) (p : ℚ) (i : Nat) : Set ℚ :=
  Set.Icc (c.maxWidth - start c p i - cardWidth c p i) (c.maxWidth - start c p i)

/-- Inside the box the two cards have more than an edge in common. -/
def Overlaps (c : BoxConstraints) (p : ℚ) (i j : Nat) : Prop :=
  (extent c p i ∩ Set.Icc 0 c.maxWidth ∩ extent c p j).Nontrivial

theorem boxOfWidth_eq (W : ℚ) : boxOfWidth W = box (W / widgetAspectRatio) := by
  have hne : widgetAspectRatio ≠ 0 := by norm_num [widgetAspectRatio, cardAspectRatio]
  rw [boxOfWidth, box, mul_div_cancel₀ W hne]

theorem overlaps_iff (c : BoxConstraints) (p : ℚ) (i j : Nat) :
    Overlaps c p i j ↔
      max (max (c.maxWidth - start c p i - cardWidth c p i) 0) (c.maxWidth - start c p j - cardWidth c p j) <
        min (min (c.maxWidth - start c p i) c.maxWidth) (c.maxWidth - start c p j) := by
  rw [Overlaps, extent, extent, Set.Icc_inter_Icc, Set.Icc_inter_Icc, ← Set.not_subsingleton_iff,
    Set.subsingleton_Icc_iff, not_le]

section

variable {c : BoxConstraints} {p i : Nat}

theorem cardWidth_settled (h : p ≤ i) : cardWidth c p i = cardAspectRatio * (c.maxHeight - 2 * padding) := by
  have hd : max (-delta p i) 0 = 0 := max_eq_right (by simpa [delta] using h)
  rw [cardWidth, top, bottom, hd]
  ring

theorem start_settled (hc : 0 < primaryCardLeft c) (h : p ≤ i) :
    start c p i = padding + primaryCardLeft c * (1 + 15 / 2 * (i - p)) := by
  have hd : (0 : ℚ) ≤ i - p := by simpa using h
  have hkink : kink 15 1 (delta p i) = (i - p) * 15 := by
    rcases hd.eq_or_lt with heq | hlt
    · rw [delta, ← heq, kink_zero, zero_mul]
    · exact kink_of_pos hlt
  have hraw : rawStart c (delta p i) = primaryCardLeft c * (1 + 15 / 2 * (i - p)) := by
    rw [rawStart, hkink, horizontalInset]
    ring
  rw [start_eq, hraw, max_eq_left (by positivity)]

end

theorem pos_of_padding_lt {H : ℚ} (hH : 2 * padding < H) : 0 < H := by
  rw [padding] at hH
  linarith

/-- A later card overlaps the focused one when it starts before the focused one ends, three from the left
edge of the box. -/
theorem overlaps_focused_iff {H : ℚ} (hH : 2 * padding < H) {p i : Nat} (h : p < i) :
    Overlaps (box H) p i p ↔ start (box H) p i < (box H).maxWidth - 3 := by
  have hleft := primaryCardLeft_box_pos (pos_of_padding_lt hH)
  have hlt : start (box H) p p < start (box H) p i := by
    refine start_lt_start hleft (delta_lt_delta p h) ?_
    rw [start_settled hleft h.le]
    have hd : (0 : ℚ) < i - p := by simpa using h
    linarith [mul_pos hleft (by positivity : 0 < 1 + 15 / 2 * ((i : ℚ) - p))]
  rw [overlaps_iff, cardWidth_settled le_rfl, cardWidth_settled h.le]
  rw [start_settled hleft le_rfl, primaryCardLeft_box] at hlt ⊢
  simp only [max_lt_iff, lt_min_iff, and_assoc]
  simp only [box, padding, widgetAspectRatio, cardAspectRatio] at hH hlt ⊢
  constructor
  · rintro ⟨-, -, hedge, -⟩
    linarith
  · intro hedge
    refine ⟨?_, ?_, ?_, ?_, ?_, ?_, ?_, ?_, ?_⟩ <;> linarith

/-- The inset grows with a fraction of the height only, and the card with the whole height: in a box higher
than 380 the next card is not flung far enough. The cards after it leave every box. -/
theorem start_settled_lt_iff {H : ℚ} (hH : 0 < H) {p i : Nat} (h : p < i) :
    start (box H) p i < (box H).maxWidth - 3 ↔ 380 < H ∧ i < p + 2 := by
  have hleft := primaryCardLeft_box_pos hH
  rw [start_settled hleft h.le]
  rcases Nat.lt_or_ge i (p + 2) with hnext | hfar
  · obtain rfl : i = p + 1 := by omega
    rw [primaryCardLeft_box, and_iff_left hnext]
    simp only [box, padding, widgetAspectRatio, cardAspectRatio]
    push_cast
    constructor <;> intro hedge <;> linarith
  · have hd : (2 : ℚ) ≤ i - p := by
      rw [le_sub_iff_add_le']
      exact_mod_cast hfar
    have hflung : primaryCardLeft (box H) * 16 ≤ primaryCardLeft (box H) * (1 + 15 / 2 * (i - p)) :=
      mul_le_mul_of_nonneg_left (by linarith) hleft.le
    have hout : (box H).maxWidth - 3 ≤ padding + primaryCardLeft (box H) * (1 + 15 / 2 * (i - p)) := by
      refine le_trans ?_ (add_le_add_right hflung padding)
      rw [primaryCardLeft_box]
      simp only [box, padding, widgetAspectRatio, cardAspectRatio]
      linarith
    simp only [hout.not_gt, hfar.not_gt, and_false]

theorem overlaps_boxOfWidth_iff {W : ℚ} (hW : 2 * padding < W / widgetAspectRatio) {p i : Nat} (h : p < i) :
    Overlaps (boxOfWidth W) p i p ↔ 5434 / 10 < W ∧ i < p + 2 := by
  have hheight : 380 < W / widgetAspectRatio ↔ 5434 / 10 < W := by
    rw [lt_div_iff₀ (by norm_num [widgetAspectRatio, cardAspectRatio])]
    norm_num [widgetAspectRatio, cardAspectRatio]
  rw [boxOfWidth_eq, overlaps_focused_iff hW h, start_settled_lt_iff (pos_of_padding_lt hW) h, hheight]

end NewsApp.BreakingNewsScroll
