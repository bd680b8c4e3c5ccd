import NewsApp.Pages.Lemmas.Layout

/-!
# The card stack

The order of the cards and their place in the box, for every height of the box and every page position.
-/

namespace NewsApp.BreakingNewsScroll

/-- In a box of the widget's aspect ratio: the start offsets are at least the padding and do not decrease
from card to card, strictly beyond the padding; the vertical extents are nested; an offset does not grow
and does not jump with the page position; and a card up to the page position lies in the box. -/
theorem stack_ordered_inside {H : ℚ} (hH : 0 < H) :
    (∀ p i j, i < j → start (box H) p i ≤ start (box H) p j) ∧
    (∀ p i j, i < j → padding < start (box H) p j → start (box H) p i < start (box H) p j) ∧
    (∀ p i, padding ≤ start (box H) p i) ∧
    (∀ p i j, i < j → top p j ≤ top p i ∧ bottom p j ≤ bottom p i) ∧
    (∀ i, Antitone fun p => start (box H) p i) ∧
    (∀ i, Continuous fun p => start (box H) p i) ∧
    (∀ p (i : Nat), (i : ℚ) ≤ p → 0 < H - top p i - bottom p i →
      start (box H) p i + cardAspectRatio * (H - top p i - bottom p i) ≤ (box H).maxWidth) := by
  have hleft := primaryCardLeft_box_pos hH
  refine ⟨fun p i j h => ?_, fun p i j h hj => ?_, padding_le_start _, fun p i j h => ?_, fun i p q h => ?_,
    start_continuous _, fun p i hi _ => start_add_width_le hH hi⟩
  · exact start_le_start hleft (delta_lt_delta p h).le
  · exact start_lt_start hleft (delta_lt_delta p h) hj
  · exact ⟨top_antitone p h, by simpa only [bottom_eq_top] using top_antitone p h⟩
  · exact start_le_start hleft (delta_antitone i h)

theorem stack_ordered_inside_sample : start (box 200) 4 0 ≤ start (box 200) 4 4 :=
  (stack_ordered_inside (by norm_num : (0 : ℚ) < 200)).1 4 0 4 (by norm_num)

/-! ## Settled pages -/

/-- On a settled page, no part of a later card in the box covers the focused card exactly when the box is not
wider than 543.4, or the later card is not the next one. -/
theorem focused_uncovered_iff {W : ℚ} (hW : 2 * padding < W / widgetAspectRatio) {p i : Nat} (h : p < i) :
    ¬ Overlaps (boxOfWidth W) p i p ↔ W ≤ 5434 / 10 ∨ p + 2 ≤ i := by
  rw [overlaps_boxOfWidth_iff hW h, not_and_or, not_lt, not_lt]

theorem focused_uncovered_sample : ¬ Overlaps (boxOfWidth 365) 0 1 0 :=
  (focused_uncovered_iff (by norm_num [padding, widgetAspectRatio, cardAspectRatio]) one_pos).mpr
    (Or.inl (by norm_num))

/-- On a tablet whose screen is 768 wide; the box has ten less, for the padding on its left. -/
theorem focused_covered_sample :
    2 * padding < 758 / widgetAspectRatio ∧ Overlaps (boxOfWidth 758) 0 1 0 := by
  have hW : 2 * padding < 758 / widgetAspectRatio := by
    norm_num [padding, widgetAspectRatio, cardAspectRatio]
  have h := overlaps_boxOfWidth_iff hW (one_pos : 0 < 1)
  exact ⟨hW, h.mpr ⟨by norm_num, by norm_num⟩⟩

/-- All pages and cards of the stack together. -/
theorem stack_uncovered_iff {W : ℚ} (hW : 2 * padding < W / widgetAspectRatio) :
    (∀ p i : Nat, p < i → i < cardCount → ¬ Overlaps (boxOfWidth W) p i p) ↔ W ≤ 5434 / 10 := by
  constructor
  · intro h
    have hnext := h 0 1 one_pos (by simp [cardCount])
    rw [overlaps_boxOfWidth_iff hW one_pos, not_and_or] at hnext
    rcases hnext with hW' | hfar
    · exact not_lt.mp hW'
    · exact absurd hfar (by simp)
  · intro hW' p i hpi _ hover
    exact hW'.not_gt ((overlaps_boxOfWidth_iff hW hpi).mp hover).1

/-! ## Hidden cards -/

/-- What a card covers of the box. -/
def area (c : BoxConstraints) (p : ℚ) (i : Nat) : Set (ℚ × ℚ) :=
  extent c p i ×ˢ Set.Icc (top p i) (c.maxHeight - bottom p i)

theorem start_eq_padding_iff {c : BoxConstraints} (h : 0 < primaryCardLeft c) (p : ℚ) (i : Nat) :
    start c p i = padding ↔ (i : ℚ) + 2 ≤ p := by
  have hraw : rawStart c (-2) = 0 := by
    rw [rawStart, Lib.kink_of_nonpos (by norm_num), horizontalInset]
    ring
  rw [start_eq, add_eq_left, max_eq_right_iff, ← hraw, (rawStart_strictMono h).le_iff_le, delta]
  constructor <;> intro hd <;> linarith

theorem cardWidth_eq (c : BoxConstraints) (p : ℚ) (i : Nat) :
    cardWidth c p i = cardAspectRatio * (c.maxHeight - 2 * top p i) := by
  rw [cardWidth, bottom_eq_top]
  ring

theorem extent_subset_iff {H : ℚ} (hH : 0 < H) {p : ℚ} {i j : Nat} (h : i < j)
    (hcard : 0 < H - top p i - bottom p i) : extent (box H) p i ⊆ extent (box H) p j ↔ (j : ℚ) + 2 ≤ p := by
  have hleft := primaryCardLeft_box_pos hH
  have htop := top_antitone p h
  have hwidth : 0 < cardWidth (box H) p i := mul_pos (by norm_num [cardAspectRatio]) hcard
  have hwidths : cardWidth (box H) p i ≤ cardWidth (box H) p j := by
    rw [cardWidth_eq, cardWidth_eq, cardAspectRatio]
    linarith
  have hstart : start (box H) p i ≤ start (box H) p j := start_le_start hleft (delta_lt_delta p h).le
  rw [← start_eq_padding_iff hleft, extent, extent, Set.Icc_subset_Icc_iff (by linarith)]
  constructor
  · rintro ⟨_, hright⟩
    -- beyond the padding the later card starts strictly later
    refine le_antisymm (not_lt.mp fun hlt => ?_) (padding_le_start _ p j)
    have hstrict := start_lt_start hleft (delta_lt_delta p h) hlt
    linarith
  · intro hj
    have hi : start (box H) p i = padding := le_antisymm (hj ▸ hstart) (padding_le_start _ p i)
    rw [hi, hj]
    exact ⟨by linarith, le_rfl⟩

/-- A card of the stack is hidden behind a later one exactly when it is three pages or more back and is not
the last one: from the second page back on, the cards are cut off at the padding and lie on one another. -/
theorem hidden_iff {H : ℚ} (hH : 0 < H) {p : ℚ} {i : Nat} (hcard : 0 < H - top p i - bottom p i) :
    (∃ j, i < j ∧ j < cardCount ∧ area (box H) p i ⊆ area (box H) p j) ↔
      i + 1 < cardCount ∧ (i : ℚ) + 3 ≤ p := by
  have hwidth : 0 < cardWidth (box H) p i := mul_pos (by norm_num [cardAspectRatio]) hcard
  have harea {j : Nat} (h : i < j) : area (box H) p i ⊆ area (box H) p j ↔ (j : ℚ) + 2 ≤ p := by
    have htop := top_antitone p h
    have hnonempty : (extent (box H) p i).Nonempty ∧
        (Set.Icc (top p i) ((box H).maxHeight - bottom p i)).Nonempty := by
      rw [extent, Set.nonempty_Icc, Set.nonempty_Icc]
      refine ⟨by linarith, ?_⟩
      simp only [box]
      linarith
    rw [area, area, Set.prod_subset_prod_iff, extent_subset_iff hH h hcard]
    simp only [hnonempty.1.ne_empty, hnonempty.2.ne_empty, or_false, and_iff_left_iff_imp]
    intro _
    apply Set.Icc_subset_Icc htop
    simp only [bottom_eq_top]
    linarith
  constructor
  · rintro ⟨j, hij, hj, hsubset⟩
    have hp := (harea hij).mp hsubset
    have hcast : (i : ℚ) + 1 ≤ j := by exact_mod_cast hij
    exact ⟨by omega, by linarith⟩
  · rintro ⟨hi, hp⟩
    refine ⟨i + 1, Nat.lt_succ_self i, hi, (harea (Nat.lt_succ_self i)).mpr ?_⟩
    push_cast
    linarith

/-- The stack opens on its last page, where the first two of the five cards are hidden. -/
theorem hidden_sample :
    (∃ j, 0 < j ∧ j < cardCount ∧ area (box 240) 4 0 ⊆ area (box 240) 4 j) ∧
      (∃ j, 1 < j ∧ j < cardCount ∧ area (box 240) 4 1 ⊆ area (box 240) 4 j) ∧
      ¬ ∃ j, 2 < j ∧ j < cardCount ∧ area (box 240) 4 2 ⊆ area (box 240) 4 j := by
  have hcard (i : Nat) (hi : i < 5) : 0 < 240 - top 4 i - bottom 4 i := by
    interval_cases i <;> norm_num [top, bottom, delta, padding, verticalInsets]
  refine ⟨(hidden_iff (by norm_num) (hcard 0 (by norm_num))).mpr ?_,
    (hidden_iff (by norm_num) (hcard 1 (by norm_num))).mpr ?_,
    fun h => ?_⟩
  · norm_num [cardCount]
  · norm_num [cardCount]
  · have hhidden := (hidden_iff (by norm_num) (hcard 2 (by norm_num))).mp h
    norm_num [cardCount] at hhidden

end NewsApp.BreakingNewsScroll
