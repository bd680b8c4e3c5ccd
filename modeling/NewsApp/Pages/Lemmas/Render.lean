import Mathlib.Data.List.TakeWhile
import NewsApp.Data.Lemmas.RoundTrip
import NewsApp.Pages.WholeNews
import NewsApp.Pages.BreakingNewsScroll

/-!
# What the pages build from a decoded response

The rows of `WholeNews` are those of the leading articles with an image, followed by error widgets for the
indices past the end of a short list. A row, a card or an opened page is built with strings exactly when
the fields that it shows are set.
-/

namespace NewsApp

open Lib Flutter

variable {D : Type} {sdk : DateTimeSdk D} {asserts : Bool}

/-- `DateTime.toString` is longer than the part that the pages show. -/
def DateTimeSdk.LongText (sdk : DateTimeSdk D) : Prop := ∀ d, 16 ≤ (sdk.toText d).length

def Article.hasImage (a : Article D) : Bool := a.urlToImage.isSome

theorem Article.hasImage_iff {a : Article D} : a.hasImage = true ↔ a.urlToImage ≠ none := by
  simp [hasImage, Option.isSome_iff_ne_none]

namespace WholeNews

/-! ## One row -/

theorem timeText_ok (htext : sdk.LongText) {a : Article D} (ha : a.Complete sdk) :
    ∃ t, timeText sdk a = .ok t := by
  obtain ⟨d, _, hd, _⟩ := ha.publishedAt
  exact ⟨_, by rw [timeText, hd]; exact substring_of_le (htext d)⟩

theorem row_eq {a : Article D} {t url : String} (ht : timeText sdk a = .ok t)
    (himage : a.urlToImage = some url) :
    row asserts sdk a = (Text.build asserts a.title >>= fun title => .ok ⟨a, ⟨some url⟩, title, ⟨some t⟩⟩) := by
  simp [row, himage, ht]

theorem row_item {a : Article D} {r : WholeNewsRow D} (h : row asserts sdk a = .ok r) : r.item = a := by
  obtain ⟨image, _, h⟩ := bind_ok_iff.mp h
  obtain ⟨title, _, h⟩ := bind_ok_iff.mp h
  obtain ⟨t, _, h⟩ := bind_ok_iff.mp h
  obtain ⟨time, _, h⟩ := bind_ok_iff.mp h
  cases h
  rfl

/-- The row of an article is built: it has a title, or null is not asserted against. -/
def shown (asserts : Bool) (a : Article D) : Bool := !asserts || a.title.isSome

theorem row_ok_iff (asserts : Bool) (htext : sdk.LongText) {a : Article D} (ha : a.Complete sdk)
    (himage : a.hasImage = true) :
    (∃ r, row asserts sdk a = .ok r) ↔ shown asserts a = true := by
  obtain ⟨t, ht⟩ := timeText_ok htext ha
  obtain ⟨url, hurl⟩ := Option.isSome_iff_exists.mp himage
  rw [row_eq ht hurl]
  cases htitle : a.title with
  | some title => simp [shown, htitle]
  | none => cases asserts <;> simp [shown, htitle, Text.build_none]

theorem row_nonNull_iff (asserts : Bool) (htext : sdk.LongText) {a : Article D} (ha : a.Complete sdk)
    (himage : a.hasImage = true) :
    (∃ r, row asserts sdk a = .ok r ∧ r.NonNull) ↔ a.title ≠ none := by
  obtain ⟨t, ht⟩ := timeText_ok htext ha
  obtain ⟨url, hurl⟩ := Option.isSome_iff_exists.mp himage
  rw [row_eq ht hurl]
  constructor
  · rintro ⟨r, hr, hnn⟩
    obtain ⟨title, htitle, hr⟩ := bind_ok_iff.mp hr
    cases hr
    have h := hnn.title
    rwa [Text.build_ok htitle] at h
  · intro h
    obtain ⟨title, htitle⟩ := Option.ne_none_iff_exists'.mp h
    refine ⟨⟨a, ⟨some url⟩, ⟨some title⟩, ⟨some t⟩⟩, by simp [htitle], ?_⟩
    constructor <;> simp [NetworkImage.NonNull, Text.NonNull]

theorem openRow_nonNull_iff (htext : sdk.LongText) {a : Article D} (ha : a.Complete sdk) :
    (∃ b, openRow asserts sdk a = .ok b ∧ b.NonNull) ↔
      a.urlToImage ≠ none ∧ a.title ≠ none ∧ a.description ≠ none ∧
        ∀ s, a.source = some s → s.name ≠ none := by
  obtain ⟨t, ht⟩ := timeText_ok htext ha
  obtain ⟨s, hs⟩ := ha.source
  have hopen : openRow asserts sdk a =
      DetailedNew.show asserts
        ⟨a.urlToImage, a.title, some t, a.description, some (a.url.getD "null"), s.name⟩ := by
    simp [openRow, pageBuilder, ht, hs]
  rw [hopen, DetailedNew.show_nonNull_iff]
  simp [hs]

/-! ## The list -/

def articleChild (asserts : Bool) (sdk : DateTimeSdk D) (a : Article D) :
    Option (Dart (WholeNewsRow D)) :=
  if a.hasImage then some (row asserts sdk a) else none

theorem articleChild_eq_none_iff {a : Article D} :
    articleChild asserts sdk a = none ↔ a.urlToImage = none := by
  cases h : a.urlToImage <;> simp [articleChild, Article.hasImage, h]

theorem child_itemBuilder_of_lt {n : News D} {as : List (Article D)} (hn : n.articles = some (as.map some))
    {k : Nat} (hk : k < as.length) :
    child (itemBuilder asserts sdk (some n) k) = articleChild asserts sdk as[k] := by
  rw [itemBuilder, itemAt_ok hn, elementAt_of_lt hk, ok_bind, articleChild, Article.hasImage]
  split
  · exact child_map_some _
  · rfl

theorem child_itemBuilder_of_le {n : News D} {as : List (Article D)} (hn : n.articles = some (as.map some))
    {k : Nat} (hk : as.length ≤ k) :
    child (itemBuilder asserts sdk (some n) k) = some (.error (.rangeError k as.length)) := by
  rw [itemBuilder, itemAt_ok hn, elementAt_of_le hk]
  rfl

/-- The builder's results in order: those of the articles, then a range error for each index past them. -/
theorem map_child_itemBuilder {n : News D} {as : List (Article D)} (hn : n.articles = some (as.map some)) :
    (List.range itemCount).map (fun k => child (itemBuilder asserts sdk (some n) k)) =
      (as.take itemCount).map (articleChild asserts sdk) ++
        ((List.range' as.length (itemCount - as.length)).map
          fun k => (Except.error (DartError.rangeError k as.length) : Dart (WholeNewsRow D))).map some := by
  apply List.ext_getElem
  · simp only [List.length_map, List.length_range, List.length_append, List.length_take,
      List.length_range']
    omega
  · intro k hk _
    simp only [List.length_map, List.length_range] at hk
    rcases Nat.lt_or_ge k as.length with hlt | hle
    · rw [List.getElem_append_left (by simp; omega)]
      simp [child_itemBuilder_of_lt hn hlt]
    · have hle' : ¬ k < min itemCount as.length := by omega
      rw [List.getElem_append_right (by simp; omega)]
      simp only [List.getElem_map, List.getElem_range, child_itemBuilder_of_le hn hle, List.getElem_range',
        List.length_map, List.length_take, Option.some.injEq, Except.error.injEq,
        DartError.rangeError.injEq, and_true]
      omega

/-- The articles that get a row. -/
def leading (as : List (Article D)) : List (Article D) := (as.take itemCount).takeWhile Article.hasImage

theorem rows_eq (asserts : Bool) (sdk : DateTimeSdk D) {n : News D} {as : List (Article D)}
    (hn : n.articles = some (as.map some)) :
    ∃ es, rows asserts sdk (some n) = (leading as).map (row asserts sdk) ++ es ∧
      (∀ e ∈ es, ∃ k, e = .error (.rangeError k as.length)) ∧
      (es = [] ↔ itemCount ≤ as.length ∨ ∃ a ∈ as, a.urlToImage = none) := by
  have hleading : untilNone ((as.take itemCount).map (articleChild asserts sdk)) =
      (leading as).map (row asserts sdk) :=
    untilNone_map (fun a h => by simp [articleChild, h]) (fun a h => by simp [articleChild, h]) _
  rw [rows, listView, map_child_itemBuilder hn]
  -- an article without an image ends the list before the range errors are reached
  by_cases hstop : none ∈ (as.take itemCount).map (articleChild asserts sdk)
  · refine ⟨[], by rw [untilNone_append_of_mem hstop, hleading, List.append_nil], by simp, ?_⟩
    obtain ⟨a, ha, hnone⟩ := List.mem_map.mp hstop
    exact iff_of_true rfl (Or.inr ⟨a, List.mem_of_mem_take ha, articleChild_eq_none_iff.mp hnone⟩)
  · refine ⟨_, by rw [untilNone_append_of_notMem hstop, hleading, untilNone_map_some], ?_, ?_⟩
    · intro e he
      obtain ⟨k, _, rfl⟩ := List.mem_map.mp he
      exact ⟨k, rfl⟩
    · simp only [List.map_eq_nil_iff, List.range'_eq_nil_iff, Nat.sub_eq_zero_iff_le]
      refine ⟨Or.inl, fun h => ?_⟩
      rcases h with h | ⟨a, ha, himage⟩
      · exact h
      · by_contra hlt
        rw [List.take_of_length_le (by omega)] at hstop
        exact hstop (List.mem_map.mpr ⟨a, ha, articleChild_eq_none_iff.mpr himage⟩)

theorem leading_hasImage {as : List (Article D)} {a : Article D} (h : a ∈ leading as) :
    a.hasImage = true :=
  List.mem_takeWhile_imp h

theorem mem_of_mem_leading {as : List (Article D)} {a : Article D} (h : a ∈ leading as) : a ∈ as :=
  List.mem_of_mem_take (List.takeWhile_subset _ h)

theorem rows_nonNull_iff (asserts : Bool) (htext : sdk.LongText) {n : News D} {as : List (Article D)}
    (hn : n.articles = some (as.map some)) (hall : ∀ a ∈ as, a.Complete sdk) :
    (∀ r ∈ rows asserts sdk (some n), ∃ row, r = .ok row ∧ row.NonNull) ↔
      (itemCount ≤ as.length ∨ ∃ a ∈ as, a.urlToImage = none) ∧ ∀ a ∈ leading as, a.title ≠ none := by
  obtain ⟨es, hrows, herrors, hends⟩ := rows_eq asserts sdk hn
  rw [hrows, ← hends]
  constructor
  · intro h
    refine ⟨List.eq_nil_iff_forall_not_mem.mpr fun e he => ?_, fun a ha => ?_⟩
    · obtain ⟨row, hrow, _⟩ := h e (List.mem_append_right _ he)
      obtain ⟨k, hk⟩ := herrors e he
      cases hk.symm.trans hrow
    · have hrow := h _ (List.mem_append_left _ (List.mem_map.mpr ⟨a, ha, rfl⟩))
      exact (row_nonNull_iff asserts htext (hall a (mem_of_mem_leading ha)) (leading_hasImage ha)).mp hrow
  · rintro ⟨rfl, h⟩ r hr
    rw [List.append_nil] at hr
    obtain ⟨a, ha, rfl⟩ := List.mem_map.mp hr
    exact (row_nonNull_iff asserts htext (hall a (mem_of_mem_leading ha)) (leading_hasImage ha)).mpr (h a ha)

end WholeNews

/-! ## The cards -/

namespace BreakingNewsScroll

theorem card_nonNull_iff (asserts : Bool) {n : News D} {as : List (Article D)}
    (hn : n.articles = some (as.map some)) (c : BoxConstraints) (currentPage : ℚ) (i : Nat) :
    (∃ card', card asserts c currentPage (some n) i = .ok card' ∧ card'.NonNull) ↔
      ∃ a, as[i]? = some a ∧ a.urlToImage ≠ none ∧ a.title ≠ none := by
  rcases Nat.lt_or_ge i as.length with hlt | hle
  · simp only [card, itemAt_ok hn, elementAt_of_lt hlt, ok_bind, List.getElem?_eq_getElem hlt,
      Option.some.injEq, exists_eq_left']
    constructor
    · rintro ⟨card', h, hnn⟩
      obtain ⟨image, himage, h⟩ := bind_ok_iff.mp h
      obtain ⟨title, htitle, h⟩ := bind_ok_iff.mp h
      cases h
      have h1 := hnn.image
      have h2 := hnn.title
      rw [NetworkImage.build_ok himage] at h1
      rw [Text.build_ok htitle] at h2
      exact ⟨h1, h2⟩
    · rintro ⟨h1, h2⟩
      obtain ⟨url, hurl⟩ := Option.ne_none_iff_exists'.mp h1
      obtain ⟨title, htitle⟩ := Option.ne_none_iff_exists'.mp h2
      refine ⟨_, by rw [hurl, htitle, NetworkImage.build_some, Text.build_some]; rfl, ?_⟩
      constructor <;> simp [NetworkImage.NonNull, Text.NonNull]
  · simp [card, itemAt_ok hn, elementAt_of_le hle, hle]

theorem cardList_nonNull_iff (asserts : Bool) {n : News D} {as : List (Article D)}
    (hn : n.articles = some (as.map some)) (c : BoxConstraints) (currentPage : ℚ) :
    (∃ cards, cardList asserts c currentPage (some n) = .ok cards ∧ ∀ card' ∈ cards, card'.NonNull) ↔
      cardCount ≤ as.length ∧ ∀ a ∈ as.take cardCount, a.urlToImage ≠ none ∧ a.title ≠ none := by
  rw [cardList, mapM_forall_iff]
  simp only [List.mem_range, card_nonNull_iff asserts hn]
  constructor
  · intro h
    refine ⟨?_, fun a ha => ?_⟩
    · -- the loop reads the fifth article
      obtain ⟨a, ha, _⟩ := h 4 (by decide)
      exact (List.getElem?_eq_some_iff.mp ha).1
    · obtain ⟨i, hi, rfl⟩ := List.mem_take_iff_getElem.mp ha
      obtain ⟨a, ha', hnn⟩ := h i (by omega)
      obtain ⟨_, rfl⟩ := List.getElem?_eq_some_iff.mp ha'
      exact hnn
  · rintro ⟨hlen, h⟩ i hi
    have hlt : i < as.length := by omega
    exact ⟨as[i], List.getElem?_eq_getElem hlt, h _ (List.mem_take_iff_getElem.mpr ⟨i, by omega, rfl⟩)⟩

end BreakingNewsScroll

end NewsApp
