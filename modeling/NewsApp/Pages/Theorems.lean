import NewsApp.Pages.Lemmas.Render

/-!
# Rendering a decoded response

Which responses the pages can build, and which articles `WholeNews` shows.
-/

namespace NewsApp

open Lib Flutter

variable {D : Type} {sdk : DateTimeSdk D} {asserts : Bool}

/-! ## Building the pages -/

/-- The five cards, every row of the list, and the page opened from any row are built: no index is out of
range, and no `Text` or `Image.network` gets null. -/
structure Renders (asserts : Bool) (sdk : DateTimeSdk D) (n : News D) : Prop where
  cards : ∀ c currentPage, ∃ cards,
    BreakingNewsScroll.cardList asserts c currentPage (some n) = .ok cards ∧ ∀ card ∈ cards, card.NonNull
  rows : ∀ r ∈ WholeNews.rows asserts sdk (some n), ∃ row, r = .ok row ∧ row.NonNull
  details : ∀ row, .ok row ∈ WholeNews.rows asserts sdk (some n) →
    ∃ b, WholeNews.openRow asserts sdk row.item = .ok b ∧ b.NonNull

/-- There are five articles, with image and title; the list of rows ends before the articles do; and the
articles that get a row have a title, a description and a source name. -/
structure Renderable (as : List (Article D)) : Prop where
  five : BreakingNewsScroll.cardCount ≤ as.length
  cards : ∀ a ∈ as.take BreakingNewsScroll.cardCount, a.urlToImage ≠ none ∧ a.title ≠ none
  ends : WholeNews.itemCount ≤ as.length ∨ ∃ a ∈ as, a.urlToImage = none
  rows : ∀ a ∈ WholeNews.leading as, a.title ≠ none ∧ a.description ≠ none ∧
    ∀ s, a.source = some s → s.name ≠ none

/-- The pages build a decoded response exactly when it is renderable. -/
theorem renders_iff_renderable (htext : sdk.LongText) {codec : JsonCodec} {str : String} {n : News D}
    (h : newsFromJson codec sdk str = .ok n) : Renders asserts sdk n ↔ Renderable n.items := by
  obtain ⟨as, hn, hall⟩ := newsFromJson_complete h
  rw [News.items_of_articles hn]
  have hcards := BreakingNewsScroll.cardList_nonNull_iff asserts hn
  have hrows := WholeNews.rows_nonNull_iff asserts htext hn hall
  constructor
  · intro hr
    obtain ⟨hfive, hcards⟩ := (hcards ⟨0, 0⟩ 0).mp (hr.cards _ _)
    obtain ⟨hends, htitles⟩ := hrows.mp hr.rows
    refine ⟨hfive, hcards, hends, fun a ha => ?_⟩
    have hcomplete := hall a (WholeNews.mem_of_mem_leading ha)
    obtain ⟨row, hrow, _⟩ := (WholeNews.row_nonNull_iff asserts htext hcomplete
      (WholeNews.leading_hasImage ha)).mpr (htitles a ha)
    obtain ⟨es, heq, _⟩ := WholeNews.rows_eq asserts sdk hn
    have hmem : .ok row ∈ WholeNews.rows asserts sdk (some n) := by
      rw [heq]
      exact List.mem_append_left _ (List.mem_map.mpr ⟨a, ha, hrow⟩)
    have hopen := hr.details row hmem
    rw [WholeNews.row_item hrow] at hopen
    exact ((WholeNews.openRow_nonNull_iff htext hcomplete).mp hopen).2
  · intro hr
    refine ⟨fun c p => (hcards c p).mpr ⟨hr.five, hr.cards⟩,
      hrows.mpr ⟨hr.ends, fun a ha => (hr.rows a ha).1⟩, fun row hmem => ?_⟩
    obtain ⟨es, heq, herrors, _⟩ := WholeNews.rows_eq asserts sdk hn
    rw [heq] at hmem
    rcases List.mem_append.mp hmem with hmem | hmem
    · obtain ⟨a, ha, hrow⟩ := List.mem_map.mp hmem
      rw [WholeNews.row_item hrow]
      exact (WholeNews.openRow_nonNull_iff htext (hall a (WholeNews.mem_of_mem_leading ha))).mpr
        ⟨Article.hasImage_iff.mp (WholeNews.leading_hasImage ha), hr.rows a ha⟩
    · obtain ⟨k, hk⟩ := herrors _ hmem
      cases hk

theorem sampleSdk_longText : sampleSdk.LongText := fun _ => by
  change 16 ≤ "2020-11-20 10:00:00.000Z".length
  decide

theorem leading_fullNews : WholeNews.leading fullNews.items = List.replicate 5 fullArticle := rfl

theorem fullNews_renderable : Renderable fullNews.items where
  five := by decide
  cards := by
    intro a ha
    obtain rfl : a = fullArticle := List.eq_of_mem_replicate (n := 5) ha
    simp [fullArticle]
  ends := Or.inr ⟨sampleArticle none none, by simp [fullNews, News.items], rfl⟩
  rows := by
    intro a ha
    rw [leading_fullNews] at ha
    obtain rfl := List.eq_of_mem_replicate ha
    simp [fullArticle]

/-- The pages build five complete articles, and not a response whose first card has no image. -/
theorem renders_iff_renderable_sample :
    Renders true sampleSdk fullNews ∧ (Renders true sampleSdk sampleFeed ↔ Renderable sampleFeed.items) :=
  ⟨(renders_iff_renderable sampleSdk_longText fullCodec_newsFromJson).mpr fullNews_renderable,
    renders_iff_renderable sampleSdk_longText sampleCodec_newsFromJson⟩

/-- The first card of the response has no image. -/
theorem sampleFeed_not_renders :
    newsFromJson sampleCodec sampleSdk sampleResponse = .ok sampleFeed ∧
      ¬ Renders true sampleSdk sampleFeed := by
  refine ⟨sampleCodec_newsFromJson, fun h => ?_⟩
  obtain ⟨cards, hcards, _⟩ := h.cards ⟨0, 0⟩ 0
  cases hcards

/-! ## The rows of the list -/

/-- The image rows that can be scrolled to: the article of each, and its index. -/
def WholeNews.imageRows (asserts : Bool) (sdk : DateTimeSdk D) (n : News D) : List (Article D × Nat) :=
  (rows asserts sdk (some n)).zipIdx.filterMap fun (r, k) => r.toOption.map fun row => (row.item, k)

theorem WholeNews.imageRows_eq (htext : sdk.LongText) {n : News D} {as : List (Article D)}
    (hn : n.articles = some (as.map some)) (hall : ∀ a ∈ as, a.Complete sdk) :
    imageRows asserts sdk n = (leading as).zipIdx.filter fun x => shown asserts x.1 := by
  obtain ⟨es, hrows, herrors, _⟩ := rows_eq asserts sdk hn
  have hes : ∀ k, (es.zipIdx k).filterMap
      (fun (r, k) => r.toOption.map fun row : WholeNewsRow D => (row.item, k)) = [] := by
    intro k
    rw [List.filterMap_eq_nil_iff]
    rintro ⟨e, i⟩ he
    obtain ⟨j, rfl⟩ := herrors e (List.fst_mem_of_mem_zipIdx he)
    rfl
  rw [imageRows, hrows, List.zipIdx_append, List.filterMap_append, hes, List.append_nil, List.zipIdx_map,
    List.filterMap_map, ← List.filterMap_eq_filter]
  refine List.filterMap_congr fun x hx => ?_
  have ha := List.fst_mem_of_mem_zipIdx hx
  have hok := row_ok_iff asserts htext (hall _ (mem_of_mem_leading ha)) (leading_hasImage ha)
  cases hrow : row asserts sdk x.1 with
  | error e =>
      have hshown : shown asserts x.1 = false := by simpa [hrow] using hok
      simp [hrow, hshown, Except.toOption, Option.guard]
  | ok r =>
      have hshown : shown asserts x.1 = true := hok.mp ⟨r, hrow⟩
      simp [hrow, hshown, Except.toOption, Option.guard, row_item hrow]

/-- Exactly the articles with an image among the first 19 appear as rows, in their order and once each,
exactly when none of them comes after an article without an image and, when the app runs with assertions,
each of them has a title. -/
theorem wholeNews_rows_complete_iff (htext : sdk.LongText) {codec : JsonCodec} {str : String} {n : News D}
    (h : newsFromJson codec sdk str = .ok n) :
    WholeNews.imageRows asserts sdk n =
        (n.items.take WholeNews.itemCount).zipIdx.filter (fun x => x.1.hasImage) ↔
      (n.items.take WholeNews.itemCount).Pairwise
          (fun a b => a.urlToImage = none → b.urlToImage = none) ∧
        (asserts = true → ∀ a ∈ n.items.take WholeNews.itemCount, a.urlToImage ≠ none → a.title ≠ none) := by
  obtain ⟨as, hn, hall⟩ := newsFromJson_complete h
  rw [WholeNews.imageRows_eq htext hn hall, News.items_of_articles hn, WholeNews.leading, zipIdx_takeWhile,
    filter_takeWhile_eq_filter_iff]
  generalize as.take WholeNews.itemCount = xs
  refine and_congr ?_ ?_
  · rw [← List.pairwise_map (f := Prod.fst) (R := fun a b : Article D => a.hasImage = false → b.hasImage = false),
      List.zipIdx_map_fst]
    simp only [Article.hasImage, Option.isSome_eq_false_iff, Option.isNone_iff_eq_none]
  · rw [← List.forall_mem_map (f := Prod.fst)
      (P := fun a : Article D => a.hasImage = true → WholeNews.shown asserts a = true), List.zipIdx_map_fst]
    cases asserts <;> simp [Article.hasImage_iff, WholeNews.shown, Option.isSome_iff_ne_none]

theorem wholeNews_rows_complete_iff_sample :
    WholeNews.imageRows true sampleSdk fullNews =
        (fullNews.items.take WholeNews.itemCount).zipIdx.filter (fun x => x.1.hasImage) ∧
      (WholeNews.imageRows false sampleSdk sampleFeed =
          (sampleFeed.items.take WholeNews.itemCount).zipIdx.filter (fun x => x.1.hasImage) ↔
        (sampleFeed.items.take WholeNews.itemCount).Pairwise
            (fun a b => a.urlToImage = none → b.urlToImage = none) ∧
          (false = true → ∀ a ∈ sampleFeed.items.take WholeNews.itemCount,
            a.urlToImage ≠ none → a.title ≠ none)) :=
  ⟨(wholeNews_rows_complete_iff sampleSdk_longText fullCodec_newsFromJson).mpr
      (by simp [fullNews, News.items, fullArticle, sampleArticle, WholeNews.itemCount]),
    wholeNews_rows_complete_iff sampleSdk_longText sampleCodec_newsFromJson⟩

/-- The second article of the response has an image, and no row. -/
theorem sampleFeed_row_lost :
    newsFromJson sampleCodec sampleSdk sampleResponse = .ok sampleFeed ∧
      WholeNews.imageRows false sampleSdk sampleFeed ≠
        (sampleFeed.items.take WholeNews.itemCount).zipIdx.filter (fun x => x.1.hasImage) := by
  refine ⟨sampleCodec_newsFromJson, fun h => ?_⟩
  have hempty : WholeNews.imageRows false sampleSdk sampleFeed = [] := rfl
  rw [hempty] at h
  cases h

end NewsApp
