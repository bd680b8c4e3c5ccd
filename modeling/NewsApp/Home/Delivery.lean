import NewsApp.Home.HomePageTheorems
import NewsApp.Pages.Theorems

/-!
# From the server to the page

The codec, the feeds and the pages together: what is sent is decoded to the same response, the feed that
is still waiting for it shows it, and its articles become rows and cards.
-/

namespace NewsApp.Home.HomePage

open Lib Flutter

variable {D : Type} {codec : JsonCodec} {sdk : DateTimeSdk D} {n : News D} {body : String}

/-! ## Decoding -/

theorem builder_decoded (hdecode : newsFromJson codec sdk body = .ok n) :
    WholeNews.builder (FutureBuilder.settled (Feed.decodeResponse codec sdk (.ok body))) =
        .content (some n) ∧
      BreakingNewsScroll.builder (FutureBuilder.settled (Feed.decodeResponse codec sdk (.ok body))) =
        .content (some n) := by
  have hbody : Feed.decodeResponse codec sdk (.ok body) = .ok n := hdecode
  rw [hbody]
  exact ⟨rfl, rfl⟩

/-! ## Showing -/

section

variable {es : List HomeEvent} {h : HomePage D}

theorem shownRows_of_answer (hdecode : newsFromJson codec sdk body = .ok n)
    (hrun : run (step codec sdk) mount es = some h)
    (hanswer : .wholeNews (h.wholeNews.gets - 1) (.ok body) ∈ es) (hclean : h.wholeNews.dirty = false)
    (asserts : Bool) : h.shownRows asserts sdk = WholeNews.rows asserts sdk (some n) := by
  obtain ⟨g, hg, hfollows⟩ := (feeds_run hrun).2
  have hmem := mem_translated_of_mem (f := wholeEvents) (fun _ => List.mem_singleton_self _) hanswer hrun
  have hview := hfollows.answered_newest_shown hg hclean hmem
  rw [(builder_decoded hdecode).1] at hview
  simp only [shownRows, hview]

theorem shownCards_of_answer (hdecode : newsFromJson codec sdk body = .ok n)
    (hrun : run (step codec sdk) mount es = some h)
    (hanswer : .breakingNews (h.breakingNews.feed.gets - 1) (.ok body) ∈ es)
    (hclean : h.breakingNews.feed.dirty = false) (asserts : Bool) (c : BoxConstraints) :
    h.shownCards asserts c = BreakingNewsScroll.cardList asserts c h.breakingNews.cardsPage (some n) := by
  obtain ⟨g, hg, hfollows⟩ := (feeds_run hrun).1
  have hmem := mem_translated_of_mem (f := breakingEvents) (fun _ => List.mem_singleton_self _) hanswer hrun
  have hview := hfollows.answered_newest_shown hg hclean hmem
  rw [(builder_decoded hdecode).2] at hview
  simp only [shownCards, hview]

end

/-- A complete response can be sent, and once it answers the newest request of a feed and a frame has come,
its articles are shown. The list has the rows of the leading articles with an image, in order, with error
widgets after them only when the response is too short and has an image for each article. Such a row is built
when its article has a title, or when the app runs without assertions, which then shows null. The cards are
all there exactly when the first five articles are, with image and title. -/
theorem response_delivered (hdate : sdk.ParsesIso) (htext : sdk.LongText) (hn : n.Complete sdk)
    (hcodec : ∀ t, n.toJson sdk = .ok t → t.finiteNumbers = true ∧ codec.ReadsBack t) (asserts : Bool) :
    ∃ body, newsToJson codec sdk n = .ok body ∧ ∀ es h, run (step codec sdk) mount es = some h →
      (.wholeNews (h.wholeNews.gets - 1) (.ok body) ∈ es → h.wholeNews.dirty = false →
        ∃ errors, h.shownRows asserts sdk =
            (WholeNews.leading n.items).map (WholeNews.row asserts sdk) ++ errors ∧
          (∀ e ∈ errors, ∃ k, e = .error (.rangeError k n.items.length)) ∧
          (errors = [] ↔ WholeNews.itemCount ≤ n.items.length ∨ ∃ a ∈ n.items, a.urlToImage = none) ∧
          ∀ a ∈ WholeNews.leading n.items,
            ((∃ r, WholeNews.row asserts sdk a = .ok r) ↔ (asserts = true → a.title ≠ none)) ∧
            ((∃ r, WholeNews.row asserts sdk a = .ok r ∧ r.NonNull) ↔ a.title ≠ none)) ∧
      (.breakingNews (h.breakingNews.feed.gets - 1) (.ok body) ∈ es → h.breakingNews.feed.dirty = false → ∀ c,
        ((∃ cards, h.shownCards asserts c = .ok cards ∧ ∀ card ∈ cards, card.NonNull) ↔
          BreakingNewsScroll.cardCount ≤ n.items.length ∧
          ∀ a ∈ n.items.take BreakingNewsScroll.cardCount, a.urlToImage ≠ none ∧ a.title ≠ none)) := by
  obtain ⟨body, hencode, hdecode⟩ : Inverts (newsFromJson codec sdk) (newsToJson codec sdk) n :=
    newsFromJson_inverts hdate hn (fun t ht => (hcodec t ht).1) fun t ht => (hcodec t ht).2
  obtain ⟨as, has, hall⟩ := hn
  refine ⟨body, hencode, fun es h hrun => ⟨fun hanswer hclean => ?_, fun hanswer hclean c => ?_⟩⟩
  · rw [shownRows_of_answer hdecode hrun hanswer hclean, News.items_of_articles has]
    obtain ⟨errors, hrows, herrors, hends⟩ := WholeNews.rows_eq asserts sdk has
    refine ⟨errors, hrows, herrors, hends, fun a ha => ?_⟩
    have hcomplete := hall a (WholeNews.mem_of_mem_leading ha)
    have himage := WholeNews.leading_hasImage ha
    refine ⟨?_, WholeNews.row_nonNull_iff asserts htext hcomplete himage⟩
    rw [WholeNews.row_ok_iff asserts htext hcomplete himage]
    cases asserts <;> simp [WholeNews.shown, Option.isSome_iff_ne_none]
  · rw [shownCards_of_answer hdecode hrun hanswer hclean, News.items_of_articles has]
    exact BreakingNewsScroll.cardList_nonNull_iff asserts has c h.breakingNews.cardsPage

/-- The newest requests of both feeds are answered with it: all rows are built, and the cards. -/
theorem response_delivered_sample :
    ∃ body h, run (step fullCodec sampleSdk) mount
        [.wholeNews 1 (.ok body), .breakingNews 1 (.ok body), .frame] = some h ∧
      h.shownRows true sampleSdk = (WholeNews.leading fullNews.items).map (WholeNews.row true sampleSdk) ∧
      (∃ r, WholeNews.row true sampleSdk fullArticle = .ok r ∧ r.NonNull) ∧
      ∃ cards, h.shownCards true ⟨400, 300⟩ = .ok cards ∧ ∀ card ∈ cards, card.NonNull := by
  obtain ⟨body, _, hshown⟩ :=
    response_delivered sampleSdk_parsesIso sampleSdk_longText fullNews_complete fullNews_readsBack true
  obtain ⟨hlist, hcards⟩ := hshown [.wholeNews 1 (.ok body), .breakingNews 1 (.ok body), .frame] _ rfl
  obtain ⟨errors, hrows, _, hends, hrow⟩ := hlist (List.mem_cons_self ..) rfl
  obtain rfl := hends.mpr fullNews_renderable.ends
  refine ⟨body, _, rfl, by rw [hrows, List.append_nil], (hrow fullArticle ?_).2.mpr ?_, ?_⟩
  · simp [leading_fullNews]
  · simp [fullArticle]
  · exact (hcards (by simp; rfl) rfl ⟨400, 300⟩).mpr ⟨fullNews_renderable.five, fullNews_renderable.cards⟩

end NewsApp.Home.HomePage
