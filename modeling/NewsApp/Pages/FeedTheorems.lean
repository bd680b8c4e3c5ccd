import NewsApp.Data.Lemmas.RoundTrip
import NewsApp.Pages.Lemmas.Snapshot

/-!
# Rebuilding a feed

Every rebuild of a feed requests the response again. `WholeNews` shows the spinner until the answer is
there; `BreakingNewsScroll` keeps what it shows, until an answer fails. Before the first answer it has
nothing to show and builds the cards all the same.
-/

namespace NewsApp

open Lib

variable {D : Type}

namespace Feed

/-! ## Requests -/

/-- In every state of every run the feed has issued two requests or more, so that rebuilding it is never
transparent. -/
theorem never_transparent (codec : JsonCodec) (sdk : DateTimeSdk D) (builder : SnapshotBuilder D)
    (es : List FeedEvent) :
    Always (step codec sdk builder) (fun f => 2 ≤ f.gets ∧ ¬ f.Transparent) (mount builder) es := by
  rw [always_iff_take]
  intro n f hrun
  have hgets := gets_run hrun
  simp only [mount_eq] at hgets
  refine ⟨by omega, fun h => ?_⟩
  have hle := h.1
  omega

/-- One scroll notification after the response is shown: a third request, and the spinner again. -/
theorem wholeNews_rebuild_sample :
    ∃ f, run (step sampleCodec sampleSdk WholeNews.builder) (mount WholeNews.builder)
        [.respond 1 (.ok sampleResponse), .rebuild] = some f ∧
      f.gets = 3 ∧ f.views = [.spinner, .content (some sampleFeed), .spinner] ∧ ¬ f.Transparent := by
  have hdecode : decodeResponse sampleCodec sampleSdk (.ok sampleResponse) = .ok sampleFeed := by
    rw [decodeResponse, ok_bind, sampleCodec_newsFromJson]
  have hshown : step sampleCodec sampleSdk WholeNews.builder (mount WholeNews.builder)
      (.respond 1 (.ok sampleResponse)) = some {
        gets := 2
        pending := [0]
        futureBuilder := ⟨1, .withData .done sampleFeed⟩
        views := [.content (some sampleFeed), .spinner] } := by
    rcases respond_cases sampleCodec sampleSdk WholeNews.builder (mount WholeNews.builder) 1
      (.ok sampleResponse) with ⟨_, h⟩ | ⟨hne, _⟩
    · rw [step, if_pos (by simp [mount_eq]), h, hdecode]
      rfl
    · exact absurd rfl hne
  refine ⟨_, by rw [run_cons_of_step hshown]; rfl, rfl, rfl, fun h => absurd h.1 (by decide)⟩

/-! ## Missing data -/

/-- In every run, the latest view is safe exactly when the widget is `WholeNews`, or the feed has heard an
answer. -/
theorem latest_view_safe_iff (codec : JsonCodec) (sdk : DateTimeSdk D) (w : FeedWidget) {es : List FeedEvent}
    {f : Feed D} (h : run (step codec sdk w.builder) (mount w.builder) es = some f) :
    (∃ v, f.views.head? = some v ∧ v.SafeAfter (heard codec sdk 1 es)) ↔
      w = .wholeNews ∨ heard codec sdk 1 es ≠ [] := by
  rw [run_latest_view h, ← safeAfter_run w h]
  simp

theorem latest_view_safe_sample :
    ∃ v, ((mount WholeNews.builder).rebuild WholeNews.builder : Feed Unit).views.head? = some v ∧
      v.SafeAfter (heard sampleCodec sampleSdk 1 [.rebuild]) := by
  have hrun : run (step sampleCodec sampleSdk FeedWidget.wholeNews.builder)
      (mount FeedWidget.wholeNews.builder) [.rebuild] =
        some ((mount WholeNews.builder).rebuild WholeNews.builder) := rfl
  exact (latest_view_safe_iff sampleCodec sampleSdk .wholeNews hrun).mpr (Or.inl rfl)

/-- The first build of `BreakingNewsScroll` reads the articles of null. -/
theorem breakingNews_mount_sample :
    run (step sampleCodec sampleSdk BreakingNewsScroll.builder) (mount BreakingNewsScroll.builder) [] =
        some (mount BreakingNewsScroll.builder) ∧
      (mount BreakingNewsScroll.builder : Feed Unit).views = [.content none] ∧
      BreakingNewsScroll.cardList true ⟨390, 390 / widgetAspectRatio⟩ 4 (none : Option (News Unit)) =
        .error .noSuchMethodError :=
  ⟨rfl, rfl, BreakingNewsScroll.cardList_null _ _ _⟩

/-- No view of a run of `WholeNews` reads the articles of null, and every run of `BreakingNewsScroll` has one
that does. -/
theorem always_reads_data_iff (codec : JsonCodec) (sdk : DateTimeSdk D) (w : FeedWidget)
    (es : List FeedEvent) :
    Always (step codec sdk w.builder) (fun f => f.views.head? ≠ some (.content none)) (mount w.builder) es ↔
      w = .wholeNews := by
  constructor
  · intro h
    cases w with
    | wholeNews => rfl
    | breakingNewsScroll => exact absurd rfl h.here
  · rintro rfl
    rw [always_iff_take]
    intro n f hrun
    rw [run_latest_view hrun, ne_eq, Option.some.injEq]
    exact ((safeAfter_run .wholeNews hrun).mpr (Or.inl rfl)).1

/-! ## Fallbacks -/

section

variable {codec : JsonCodec} {sdk : DateTimeSdk D} {f : Feed D}

/-- Once `WholeNews` has shown a response, the next rebuild falls back to the spinner. -/
theorem wholeNews_rebuild_falls_back
    (h : Reachable (step codec sdk WholeNews.builder) (mount WholeNews.builder) f)
    (hshown : ∃ v ∈ f.views, v.ShowsNews) : ¬ (f.rebuild WholeNews.builder).NoFallback := by
  obtain ⟨v, hv, hnews⟩ := hshown
  have hviews : (f.rebuild WholeNews.builder).views = .spinner :: f.views := by
    rw [rebuild_eq (reachable_subscribed h)]
    rfl
  rw [noFallback_cons hviews]
  exact fun h' => h'.2 v hv hnews (Or.inl rfl)

/-- A rebuild of `BreakingNewsScroll` shows again what the snapshot already held. -/
theorem breakingNews_rebuild_keeps_view
    (h : Reachable (step codec sdk BreakingNewsScroll.builder) (mount BreakingNewsScroll.builder) f) :
    (f.rebuild BreakingNewsScroll.builder).views =
      BreakingNewsScroll.builder f.futureBuilder.snapshot :: f.views := by
  rw [rebuild_eq (reachable_subscribed h)]
  rfl

/-- Once `BreakingNewsScroll` has shown a response, a failing answer of the request that it is subscribed
to falls back to the error text. -/
theorem breakingNews_error_falls_back {response : Dart String} {e : DartError}
    (hshown : ∃ v ∈ f.views, v.ShowsNews) (herror : decodeResponse codec sdk response = .error e) :
    ¬ (f.respond codec sdk BreakingNewsScroll.builder f.futureBuilder.future response).NoFallback := by
  obtain ⟨v, hv, hnews⟩ := hshown
  have hviews : (f.respond codec sdk BreakingNewsScroll.builder f.futureBuilder.future response).views =
      .error "Hata: true" :: f.views := by
    rcases respond_cases codec sdk BreakingNewsScroll.builder f f.futureBuilder.future response
      with ⟨_, h'⟩ | ⟨hne, _⟩
    · rw [h', herror]
      rfl
    · exact absurd rfl hne
  rw [noFallback_cons hviews]
  exact fun h' => h'.2 v hv hnews (Or.inr ⟨_, rfl⟩)

end

end Feed

end NewsApp
