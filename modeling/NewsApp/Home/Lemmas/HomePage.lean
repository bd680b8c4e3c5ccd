import NewsApp.Home.Lemmas.FeedElement

/-!
# Steps and runs of the home page

Each feed of the home page behaves as it does on its own, with a rebuild for some of the frames. What is
known of the requests and of the snapshot of a feed therefore holds of the feeds of the page.
-/

namespace NewsApp.Home

open Lib Flutter

variable {D : Type} {codec : JsonCodec} {sdk : DateTimeSdk D}

/-! ## Scrolling -/

namespace BreakingNews

theorem listener_idem (b : BreakingNews D) : b.listener.listener = b.listener := rfl

/-- However often the listener is called for a notification, its last call decides. -/
theorem listener_iterate (n : Nat) (b : BreakingNews D) : listener^[n + 1] b = b.listener := by
  induction n with
  | zero => rfl
  | succ n ih => rw [Function.iterate_succ_apply', ih, listener_idem]

theorem scroll_eq {b : BreakingNews D} (h : b.pageView.controller.listeners = 1) (page : ℚ) :
    b.scroll page =
      { b with pageView := b.pageView.scrollTo page, currentPage := page, dirty := true } := by
  rw [scroll, h]
  rfl

@[simp] theorem scroll_feed (b : BreakingNews D) (page : ℚ) : (b.scroll page).feed = b.feed := by
  unfold scroll
  cases b.pageView.controller.listeners with
  | zero => rfl
  | succ n => rw [listener_iterate]; rfl

theorem scroll_with_feed (b : BreakingNews D) (page : ℚ) (feed : FeedElement D) :
    scroll { b with feed } page = { b.scroll page with feed } := by
  unfold scroll
  cases b.pageView.controller.listeners with
  | zero => rfl
  | succ n => rw [listener_iterate, listener_iterate]; rfl

/-- The attached controller is the one of the last build and calls its listener once for a notification;
the cards are behind the page view only while a rebuild is due; and every rebuild, which is a request,
leaves a controller behind. -/
structure Inv (b : BreakingNews D) : Prop where
  attached : b.pageView.controller = newController
  currentPage : b.currentPage = b.pageView.page
  cardsPage : b.dirty = false → b.cardsPage = b.pageView.page
  detached : b.pageView.detached.length + 2 = b.feed.gets

theorem mount_inv : (mount : BreakingNews D).Inv := ⟨rfl, rfl, fun _ => rfl, rfl⟩

theorem Inv.scroll {b : BreakingNews D} (h : b.Inv) (page : ℚ) : (b.scroll page).Inv := by
  have hlisteners : b.pageView.controller.listeners = 1 := by
    rw [h.attached]
    rfl
  rw [scroll_eq hlisteners]
  exact ⟨h.attached, rfl, nofun, h.detached⟩

theorem Inv.rebuild {b : BreakingNews D} (h : b.Inv) : b.rebuild.Inv := by
  refine ⟨rfl, h.currentPage, fun _ => h.currentPage, ?_⟩
  have hdetached := h.detached
  simp only [BreakingNews.rebuild, PageView.didUpdateWidget, FeedElement.gets_frame_true, List.length_append,
    List.length_singleton]
  omega

theorem Inv.with_feed {b : BreakingNews D} (h : b.Inv) {feed : FeedElement D}
    (hgets : feed.gets = b.feed.gets) : Inv { b with feed } :=
  ⟨h.attached, h.currentPage, h.cardsPage, h.detached.trans hgets.symm⟩

theorem frame_feed_dirty (b : BreakingNews D) (rebuilds : Bool) : (b.frame rebuilds).feed.dirty = false := by
  unfold BreakingNews.frame
  split_ifs
  · rfl
  · exact FeedElement.frame_dirty false b.feed

theorem Inv.frame {b : BreakingNews D} (h : b.Inv) (rebuilds : Bool) : (b.frame rebuilds).Inv := by
  unfold BreakingNews.frame
  split_ifs
  · exact h.rebuild
  · exact h.with_feed (FeedElement.gets_frame_false b.feed)

end BreakingNews

namespace HomePage

/-! ## Steps -/

/-- What a step can do. -/
theorem step_cases {h h' : HomePage D} {e : HomeEvent} (hstep : step codec sdk h e = some h') :
    (∃ e' route, e = .search e' ∧ h.route.step e' = some route ∧
      h' = { h with
        route
        dependsOnRoute := h.dependsOnRoute || e'.asksRoute
        dirty := h.dirty || e'.setsState h.route }) ∨
    (e = .mediaQuery ∧ h' = { h with dirty := true }) ∨
    (e = .routeStatus ∧ h' = { h with dirty := h.dirty || h.dependsOnRoute }) ∨
    (∃ page, e = .scroll page ∧ h' = { h with breakingNews := h.breakingNews.scroll page }) ∨
    (∃ request response feed, e = .breakingNews request response ∧
      h.breakingNews.feed.respond codec sdk request response = some feed ∧
      h' = { h with breakingNews := { h.breakingNews with feed } }) ∨
    (∃ request response wholeNews, e = .wholeNews request response ∧
      h.wholeNews.respond codec sdk request response = some wholeNews ∧ h' = { h with wholeNews }) ∨
    (e = .frame ∧ h' = h.frame) := by
  cases e with
  | search e =>
      obtain ⟨route, hroute, rfl⟩ := Option.map_eq_some_iff.mp hstep
      exact Or.inl ⟨e, route, rfl, hroute, rfl⟩
  | mediaQuery => cases hstep; exact Or.inr (Or.inl ⟨rfl, rfl⟩)
  | routeStatus => cases hstep; exact Or.inr (Or.inr (Or.inl ⟨rfl, rfl⟩))
  | scroll page => cases hstep; exact Or.inr (Or.inr (Or.inr (Or.inl ⟨page, rfl, rfl⟩)))
  | breakingNews request response =>
      obtain ⟨feed, hfeed, rfl⟩ := Option.map_eq_some_iff.mp hstep
      exact Or.inr (Or.inr (Or.inr (Or.inr (Or.inl ⟨request, response, feed, rfl, hfeed, rfl⟩))))
  | wholeNews request response =>
      obtain ⟨feed, hfeed, rfl⟩ := Option.map_eq_some_iff.mp hstep
      exact Or.inr (Or.inr (Or.inr (Or.inr (Or.inr (Or.inl ⟨request, response, feed, rfl, hfeed, rfl⟩)))))
  | frame => cases hstep; exact Or.inr (Or.inr (Or.inr (Or.inr (Or.inr (Or.inr ⟨rfl, rfl⟩)))))

/-! ## The feeds -/

/-- What the event is to the feed of the card stack. -/
def breakingEvents (h : HomePage D) : HomeEvent → List FeedEvent
  | .breakingNews request response => [.respond request response]
  | .frame => if h.dirty || h.breakingNews.dirty then [.rebuild] else []
  | _ => []

def wholeEvents (h : HomePage D) : HomeEvent → List FeedEvent
  | .wholeNews request response => [.respond request response]
  | .frame => if h.dirty then [.rebuild] else []
  | _ => []

theorem mem_of_breakingEvents {h : HomePage D} {es : List HomeEvent} {request : Nat}
    {response : Dart String}
    (hmem : .respond request response ∈ translated (step codec sdk) breakingEvents h es) :
    .breakingNews request response ∈ es := by
  obtain ⟨t, e, he, hmem⟩ := mem_translated hmem
  cases e with
  | breakingNews request' response' =>
      simp only [breakingEvents, List.mem_singleton, FeedEvent.respond.injEq] at hmem
      rw [hmem.1, hmem.2]
      exact he
  | frame =>
      simp only [breakingEvents] at hmem
      split_ifs at hmem <;> simp at hmem
  | _ => simp [breakingEvents] at hmem

theorem mem_of_wholeEvents {h : HomePage D} {es : List HomeEvent} {request : Nat} {response : Dart String}
    (hmem : .respond request response ∈ translated (step codec sdk) wholeEvents h es) :
    .wholeNews request response ∈ es := by
  obtain ⟨t, e, he, hmem⟩ := mem_translated hmem
  cases e with
  | wholeNews request' response' =>
      simp only [wholeEvents, List.mem_singleton, FeedEvent.respond.injEq] at hmem
      rw [hmem.1, hmem.2]
      exact he
  | frame =>
      simp only [wholeEvents] at hmem
      split_ifs at hmem <;> simp at hmem
  | _ => simp [wholeEvents] at hmem

theorem step_breakingNews {h h' : HomePage D} {g : Feed D} {e : HomeEvent}
    (hg : h.breakingNews.feed.Follows BreakingNewsScroll.builder g) (hstep : step codec sdk h e = some h') :
    ∃ g', run (Feed.step codec sdk BreakingNewsScroll.builder) g (h.breakingEvents e) = some g' ∧
      h'.breakingNews.feed.Follows BreakingNewsScroll.builder g' := by
  rcases step_cases hstep with ⟨_, _, rfl, _, rfl⟩ | ⟨rfl, rfl⟩ | ⟨rfl, rfl⟩ | ⟨page, rfl, rfl⟩ |
    ⟨request, response, feed, rfl, hfeed, rfl⟩ | ⟨_, _, _, rfl, _, rfl⟩ | ⟨rfl, rfl⟩
  · exact ⟨g, rfl, hg⟩
  · exact ⟨g, rfl, hg⟩
  · exact ⟨g, rfl, hg⟩
  · exact ⟨g, rfl, by simpa using hg⟩
  · obtain ⟨g', hg', hfollows⟩ := hg.respond hfeed
    exact ⟨g', run_cons_of_step hg' [], hfollows⟩
  · exact ⟨g, rfl, hg⟩
  · simp only [breakingEvents, frame, BreakingNews.frame]
    split_ifs
    · exact ⟨_, rfl, hg.rebuild⟩
    · exact ⟨g, rfl, hg.keep⟩

theorem step_wholeNews {h h' : HomePage D} {g : Feed D} {e : HomeEvent}
    (hg : h.wholeNews.Follows WholeNews.builder g) (hstep : step codec sdk h e = some h') :
    ∃ g', run (Feed.step codec sdk WholeNews.builder) g (h.wholeEvents e) = some g' ∧
      h'.wholeNews.Follows WholeNews.builder g' := by
  rcases step_cases hstep with ⟨_, _, rfl, _, rfl⟩ | ⟨rfl, rfl⟩ | ⟨rfl, rfl⟩ | ⟨_, rfl, rfl⟩ |
    ⟨_, _, _, rfl, _, rfl⟩ | ⟨request, response, feed, rfl, hfeed, rfl⟩ | ⟨rfl, rfl⟩
  · exact ⟨g, rfl, hg⟩
  · exact ⟨g, rfl, hg⟩
  · exact ⟨g, rfl, hg⟩
  · exact ⟨g, rfl, hg⟩
  · exact ⟨g, rfl, hg⟩
  · obtain ⟨g', hg', hfollows⟩ := hg.respond hfeed
    exact ⟨g', run_cons_of_step hg' [], hfollows⟩
  · simp only [wholeEvents, frame]
    cases h.dirty with
    | true => exact ⟨_, rfl, hg.rebuild⟩
    | false => exact ⟨g, rfl, hg.keep⟩

section

variable {es : List HomeEvent} {h : HomePage D}

/-- The feeds of the home page follow runs of the feeds on their own. -/
theorem feeds_run (hrun : run (step codec sdk) mount es = some h) :
    (∃ g, run (Feed.step codec sdk BreakingNewsScroll.builder) (.mount BreakingNewsScroll.builder)
        (translated (step codec sdk) breakingEvents mount es) = some g ∧
      h.breakingNews.feed.Follows BreakingNewsScroll.builder g) ∧
    ∃ g, run (Feed.step codec sdk WholeNews.builder) (.mount WholeNews.builder)
        (translated (step codec sdk) wholeEvents mount es) = some g ∧
      h.wholeNews.Follows WholeNews.builder g :=
  ⟨run_simulates (R := fun h g => h.breakingNews.feed.Follows BreakingNewsScroll.builder g)
      step_breakingNews FeedElement.mount_follows hrun,
    run_simulates (R := fun h g => h.wholeNews.Follows WholeNews.builder g)
      step_wholeNews FeedElement.mount_follows hrun⟩

end

end HomePage

end NewsApp.Home
