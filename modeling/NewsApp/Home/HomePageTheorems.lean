import NewsApp.Home.Lemmas.HomePage
import NewsApp.Home.SearchTheorems

/-!
# The home page over its feeds
-/

namespace NewsApp.Home.HomePage

open Lib Flutter

variable {D : Type} {codec : JsonCodec} {sdk : DateTimeSdk D}

/-! ## The newest request -/

section

variable {es : List HomeEvent} {h : HomePage D}

/-- Once a feed's newest request is answered and a frame has come, the page shows that answer, whatever else
it did. -/
theorem feeds_show_newest (hrun : run (step codec sdk) mount es = some h) :
    (h.breakingNews.feed.dirty = false → h.breakingNews.feed.gets - 1 ∉ h.breakingNews.feed.pending →
      ∃ response, .breakingNews (h.breakingNews.feed.gets - 1) response ∈ es ∧
        h.breakingNews.feed.views.head? =
          some (BreakingNewsScroll.builder (FutureBuilder.settled (Feed.decodeResponse codec sdk response)))) ∧
    (h.wholeNews.dirty = false → h.wholeNews.gets - 1 ∉ h.wholeNews.pending →
      ∃ response, .wholeNews (h.wholeNews.gets - 1) response ∈ es ∧
        h.wholeNews.views.head? =
          some (WholeNews.builder (FutureBuilder.settled (Feed.decodeResponse codec sdk response)))) ∧
    h.frame.breakingNews.feed.dirty = false ∧ h.frame.wholeNews.dirty = false := by
  obtain ⟨⟨g, hbreaking, hfollows⟩, g', hwhole, hfollows'⟩ := feeds_run hrun
  refine ⟨fun hclean hanswered => ?_, fun hclean hanswered => ?_, ?_, FeedElement.frame_dirty _ _⟩
  · obtain ⟨response, hmem, hview⟩ := hfollows.newest_answer_shown hbreaking hclean hanswered
    exact ⟨response, mem_of_breakingEvents hmem, hview⟩
  · obtain ⟨response, hmem, hview⟩ := hfollows'.newest_answer_shown hwhole hclean hanswered
    exact ⟨response, mem_of_wholeEvents hmem, hview⟩
  · exact BreakingNews.frame_feed_dirty h.breakingNews h.dirty

end

/-- A search on the page while the first answers are under way, and the drawer and a swipe on the stack after
it. -/
def sampleVisit : List HomeEvent :=
  [.search .tapSearch, .search (.type "deprem"), .frame, .breakingNews 1 (.error (.exception "timeout")),
    .routeStatus, .scroll 3, .frame, .breakingNews 3 (.error (.exception "refused")),
    .wholeNews 3 (.error (.exception "refused")), .frame]

theorem sampleVisit_run :
    ∃ h, run (step sampleCodec sampleSdk) mount sampleVisit = some h ∧
      h.breakingNews.feed.gets = 4 ∧ h.breakingNews.feed.pending = [0, 2] ∧
      h.breakingNews.feed.dirty = false ∧ h.wholeNews.gets = 4 ∧ h.wholeNews.pending = [0, 1, 2] ∧
      h.wholeNews.dirty = false :=
  ⟨_, rfl, rfl, rfl, rfl, rfl, rfl, rfl⟩

theorem feeds_show_newest_sample :
    ∃ h, run (step sampleCodec sampleSdk) mount sampleVisit = some h ∧
      (∃ response, .breakingNews 3 response ∈ sampleVisit ∧ h.breakingNews.feed.views.head? =
        some (BreakingNewsScroll.builder
          (FutureBuilder.settled (Feed.decodeResponse sampleCodec sampleSdk response)))) ∧
      ∃ response, .wholeNews 3 response ∈ sampleVisit ∧ h.wholeNews.views.head? =
        some (WholeNews.builder
          (FutureBuilder.settled (Feed.decodeResponse sampleCodec sampleSdk response))) := by
  obtain ⟨h, hrun, hgets, hpending, hclean, hgets', hpending', hclean'⟩ := sampleVisit_run
  obtain ⟨hbreaking, hwhole, _⟩ := feeds_show_newest hrun
  rw [hgets, hpending] at hbreaking
  rw [hgets', hpending'] at hwhole
  exact ⟨h, hrun, hbreaking hclean (by decide), hwhole hclean' (by decide)⟩

/-! ## The order of the events -/

/-- Neither event is a frame, and they are not two searches, two swipes or two answers of one request. -/
def Independent : HomeEvent → HomeEvent → Prop
  | .frame, _ => False
  | _, .frame => False
  | .search _, .search _ => False
  | .scroll _, .scroll _ => False
  | .breakingNews request _, .breakingNews request' _ => request ≠ request'
  | .wholeNews request _, .wholeNews request' _ => request ≠ request'
  | _, _ => True

theorem Independent.symm {e e' : HomeEvent} (h : Independent e e') : Independent e' e := by
  cases e <;> cases e' <;> first | exact h | exact Ne.symm h

/-- A search event that makes the page depend on its route makes it dirty as well. -/
theorem setsState_of_asksRoute (d depends : Bool) (r : Route) (e : SearchEvent) :
    (d || e.setsState r || (depends || e.asksRoute)) = (d || depends || e.setsState r) := by
  cases e with
  | tapSearch => simp [SearchEvent.setsState]
  | _ => simp [SearchEvent.asksRoute, Bool.or_right_comm]

theorem step_comm {e e' : HomeEvent} (hind : Independent e e') (h : HomePage D) :
    (step codec sdk h e).bind (fun h' => step codec sdk h' e') =
      (step codec sdk h e').bind fun h' => step codec sdk h' e := by
  cases e with
  | frame => exact hind.elim
  | mediaQuery =>
      cases e' with
      | frame => exact hind.elim
      | _ => simp [step, Option.map_eq_bind, Option.bind_assoc]
  | routeStatus =>
      cases e' with
      | frame => exact hind.elim
      | search e => simp [step, Option.map_eq_bind, Option.bind_assoc, setsState_of_asksRoute]
      | _ => simp [step, Option.map_eq_bind, Option.bind_assoc]
  | scroll page =>
      cases e' with
      | frame | scroll => exact hind.elim
      | _ => simp [step, Option.map_eq_bind, Option.bind_assoc, BreakingNews.scroll_with_feed]
  | search e =>
      cases e' with
      | frame | search => exact hind.elim
      | mediaQuery | scroll => simp [step, Option.map_eq_bind, Option.bind_assoc]
      | routeStatus => simp [step, Option.map_eq_bind, Option.bind_assoc, setsState_of_asksRoute]
      | _ => simpa [step, Option.map_eq_bind, Option.bind_assoc] using Option.bind_comm _ _
  | breakingNews request response =>
      cases e' with
      | frame => exact hind.elim
      | breakingNews request' response' =>
          have hcomm : _ = (h.breakingNews.feed.respond codec sdk request' response').bind _ :=
            FeedElement.respond_comm hind h.breakingNews.feed response response'
          have hpage := congrArg
            (Option.map fun feed => { h with breakingNews := { h.breakingNews with feed } }) hcomm
          simpa [step, Option.map_eq_bind, Option.bind_assoc] using hpage
      | mediaQuery | routeStatus | scroll =>
          simp [step, Option.map_eq_bind, Option.bind_assoc, BreakingNews.scroll_with_feed]
      | _ => simpa [step, Option.map_eq_bind, Option.bind_assoc] using Option.bind_comm _ _
  | wholeNews request response =>
      cases e' with
      | frame => exact hind.elim
      | wholeNews request' response' =>
          have hcomm : _ = (h.wholeNews.respond codec sdk request' response').bind _ :=
            FeedElement.respond_comm hind h.wholeNews response response'
          have hpage := congrArg (Option.map fun wholeNews => { h with wholeNews }) hcomm
          simpa [step, Option.map_eq_bind, Option.bind_assoc] using hpage
      | mediaQuery | routeStatus | scroll => simp [step, Option.map_eq_bind, Option.bind_assoc]
      | _ => simpa [step, Option.map_eq_bind, Option.bind_assoc] using Option.bind_comm _ _

/-- Between two frames only the searches and the swipes have an order: the answers, among each other and
among the rest, can come in any order and lead to the same page, whatever happens before and after. -/
theorem answers_in_any_order {es es' : List HomeEvent} (hind : es.Pairwise Independent)
    (hperm : es.Perm es') (h : HomePage D) (before after : List HomeEvent) :
    run (step codec sdk) h (before ++ es ++ after) = run (step codec sdk) h (before ++ es' ++ after) := by
  rw [run_append, run_append, run_append, run_append]
  congr 1
  exact Option.bind_congr fun h' _ => run_perm (step codec sdk) Independent.symm step_comm hind hperm h'

def sampleRace : List HomeEvent :=
  [.wholeNews 1 (.error (.exception "timeout")), .search .tapSearch,
    .breakingNews 0 (.error (.exception "timeout")), .breakingNews 1 (.error (.exception "refused")),
    .scroll 3]

theorem answers_in_any_order_sample :
    ∃ h, run (step sampleCodec sampleSdk) mount (sampleRace ++ [.frame]) = some h ∧
      run (step sampleCodec sampleSdk) mount (sampleRace.reverse ++ [.frame]) = some h := by
  have hrace : run (step sampleCodec sampleSdk) mount ([] ++ sampleRace ++ [.frame]) =
      run (step sampleCodec sampleSdk) mount ([] ++ sampleRace.reverse ++ [.frame]) :=
    answers_in_any_order (by simp [sampleRace, Independent]) sampleRace.reverse_perm.symm mount [] [.frame]
  exact ⟨_, rfl, hrace.symm⟩

/-! ## The search -/

/-- An event of the search becomes a rebuild of the page, if it is one. So does a change of the route's status
once the search has made the page depend on it. -/
def withoutSearch (h : HomePage D) : HomeEvent → List HomeEvent
  | .search e => if e.setsState h.route then [.mediaQuery] else []
  | .routeStatus => if h.dependsOnRoute then [.mediaQuery] else []
  | e => [e]

/-- The pages show the same and are going to rebuild the same. -/
structure SameFeeds (h h' : HomePage D) : Prop where
  dirty : h'.dirty = h.dirty
  breakingNews : h'.breakingNews = h.breakingNews
  wholeNews : h'.wholeNews = h.wholeNews

theorem step_sameFeeds {h g h' : HomePage D} {e : HomeEvent} (hsame : h.SameFeeds g)
    (hstep : step codec sdk h e = some h') :
    ∃ g', run (step codec sdk) g (h.withoutSearch e) = some g' ∧ h'.SameFeeds g' := by
  obtain ⟨route, dependsOnRoute, dirty, breakingNews, wholeNews⟩ := g
  obtain ⟨rfl, rfl, rfl⟩ := hsame
  rcases step_cases hstep with ⟨e', route', rfl, _, rfl⟩ | ⟨rfl, rfl⟩ | ⟨rfl, rfl⟩ | ⟨page, rfl, rfl⟩ |
    ⟨request, response, feed, rfl, hfeed, rfl⟩ | ⟨request, response, feed, rfl, hfeed, rfl⟩ | ⟨rfl, rfl⟩
  · simp only [withoutSearch]
    split_ifs with hsets
    · exact ⟨_, rfl, by simp [hsets], rfl, rfl⟩
    · exact ⟨_, rfl, by simp [hsets], rfl, rfl⟩
  · exact ⟨_, rfl, rfl, rfl, rfl⟩
  · simp only [withoutSearch]
    split_ifs with hdepends
    · exact ⟨_, rfl, by simp [hdepends], rfl, rfl⟩
    · exact ⟨_, rfl, by simp [hdepends], rfl, rfl⟩
  · exact ⟨_, rfl, rfl, rfl, rfl⟩
  · refine ⟨⟨route, dependsOnRoute, h.dirty, { h.breakingNews with feed }, h.wholeNews⟩, ?_, rfl, rfl, rfl⟩
    simp only [withoutSearch, run, step, hfeed]
    rfl
  · refine ⟨⟨route, dependsOnRoute, h.dirty, h.breakingNews, feed⟩, ?_, rfl, rfl, rfl⟩
    simp only [withoutSearch, run, step, hfeed]
    rfl
  · exact ⟨_, rfl, rfl, rfl, rfl⟩

/-- The page depends on its route from the first tap on the search icon on. -/
theorem dependsOnRoute_iff {es : List HomeEvent} {h : HomePage D}
    (hrun : run (step codec sdk) mount es = some h) :
    h.dependsOnRoute = true ↔ .search .tapSearch ∈ es := by
  refine run_history (P := fun es (h : HomePage D) => h.dependsOnRoute = true ↔ .search .tapSearch ∈ es)
    (by simp [mount]) ?_ hrun
  intro es e h h' _ hdepends hstep
  rw [List.mem_append, List.mem_singleton, ← hdepends]
  rcases step_cases hstep with ⟨e', _, rfl, _, rfl⟩ | ⟨rfl, rfl⟩ | ⟨rfl, rfl⟩ | ⟨_, rfl, rfl⟩ |
    ⟨_, _, _, rfl, _, rfl⟩ | ⟨_, _, _, rfl, _, rfl⟩ | ⟨rfl, rfl⟩
  · cases e' <;> simp [SearchEvent.asksRoute]
  all_goals simp [frame]

/-- The search does nothing to the feeds but rebuild them, by its own events and by making the page depend on
its route: every run can be replayed without it and without changes of the route's status, with a rebuild of
the page in the place of each that is one, and ends with the same feeds. -/
theorem search_only_rebuilds {es : List HomeEvent} {h : HomePage D}
    (hrun : run (step codec sdk) mount es = some h) :
    (∀ e ∈ translated (step codec sdk) withoutSearch mount es, e ≠ .routeStatus ∧ ∀ e', e ≠ .search e') ∧
      (∃ h', run (step codec sdk) mount (translated (step codec sdk) withoutSearch mount es) = some h' ∧
        h.SameFeeds h') ∧
      (h.dependsOnRoute = true ↔ .search .tapSearch ∈ es) := by
  refine ⟨fun e hmem => ?_, run_simulates step_sameFeeds ⟨rfl, rfl, rfl⟩ hrun, dependsOnRoute_iff hrun⟩
  obtain ⟨t, e', _, hmem⟩ := mem_translated hmem
  cases e' with
  | search | routeStatus =>
      simp only [withoutSearch] at hmem
      split_ifs at hmem
      · rw [List.mem_singleton.mp hmem]
        simp
      · cases hmem
  | _ =>
      rw [List.mem_singleton.mp hmem]
      simp

theorem search_only_rebuilds_sample :
    ∃ h h', run (step sampleCodec sampleSdk) mount sampleVisit = some h ∧
      run (step sampleCodec sampleSdk) mount
        (translated (step sampleCodec sampleSdk) withoutSearch mount sampleVisit) = some h' ∧
      h.SameFeeds h' := by
  obtain ⟨h, hrun, _⟩ := sampleVisit_run
  obtain ⟨_, ⟨h', hrun', hsame⟩, _⟩ := search_only_rebuilds hrun
  exact ⟨h, h', hrun, hrun', hsame⟩

/-! ## The page view -/

theorem step_inv {h h' : HomePage D} {e : HomeEvent} (hinv : h.breakingNews.Inv)
    (hstep : step codec sdk h e = some h') : h'.breakingNews.Inv := by
  rcases step_cases hstep with ⟨_, _, rfl, _, rfl⟩ | ⟨rfl, rfl⟩ | ⟨rfl, rfl⟩ | ⟨page, rfl, rfl⟩ |
    ⟨request, response, feed, rfl, hfeed, rfl⟩ | ⟨_, _, _, rfl, _, rfl⟩ | ⟨rfl, rfl⟩
  · exact hinv
  · exact hinv
  · exact hinv
  · exact hinv.scroll page
  · exact hinv.with_feed (FeedElement.gets_respond hfeed)
  · exact hinv
  · exact hinv.frame h.dirty

/-- In every state of every run, the page of the state is the page of the view, a notification is heard by
one listener, the cards are laid out for the page of the view unless a rebuild is due, and every request of
the stack after the first two has left a controller that is not disposed. -/
theorem cards_follow_page (codec : JsonCodec) (sdk : DateTimeSdk D) (es : List HomeEvent) :
    Always (step codec sdk) (fun h =>
      h.breakingNews.currentPage = h.breakingNews.pageView.page ∧
      h.breakingNews.pageView.controller.listeners = 1 ∧
      (h.breakingNews.dirty = false → h.breakingNews.cardsPage = h.breakingNews.pageView.page) ∧
      h.breakingNews.pageView.detached.length + 2 = h.breakingNews.feed.gets) mount es := by
  rw [always_iff_take]
  intro n h hrun
  have hinv : h.breakingNews.Inv := run_invariant (P := fun h : HomePage D => h.breakingNews.Inv) step_inv
    BreakingNews.mount_inv hrun
  refine ⟨hinv.currentPage, ?_, hinv.cardsPage, hinv.detached⟩
  rw [hinv.attached]
  rfl

/-! ## Traffic -/

def requests (h : HomePage D) : Nat := h.breakingNews.feed.gets + h.wholeNews.gets

/-- The requests of the next frame. -/
def due (h : HomePage D) : Nat := if h.dirty then 2 else if h.breakingNews.dirty then 1 else 0

/-- The requests that the event makes due, when nothing is dirty before it. -/
def cost (h : HomePage D) : HomeEvent → Nat
  | .search e => if e.setsState h.route then 2 else 0
  | .mediaQuery => 2
  | .routeStatus => if h.dependsOnRoute then 2 else 0
  | .scroll _ => 1
  | _ => 0

/-- What the events of a visit cost together. -/
def spent (codec : JsonCodec) (sdk : DateTimeSdk D) (es : List HomeEvent) : Nat :=
  (translated (step codec sdk) (fun h e => [h.cost e]) mount es).sum

theorem frame_requests (h : HomePage D) : h.frame.requests = h.requests + h.due ∧ h.frame.due = 0 := by
  obtain ⟨route, dependsOnRoute, dirty, ⟨currentPage, pageView, dirty', cardsPage, feed⟩, wholeNews⟩ := h
  cases dirty <;> cases dirty' <;>
    simp [frame, requests, due, BreakingNews.frame, BreakingNews.rebuild] <;> omega

theorem due_le (h : HomePage D) : h.due ≤ 2 := by
  unfold due
  split_ifs <;> omega

theorem step_requests {h h' : HomePage D} {e : HomeEvent} (hstep : step codec sdk h e = some h') :
    h'.requests + h'.due ≤ h.requests + h.due + h.cost e := by
  rcases step_cases hstep with ⟨e', route, rfl, _, rfl⟩ | ⟨rfl, rfl⟩ | ⟨rfl, rfl⟩ | ⟨page, rfl, rfl⟩ |
    ⟨request, response, feed, rfl, hfeed, rfl⟩ | ⟨request, response, feed, rfl, hfeed, rfl⟩ | ⟨rfl, rfl⟩
  · cases hsets : e'.setsState h.route with
    | true =>
        have hdue := due_le { h with route, dependsOnRoute := h.dependsOnRoute || e'.asksRoute, dirty := true }
        simp only [requests, cost, hsets, Bool.or_true, if_true] at hdue ⊢
        omega
    | false => simp [requests, due, cost, hsets]
  · have hdue := due_le { h with dirty := true }
    simp only [requests, cost] at hdue ⊢
    omega
  · cases hdepends : h.dependsOnRoute with
    | true =>
        have hdue := due_le { h with dirty := true }
        simp only [requests, cost, hdepends, Bool.or_true, if_true] at hdue ⊢
        omega
    | false => simp [requests, due, cost, hdepends]
  · simp only [requests, due, cost, BreakingNews.scroll_feed]
    split_ifs <;> omega
  · have hgets := FeedElement.gets_respond hfeed
    simp only [requests, due, cost, hgets]
    omega
  · have hgets := FeedElement.gets_respond hfeed
    simp only [requests, due, cost, hgets]
    omega
  · obtain ⟨hrequests, hdue⟩ := frame_requests h
    omega

/-- Nothing is dirty, and the page view is as in every run. -/
structure Rested (h : HomePage D) : Prop where
  breakingNews : h.breakingNews.Inv
  nothingDue : h.due = 0

theorem mount_rested : (mount : HomePage D).Rested := ⟨BreakingNews.mount_inv, rfl⟩

theorem Rested.frame {h : HomePage D} (hinv : h.breakingNews.Inv) : h.frame.Rested :=
  ⟨hinv.frame h.dirty, (frame_requests h).2⟩

/-- When nothing is dirty, an event makes due what it costs. -/
theorem Rested.step_due {h h' : HomePage D} {e : HomeEvent} (hrested : h.Rested)
    (hstep : step codec sdk h e = some h') : h'.requests = h.requests ∧ h'.due = h.cost e := by
  obtain ⟨hinv, hdue⟩ := hrested
  have hclean : h.dirty = false ∧ h.breakingNews.dirty = false := by
    unfold due at hdue
    split_ifs at hdue with hdirty hbreaking
    exact ⟨by simpa using hdirty, by simpa using hbreaking⟩
  rcases step_cases hstep with ⟨e', route, rfl, _, rfl⟩ | ⟨rfl, rfl⟩ | ⟨rfl, rfl⟩ | ⟨page, rfl, rfl⟩ |
    ⟨request, response, feed, rfl, hfeed, rfl⟩ | ⟨request, response, feed, rfl, hfeed, rfl⟩ | ⟨rfl, rfl⟩
  · simp [requests, due, cost, hclean.1, hclean.2]
  · simp [requests, due, cost]
  · simp [requests, due, cost, hclean.1, hclean.2]
  · have hlisteners : h.breakingNews.pageView.controller.listeners = 1 := by
      rw [hinv.attached]
      rfl
    simp [requests, due, cost, BreakingNews.scroll_eq hlisteners, hclean.1]
  · simp [requests, due, cost, hclean.1, hclean.2, FeedElement.gets_respond hfeed]
  · simp [requests, due, cost, hclean.1, hclean.2, FeedElement.gets_respond hfeed]
  · obtain ⟨hrequests, hframe⟩ := frame_requests h
    exact ⟨by omega, hframe⟩

/-- Every event gets a frame of its own. -/
def framed (es : List HomeEvent) : List HomeEvent := es.flatMap fun e => [e, .frame]

theorem run_framed {es : List HomeEvent} {h h' : HomePage D} (hrested : h.Rested)
    (hrun : run (step codec sdk) h (framed es) = some h') :
    h'.requests = h.requests + (translated (step codec sdk) (fun h e => [h.cost e]) h (framed es)).sum := by
  induction es generalizing h with
  | nil => cases hrun; rfl
  | cons e es ih =>
      obtain ⟨h₁, hstep, hrun⟩ := Option.bind_eq_some_iff.mp hrun
      obtain ⟨h₂, hframe, hrun⟩ := Option.bind_eq_some_iff.mp hrun
      have hcost : translated (step codec sdk) (fun h e => [h.cost e]) h (framed (e :: es)) =
          h.cost e :: 0 :: translated (step codec sdk) (fun h e => [h.cost e]) h₂ (framed es) := by
        rw [show framed (e :: es) = e :: .frame :: framed es from rfl, translated_cons hstep,
          translated_cons hframe]
        rfl
      cases hframe
      obtain ⟨hrequests, hdue⟩ := hrested.step_due hstep
      have hrest := ih (Rested.frame (step_inv hrested.breakingNews hstep)) hrun
      have hhere := (frame_requests h₁).1
      rw [hcost, List.sum_cons, List.sum_cons]
      omega

/-- After the four requests of the first build, an event that calls `setState` in the search costs at most
two requests, as does one of `MediaQuery`, and, once the search icon was tapped, a change of the route's
status; one of the page view costs at most one. When every event gets a frame of its own it costs all of
them. -/
theorem home_traffic (codec : JsonCodec) (sdk : DateTimeSdk D) :
    (∀ es h, run (step codec sdk) mount es = some h → h.requests ≤ 4 + spent codec sdk es) ∧
      (∀ es h, run (step codec sdk) mount (framed es) = some h →
        h.requests = 4 + spent codec sdk (framed es)) ∧
      ∀ es h, run (step codec sdk) mount es = some h →
        (h.dependsOnRoute = true ↔ .search .tapSearch ∈ es) := by
  refine ⟨fun es h hrun => ?_, fun es h hrun => run_framed mount_rested hrun, fun es h => dependsOnRoute_iff⟩
  have hspent : h.requests + h.due ≤ 4 + spent codec sdk es := by
    refine run_history (P := fun es h => h.requests + h.due ≤ 4 + spent codec sdk es) le_rfl ?_ hrun
    intro es e h h' hrun hspent hstep
    have hcost := step_requests hstep
    simp only [spent] at hspent ⊢
    rw [translated_concat _ hrun, List.sum_append, List.sum_singleton]
    omega
  omega

end NewsApp.Home.HomePage
