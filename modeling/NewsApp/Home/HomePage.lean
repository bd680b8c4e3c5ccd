import NewsApp.Flutter.PageView
import NewsApp.Home.Search
import NewsApp.Pages.BreakingNewsScroll
import NewsApp.Pages.WholeNews

/-!
# The widgets of `lib/pages/home_page.dart`

The home page with its search, the page view over the card stack, and the two feeds. `setState` marks a
State dirty, and the next frame rebuilds the dirty ones with everything below them: `_HomePageState` is
above both feeds, `_BreakingNewsState` above the card stack, and each feed above its `FutureBuilder`.
-/

namespace NewsApp.Home

open Flutter

variable {D : Type}

/-! ## Feeds in frames -/

/-- A feed on the page, with whether its `FutureBuilder` is dirty. -/
structure FeedElement (D : Type) extends Feed D where
  dirty : Bool

namespace FeedElement

variable (builder : SnapshotBuilder D)

def mount : FeedElement D := ⟨.mount builder, false⟩

/-- An answer does not call the builder callback before the next frame. -/
def respond (codec : JsonCodec) (sdk : DateTimeSdk D) (f : FeedElement D) (request : Nat)
    (response : Dart String) : Option (FeedElement D) :=
  if request ∈ f.pending then
    let (feed, heard) := f.toFeed.hear codec sdk request response
    some ⟨feed, f.dirty || heard⟩
  else none

/-- When the feed is rebuilt, its `FutureBuilder` gets the new future before its turn comes, and the builder
callback is called once. -/
def frame (rebuilds : Bool) (f : FeedElement D) : FeedElement D :=
  if rebuilds then ⟨f.toFeed.rebuild builder, false⟩
  else if f.dirty then ⟨f.toFeed.callBuilder builder, false⟩
  else f

end FeedElement

/-! ## `BreakingNews` -/

/-- `_BreakingNewsState` with its `PageView` and the feed of its `BreakingNewsScroll`. -/
structure BreakingNews (D : Type) where
  currentPage : ℚ
  pageView : PageView
  dirty : Bool
  /-- The page that the last build passed to `BreakingNewsScroll`. -/
  cardsPage : ℚ
  feed : FeedElement D

namespace BreakingNews

/-- The controller that a build creates, with the listener that the build adds. -/
def newController : PageController := PageController.addListener ⟨5 - 1, 0⟩

def mount : BreakingNews D where
  currentPage := 5 - 1
  pageView := .initState newController
  dirty := false
  cardsPage := 5 - 1
  feed := .mount BreakingNewsScroll.builder

def rebuild (b : BreakingNews D) : BreakingNews D where
  currentPage := b.currentPage
  pageView := b.pageView.didUpdateWidget newController
  dirty := false
  cardsPage := b.currentPage
  feed := b.feed.frame BreakingNewsScroll.builder true

/-- A frame, in which the `News` above is rebuilt or not. -/
def frame (rebuilds : Bool) (b : BreakingNews D) : BreakingNews D :=
  if rebuilds || b.dirty then b.rebuild else { b with feed := b.feed.frame BreakingNewsScroll.builder false }

/-- The callback of `addListener`. -/
def listener (b : BreakingNews D) : BreakingNews D :=
  { b with currentPage := b.pageView.page, dirty := true }

/-- The position of the `PageView` changes, and notifies the listeners of the attached controller. -/
def scroll (b : BreakingNews D) (page : ℚ) : BreakingNews D :=
  listener^[b.pageView.controller.listeners] { b with pageView := b.pageView.scrollTo page }

end BreakingNews

/-! ## `HomePage` -/

/-- The mounted home page. It is dirty when `_HomePageState` or the `News` below it is, and depends on its
route once `startSearch` has asked for it with `ModalRoute.of`. -/
structure HomePage (D : Type) where
  route : Route
  dependsOnRoute : Bool
  dirty : Bool
  breakingNews : BreakingNews D
  wholeNews : FeedElement D

inductive HomeEvent
  | search (e : SearchEvent)
  /-- `MediaQuery`, on which `News` depends, changes. -/
  | mediaQuery
  /-- `isCurrent` or `canPop` of the route changes: the drawer adds its local history entry or removes it, or a
  page comes above or goes. -/
  | routeStatus
  | scroll (page : ℚ)
  | breakingNews (request : Nat) (response : Dart String)
  | wholeNews (request : Nat) (response : Dart String)
  | frame

/-- The handler of the event calls `setState`. Back does in `stopSearching` only. -/
def SearchEvent.setsState (r : Route) : SearchEvent → Bool
  | .back => !r.localHistory.isEmpty
  | _ => true

def SearchEvent.asksRoute : SearchEvent → Bool
  | .tapSearch => true
  | _ => false

namespace HomePage

def mount : HomePage D where
  route := .init
  dependsOnRoute := false
  dirty := false
  breakingNews := .mount
  wholeNews := .mount WholeNews.builder

def frame (h : HomePage D) : HomePage D :=
  { h with
    dirty := false
    breakingNews := h.breakingNews.frame h.dirty
    wholeNews := h.wholeNews.frame WholeNews.builder h.dirty }

def step (codec : JsonCodec) (sdk : DateTimeSdk D) (h : HomePage D) : HomeEvent → Option (HomePage D)
  | .search e =>
      (h.route.step e).map fun route =>
        { h with
          route
          dependsOnRoute := h.dependsOnRoute || e.asksRoute
          dirty := h.dirty || e.setsState h.route }
  | .mediaQuery => some { h with dirty := true }
  | .routeStatus => some { h with dirty := h.dirty || h.dependsOnRoute }
  | .scroll page => some { h with breakingNews := h.breakingNews.scroll page }
  | .breakingNews request response =>
      (h.breakingNews.feed.respond codec sdk request response).map fun feed =>
        { h with breakingNews := { h.breakingNews with feed } }
  | .wholeNews request response =>
      (h.wholeNews.respond codec sdk request response).map fun wholeNews => { h with wholeNews }
  | .frame => some h.frame

/-! ## What the feeds show -/

/-- The rows of the list, when there is one. -/
def shownRows (asserts : Bool) (sdk : DateTimeSdk D) (h : HomePage D) : List (Dart (WholeNewsRow D)) :=
  match h.wholeNews.views.head? with
  | some (.content data) => WholeNews.rows asserts sdk data
  | _ => []

/-- The cards of the stack, laid out for the page that the last build passed on. -/
def shownCards (asserts : Bool) (c : BoxConstraints) (h : HomePage D) :
    Dart (List BreakingNewsScroll.Card) :=
  match h.breakingNews.feed.views.head? with
  | some (.content data) => BreakingNewsScroll.cardList asserts c h.breakingNews.cardsPage data
  | _ => .ok []

end HomePage

end NewsApp.Home
