import NewsApp.Lib.Run

/-!
# The search of `lib/pages/home_page.dart`

The state of `_HomePageState` and the local history of its route. A local history entry is its callback
`onRemove`. The text of the search field is that of the controller `searchQuery`, which `initState` sets.
-/

namespace NewsApp.Home

/-- The fields of `_HomePageState`, with the text of its controller. -/
structure Search where
  text : String
  query : Option String
  isSearching : Bool

namespace Search

def initState : Search := ⟨"", none, false⟩

def updateSearchQuery (newQuery : String) (s : Search) : Search := { s with query := some newQuery }

/-- `TextEditingController.clear` does not call `onChanged`. -/
def clearSearchQuery (s : Search) : Search := updateSearchQuery "Search query" { s with text := "" }

def stopSearching (s : Search) : Search := { clearSearchQuery s with isSearching := true }

def onClear (s : Search) : Search :=
  clearSearchQuery (if s.text.isEmpty then { s with isSearching := !s.isSearching } else s)

end Search

/-- The route of the home page: its state, the callbacks of its local history with the last entry first,
and whether Back has left it. -/
structure Route where
  search : Search
  localHistory : List (Search → Search)
  left : Bool

inductive SearchEvent
  | tapSearch
  | type (text : String)
  | tapClear
  | back

namespace Route

def init : Route := ⟨Search.initState, [], false⟩

def startSearch (r : Route) : Route :=
  { r with
    localHistory := Search.stopSearching :: r.localHistory
    search := { r.search with isSearching := true } }

def pop (r : Route) : Route :=
  match r.localHistory with
  | [] => { r with left := true }
  | onRemove :: rest => { r with localHistory := rest, search := onRemove r.search }

/-- The search icon is shown outside search mode, the search field and the clear button in it. -/
def step (r : Route) : SearchEvent → Option Route
  | .tapSearch => if !r.left && !r.search.isSearching then some r.startSearch else none
  | .type text =>
      if !r.left && r.search.isSearching then
        some { r with search := ({ r.search with text } : Search).updateSearchQuery text }
      else none
  | .tapClear => if !r.left && r.search.isSearching then some { r with search := r.search.onClear } else none
  | .back => if !r.left then some r.pop else none

/-! ## Consistency -/

/-- Search mode is on exactly with one entry on the local history, and the query is null or the text. -/
structure Consistent (r : Route) : Prop where
  mode : r.search.isSearching = true ↔ r.localHistory.length = 1
  query : r.search.query = none ∨ r.search.query = some r.search.text

structure BackWorks (r r' : Route) : Prop where
  leaves : r.search.isSearching = true → r'.search.isSearching = false
  notSwallowed : r.search.isSearching = false → r.localHistory = []

def StepConsistent (r : Route) (e : SearchEvent) (r' : Route) : Prop :=
  r'.Consistent ∧ (e = .back → r.BackWorks r')

/-- The clear button is not tapped, and Back is not pressed with an entry on the local history. -/
def SearchOnly (r : Route) (e : SearchEvent) : Prop :=
  e ≠ .tapClear ∧ (e = .back → r.localHistory = [])

end Route

end NewsApp.Home
