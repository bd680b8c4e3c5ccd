import NewsApp.Lib.Run
import NewsApp.Flutter.FutureBuilder
import NewsApp.Data.NewsResponse

/-!
# The state of a feed

`WholeNews` and `BreakingNewsScroll` load and show the response in the same way: `getData` is called in
`initState` and again in every `build`, as the future of a `FutureBuilder`. They differ in the builder
callback, which is a parameter here.
-/

namespace NewsApp

open Lib

variable {D : Type}

/-- What a feed shows. The content is built from the snapshot's data. -/
inductive View (D : Type)
  | spinner
  | error (text : String)
  | content (data : Option (News D))

namespace View

def ShowsNews (v : View D) : Prop := ∃ n, v = .content (some n)

def IsFallback (v : View D) : Prop := v = .spinner ∨ ∃ text, v = .error text

end View

abbrev SnapshotBuilder (D : Type) := AsyncSnapshot (News D) → View D

/-- The GETs of a feed: the number of those issued so far, which also numbers their futures, and those that
have not been answered. -/
structure Http where
  gets : Nat
  pending : List Nat

/-- `getData` up to its first `await`: a GET is issued, and the future is returned. -/
def Http.getData (h : Http) : Nat × Http := (h.gets, ⟨h.gets + 1, h.pending ++ [h.gets]⟩)

/-- The mounted `State` of a feed: its GETs, the `FutureBuilder`, and what was shown so far, the latest
first. -/
structure Feed (D : Type) extends Http where
  futureBuilder : FutureBuilder (News D)
  views : List (View D)

inductive FeedEvent
  | rebuild
  /-- A request is answered with a body, or fails. -/
  | respond (request : Nat) (response : Dart String)

namespace Feed

variable (codec : JsonCodec) (sdk : DateTimeSdk D) (builder : SnapshotBuilder D)

/-- `getData` after the answer: the body is decoded. -/
def decodeResponse (response : Dart String) : Dart (News D) := do
  newsFromJson codec sdk (← response)

/-- The future of this `getData` is dropped. -/
def initState : Http := (Http.getData ⟨0, []⟩).2

/-- `initState` and the first `build`. -/
def mount : Feed D :=
  let (future, http) := initState.getData
  let futureBuilder := FutureBuilder.initState future
  { http with futureBuilder, views := [builder futureBuilder.snapshot] }

/-- `build` after the first one: a new request, whose future replaces the old one. -/
def rebuild (f : Feed D) : Feed D :=
  let (future, http) := f.toHttp.getData
  let futureBuilder := f.futureBuilder.didUpdateWidget future
  { http with futureBuilder, views := builder futureBuilder.snapshot :: f.views }

theorem mount_eq : (mount builder : Feed D) =
    { gets := 2
      pending := [0, 1]
      futureBuilder := .initState 1
      views := [builder ⟨.waiting, none, none⟩] } := rfl

@[simp] theorem gets_rebuild (f : Feed D) : (f.rebuild builder).gets = f.gets + 1 := rfl

/-- The answer of a pending request. The `FutureBuilder` hears it when the request's future is the one that
it is subscribed to, and is dirty then. -/
def hear (f : Feed D) (request : Nat) (response : Dart String) : Feed D × Bool :=
  let pending := f.pending.erase request
  match f.futureBuilder.complete request (decodeResponse codec sdk response) with
  | some futureBuilder => ({ f with pending, futureBuilder }, true)
  | none => ({ f with pending }, false)

def callBuilder (f : Feed D) : Feed D := { f with views := builder f.futureBuilder.snapshot :: f.views }

/-- An answer, with a frame of its own. -/
def respond (f : Feed D) (request : Nat) (response : Dart String) : Feed D :=
  let (f', dirty) := f.hear codec sdk request response
  if dirty then f'.callBuilder builder else f'

def step (f : Feed D) : FeedEvent → Option (Feed D)
  | .rebuild => some (f.rebuild builder)
  | .respond request response =>
      if request ∈ f.pending then some (f.respond codec sdk builder request response) else none

/-- Once a response has been shown, neither the spinner nor the error text is shown later. -/
def NoFallback (f : Feed D) : Prop :=
  f.views.reverse.Pairwise fun earlier later => earlier.ShowsNews → ¬ later.IsFallback

def Transparent (f : Feed D) : Prop := f.gets ≤ 1 ∧ f.NoFallback

end Feed

/-- `snapshot.data.articles[index]`, and the first use of a member of the article. -/
def itemAt (data : Option (News D)) (index : Nat) : Dart (Article D) := do
  let response ← deref (← deref data).articles
  deref (← elementAt response index)

theorem itemAt_ok {n : News D} {as : List (Article D)} (h : n.articles = some (as.map some)) (index : Nat) :
    itemAt (some n) index = elementAt as index := by
  rcases Nat.lt_or_ge index as.length with hlt | hle
  · have hlt' : index < (as.map some).length := by simpa using hlt
    simp [itemAt, h, elementAt_of_lt hlt, elementAt_of_lt hlt']
  · have hle' : (as.map some).length ≤ index := by simpa using hle
    simp [itemAt, h, elementAt_of_le hle, elementAt_of_le hle']

end NewsApp
