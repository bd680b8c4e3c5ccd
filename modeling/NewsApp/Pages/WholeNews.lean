import NewsApp.Flutter.ListView
import NewsApp.Pages.DetailedNew
import NewsApp.Pages.Feed

/-!
# `lib/pages/wholeNews.dart`

The list of all articles. A row is built per index, and none for an article without an image.
-/

namespace NewsApp

open Flutter

variable {D : Type}

structure WholeNewsRow (D : Type) where
  item : Article D
  image : NetworkImage
  title : Text
  time : Text

structure WholeNewsRow.NonNull (r : WholeNewsRow D) : Prop where
  image : r.image.NonNull
  title : r.title.NonNull
  time : r.time.NonNull

namespace WholeNews

/-- "just a max length" -/
def itemCount : Nat := 19

/-- `item.publishedAt.toString().substring(0,16)`; `null.toString()` is the text "null". -/
def timeText (sdk : DateTimeSdk D) (item : Article D) : Dart String :=
  substring ((item.publishedAt.map sdk.toText).getD "null") 0 16

def builder : SnapshotBuilder D := fun snapshot =>
  match snapshot.connectionState with
  | .waiting => .spinner
  | _ =>
      if snapshot.hasError then .error s!"Hata: {snapshot.hasError}"
      else .content snapshot.data

def row (asserts : Bool) (sdk : DateTimeSdk D) (item : Article D) : Dart (WholeNewsRow D) := do
  let image ← NetworkImage.build asserts item.urlToImage
  let title ← Text.build asserts item.title
  let time ← Text.build asserts (some (← timeText sdk item))
  return { item, image, title, time }

/-- The callback of `ListView.builder`. -/
def itemBuilder (asserts : Bool) (sdk : DateTimeSdk D) (data : Option (News D)) (index : Nat) :
    Dart (Option (WholeNewsRow D)) := do
  let item ← itemAt data index
  if item.urlToImage.isSome then
    some <$> row asserts sdk item
  else
    return none

/-- The children of the list, as far as it can be scrolled. -/
def rows (asserts : Bool) (sdk : DateTimeSdk D) (data : Option (News D)) :
    List (Dart (WholeNewsRow D)) :=
  listView itemCount (itemBuilder asserts sdk data)

/-- The builder of the route that `onTap` pushes. -/
def pageBuilder (sdk : DateTimeSdk D) (item : Article D) : Dart DetailedNew := do
  let time ← timeText sdk item
  let source ← deref item.source
  return {
    url := item.urlToImage
    content := item.title
    description := item.description
    time := some time
    name := source.name
    source := some (item.url.getD "null") }

def openRow (asserts : Bool) (sdk : DateTimeSdk D) (item : Article D) : Dart DetailedNewBody := do
  (← pageBuilder sdk item).show asserts

end WholeNews

end NewsApp
