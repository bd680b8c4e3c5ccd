import Mathlib.Algebra.Order.Ring.Rat
import NewsApp.Flutter.Widget
import NewsApp.Pages.Feed

/-!
# `lib/pages/breakingNewsScroll.dart`

The stack of the first five articles. Lengths and page positions are exact rationals.
-/

namespace NewsApp

variable {D : Type}

def cardAspectRatio : ℚ := 13 / 10

def widgetAspectRatio : ℚ := cardAspectRatio * (11 / 10)

structure BoxConstraints where
  maxWidth : ℚ
  maxHeight : ℚ

namespace BreakingNewsScroll

def padding : ℚ := 10

def verticalInsets : ℚ := 20

def cardCount : Nat := 5

/-! ## Layout -/

section

variable (c : BoxConstraints)

def safeWidth : ℚ := c.maxWidth - 0 * padding

def safeHeight : ℚ := c.maxHeight - 1 * padding

def heightOfPrimaryCard : ℚ := safeHeight c

def widthOfPrimarycard : ℚ := heightOfPrimaryCard c * cardAspectRatio

def primaryCardLeft : ℚ := safeWidth c - widthOfPrimarycard c

def horizontalInset : ℚ := primaryCardLeft c / 2

end

def delta (currentPage : ℚ) (i : Nat) : ℚ := i - currentPage

def isOnRight (currentPage : ℚ) (i : Nat) : Bool := delta currentPage i > 0

/-- The offset of card `i` from the start edge of the box. -/
def start (c : BoxConstraints) (currentPage : ℚ) (i : Nat) : ℚ :=
  padding + max (primaryCardLeft c - horizontalInset c * -delta currentPage i *
    (if isOnRight currentPage i then 15 else 1)) 0

/-- The offset of card `i` from the top of the box, and from the bottom. -/
def top (currentPage : ℚ) (i : Nat) : ℚ := padding + verticalInsets * max (-delta currentPage i) 0

def bottom (currentPage : ℚ) (i : Nat) : ℚ := padding + verticalInsets * max (-delta currentPage i) 0

/-! ## Cards -/

/-- The builder callback of the `FutureBuilder`. The first branch is for a snapshot without state. -/
def builder : SnapshotBuilder D := fun snapshot =>
  match some snapshot.connectionState with
  | none => .spinner
  | some _ =>
      if snapshot.hasError then .error s!"Hata: {snapshot.hasError}"
      else .content snapshot.data

structure Card where
  top : ℚ
  bottom : ℚ
  start : ℚ
  image : NetworkImage
  title : Text

structure Card.NonNull (card : Card) : Prop where
  image : card.image.NonNull
  title : card.title.NonNull

/-- The body of the loop. -/
def card (asserts : Bool) (c : BoxConstraints) (currentPage : ℚ) (data : Option (News D)) (i : Nat) :
    Dart Card := do
  let item ← itemAt data i
  let image ← NetworkImage.build asserts item.urlToImage
  let title ← Text.build asserts item.title
  return { top := top currentPage i, bottom := bottom currentPage i, start := start c currentPage i,
           image, title }

def cardList (asserts : Bool) (c : BoxConstraints) (currentPage : ℚ) (data : Option (News D)) :
    Dart (List Card) :=
  (List.range cardCount).mapM (card asserts c currentPage data)

/-- Without data the first card raises. -/
theorem cardList_null (asserts : Bool) (c : BoxConstraints) (currentPage : ℚ) :
    cardList asserts c currentPage (none : Option (News D)) = .error .noSuchMethodError := rfl

end BreakingNewsScroll

end NewsApp
