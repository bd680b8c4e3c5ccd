import NewsApp.Flutter.Widget
import NewsApp.Data.NewsResponse

/-!
# `lib/pages/detailed_new.dart`

The page of one article. All its fields are strings that may be null.
-/

namespace NewsApp

variable {D : Type}

structure DetailedNew where
  url : Option String
  content : Option String
  time : Option String
  description : Option String
  source : Option String
  name : Option String

/-- `ReadNew` has the fields of `DetailedNew`, and gets them all from it. -/
structure ReadNew where
  url : Option String
  content : Option String
  time : Option String
  description : Option String
  source : Option String
  name : Option String

structure ReadNewBody where
  content : Text
  time : Text
  description : Text
  name : Text
  link : Text

def ReadNew.build (asserts : Bool) (w : ReadNew) : Dart ReadNewBody := do
  let content ← Text.build asserts w.content
  let time ← Text.build asserts w.time
  let description ← Text.build asserts w.description
  let name ← Text.build asserts w.name
  let link ← Text.build asserts (some "Haberin Kaynagı >>>")
  return { content, time, description, name, link }

/-- The built `DetailedNew`: the image of the app bar, and the child that is built after it. The child stands
in a `Positioned` outside of a `Stack`, which is left out here: with assertions Flutter reports it and goes on;
without them a cast of the parent data fails, and the body with its buttons is not there. -/
def DetailedNew.build (asserts : Bool) (w : DetailedNew) : Dart (NetworkImage × ReadNew) := do
  let image ← NetworkImage.build asserts w.url
  return (image, ⟨w.url, w.content, w.time, w.description, w.source, w.name⟩)

structure DetailedNewBody where
  image : NetworkImage
  body : ReadNewBody

def DetailedNew.show (asserts : Bool) (w : DetailedNew) : Dart DetailedNewBody := do
  let (image, readNew) ← w.build asserts
  let body ← readNew.build asserts
  return { image, body }

structure DetailedNewBody.NonNull (b : DetailedNewBody) : Prop where
  image : b.image.NonNull
  content : b.body.content.NonNull
  time : b.body.time.NonNull
  description : b.body.description.NonNull
  name : b.body.name.NonNull
  link : b.body.link.NonNull

theorem DetailedNew.show_nonNull_iff {asserts : Bool} {w : DetailedNew} :
    (∃ b, w.show asserts = .ok b ∧ b.NonNull) ↔
      w.url ≠ none ∧ w.content ≠ none ∧ w.time ≠ none ∧ w.description ≠ none ∧ w.name ≠ none := by
  obtain ⟨url, content, time, description, source, name⟩ := w
  constructor
  · rintro ⟨b, h, hb⟩
    obtain ⟨⟨image, readNew⟩, hbuild, h⟩ := Lib.bind_ok_iff.mp h
    obtain ⟨image', himage, hbuild⟩ := Lib.bind_ok_iff.mp hbuild
    cases hbuild
    obtain ⟨body, hbody, h⟩ := Lib.bind_ok_iff.mp h
    cases h
    obtain ⟨c, hc, h⟩ := Lib.bind_ok_iff.mp hbody
    obtain ⟨t, ht, h⟩ := Lib.bind_ok_iff.mp h
    obtain ⟨d, hd, h⟩ := Lib.bind_ok_iff.mp h
    obtain ⟨n, hn, h⟩ := Lib.bind_ok_iff.mp h
    obtain ⟨l, hl, h⟩ := Lib.bind_ok_iff.mp h
    cases h
    obtain ⟨h1, h2, h3, h4, h5, _⟩ := hb
    rw [NetworkImage.build_ok himage] at h1
    rw [Text.build_ok hc] at h2
    rw [Text.build_ok ht] at h3
    rw [Text.build_ok hd] at h4
    rw [Text.build_ok hn] at h5
    exact ⟨h1, h2, h3, h4, h5⟩
  · rintro ⟨h1, h2, h3, h4, h5⟩
    obtain ⟨u, rfl⟩ := Option.ne_none_iff_exists'.mp h1
    obtain ⟨c, rfl⟩ := Option.ne_none_iff_exists'.mp h2
    obtain ⟨t, rfl⟩ := Option.ne_none_iff_exists'.mp h3
    obtain ⟨d, rfl⟩ := Option.ne_none_iff_exists'.mp h4
    obtain ⟨n, rfl⟩ := Option.ne_none_iff_exists'.mp h5
    refine ⟨⟨⟨some u⟩, ⟨⟨some c⟩, ⟨some t⟩, ⟨some d⟩, ⟨some n⟩, ⟨some "Haberin Kaynagı >>>"⟩⟩⟩, ?_, ?_⟩
    · simp [DetailedNew.show, DetailedNew.build, ReadNew.build]
    · constructor <;> simp [NetworkImage.NonNull, Text.NonNull]

end NewsApp
