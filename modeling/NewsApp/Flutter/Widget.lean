import NewsApp.Dart.Basic

/-!
# The widgets that need a non-null string

`Text` and `Image.network` assert that their string is not null. Without assertions the widget is built
with null in it. What a page passes to them is therefore read off the widgets it builds.
-/

namespace NewsApp

structure Text where
  data : Option String
  deriving DecidableEq, Repr

structure NetworkImage where
  url : Option String
  deriving DecidableEq, Repr

namespace Text

def build (asserts : Bool) (data : Option String) : Dart Text := do
  assert asserts data.isSome
  return ⟨data⟩

def NonNull (t : Text) : Prop := t.data ≠ none

@[simp] theorem build_some (asserts : Bool) (s : String) : build asserts (some s) = .ok ⟨some s⟩ := by
  simp [build, assert]

theorem build_none (asserts : Bool) :
    build asserts none = if asserts then .error .assertionError else .ok ⟨none⟩ := by
  cases asserts <;> rfl

theorem build_ok {asserts : Bool} {data : Option String} {t : Text} (h : build asserts data = .ok t) :
    t = ⟨data⟩ := by
  cases data with
  | some s => rw [build_some] at h; cases h; rfl
  | none => cases asserts <;> cases h; rfl

end Text

namespace NetworkImage

def build (asserts : Bool) (url : Option String) : Dart NetworkImage := do
  assert asserts url.isSome
  return ⟨url⟩

def NonNull (i : NetworkImage) : Prop := i.url ≠ none

@[simp] theorem build_some (asserts : Bool) (s : String) :
    build asserts (some s) = .ok ⟨some s⟩ := by
  simp [build, assert]

theorem build_ok {asserts : Bool} {url : Option String} {i : NetworkImage}
    (h : build asserts url = .ok i) : i = ⟨url⟩ := by
  cases url with
  | some s => rw [build_some] at h; cases h; rfl
  | none => cases asserts <;> cases h; rfl

end NetworkImage

end NewsApp
