import NewsApp.Data.NewsResponse

/-!
# The fields that the decoder reads

A record keeps the fields it knows, each with what is known below it. Whatever else the API sends is left
out.
-/

namespace NewsApp

variable {D : Type}

/-! ## Records -/

namespace Json

/-- The known fields, each with its value cut down. -/
def restrict (known : List (String × (Json → Json))) (fields : DartMap) : DartMap :=
  fields.filterMap fun field => (known.lookup field.1).map fun cut => (field.1, cut field.2)

/-- Cuts a record down. A value that is none stays. -/
def onMap (f : DartMap → DartMap) : Json → Json
  | .map fields => .map (f fields)
  | j => j

def onElements (f : Json → Json) : Json → Json
  | .list xs => .list (xs.map f)
  | j => j

theorem lookup_restrict {known : List (String × (Json → Json))} {key : String} {cut : Json → Json}
    (h : known.lookup key = some cut) (fields : DartMap) :
    (restrict known fields).lookup key = (fields.lookup key).map cut := by
  induction fields with
  | nil => rfl
  | cons field fields ih =>
      obtain ⟨k, v⟩ := field
      by_cases hk : key = k
      · subst hk
        simp [restrict, h]
      · have hbeq : (key == k) = false := by simpa using hk
        cases hknown : known.lookup k with
        | none =>
            simpa [restrict, hknown, List.lookup_cons, hbeq] using ih
        | some cut' =>
            simpa [restrict, hknown, List.lookup_cons, hbeq] using ih

theorem field_restrict {known : List (String × (Json → Json))} (key : String) {cut : Json → Json}
    (h : known.lookup key = some cut) (hnull : cut .null = .null) (fields : DartMap) :
    field (restrict known fields) key = cut (field fields key) := by
  rw [field, field, lookup_restrict h]
  cases fields.lookup key with
  | none => exact hnull.symm
  | some v => rfl

theorem mapElements_onElements {α : Type} {f : Json → Dart α} {cut : Json → Json}
    (h : ∀ x, f (cut x) = f x) (j : Json) : (onElements cut j).mapElements f = j.mapElements f := by
  cases j with
  | list xs =>
      simp only [onElements, mapElements, List.mapM_map]
      exact congrArg (fun g => xs.mapM g) (funext h)
  | _ => rfl

/-! ## The records of the API -/

def pruneSource : Json → Json := onMap (restrict [("id", id), ("name", id)])

def pruneArticle : Json → Json :=
  onMap (restrict [("source", pruneSource), ("author", id), ("title", id), ("description", id), ("url", id),
    ("urlToImage", id), ("publishedAt", id), ("content", id)])

def pruneNews : Json → Json :=
  onMap (restrict [("status", id), ("totalResults", id), ("articles", onElements pruneArticle)])

end Json

open Json

theorem Source.fromJson_prune (j : Json) : Source.fromJson (pruneSource j) = Source.fromJson j := by
  cases j with
  | map fields =>
      simp only [pruneSource, onMap, Source.fromJson, asMap, Lib.ok_bind, index_some]
      rw [field_restrict "id" rfl rfl, field_restrict "name" rfl rfl]
      rfl
  | _ => rfl

theorem Article.fromJson_prune (sdk : DateTimeSdk D) (j : Json) :
    Article.fromJson sdk (pruneArticle j) = Article.fromJson sdk j := by
  cases j with
  | map fields =>
      simp only [pruneArticle, onMap, Article.fromJson, asMap, Lib.ok_bind, index_some]
      rw [field_restrict "source" rfl rfl, field_restrict "author" rfl rfl, field_restrict "title" rfl rfl,
        field_restrict "description" rfl rfl, field_restrict "url" rfl rfl,
        field_restrict "urlToImage" rfl rfl, field_restrict "publishedAt" rfl rfl,
        field_restrict "content" rfl rfl, Source.fromJson_prune]
      rfl
  | _ => rfl

end NewsApp
