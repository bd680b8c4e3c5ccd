import NewsApp.Data.NewsResponse

/-!
# What the codec raises
-/

namespace NewsApp

open Lib

variable {D : Type}

/-- The errors of a downcast, of a member of null, of a date that is null, and of the date parser. -/
def DecodeError (sdk : DateTimeSdk D) (e : DartError) : Prop :=
  e = .typeError ∨ e = .noSuchMethodError ∨ e = .argumentError ∨ ∃ s, sdk.parse s = .error e

variable {sdk : DateTimeSdk D}

/-! ## Decoding -/

namespace Json

theorem asMap_raises (j : Json) : Raises (DecodeError sdk) j.asMap := by
  cases j <;> simp [Raises, asMap, DecodeError]

theorem asString_raises (j : Json) : Raises (DecodeError sdk) j.asString := by
  cases j <;> simp [Raises, asString, DecodeError]

theorem asInt_raises (j : Json) : Raises (DecodeError sdk) j.asInt := by
  cases j <;> simp [Raises, asInt, DecodeError]

theorem index_raises (json : Option DartMap) (key : String) : Raises (DecodeError sdk) (index json key) := by
  cases json <;> simp [Raises, DecodeError]

theorem mapElements_raises {α : Type} {f : Json → Dart α} (hf : ∀ x, Raises (DecodeError sdk) (f x))
    (j : Json) : Raises (DecodeError sdk) (j.mapElements f) := by
  cases j with
  | list xs => exact Raises.mapM hf xs
  | _ => simp [Raises, mapElements, DecodeError]

/-- The code of a nullable text field. -/
theorem text_raises (json : Option DartMap) (key : String) {α : Type} {f : Option String → Dart α}
    (hf : ∀ s, Raises (DecodeError sdk) (f s)) :
    Raises (DecodeError sdk) (do let s ← (← index json key).asString; f s) := by
  refine (index_raises json key).bind fun j => ?_
  exact (asString_raises j).bind hf

end Json

open Json

theorem parseDate_raises (s : Option String) : Raises (DecodeError sdk) (parseDate sdk s) := by
  cases s with
  | none => exact Raises.error (Or.inr (Or.inr (Or.inl rfl)))
  | some s => exact fun e he => Or.inr (Or.inr (Or.inr ⟨s, he⟩))

theorem Source.fromJson_raises (j : Json) : Raises (DecodeError sdk) (Source.fromJson j) := by
  refine (asMap_raises j).bind fun json => ?_
  refine (index_raises json "id").bind fun id => ?_
  exact text_raises json "name" fun name => Raises.ok _

theorem Article.fromJson_raises (sdk : DateTimeSdk D) (j : Json) :
    Raises (DecodeError sdk) (Article.fromJson sdk j) := by
  refine (asMap_raises j).bind fun json => ?_
  refine (index_raises json "source").bind fun source => ?_
  refine (Source.fromJson_raises source).bind fun source => ?_
  refine text_raises json "author" fun author => ?_
  refine text_raises json "title" fun title => ?_
  refine text_raises json "description" fun description => ?_
  refine text_raises json "url" fun url => ?_
  refine text_raises json "urlToImage" fun urlToImage => ?_
  refine text_raises json "publishedAt" fun publishedAt => ?_
  refine (parseDate_raises publishedAt).bind fun publishedAt => ?_
  exact text_raises json "content" fun content => Raises.ok _

theorem News.fromJson_raises (sdk : DateTimeSdk D) (j : Json) :
    Raises (DecodeError sdk) (News.fromJson sdk j) := by
  refine (asMap_raises j).bind fun json => ?_
  refine text_raises json "status" fun status => ?_
  refine (index_raises json "totalResults").bind fun totalResults => ?_
  refine (asInt_raises totalResults).bind fun totalResults => ?_
  refine (index_raises json "articles").bind fun articles => ?_
  exact (mapElements_raises (Article.fromJson_raises sdk) articles).bind fun articles => Raises.ok _

/-! ## Encoding -/

theorem deref_raises {α : Type} (x : Option α) : Raises (· = .noSuchMethodError) (deref x) := by
  cases x <;> simp [Raises]

theorem Article.elementToJson_raises (sdk : DateTimeSdk D) (x : Option (Article D)) :
    Raises (· = .noSuchMethodError) (Article.elementToJson sdk x) := by
  refine (deref_raises x).bind fun a => ?_
  refine (deref_raises a.source).bind fun source => ?_
  exact (deref_raises a.publishedAt).bind fun publishedAt => Raises.ok _

theorem News.toJson_raises (sdk : DateTimeSdk D) (n : News D) :
    Raises (· = .noSuchMethodError) (n.toJson sdk) := by
  refine (deref_raises n.articles).bind fun articles => ?_
  exact (Raises.mapM (Article.elementToJson_raises sdk) articles).bind fun articles => Raises.ok _

end NewsApp
