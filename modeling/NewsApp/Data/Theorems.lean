import NewsApp.Data.Lemmas.Errors
import NewsApp.Data.Lemmas.KnownKeys
import NewsApp.Data.Lemmas.RoundTrip

/-!
# The news codec

What the decoder accepts, and that encoding a decoded response loses nothing.
-/

namespace NewsApp

open Lib

variable {D : Type}

/-! ## Acceptance -/

/-- The decoder accepts exactly its grammar, raises in every other case, and decodes the article list
element by element. -/
theorem News.fromJson_accepts_grammar (sdk : DateTimeSdk D) (j : Json) :
    ((∃ n, News.fromJson sdk j = .ok n) ↔ IsObject (NewsGrammar sdk) j) ∧
    (¬ IsObject (NewsGrammar sdk) j → ∃ e, News.fromJson sdk j = .error e) ∧
    (∀ n, News.fromJson sdk j = .ok n → ∃ fields xs, ∃ as : List (Article D), j = .map fields ∧
      fields.lookup "articles" = some (.list xs) ∧ n.articles = some (as.map some) ∧
      as.length = xs.length ∧
      ∀ (k : Nat) (hx : k < xs.length) (ha : k < as.length), Article.fromJson sdk xs[k] = .ok as[k]) := by
  refine ⟨News.fromJson_accepts_iff, fun h => ?_, fun n hn => ?_⟩
  · rw [← News.fromJson_accepts_iff] at h
    exact not_ok_iff.mp h
  · obtain ⟨fields, xs, as, hj, _, _, hxs, has, harticles⟩ := News.fromJson_ok_iff.mp hn
    exact ⟨fields, xs, as, hj, hxs, harticles, mapM_ok_length has, fun k => mapM_ok_getElem has k⟩

/-- An error object of the API has no article list. -/
example : News.fromJson sampleSdk (.map [("status", .string "error"), ("code", .string "rateLimited")]) =
    .error .noSuchMethodError := rfl

/-- The fields that the decoder does not name have no part in what it returns or raises, in a response, in
its articles and in their sources: it can be given what is left without them. -/
theorem News.fromJson_unknown_fields (sdk : DateTimeSdk D) (j : Json) :
    News.fromJson sdk j.pruneNews = News.fromJson sdk j := by
  cases j with
  | map fields =>
      simp only [Json.pruneNews, Json.onMap, News.fromJson, Json.asMap, ok_bind, Json.index_some]
      rw [Json.field_restrict "status" rfl rfl, Json.field_restrict "totalResults" rfl rfl,
        Json.field_restrict "articles" rfl rfl, Json.mapElements_onElements (Article.fromJson_prune sdk)]
      rfl
  | _ => rfl

/-- The decoder raises only the errors of downcasts, of members of null and of dates. One article that it
does not accept loses the whole response, which then raises what its first such article raises. -/
theorem News.fromJson_errors (sdk : DateTimeSdk D) :
    (∀ j e, News.fromJson sdk j = .error e → DecodeError sdk e) ∧
    ∀ fields xs e, OptionalField fields "status" Json.IsString →
      OptionalField fields "totalResults" Json.IsInt → fields.lookup "articles" = some (.list xs) →
      (News.fromJson sdk (.map fields) = .error e ↔
        ∃ pre x post, xs = pre ++ x :: post ∧ (∀ y ∈ pre, IsObject (ArticleGrammar sdk) y) ∧
          Article.fromJson sdk x = .error e) := by
  refine ⟨News.fromJson_raises sdk, fun fields xs e hstatus htotal hxs => ?_⟩
  obtain ⟨status, hstatus⟩ := field_asString_accepts_iff.mpr hstatus
  obtain ⟨totalResults, htotal⟩ := field_asInt_accepts_iff.mpr htotal
  have harticles : Json.field fields "articles" = .list xs := by simp [Json.field, hxs]
  have herror : News.fromJson sdk (.map fields) = .error e ↔
      xs.mapM (Article.fromJson sdk) = .error e := by
    simp only [News.fromJson, Json.asMap, ok_bind, Json.index_some, hstatus, htotal, harticles,
      Json.mapElements]
    cases xs.mapM (Article.fromJson sdk) <;> simp
  rw [herror, mapM_error_iff]
  simp only [Article.fromJson_accepts_iff]

/-! ## Encoding -/

/-- The encoder writes exactly the values whose articles are all there, with their sources and dates, and
raises at a member of null for every other value. -/
theorem News.toJson_writes_iff (sdk : DateTimeSdk D) (n : News D) :
    ((∃ t, n.toJson sdk = .ok t) ↔ ∃ as, n.articles = some as ∧
      ∀ x ∈ as, ∃ a s d, x = some a ∧ a.source = some s ∧ a.publishedAt = some d) ∧
    ((¬ ∃ t, n.toJson sdk = .ok t) → n.toJson sdk = .error .noSuchMethodError) := by
  constructor
  · have helement (x : Option (Article D)) : (∃ t, Article.elementToJson sdk x = .ok t) ↔
        ∃ a s d, x = some a ∧ a.source = some s ∧ a.publishedAt = some d := by
      cases x with
      | none => simp [Article.elementToJson]
      | some a =>
          rcases a with ⟨_ | s, _, _, _, _, _, _ | d, _⟩ <;>
            simp [Article.elementToJson, Article.toJson]
    cases harticles : n.articles with
    | none => simp [News.toJson, harticles]
    | some as =>
        have hlist : (∃ t, n.toJson sdk = .ok t) ↔ ∃ ts, as.mapM (Article.elementToJson sdk) = .ok ts := by
          simp only [News.toJson, harticles, deref_some, ok_bind]
          cases as.mapM (Article.elementToJson sdk) <;> simp
        rw [hlist, mapM_accepts_iff]
        simp only [helement, Option.some.injEq, exists_eq_left']
  · intro h
    obtain ⟨e, he⟩ := not_ok_iff.mp h
    rw [he, News.toJson_raises sdk n e he]

/-! ## Round trip -/

/-- Encoding a decoded value succeeds and decoding gives the value back; so decoding and encoding again
is an idempotent normal form. The same holds of every complete value, and of strings wherever the JSON
codec reads back the tree it writes. -/
theorem News.codec_roundtrip {sdk : DateTimeSdk D} (hdate : sdk.ParsesIso) :
    (∀ j n, News.fromJson sdk j = .ok n →
      ∃ t, n.toJson sdk = .ok t ∧ News.fromJson sdk t = .ok n) ∧
    (∀ j t, normalize (News.fromJson sdk) (News.toJson sdk) j = .ok t →
      normalize (News.fromJson sdk) (News.toJson sdk) t = .ok t) ∧
    (∀ n, n.Complete sdk → ∃ t, n.toJson sdk = .ok t ∧ News.fromJson sdk t = .ok n) ∧
    (∀ (codec : JsonCodec) n, n.Complete sdk →
      (∀ t, n.toJson sdk = .ok t → t.finiteNumbers = true ∧ codec.ReadsBack t) →
      ∃ str, newsToJson codec sdk n = .ok str ∧ newsFromJson codec sdk str = .ok n) := by
  refine ⟨fun j n h => News.inverts_of_fromJson hdate h, fun j t h => ?_,
    fun n h => News.inverts hdate h, fun codec n h hcodec => ?_⟩
  · exact normalize_idempotent (fun _ _ h => News.inverts_of_fromJson hdate h) h
  · exact newsFromJson_inverts hdate h (fun t ht => (hcodec t ht).1) fun t ht => (hcodec t ht).2

theorem News.codec_roundtrip_sample :
    ∃ t, sampleFeed.toJson sampleSdk = .ok t ∧ News.fromJson sampleSdk t = .ok sampleFeed :=
  (News.codec_roundtrip sampleSdk_parsesIso).1 sampleResponseTree sampleFeed rfl

end NewsApp
