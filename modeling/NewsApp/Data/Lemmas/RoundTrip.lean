import NewsApp.Data.Lemmas.Grammar

/-!
# Decoding undoes encoding

A decoded value is complete, the encoder succeeds on a complete value, and decoding its output gives
the value back. The one assumption is on the date: `DateTime.parse` reads what `toIso8601String` writes
for every date it can return.
-/

namespace NewsApp

open Lib

variable {D : Type} {sdk : DateTimeSdk D}

/-- `DateTime.parse(d.toIso8601String()) = d` for every `d` that `DateTime.parse` can return. -/
def DateTimeSdk.ParsesIso (sdk : DateTimeSdk D) : Prop :=
  ∀ s d, sdk.parse s = .ok d → sdk.parse (sdk.toIso8601String d) = .ok d

/-! ## Decoded values are complete -/

theorem Article.fromJson_complete {j : Json} {a : Article D} (h : Article.fromJson sdk j = .ok a) :
    a.Complete sdk := by
  obtain ⟨_, src, s, d, _, _, _, _, _, _, _, _, hd, _, hsource, hdate⟩ := Article.fromJson_ok_iff.mp h
  refine ⟨⟨src, hsource⟩, d, ?_⟩
  cases s with
  | none => cases hd
  | some str => exact ⟨str, hdate, hd⟩

theorem News.fromJson_complete {j : Json} {n : News D} (h : News.fromJson sdk j = .ok n) :
    n.Complete sdk := by
  obtain ⟨_, xs, as, _, _, _, _, has, hn⟩ := News.fromJson_ok_iff.mp h
  refine ⟨as, hn, fun a ha => ?_⟩
  obtain ⟨x, _, hx⟩ := mapM_ok_mem has ha
  exact Article.fromJson_complete hx

theorem newsFromJson_complete {codec : JsonCodec} {str : String} {n : News D}
    (h : newsFromJson codec sdk str = .ok n) : n.Complete sdk := by
  obtain ⟨j, _, hj⟩ := bind_ok_iff.mp h
  exact News.fromJson_complete hj

/-! ## Round trips -/

theorem Source.fromJson_toJson (s : Source) : Source.fromJson s.toJson = .ok s := by
  rw [Source.fromJson_ok_iff]
  exact ⟨_, rfl, rfl, Json.asString_ofString s.name⟩

theorem Article.inverts (hdate : sdk.ParsesIso) {a : Article D} (h : a.Complete sdk) :
    Inverts (Article.fromJson sdk) (Article.toJson sdk) a := by
  obtain ⟨src, hsrc⟩ := h.source
  obtain ⟨d, str, hd, hstr⟩ := h.publishedAt
  refine ⟨_, by simp only [Article.toJson, hsrc, hd, deref_some, ok_bind, pure_eq_ok]; rfl, ?_⟩
  rw [Article.fromJson_ok_iff]
  exact ⟨_, src, some (sdk.toIso8601String d), d, rfl, Source.fromJson_toJson src,
    Json.asString_ofString _, Json.asString_ofString _, Json.asString_ofString _,
    Json.asString_ofString _, Json.asString_ofString _, rfl, hdate str d hstr,
    Json.asString_ofString _, hsrc, hd⟩

theorem mapM_elementToJson (as : List (Article D)) :
    (as.map some).mapM (Article.elementToJson sdk) = as.mapM (Article.toJson sdk) := by
  rw [List.mapM_map]
  rfl

theorem News.inverts (hdate : sdk.ParsesIso) {n : News D} (h : n.Complete sdk) :
    Inverts (News.fromJson sdk) (News.toJson sdk) n := by
  obtain ⟨as, has, hall⟩ := h
  obtain ⟨xs, henc, hdec⟩ := Inverts.mapM fun a ha => Article.inverts hdate (hall a ha)
  refine ⟨_, by simp only [News.toJson, has, deref_some, ok_bind, mapM_elementToJson, henc, pure_eq_ok]; rfl,
    ?_⟩
  rw [News.fromJson_ok_iff]
  exact ⟨_, xs, as, rfl, Json.asString_ofString _, Json.asInt_ofInt _, rfl, hdec, has⟩

theorem News.inverts_of_fromJson (hdate : sdk.ParsesIso) {j : Json} {n : News D}
    (h : News.fromJson sdk j = .ok n) : Inverts (News.fromJson sdk) (News.toJson sdk) n :=
  News.inverts hdate (News.fromJson_complete h)

/-! ## Strings -/

/-- `json.decode` reads what `json.encode` writes for this tree, if its numbers are finite. -/
def JsonCodec.ReadsBack (codec : JsonCodec) (t : Json) : Prop :=
  t.finiteNumbers = true → Inverts codec.decode codec.encode t

theorem newsFromJson_inverts (hdate : sdk.ParsesIso) {codec : JsonCodec} {n : News D}
    (h : n.Complete sdk) (hfinite : ∀ t, n.toJson sdk = .ok t → t.finiteNumbers = true)
    (hcodec : ∀ t, n.toJson sdk = .ok t → codec.ReadsBack t) :
    Inverts (newsFromJson codec sdk) (newsToJson codec sdk) n :=
  (News.inverts hdate h).comp fun t ht => hcodec t ht (hfinite t ht)

/-! ## A response -/

/-- `DateTime` restricted to one instant, as Dart reads and prints it. -/
def sampleSdk : DateTimeSdk Unit where
  parse s :=
    if s = "2020-11-20T10:00:00Z" ∨ s = "2020-11-20T10:00:00.000Z" then .ok () else .error (.formatException s)
  toIso8601String _ := "2020-11-20T10:00:00.000Z"
  toText _ := "2020-11-20 10:00:00.000Z"

theorem sampleSdk_parsesIso : sampleSdk.ParsesIso := fun _ _ _ => rfl

/-- A response whose first article has no image, and whose second one has. -/
def sampleResponse : String :=
  "\x7b\"articles\":[\x7b\"source\":\x7b\x7d,\"publishedAt\":\"2020-11-20T10:00:00Z\"\x7d," ++
    "\x7b\"source\":\x7b\x7d,\"title\":\"Deprem\",\"urlToImage\":\"deprem.jpg\"," ++
    "\"publishedAt\":\"2020-11-20T10:00:00Z\"\x7d]\x7d"

def sampleResponseTree : Json :=
  .map [("articles", .list [
    .map [("source", .map []), ("publishedAt", .string "2020-11-20T10:00:00Z")],
    .map [("source", .map []), ("title", .string "Deprem"), ("urlToImage", .string "deprem.jpg"),
      ("publishedAt", .string "2020-11-20T10:00:00Z")]])]

def sampleCodec : JsonCodec where
  encode _ := .ok sampleResponse
  decode s := if s = sampleResponse then .ok sampleResponseTree else .error (.formatException s)

def sampleArticle (title urlToImage : Option String) : Article Unit where
  source := some ⟨.null, none⟩
  author := none
  title := title
  description := none
  url := none
  urlToImage := urlToImage
  publishedAt := some ()
  content := none

def sampleFeed : News Unit where
  status := none
  totalResults := none
  articles := some [some (sampleArticle none none), some (sampleArticle (some "Deprem") (some "deprem.jpg"))]

theorem sampleCodec_newsFromJson : newsFromJson sampleCodec sampleSdk sampleResponse = .ok sampleFeed := by
  simp only [newsFromJson, sampleCodec, ↓reduceIte]
  rfl

/-! ## A response that can be shown -/

/-- All the fields that the pages read are set. -/
def fullArticle : Article Unit where
  source := some ⟨.null, some "Ajans"⟩
  author := none
  title := some "Deprem"
  description := some "Merkez"
  url := some "deprem.html"
  urlToImage := some "deprem.jpg"
  publishedAt := some ()
  content := none

/-- Five such articles, and one without an image after them. -/
def fullNews : News Unit where
  status := some "ok"
  totalResults := some 6
  articles := some (List.replicate 5 (some fullArticle) ++ [some (sampleArticle none none)])

def fullArticleText : String :=
  "\x7b\"source\":\x7b\"id\":null,\"name\":\"Ajans\"\x7d,\"author\":null,\"title\":\"Deprem\"," ++
    "\"description\":\"Merkez\",\"url\":\"deprem.html\",\"urlToImage\":\"deprem.jpg\"," ++
    "\"publishedAt\":\"2020-11-20T10:00:00.000Z\",\"content\":null\x7d"

def fullText : String :=
  "\x7b\"status\":\"ok\",\"totalResults\":6,\"articles\":[" ++
    String.join (List.replicate 5 (fullArticleText ++ ",")) ++
    "\x7b\"source\":\x7b\"id\":null,\"name\":null\x7d,\"author\":null,\"title\":null," ++
    "\"description\":null,\"url\":null,\"urlToImage\":null," ++
    "\"publishedAt\":\"2020-11-20T10:00:00.000Z\",\"content\":null\x7d]\x7d"

def fullArticleTree : Json :=
  .map [("source", .map [("id", .null), ("name", .string "Ajans")]), ("author", .null),
    ("title", .string "Deprem"), ("description", .string "Merkez"), ("url", .string "deprem.html"),
    ("urlToImage", .string "deprem.jpg"), ("publishedAt", .string "2020-11-20T10:00:00.000Z"),
    ("content", .null)]

def fullTree : Json :=
  .map [("status", .string "ok"), ("totalResults", .int 6), ("articles", .list
    (List.replicate 5 fullArticleTree ++
      [.map [("source", .map [("id", .null), ("name", .null)]), ("author", .null), ("title", .null),
        ("description", .null), ("url", .null), ("urlToImage", .null),
        ("publishedAt", .string "2020-11-20T10:00:00.000Z"), ("content", .null)]]))]

/-- The JSON codec on this response. -/
def fullCodec : JsonCodec where
  encode _ := .ok fullText
  decode s := if s = fullText then .ok fullTree else .error (.formatException s)

theorem fullCodec_newsFromJson : newsFromJson fullCodec sampleSdk fullText = .ok fullNews := by
  simp only [newsFromJson, fullCodec, ↓reduceIte]
  rfl

theorem fullNews_complete : fullNews.Complete sampleSdk := News.fromJson_complete (j := fullTree) rfl

theorem fullNews_readsBack (t : Json) (ht : fullNews.toJson sampleSdk = .ok t) :
    t.finiteNumbers = true ∧ fullCodec.ReadsBack t := by
  obtain rfl : fullTree = t := Except.ok.inj ht
  exact ⟨rfl, fun _ => ⟨fullText, rfl, by simp only [fullCodec, ↓reduceIte]⟩⟩

end NewsApp
