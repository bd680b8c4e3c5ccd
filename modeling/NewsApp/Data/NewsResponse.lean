import NewsApp.Dart.Json

/-!
# `lib/data/news_response.dart`

The model classes of the news API and their JSON codec. Every field is nullable. Each `fromJson` begins
with the downcast of its argument, which in the source happens at the call.
-/

namespace NewsApp

variable {D : Type}

structure Source where
  /-- `dynamic`; only JSON values are stored in it. -/
  id : Json
  name : Option String

structure Article (D : Type) where
  source : Option Source
  author : Option String
  title : Option String
  description : Option String
  url : Option String
  urlToImage : Option String
  publishedAt : Option D
  content : Option String

structure News (D : Type) where
  status : Option String
  totalResults : Option Int64
  articles : Option (List (Option (Article D)))

/-! ## Decoding -/

def Source.fromJson (j : Json) : Dart Source := do
  let json ← j.asMap
  let id ← Json.index json "id"
  let name ← (← Json.index json "name").asString
  return { id, name }

def parseDate (sdk : DateTimeSdk D) : Option String → Dart D
  | some s => sdk.parse s
  | none => .error .argumentError

def Article.fromJson (sdk : DateTimeSdk D) (j : Json) : Dart (Article D) := do
  let json ← j.asMap
  let source ← Source.fromJson (← Json.index json "source")
  let author ← (← Json.index json "author").asString
  let title ← (← Json.index json "title").asString
  let description ← (← Json.index json "description").asString
  let url ← (← Json.index json "url").asString
  let urlToImage ← (← Json.index json "urlToImage").asString
  let publishedAt ← parseDate sdk (← (← Json.index json "publishedAt").asString)
  -- `json["content"] == null ? null : json["content"]`: both branches are the downcast.
  let content ← (← Json.index json "content").asString
  return { source := some source, author, title, description, url, urlToImage,
           publishedAt := some publishedAt, content }

def News.fromJson (sdk : DateTimeSdk D) (j : Json) : Dart (News D) := do
  let json ← j.asMap
  let status ← (← Json.index json "status").asString
  let totalResults ← (← Json.index json "totalResults").asInt
  let articles ← (← Json.index json "articles").mapElements (Article.fromJson sdk)
  return { status, totalResults, articles := some (articles.map some) }

def newsFromJson (codec : JsonCodec) (sdk : DateTimeSdk D) (str : String) : Dart (News D) := do
  News.fromJson sdk (← codec.decode str)

/-! ## Encoding -/

def Source.toJson (s : Source) : Json :=
  .map [("id", s.id), ("name", .ofString s.name)]

def Article.toJson (sdk : DateTimeSdk D) (a : Article D) : Dart Json := do
  let source ← deref a.source
  let publishedAt ← deref a.publishedAt
  return .map [
    ("source", source.toJson),
    ("author", .ofString a.author),
    ("title", .ofString a.title),
    ("description", .ofString a.description),
    ("url", .ofString a.url),
    ("urlToImage", .ofString a.urlToImage),
    ("publishedAt", .string (sdk.toIso8601String publishedAt)),
    ("content", .ofString a.content)]

def Article.elementToJson (sdk : DateTimeSdk D) (x : Option (Article D)) : Dart Json := do
  (← deref x).toJson sdk

def News.toJson (sdk : DateTimeSdk D) (n : News D) : Dart Json := do
  let articles ← (← deref n.articles).mapM (Article.elementToJson sdk)
  return .map [
    ("status", .ofString n.status),
    ("totalResults", .ofInt n.totalResults),
    ("articles", .list articles)]

def newsToJson (codec : JsonCodec) (sdk : DateTimeSdk D) (data : News D) : Dart String := do
  codec.encode (← data.toJson sdk)

/-! ## Well-formed values -/

structure Article.Complete (sdk : DateTimeSdk D) (a : Article D) : Prop where
  source : ∃ s, a.source = some s
  publishedAt : ∃ d str, a.publishedAt = some d ∧ sdk.parse str = .ok d

/-- The article list is set, and each of its elements is set and complete. -/
def News.Complete (sdk : DateTimeSdk D) (n : News D) : Prop :=
  ∃ as : List (Article D), n.articles = some (as.map some) ∧ ∀ a ∈ as, a.Complete sdk

/-- The articles of a value, without the null ones. -/
def News.items (n : News D) : List (Article D) := (n.articles.getD []).filterMap id

theorem News.items_of_articles {n : News D} {as : List (Article D)}
    (h : n.articles = some (as.map some)) : n.items = as := by
  simp [News.items, h, List.filterMap_map]

end NewsApp
