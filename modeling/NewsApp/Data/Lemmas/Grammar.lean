import NewsApp.Data.NewsResponse

/-!
# The grammar that the decoder accepts

The grammar is stated on the tree, without the decoder's downcasts and calls. For each class a lemma
reads a successful decoding field by field, and another one gives acceptance.
-/

namespace NewsApp

open Lib

variable {D : Type} {sdk : DateTimeSdk D}

/-! ## The grammar -/

/-- The key is absent, or its value has the property. -/
def OptionalField (fields : DartMap) (key : String) (P : Json → Prop) : Prop :=
  ∀ v, fields.lookup key = some v → P v

def IsObject (P : DartMap → Prop) (j : Json) : Prop := ∃ fields, j = .map fields ∧ P fields

def SourceGrammar (fields : DartMap) : Prop := OptionalField fields "name" Json.IsString

structure ArticleGrammar (sdk : DateTimeSdk D) (fields : DartMap) : Prop where
  source : ∃ v, fields.lookup "source" = some v ∧ IsObject SourceGrammar v
  author : OptionalField fields "author" Json.IsString
  title : OptionalField fields "title" Json.IsString
  description : OptionalField fields "description" Json.IsString
  url : OptionalField fields "url" Json.IsString
  urlToImage : OptionalField fields "urlToImage" Json.IsString
  publishedAt : ∃ s d, fields.lookup "publishedAt" = some (.string s) ∧ sdk.parse s = .ok d
  content : OptionalField fields "content" Json.IsString

structure NewsGrammar (sdk : DateTimeSdk D) (fields : DartMap) : Prop where
  status : OptionalField fields "status" Json.IsString
  totalResults : OptionalField fields "totalResults" Json.IsInt
  articles : ∃ xs, fields.lookup "articles" = some (.list xs) ∧ ∀ x ∈ xs, IsObject (ArticleGrammar sdk) x

/-! ## Fields -/

theorem field_asString_accepts_iff {fields : DartMap} {key : String} :
    (∃ s, (Json.field fields key).asString = .ok s) ↔ OptionalField fields key Json.IsString := by
  rw [Json.asString_accepts_iff]
  cases h : fields.lookup key <;> simp [Json.field, OptionalField, h, Json.IsString]

theorem field_asInt_accepts_iff {fields : DartMap} {key : String} :
    (∃ n, (Json.field fields key).asInt = .ok n) ↔ OptionalField fields key Json.IsInt := by
  rw [Json.asInt_accepts_iff]
  cases h : fields.lookup key <;> simp [Json.field, OptionalField, h, Json.IsInt]

theorem field_eq_iff {fields : DartMap} {key : String} {v : Json} (hv : v ≠ .null) :
    Json.field fields key = v ↔ fields.lookup key = some v := by
  cases h : fields.lookup key <;> simp [Json.field, h, hv.symm]

/-! ## Source -/

theorem Source.fromJson_ok_iff {j : Json} {s : Source} :
    Source.fromJson j = .ok s ↔
      ∃ fields, j = .map fields ∧ s.id = Json.field fields "id" ∧
        (Json.field fields "name").asString = .ok s.name := by
  constructor
  · intro h
    obtain ⟨json, hjson, h⟩ := bind_ok_iff.mp h
    rcases Json.asMap_ok_iff.mp hjson with ⟨rfl, rfl⟩ | ⟨fields, rfl, rfl⟩
    · cases h
    · simp only [Json.index_some, ok_bind] at h
      obtain ⟨name, hname, h⟩ := bind_ok_iff.mp h
      cases h
      exact ⟨fields, rfl, rfl, hname⟩
  · rintro ⟨fields, rfl, hid, hname⟩
    cases s
    simp only at hid hname
    simp [Source.fromJson, Json.asMap, hname, hid]

theorem Source.fromJson_accepts_iff {j : Json} :
    (∃ s, Source.fromJson j = .ok s) ↔ IsObject SourceGrammar j := by
  simp only [Source.fromJson_ok_iff, IsObject, SourceGrammar, ← field_asString_accepts_iff]
  constructor
  · rintro ⟨s, fields, hj, _, hname⟩
    exact ⟨fields, hj, s.name, hname⟩
  · rintro ⟨fields, hj, name, hname⟩
    exact ⟨⟨Json.field fields "id", name⟩, fields, hj, rfl, hname⟩

/-! ## Article -/

theorem parseDate_accepts_iff {j : Json} :
    (∃ s d, j.asString = .ok s ∧ parseDate sdk s = .ok d) ↔
      ∃ s d, j = .string s ∧ sdk.parse s = .ok d := by
  cases j <;> simp [Json.asString, parseDate]

theorem Article.fromJson_ok_iff {j : Json} {a : Article D} :
    Article.fromJson sdk j = .ok a ↔
      ∃ fields src s d, j = .map fields ∧
        Source.fromJson (Json.field fields "source") = .ok src ∧
        (Json.field fields "author").asString = .ok a.author ∧
        (Json.field fields "title").asString = .ok a.title ∧
        (Json.field fields "description").asString = .ok a.description ∧
        (Json.field fields "url").asString = .ok a.url ∧
        (Json.field fields "urlToImage").asString = .ok a.urlToImage ∧
        (Json.field fields "publishedAt").asString = .ok s ∧ parseDate sdk s = .ok d ∧
        (Json.field fields "content").asString = .ok a.content ∧
        a.source = some src ∧ a.publishedAt = some d := by
  constructor
  · intro h
    obtain ⟨json, hjson, h⟩ := bind_ok_iff.mp h
    rcases Json.asMap_ok_iff.mp hjson with ⟨rfl, rfl⟩ | ⟨fields, rfl, rfl⟩
    · cases h
    · simp only [Json.index_some, ok_bind] at h
      obtain ⟨source, hsource, h⟩ := bind_ok_iff.mp h
      obtain ⟨author, hauthor, h⟩ := bind_ok_iff.mp h
      obtain ⟨title, htitle, h⟩ := bind_ok_iff.mp h
      obtain ⟨description, hdescription, h⟩ := bind_ok_iff.mp h
      obtain ⟨url, hurl, h⟩ := bind_ok_iff.mp h
      obtain ⟨urlToImage, himage, h⟩ := bind_ok_iff.mp h
      obtain ⟨s, hs, h⟩ := bind_ok_iff.mp h
      obtain ⟨d, hd, h⟩ := bind_ok_iff.mp h
      obtain ⟨content, hcontent, h⟩ := bind_ok_iff.mp h
      cases h
      exact ⟨fields, source, s, d, rfl, hsource, hauthor, htitle, hdescription, hurl, himage, hs, hd,
        hcontent, rfl, rfl⟩
  · rintro ⟨fields, src, s, d, rfl, hsource, hauthor, htitle, hdescription, hurl, himage, hs, hd,
      hcontent, ha, hp⟩
    cases a
    simp only at hauthor htitle hdescription hurl himage hcontent ha hp
    simp [Article.fromJson, Json.asMap, hsource, hauthor, htitle, hdescription, hurl, himage, hs, hd,
      hcontent, ha, hp]

theorem Article.fromJson_accepts_iff {j : Json} :
    (∃ a, Article.fromJson sdk j = .ok a) ↔ IsObject (ArticleGrammar sdk) j := by
  simp only [Article.fromJson_ok_iff]
  constructor
  · rintro ⟨a, fields, src, s, d, hj, hsource, hauthor, htitle, hdescription, hurl, himage, hs, hd,
      hcontent, _, _⟩
    obtain ⟨srcFields, hsrc, hgrammar⟩ := Source.fromJson_accepts_iff.mp ⟨src, hsource⟩
    obtain ⟨str, d', hstr, hd'⟩ := parseDate_accepts_iff.mp ⟨s, d, hs, hd⟩
    exact ⟨fields, hj, {
      source := ⟨_, (field_eq_iff (by simp)).mp hsrc, srcFields, rfl, hgrammar⟩
      author := field_asString_accepts_iff.mp ⟨_, hauthor⟩
      title := field_asString_accepts_iff.mp ⟨_, htitle⟩
      description := field_asString_accepts_iff.mp ⟨_, hdescription⟩
      url := field_asString_accepts_iff.mp ⟨_, hurl⟩
      urlToImage := field_asString_accepts_iff.mp ⟨_, himage⟩
      publishedAt := ⟨str, d', (field_eq_iff (by simp)).mp hstr, hd'⟩
      content := field_asString_accepts_iff.mp ⟨_, hcontent⟩ }⟩
  · rintro ⟨fields, hj, h⟩
    obtain ⟨v, hv, hsource⟩ := h.source
    obtain ⟨src, hsrc⟩ := Source.fromJson_accepts_iff.mpr hsource
    obtain ⟨author, hauthor⟩ := field_asString_accepts_iff.mpr h.author
    obtain ⟨title, htitle⟩ := field_asString_accepts_iff.mpr h.title
    obtain ⟨description, hdescription⟩ := field_asString_accepts_iff.mpr h.description
    obtain ⟨url, hurl⟩ := field_asString_accepts_iff.mpr h.url
    obtain ⟨urlToImage, himage⟩ := field_asString_accepts_iff.mpr h.urlToImage
    obtain ⟨str, d, hstr, hd⟩ := h.publishedAt
    obtain ⟨content, hcontent⟩ := field_asString_accepts_iff.mpr h.content
    have hv' : Json.field fields "source" = v := by simp [Json.field, hv]
    have hstr' : (Json.field fields "publishedAt").asString = .ok (some str) := by
      simp [Json.field, hstr, Json.asString]
    exact ⟨⟨some src, author, title, description, url, urlToImage, some d, content⟩, fields, src,
      some str, d, hj, hv' ▸ hsrc, hauthor, htitle, hdescription, hurl, himage, hstr', hd, hcontent,
      rfl, rfl⟩

/-! ## News -/

theorem News.fromJson_ok_iff {j : Json} {n : News D} :
    News.fromJson sdk j = .ok n ↔
      ∃ fields xs as, j = .map fields ∧
        (Json.field fields "status").asString = .ok n.status ∧
        (Json.field fields "totalResults").asInt = .ok n.totalResults ∧
        fields.lookup "articles" = some (.list xs) ∧ xs.mapM (Article.fromJson sdk) = .ok as ∧
        n.articles = some (as.map some) := by
  constructor
  · intro h
    obtain ⟨json, hjson, h⟩ := bind_ok_iff.mp h
    rcases Json.asMap_ok_iff.mp hjson with ⟨rfl, rfl⟩ | ⟨fields, rfl, rfl⟩
    · cases h
    · simp only [Json.index_some, ok_bind] at h
      obtain ⟨status, hstatus, h⟩ := bind_ok_iff.mp h
      obtain ⟨totalResults, htotal, h⟩ := bind_ok_iff.mp h
      obtain ⟨as, has, h⟩ := bind_ok_iff.mp h
      obtain ⟨xs, hxs, has⟩ := Json.mapElements_ok_iff.mp has
      cases h
      exact ⟨fields, xs, as, rfl, hstatus, htotal, (field_eq_iff (by simp)).mp hxs, has, rfl⟩
  · rintro ⟨fields, xs, as, rfl, hstatus, htotal, hxs, has, hn⟩
    have hfield : Json.field fields "articles" = .list xs := by simp [Json.field, hxs]
    cases n
    simp only at hstatus htotal hn
    simp [News.fromJson, Json.asMap, hstatus, htotal, hfield, Json.mapElements, has, hn]

theorem News.fromJson_accepts_iff {j : Json} :
    (∃ n, News.fromJson sdk j = .ok n) ↔ IsObject (NewsGrammar sdk) j := by
  simp only [News.fromJson_ok_iff]
  constructor
  · rintro ⟨n, fields, xs, as, hj, hstatus, htotal, hxs, has, _⟩
    exact ⟨fields, hj, {
      status := field_asString_accepts_iff.mp ⟨_, hstatus⟩
      totalResults := field_asInt_accepts_iff.mp ⟨_, htotal⟩
      articles := ⟨xs, hxs, fun x hx =>
        Article.fromJson_accepts_iff.mp (mapM_accepts_iff.mp ⟨as, has⟩ x hx)⟩ }⟩
  · rintro ⟨fields, hj, h⟩
    obtain ⟨status, hstatus⟩ := field_asString_accepts_iff.mpr h.status
    obtain ⟨totalResults, htotal⟩ := field_asInt_accepts_iff.mpr h.totalResults
    obtain ⟨xs, hxs, hall⟩ := h.articles
    obtain ⟨as, has⟩ := mapM_accepts_iff.mpr fun x hx => Article.fromJson_accepts_iff.mpr (hall x hx)
    exact ⟨⟨status, totalResults, some (as.map some)⟩, fields, xs, as, hj, hstatus, htotal, hxs, has,
      rfl⟩

end NewsApp
