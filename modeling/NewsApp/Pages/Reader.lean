import NewsApp.Data.Lemmas.RoundTrip
import NewsApp.Lib.Simulation
import NewsApp.Pages.WholeNews

/-!
# Reading an article

A row of the list opens the page of its article. There the link asks the system whether it can launch the
text of the URL, and launches it when the answer comes, also when the page has been left by then; the share
button passes the image on.
-/

namespace NewsApp

open Lib

variable {D : Type}

/-- The page that is open, as its route builds it, the calls of `canLaunch` under way, and what the page has
passed on. -/
structure Reader where
  page : Option (Dart DetailedNew)
  asked : List String
  launched : List String
  shared : List (Option String)
  unhandled : List DartError

inductive ReaderEvent (D : Type)
  | tapRow (item : Article D)
  | back
  | tapLink
  | tapShare
  | canLaunch (call : Nat) (answer : Dart Bool)

namespace Reader

def init : Reader := ⟨none, [], [], [], []⟩

/-- `_launchURL`, after its call. -/
def launchURL (r : Reader) (urlR : String) : Dart Bool → Reader
  | .ok true => { r with launched := r.launched ++ [urlR] }
  | .ok false => r
  | .error e => { r with unhandled := r.unhandled ++ [e] }

/-- The page whose buttons are there: the route's builder has returned it, and it could be built. An open page
without them shows an error widget. -/
def shownPage (asserts : Bool) (r : Reader) : Option DetailedNew :=
  match r.page with
  | some (.ok page) => if (page.show asserts).isOk then some page else none
  | _ => none

/-- A row pushes the route first; its arguments are evaluated when the route is built. Only rows with an image
are there. -/
def step (asserts : Bool) (sdk : DateTimeSdk D) (r : Reader) : ReaderEvent D → Option Reader
  | .tapRow item =>
      if r.page.isNone ∧ item.urlToImage.isSome then
        some { r with page := some (WholeNews.pageBuilder sdk item) }
      else none
  | .back => if r.page.isSome then some { r with page := none } else none
  | .tapLink =>
      (r.shownPage asserts).map fun page => { r with asked := r.asked ++ [page.source.getD "null"] }
  | .tapShare => (r.shownPage asserts).map fun page => { r with shared := r.shared ++ [page.url] }
  | .canLaunch call answer =>
      match r.asked[call]? with
      | some urlR => some (launchURL { r with asked := r.asked.eraseIdx call } urlR answer)
      | none => none

variable {asserts : Bool} {sdk : DateTimeSdk D} {r r' : Reader} {es : List (ReaderEvent D)}

/-! ## Steps -/

theorem shownPage_eq_some {page : DetailedNew} (h : r.shownPage asserts = some page) :
    r.page = some (.ok page) := by
  unfold shownPage at h
  split at h
  case h_1 page' hpage =>
      split_ifs at h
      cases h
      exact hpage
  case h_2 => cases h

/-- What a step can do. -/
theorem step_cases {e : ReaderEvent D} (h : step asserts sdk r e = some r') :
    (∃ item, e = .tapRow item ∧ item.urlToImage.isSome ∧
      r' = { r with page := some (WholeNews.pageBuilder sdk item) }) ∨
    (e = .back ∧ r' = { r with page := none }) ∨
    (∃ page, e = .tapLink ∧ r.page = some (.ok page) ∧
      r' = { r with asked := r.asked ++ [page.source.getD "null"] }) ∨
    (∃ page, e = .tapShare ∧ r.page = some (.ok page) ∧ r' = { r with shared := r.shared ++ [page.url] }) ∨
    (∃ call answer urlR, e = .canLaunch call answer ∧ r.asked[call]? = some urlR ∧
      r' = launchURL { r with asked := r.asked.eraseIdx call } urlR answer) := by
  cases e with
  | tapRow item =>
      simp only [step, Option.ite_none_right_eq_some, Option.some.injEq] at h
      obtain ⟨⟨_, himage⟩, rfl⟩ := h
      exact Or.inl ⟨item, rfl, himage, rfl⟩
  | back =>
      simp only [step, Option.ite_none_right_eq_some, Option.some.injEq] at h
      exact Or.inr (Or.inl ⟨rfl, h.2.symm⟩)
  | tapLink =>
      obtain ⟨page, hpage, rfl⟩ := Option.map_eq_some_iff.mp h
      exact Or.inr (Or.inr (Or.inl ⟨page, rfl, shownPage_eq_some hpage, rfl⟩))
  | tapShare =>
      obtain ⟨page, hpage, rfl⟩ := Option.map_eq_some_iff.mp h
      exact Or.inr (Or.inr (Or.inr (Or.inl ⟨page, rfl, shownPage_eq_some hpage, rfl⟩)))
  | canLaunch call answer =>
      simp only [step] at h
      split at h
      case h_1 urlR hurl =>
          cases h
          exact Or.inr (Or.inr (Or.inr (Or.inr ⟨call, answer, urlR, rfl, hurl, rfl⟩)))
      case h_2 => cases h

theorem pageBuilder_ok {item : Article D} {page : DetailedNew}
    (h : WholeNews.pageBuilder sdk item = .ok page) :
    page.url = item.urlToImage ∧ page.source = some (item.url.getD "null") := by
  obtain ⟨time, _, h⟩ := bind_ok_iff.mp h
  obtain ⟨source, _, h⟩ := bind_ok_iff.mp h
  cases h
  exact ⟨rfl, rfl⟩

/-! ## What is launched and shared -/

/-- The URL that the system accepts. -/
def accepted (r : Reader) : ReaderEvent D → List String
  | .canLaunch call (.ok true) => r.asked[call]?.toList
  | _ => []

/-- The article of a row that was tapped, with an image. -/
def Tapped (es : List (ReaderEvent D)) (item : Article D) : Prop :=
  .tapRow item ∈ es ∧ item.urlToImage.isSome

theorem Tapped.concat {item : Article D} (h : Tapped es item) (e : ReaderEvent D) : Tapped (es ++ [e]) item :=
  ⟨List.mem_append_left _ h.1, h.2⟩

/-- Everything comes from articles whose rows were tapped. -/
structure Read (sdk : DateTimeSdk D) (es : List (ReaderEvent D)) (r : Reader) : Prop where
  page : ∀ page, r.page = some (.ok page) → ∃ item, Tapped es item ∧ WholeNews.pageBuilder sdk item = .ok page
  asked : ∀ url ∈ r.asked, ∃ item, Tapped es item ∧ url = item.url.getD "null"
  launched : ∀ url ∈ r.launched, ∃ item, Tapped es item ∧ url = item.url.getD "null"
  shared : ∀ image ∈ r.shared, ∃ item, Tapped es item ∧ image = item.urlToImage

theorem init_read : init.Read sdk ([] : List (ReaderEvent D)) := by
  refine ⟨fun page hpage => ?_, nofun, nofun, nofun⟩
  cases hpage

theorem Read.concat (h : r.Read sdk es) (e : ReaderEvent D) : r.Read sdk (es ++ [e]) := by
  refine ⟨fun page hpage => ?_, fun url hurl => ?_, fun url hurl => ?_, fun image himage => ?_⟩
  · obtain ⟨item, htapped, hrest⟩ := h.page page hpage
    exact ⟨item, htapped.concat e, hrest⟩
  · obtain ⟨item, htapped, hrest⟩ := h.asked url hurl
    exact ⟨item, htapped.concat e, hrest⟩
  · obtain ⟨item, htapped, hrest⟩ := h.launched url hurl
    exact ⟨item, htapped.concat e, hrest⟩
  · obtain ⟨item, htapped, hrest⟩ := h.shared image himage
    exact ⟨item, htapped.concat e, hrest⟩

theorem step_read {e : ReaderEvent D} (hr : r.Read sdk es) (h : step asserts sdk r e = some r') :
    r'.Read sdk (es ++ [e]) := by
  have hr' := hr.concat e
  rcases step_cases h with ⟨item, rfl, himage, rfl⟩ | ⟨rfl, rfl⟩ | ⟨page, rfl, hpage, rfl⟩ |
    ⟨page, rfl, hpage, rfl⟩ | ⟨call, answer, urlR, rfl, hurl, rfl⟩
  · refine ⟨fun page hpage => ?_, hr'.asked, hr'.launched, hr'.shared⟩
    exact ⟨item, ⟨by simp, himage⟩, Option.some.inj hpage⟩
  · exact ⟨nofun, hr'.asked, hr'.launched, hr'.shared⟩
  · refine ⟨hr'.page, fun url hmem => ?_, hr'.launched, hr'.shared⟩
    rcases List.mem_append.mp hmem with hmem | hmem
    · exact hr'.asked url hmem
    · obtain ⟨item, htapped, htap⟩ := hr'.page page hpage
      refine ⟨item, htapped, ?_⟩
      rw [List.mem_singleton.mp hmem, (pageBuilder_ok htap).2]
      rfl
  · refine ⟨hr'.page, hr'.asked, hr'.launched, fun image hmem => ?_⟩
    rcases List.mem_append.mp hmem with hmem | hmem
    · exact hr'.shared image hmem
    · obtain ⟨item, htapped, htap⟩ := hr'.page page hpage
      refine ⟨item, htapped, ?_⟩
      rw [List.mem_singleton.mp hmem, (pageBuilder_ok htap).1]
  · have hasked : ∀ url ∈ r.asked.eraseIdx call, ∃ item, Tapped (es ++ [.canLaunch call answer]) item ∧
        url = item.url.getD "null" := fun url hmem => hr'.asked url (List.mem_of_mem_eraseIdx hmem)
    cases answer with
    | error e => exact ⟨hr'.page, hasked, hr'.launched, hr'.shared⟩
    | ok accepted =>
        cases accepted with
        | false => exact ⟨hr'.page, hasked, hr'.launched, hr'.shared⟩
        | true =>
            refine ⟨hr'.page, hasked, fun url hmem => ?_, hr'.shared⟩
            rcases List.mem_append.mp hmem with hmem | hmem
            · exact hr'.launched url hmem
            · rw [List.mem_singleton.mp hmem]
              exact hr'.asked urlR (List.mem_of_getElem? hurl)

theorem step_launched {e : ReaderEvent D} (h : step asserts sdk r e = some r') :
    r'.launched = r.launched ++ r.accepted e := by
  rcases step_cases h with ⟨item, rfl, _, rfl⟩ | ⟨rfl, rfl⟩ | ⟨page, rfl, _, rfl⟩ | ⟨page, rfl, _, rfl⟩ |
    ⟨call, answer, urlR, rfl, hurl, rfl⟩
  · exact (List.append_nil _).symm
  · exact (List.append_nil _).symm
  · exact (List.append_nil _).symm
  · exact (List.append_nil _).symm
  · cases answer with
    | error e => exact (List.append_nil _).symm
    | ok answer =>
        cases answer with
        | false => exact (List.append_nil _).symm
        | true => simp [launchURL, accepted, hurl]

/-- What is launched is, in order, what the system accepted. It is the text of the URL of an article whose
row was tapped, the text "null" for an article without one, and what is shared is the URL of its image. -/
theorem launched_accepted (hrun : run (step asserts sdk) init es = some r) :
    r.launched = translated (step asserts sdk) accepted init es ∧
      (∀ url ∈ r.launched, ∃ item, Tapped es item ∧ url = item.url.getD "null") ∧
      ∀ image ∈ r.shared, image ≠ none ∧ ∃ item, Tapped es item ∧ image = item.urlToImage := by
  have hread : r.Read sdk es :=
    run_history init_read (fun _ hr h => step_read hr h) hrun
  have hlaunched : r.launched = translated (step asserts sdk) accepted init es := by
    refine run_history (P := fun es r => r.launched = translated (step asserts sdk) accepted init es) rfl ?_
      hrun
    intro es e r r' hrun hr h
    rw [translated_concat _ hrun, ← hr]
    exact step_launched h
  refine ⟨hlaunched, hread.launched, fun image hmem => ?_⟩
  obtain ⟨item, htapped, rfl⟩ := hread.shared image hmem
  exact ⟨Option.isSome_iff_ne_none.mp htapped.2, item, htapped, rfl⟩

/-- Two articles, the second one without a URL. Their pages are left before the answers come. -/
def sampleReading : List (ReaderEvent Unit) :=
  [.tapRow fullArticle, .tapLink, .tapShare, .back, .tapRow { fullArticle with url := none }, .tapLink, .back,
    .canLaunch 1 (.ok true), .canLaunch 0 (.ok true)]

theorem launched_accepted_sample :
    ∃ r, run (step true sampleSdk) init sampleReading = some r ∧ r.launched = ["null", "deprem.html"] ∧
      r.launched = translated (step true sampleSdk) accepted init sampleReading ∧
      ∀ image ∈ r.shared, image ≠ none := by
  obtain ⟨hlaunched, _, hshared⟩ :=
    launched_accepted (show run (step true sampleSdk) init sampleReading = some _ from rfl)
  exact ⟨_, rfl, rfl, hlaunched, fun image hmem => (hshared image hmem).1⟩

end Reader

end NewsApp
