import NewsApp.Data.Lemmas.RoundTrip
import NewsApp.Lib.Simulation
import NewsApp.Pages.Lemmas.Snapshot

/-!
# The order of the answers

The requests of a feed may be answered in any order. What is shown depends on the answers that are heard
only, and these come in the order of their requests. Two answers without a rebuild between them can be
exchanged.
-/

namespace NewsApp.Feed

open Lib

variable {D : Type} {codec : JsonCodec} {sdk : DateTimeSdk D} {builder : SnapshotBuilder D}

/-! ## Answers that are not heard -/

/-- The event, unless it is the answer of a request that the feed is not subscribed to. -/
def keepHeard (f : Feed D) : FeedEvent → List FeedEvent
  | .rebuild => [.rebuild]
  | .respond request response =>
      if f.futureBuilder.future = request then [.respond request response] else []

/-- Both feeds have issued and show the same, and the second one may have more requests unanswered. -/
structure SameShown (f g : Feed D) : Prop where
  gets : g.gets = f.gets
  futureBuilder : g.futureBuilder = f.futureBuilder
  views : g.views = f.views
  pending : f.pending.Sublist g.pending

theorem SameShown.rebuild {f g : Feed D} (h : f.SameShown g) :
    (f.rebuild builder).SameShown (g.rebuild builder) := by
  refine ⟨?_, ?_, ?_, ?_⟩
  · simp [h.gets]
  · simp [Feed.rebuild, Http.getData, h.gets, h.futureBuilder]
  · simp [Feed.rebuild, Http.getData, h.gets, h.futureBuilder, h.views]
  · simpa [Feed.rebuild, Http.getData, h.gets] using h.pending

theorem SameShown.respond {f g : Feed D} (h : f.SameShown g) (request : Nat) (response : Dart String) :
    (f.respond codec sdk builder request response).SameShown
      (g.respond codec sdk builder request response) := by
  rcases respond_cases codec sdk builder f request response with ⟨hfuture, hf⟩ | ⟨hne, hf⟩
  · rcases respond_cases codec sdk builder g request response with ⟨_, hg⟩ | ⟨hne, _⟩
    · rw [hf, hg]
      exact ⟨h.gets, rfl, by simp [h.views], h.pending.erase request⟩
    · exact absurd (h.futureBuilder ▸ hfuture) hne
  · rcases respond_cases codec sdk builder g request response with ⟨hfuture, _⟩ | ⟨_, hg⟩
    · exact absurd (h.futureBuilder ▸ hfuture) hne
    · rw [hf, hg]
      exact ⟨h.gets, h.futureBuilder, h.views, h.pending.erase request⟩

theorem step_sameShown {f g f' : Feed D} {e : FeedEvent} (h : f.SameShown g)
    (hstep : step codec sdk builder f e = some f') :
    ∃ g', run (step codec sdk builder) g (keepHeard f e) = some g' ∧ f'.SameShown g' := by
  rcases step_cases hstep with ⟨rfl, rfl⟩ | ⟨request, response, rfl, hpending, rfl⟩
  · exact ⟨g.rebuild builder, rfl, h.rebuild⟩
  · by_cases hfuture : f.futureBuilder.future = request
    · refine ⟨g.respond codec sdk builder request response, ?_, h.respond request response⟩
      have hg : step codec sdk builder g (.respond request response) =
          some (g.respond codec sdk builder request response) := if_pos (h.pending.subset hpending)
      rw [keepHeard, if_pos hfuture, run_cons_of_step hg, run_nil]
    · refine ⟨g, by rw [keepHeard, if_neg hfuture, run_nil], ?_⟩
      rcases respond_cases codec sdk builder f request response with ⟨h', _⟩ | ⟨_, hf⟩
      · exact absurd h' hfuture
      · rw [hf]
        exact ⟨h.gets, h.futureBuilder, h.views, List.erase_sublist.trans h.pending⟩

/-- Answers of requests that a rebuild has replaced change nothing that is shown: in every run they can be
left out. -/
theorem unheard_answers_erased {es : List FeedEvent} {f : Feed D}
    (h : run (step codec sdk builder) (mount builder) es = some f) :
    ∃ g, run (step codec sdk builder) (mount builder)
        (translated (step codec sdk builder) keepHeard (mount builder) es) = some g ∧
      g.views = f.views ∧ g.futureBuilder = f.futureBuilder ∧ g.gets = f.gets := by
  have hsame : (mount builder : Feed D).SameShown (mount builder) := ⟨rfl, rfl, rfl, List.Sublist.refl _⟩
  obtain ⟨g, hrun, hg⟩ := run_simulates step_sameShown hsame h
  exact ⟨g, hrun, hg.views, hg.futureBuilder, hg.gets⟩

/-- The answer of the first build comes after a rebuild, the one of `initState` never. -/
def lateAnswers : List FeedEvent :=
  [.rebuild, .respond 1 (.error (.exception "timeout")), .respond 2 (.error (.exception "refused"))]

theorem lateAnswers_run :
    run (step sampleCodec sampleSdk WholeNews.builder) (mount WholeNews.builder) lateAnswers = some {
      gets := 3
      pending := [0]
      futureBuilder := ⟨2, .withError .done (.exception "refused")⟩
      views := [.error "Hata: true", .spinner, .spinner] } := rfl

theorem unheard_answers_erased_sample :
    ∃ g, run (step sampleCodec sampleSdk WholeNews.builder) (mount WholeNews.builder)
        (translated (step sampleCodec sampleSdk WholeNews.builder) keepHeard (mount WholeNews.builder)
          lateAnswers) = some g ∧ g.views = [.error "Hata: true", .spinner, .spinner] := by
  obtain ⟨g, hrun, hviews, _⟩ := unheard_answers_erased lateAnswers_run
  exact ⟨g, hrun, hviews⟩

/-! ## The requests that are heard -/

/-- The request that the event answers, when the feed is subscribed to it. -/
def heardRequest (f : Feed D) : FeedEvent → List Nat
  | .rebuild => []
  | .respond request _ => if f.futureBuilder.future = request then [request] else []

/-- Requests that were heard are older than the one subscribed to, or it, and have no second answer. -/
structure Requests (requests : List Nat) (f : Feed D) : Prop where
  latest : f.SubscribedToLatest
  nodup : f.pending.Nodup
  issued : ∀ r ∈ f.pending, r < f.gets
  increasing : requests.Pairwise (· < ·)
  le_future : ∀ r ∈ requests, r ≤ f.futureBuilder.future
  answered : ∀ r ∈ requests, r ∉ f.pending

theorem mount_requests : (mount builder : Feed D).Requests [] := by
  refine ⟨rfl, ?_, ?_, List.Pairwise.nil, ?_, ?_⟩ <;> simp [mount_eq]

theorem Requests.rebuild {requests : List Nat} {f : Feed D} (h : f.Requests requests) :
    (f.rebuild builder).Requests requests := by
  have hgets : f.gets = f.futureBuilder.future + 1 := h.latest
  have hnew : f.gets ∉ f.pending := fun hmem => (h.issued _ hmem).false
  rw [rebuild_eq h.latest.subscribed]
  refine ⟨rfl, ?_, ?_, h.increasing, ?_, ?_⟩
  · rw [List.nodup_append]
    exact ⟨h.nodup, by simp, by simpa using fun r hr (heq : r = f.gets) => hnew (heq ▸ hr)⟩
  · intro r hr
    rcases List.mem_append.mp hr with hr | hr
    · exact Nat.lt_succ_of_lt (h.issued r hr)
    · rw [List.mem_singleton.mp hr]
      exact Nat.lt_succ_self _
  · intro r hr
    have hle := h.le_future r hr
    simp only
    omega
  · intro r hr hmem
    have hle := h.le_future r hr
    rcases List.mem_append.mp hmem with hmem | hmem
    · exact h.answered r hr hmem
    · rw [List.mem_singleton.mp hmem] at hle
      omega

theorem Requests.respond {requests : List Nat} {f : Feed D} (h : f.Requests requests) {request : Nat}
    (hpending : request ∈ f.pending) (response : Dart String) :
    (f.respond codec sdk builder request response).Requests
      (requests ++ f.heardRequest (.respond request response)) := by
  have hissued : ∀ r ∈ f.pending.erase request, r < f.gets := fun r hr =>
    h.issued r (List.mem_of_mem_erase hr)
  rcases respond_cases codec sdk builder f request response with ⟨rfl, h'⟩ | ⟨hne, h'⟩
  · have hlt : ∀ r ∈ requests, r < f.futureBuilder.future := fun r hr =>
      lt_of_le_of_ne (h.le_future r hr) fun heq => h.answered r hr (heq ▸ hpending)
    rw [h', heardRequest, if_pos rfl]
    refine ⟨h.latest, h.nodup.erase _, hissued, ?_, ?_, ?_⟩
    · rw [List.pairwise_append]
      exact ⟨h.increasing, List.pairwise_singleton _ _, by simpa using hlt⟩
    · intro r hr
      rcases List.mem_append.mp hr with hr | hr
      · exact h.le_future r hr
      · exact (List.mem_singleton.mp hr).le
    · intro r hr hmem
      rcases List.mem_append.mp hr with hr | hr
      · exact h.answered r hr (List.mem_of_mem_erase hmem)
      · rw [List.mem_singleton.mp hr] at hmem
        exact h.nodup.not_mem_erase hmem
  · rw [h', heardRequest, if_neg hne, List.append_nil]
    exact ⟨h.latest, h.nodup.erase _, hissued, h.increasing, h.le_future, fun r hr hmem =>
      h.answered r hr (List.mem_of_mem_erase hmem)⟩

theorem step_requests {requests : List Nat} {f f' : Feed D} {e : FeedEvent} (h : f.Requests requests)
    (hstep : step codec sdk builder f e = some f') : f'.Requests (requests ++ f.heardRequest e) := by
  rcases step_cases hstep with ⟨rfl, rfl⟩ | ⟨request, response, rfl, hpending, rfl⟩
  · rw [heardRequest, List.append_nil]
    exact h.rebuild
  · exact h.respond hpending response

theorem run_requests {es : List FeedEvent} {f : Feed D}
    (h : run (step codec sdk builder) (mount builder) es = some f) :
    f.Requests (translated (step codec sdk builder) heardRequest (mount builder) es) := by
  refine run_history (P := fun es f =>
    f.Requests (translated (step codec sdk builder) heardRequest (mount builder) es)) mount_requests ?_ h
  intro es e f f' hrun hf hstep
  rw [translated_concat _ hrun]
  exact step_requests hf hstep

/-- The answers that a feed hears come in the order of their requests, and none comes twice: an older
response never replaces a newer one. -/
theorem heard_requests_increasing {es : List FeedEvent} {f : Feed D}
    (h : run (step codec sdk builder) (mount builder) es = some f) :
    (translated (step codec sdk builder) heardRequest (mount builder) es).Pairwise (· < ·) :=
  (run_requests h).increasing

theorem heard_requests_increasing_sample :
    (translated (step sampleCodec sampleSdk WholeNews.builder) heardRequest (mount WholeNews.builder)
      lateAnswers).Pairwise (· < ·) :=
  heard_requests_increasing lateAnswers_run

/-! ## The newest request -/

/-- The newest request is unanswered, or the snapshot is its answer. -/
def NewestShown (codec : JsonCodec) (sdk : DateTimeSdk D) (es : List FeedEvent) (f : Feed D) : Prop :=
  f.futureBuilder.future ∈ f.pending ∨
    ∃ response, .respond f.futureBuilder.future response ∈ es ∧
      f.futureBuilder.snapshot = FutureBuilder.settled (decodeResponse codec sdk response)

theorem step_newestShown {es : List FeedEvent} {f f' : Feed D} {e : FeedEvent} (hf : f.Subscribed)
    (h : f.NewestShown codec sdk es) (hstep : step codec sdk builder f e = some f') :
    f'.NewestShown codec sdk (es ++ [e]) := by
  rcases step_cases hstep with ⟨rfl, rfl⟩ | ⟨request, response, rfl, _, rfl⟩
  · rw [rebuild_eq hf]
    exact Or.inl (by simp)
  · rcases respond_cases codec sdk builder f request response with ⟨rfl, h'⟩ | ⟨hne, h'⟩
    · rw [h']
      exact Or.inr ⟨response, by simp, rfl⟩
    · rw [h']
      refine h.imp ?_ ?_
      · exact fun hmem => (List.mem_erase_of_ne hne).mpr hmem
      · rintro ⟨response', hmem, hs⟩
        exact ⟨response', List.mem_append_left _ hmem, hs⟩

/-- As soon as the newest request is answered the feed shows its answer, in whatever order the requests
before it were answered, and if they were. -/
theorem newest_answer_shown {es : List FeedEvent} {f : Feed D}
    (h : run (step codec sdk builder) (mount builder) es = some f) (hanswered : f.gets - 1 ∉ f.pending) :
    ∃ response, .respond (f.gets - 1) response ∈ es ∧
      f.views.head? = some (builder (FutureBuilder.settled (decodeResponse codec sdk response))) := by
  have hlatest : f.gets = f.futureBuilder.future + 1 := (run_requests h).latest
  have hmount : (mount builder : Feed D).NewestShown codec sdk [] := Or.inl (by simp [mount_eq])
  have hnewest : f.NewestShown codec sdk es :=
    run_history hmount (fun hrun hf hstep => step_newestShown (run_requests hrun).latest.subscribed hf hstep) h
  rw [hlatest, Nat.add_sub_cancel] at hanswered ⊢
  rcases hnewest with hpending | ⟨response, hmem, hs⟩
  · exact absurd hpending hanswered
  · exact ⟨response, hmem, by rw [run_latest_view h, hs]⟩

/-- Requests that have been answered have no second answer, and the one subscribed to is shown. -/
def AnswersShown (codec : JsonCodec) (sdk : DateTimeSdk D) (es : List FeedEvent) (f : Feed D) : Prop :=
  ∀ request response, .respond request response ∈ es → request < f.gets ∧ request ∉ f.pending ∧
    (f.futureBuilder.future = request →
      f.futureBuilder.snapshot = FutureBuilder.settled (decodeResponse codec sdk response))

theorem AnswersShown.rebuild {es : List FeedEvent} {f : Feed D} (hf : f.Subscribed)
    (h : f.AnswersShown codec sdk es) : (f.rebuild builder).AnswersShown codec sdk (es ++ [.rebuild]) := by
  intro request response hmem
  have hmem' : .respond request response ∈ es := by simpa using hmem
  obtain ⟨hlt, hpending, _⟩ := h request response hmem'
  rw [rebuild_eq hf]
  refine ⟨Nat.lt_succ_of_lt hlt, ?_, fun hfuture => absurd hfuture hlt.ne'⟩
  simpa [hpending] using hlt.ne

theorem AnswersShown.respond {es : List FeedEvent} {f : Feed D} {requests : List Nat}
    (hf : f.Requests requests) (h : f.AnswersShown codec sdk es) {request : Nat}
    (hpending : request ∈ f.pending) (response : Dart String) :
    (f.respond codec sdk builder request response).AnswersShown codec sdk
      (es ++ [.respond request response]) := by
  intro request' response' hmem
  rcases List.mem_append.mp hmem with hmem | hmem
  · obtain ⟨hlt, hpending', hshown⟩ := h request' response' hmem
    have hne : request ≠ request' := fun heq => hpending' (heq ▸ hpending)
    rcases respond_cases codec sdk builder f request response with ⟨_, h'⟩ | ⟨_, h'⟩
    · rw [h']
      exact ⟨hlt, fun hmem => hpending' (List.mem_of_mem_erase hmem), fun heq => absurd heq hne⟩
    · rw [h']
      exact ⟨hlt, fun hmem => hpending' (List.mem_of_mem_erase hmem), hshown⟩
  · obtain ⟨rfl, rfl⟩ := by simpa using hmem
    have hlt := hf.issued _ hpending
    rcases respond_cases codec sdk builder f request' response' with ⟨_, h'⟩ | ⟨hne, h'⟩
    · rw [h']
      exact ⟨hlt, hf.nodup.not_mem_erase, fun _ => rfl⟩
    · rw [h']
      exact ⟨hlt, hf.nodup.not_mem_erase, fun heq => absurd heq hne⟩

/-- An answer of the newest request is what the feed shows. -/
theorem answered_newest_shown {es : List FeedEvent} {f : Feed D}
    (h : run (step codec sdk builder) (mount builder) es = some f) {response : Dart String}
    (hanswer : .respond (f.gets - 1) response ∈ es) :
    f.views.head? = some (builder (FutureBuilder.settled (decodeResponse codec sdk response))) := by
  have hlatest : f.gets = f.futureBuilder.future + 1 := (run_requests h).latest
  have hmount : (mount builder : Feed D).AnswersShown codec sdk [] := fun _ _ hmem => nomatch hmem
  have hshown : f.AnswersShown codec sdk es := by
    refine run_history hmount (fun hrun hf hstep => ?_) h
    rcases step_cases hstep with ⟨rfl, rfl⟩ | ⟨request, response, rfl, hpending, rfl⟩
    · exact hf.rebuild (run_requests hrun).latest.subscribed
    · exact hf.respond (run_requests hrun) hpending response
  rw [hlatest, Nat.add_sub_cancel] at hanswer
  rw [run_latest_view h, (hshown _ _ hanswer).2.2 rfl]

/-! ## Two answers -/

@[simp] theorem pending_hear (f : Feed D) (request : Nat) (response : Dart String) :
    (f.hear codec sdk request response).1.pending = f.pending.erase request := by
  rcases hear_cases codec sdk f request response with ⟨_, h⟩ | ⟨_, h⟩ <;> rw [h]

/-- At most one of two answers is heard, whichever comes first. -/
theorem hear_comm {request request' : Nat} (hne : request ≠ request') (f : Feed D)
    (response response' : Dart String) :
    ((f.hear codec sdk request response).1.hear codec sdk request' response').1 =
        ((f.hear codec sdk request' response').1.hear codec sdk request response).1 ∧
      ((f.hear codec sdk request response).1.hear codec sdk request' response').2 =
        (f.hear codec sdk request' response').2 ∧
      ((f.hear codec sdk request' response').1.hear codec sdk request response).2 =
        (f.hear codec sdk request response).2 := by
  have herase := List.erase_comm request request' (l := f.pending)
  by_cases hfuture : f.futureBuilder.future = request
  · simp [hear, FutureBuilder.complete, hfuture, hne, herase]
  · by_cases hfuture' : f.futureBuilder.future = request'
    · simp [hear, FutureBuilder.complete, hfuture', hne.symm, herase]
    · simp [hear, FutureBuilder.complete, hfuture, hfuture', herase]

end NewsApp.Feed
