import NewsApp.Pages.Lemmas.Feed

/-!
# The snapshot of a feed

The data and the error of the snapshot are those of the last answer heard, and nothing before the first
one. What the builder callback shows follows from that alone.
-/

namespace NewsApp

open Lib

variable {D : Type}

/-- The two widgets that load the response. -/
inductive FeedWidget
  | wholeNews
  | breakingNewsScroll

def FeedWidget.builder : FeedWidget → SnapshotBuilder D
  | .wholeNews => WholeNews.builder
  | .breakingNewsScroll => BreakingNewsScroll.builder

namespace View

/-- The view does not read the articles of null, and unless one of the answers is a response it is the
spinner or the error text. -/
def SafeAfter (answers : List (Dart (News D))) (v : View D) : Prop :=
  v ≠ .content none ∧ ((∃ n, .ok n ∈ answers) ∨ v.IsFallback)

theorem IsFallback.safeAfter {v : View D} (h : v.IsFallback) (answers : List (Dart (News D))) :
    v.SafeAfter answers := by
  refine ⟨?_, Or.inr h⟩
  rcases h with rfl | ⟨text, rfl⟩ <;> simp

end View

namespace Feed

variable {codec : JsonCodec} {sdk : DateTimeSdk D} {builder : SnapshotBuilder D}

/-! ## Answers that are heard -/

/-- The decoded answers of the requests that the feed is subscribed to when they are answered, from the time
it subscribes to `future` (1 when it is mounted). A rebuild subscribes to the next request. -/
def heard (codec : JsonCodec) (sdk : DateTimeSdk D) : Nat → List FeedEvent → List (Dart (News D))
  | _, [] => []
  | future, .rebuild :: es => heard codec sdk (future + 1) es
  | future, .respond request response :: es =>
      if request = future then decodeResponse codec sdk response :: heard codec sdk future es
      else heard codec sdk future es

def SubscribedToLatest (f : Feed D) : Prop := f.gets = f.futureBuilder.future + 1

theorem SubscribedToLatest.subscribed {f : Feed D} (h : f.SubscribedToLatest) : f.Subscribed := by
  rw [SubscribedToLatest] at h
  rw [Subscribed]
  omega

/-- The snapshot holds the data and the error of the last answer heard, or of the snapshot at the start of
the run. A rebuild changes its state only. -/
theorem run_snapshot {es : List FeedEvent} {f f' : Feed D} (hf : f.SubscribedToLatest)
    (h : run (step codec sdk builder) f es = some f') :
    let last := ((heard codec sdk f.futureBuilder.future es).map FutureBuilder.settled).getLastD
      f.futureBuilder.snapshot
    f'.futureBuilder.snapshot = last ∨ f'.futureBuilder.snapshot = last.inState .waiting := by
  induction es generalizing f with
  | nil => cases h; exact Or.inl rfl
  | cons e es ih =>
      obtain ⟨f₁, hstep, hrun⟩ := Option.bind_eq_some_iff.mp h
      rcases step_cases hstep with ⟨rfl, rfl⟩ | ⟨request, response, rfl, _, rfl⟩
      · rw [rebuild_eq hf.subscribed] at hrun
        have hlast := ih (by simp [SubscribedToLatest]) hrun
        rw [hf] at hlast
        rw [heard]
        cases hheard : heard codec sdk (f.futureBuilder.future + 1) es with
        | nil =>
            rw [hheard] at hlast
            exact Or.inr (by simpa using hlast)
        | cons r rs =>
            rw [hheard] at hlast
            simpa only [List.map_cons, List.getLastD_cons] using hlast
      · rcases respond_cases codec sdk builder f request response with ⟨hfuture, h'⟩ | ⟨hne, h'⟩
        · rw [h'] at hrun
          have hlast := ih (by simpa [SubscribedToLatest, ← hfuture] using hf) hrun
          simpa only [heard, hfuture, ↓reduceIte, List.map_cons, List.getLastD_cons] using hlast
        · rw [h'] at hrun
          have hlast := ih (by simpa [SubscribedToLatest] using hf) hrun
          simpa only [heard, hne.symm, ↓reduceIte] using hlast

theorem mount_subscribedToLatest : (mount builder : Feed D).SubscribedToLatest := rfl

/-- In a run from the mounted feed: before the first answer is heard the snapshot is the initial one, and
afterwards it is the one that an answer settled, possibly back in state waiting. -/
theorem run_mount_snapshot {es : List FeedEvent} {f : Feed D}
    (h : run (step codec sdk builder) (mount builder) es = some f) :
    (heard codec sdk 1 es = [] ∧ f.futureBuilder.snapshot = ⟨.waiting, none, none⟩) ∨
      ∃ r ∈ heard codec sdk 1 es, f.futureBuilder.snapshot = FutureBuilder.settled r ∨
        f.futureBuilder.snapshot = (FutureBuilder.settled r).inState .waiting := by
  have hlast := run_snapshot mount_subscribedToLatest h
  simp only [mount_eq, FutureBuilder.future_initState, FutureBuilder.snapshot_initState] at hlast
  rcases List.eq_nil_or_concat (heard codec sdk 1 es) with hnil | ⟨rs, r, hrs⟩
  · rw [hnil] at hlast
    exact Or.inl ⟨hnil, by simpa [AsyncSnapshot.inState] using hlast⟩
  · rw [hrs] at hlast ⊢
    exact Or.inr ⟨r, by simp, by simpa using hlast⟩

/-! ## The latest view -/

def ShowsSnapshot (builder : SnapshotBuilder D) (f : Feed D) : Prop :=
  f.views.head? = some (builder f.futureBuilder.snapshot)

theorem mount_showsSnapshot : (mount builder : Feed D).ShowsSnapshot builder := rfl

theorem step_showsSnapshot {f f' : Feed D} {e : FeedEvent} (hf : f.ShowsSnapshot builder)
    (h : step codec sdk builder f e = some f') : f'.ShowsSnapshot builder := by
  rcases step_cases h with ⟨rfl, rfl⟩ | ⟨request, response, rfl, _, rfl⟩
  · rfl
  · rcases respond_cases codec sdk builder f request response with ⟨_, h'⟩ | ⟨_, h'⟩
    · rw [h']
      rfl
    · rw [h']
      exact hf

theorem run_latest_view {es : List FeedEvent} {f : Feed D}
    (h : run (step codec sdk builder) (mount builder) es = some f) :
    f.views.head? = some (builder f.futureBuilder.snapshot) :=
  run_invariant (P := ShowsSnapshot builder) step_showsSnapshot mount_showsSnapshot h

/-! ## The builder callbacks -/

section

variable {answers : List (Dart (News D))}

theorem safeAfter_settled (w : FeedWidget) {r : Dart (News D)} (hr : r ∈ answers) :
    (w.builder (FutureBuilder.settled r)).SafeAfter answers := by
  cases r with
  | ok n =>
      have hview : w.builder (FutureBuilder.settled (.ok n)) = .content (some n) := by cases w <;> rfl
      rw [hview]
      exact ⟨by simp, Or.inl ⟨n, hr⟩⟩
  | error e =>
      have hview : w.builder (FutureBuilder.settled (.error e)) = (.error "Hata: true" : View D) := by
        cases w <;> rfl
      rw [hview]
      exact View.IsFallback.safeAfter (Or.inr ⟨_, rfl⟩) answers

/-- Waiting again, `WholeNews` shows the spinner and `BreakingNewsScroll` what it showed. -/
theorem safeAfter_waiting (w : FeedWidget) {s : AsyncSnapshot (News D)}
    (h : (w.builder s).SafeAfter answers) : (w.builder (s.inState .waiting)).SafeAfter answers := by
  cases w with
  | wholeNews => exact View.IsFallback.safeAfter (Or.inl rfl) answers
  | breakingNewsScroll => exact h

/-- The initial snapshot is shown as the spinner by `WholeNews` only. -/
theorem safeAfter_initial (w : FeedWidget) :
    (w.builder ⟨.waiting, none, none⟩).SafeAfter answers ↔ w = .wholeNews := by
  cases w with
  | wholeNews => exact iff_of_true (View.IsFallback.safeAfter (Or.inl rfl) answers) rfl
  | breakingNewsScroll => exact iff_of_false (fun h => h.1 rfl) (by simp)

/-- After a run: once an answer was heard both widgets are safe, and before only `WholeNews` is. -/
theorem safeAfter_run (w : FeedWidget) {es : List FeedEvent} {f : Feed D}
    (h : run (step codec sdk builder) (mount builder) es = some f) :
    (w.builder f.futureBuilder.snapshot).SafeAfter (heard codec sdk 1 es) ↔
      w = .wholeNews ∨ heard codec sdk 1 es ≠ [] := by
  rcases run_mount_snapshot h with ⟨hnone, hs⟩ | ⟨r, hr, hs⟩
  · rw [hs, safeAfter_initial]
    simp [hnone]
  · refine iff_of_true ?_ (Or.inr (List.ne_nil_of_mem hr))
    rcases hs with hs | hs
    · rw [hs]
      exact safeAfter_settled w hr
    · rw [hs]
      exact safeAfter_waiting w (safeAfter_settled w hr)

end

end Feed

end NewsApp
