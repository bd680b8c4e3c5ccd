import NewsApp.Pages.WholeNews
import NewsApp.Pages.BreakingNewsScroll

/-!
# Steps and runs of a feed

Every rebuild issues a request and replaces the future, so the future of the `FutureBuilder` is always one
of the requests issued so far, and the next one is a different object.
-/

namespace NewsApp

open Lib

variable {D : Type} {codec : JsonCodec} {sdk : DateTimeSdk D} {builder : SnapshotBuilder D}

def FeedEvent.isRebuild : FeedEvent → Bool
  | .rebuild => true
  | .respond _ _ => false

namespace Feed

/-- What a step can do. -/
theorem step_cases {f f' : Feed D} {e : FeedEvent} (h : step codec sdk builder f e = some f') :
    (e = .rebuild ∧ f' = f.rebuild builder) ∨
      ∃ request response, e = .respond request response ∧ request ∈ f.pending ∧
        f' = f.respond codec sdk builder request response := by
  cases e with
  | rebuild => cases h; exact Or.inl ⟨rfl, rfl⟩
  | respond request response =>
      simp only [step, Option.ite_none_right_eq_some, Option.some.injEq] at h
      exact Or.inr ⟨request, response, rfl, h.1, h.2.symm⟩

/-! ## Answers -/

theorem hear_cases (codec : JsonCodec) (sdk : DateTimeSdk D) (f : Feed D) (request : Nat)
    (response : Dart String) :
    (f.futureBuilder.future = request ∧ f.hear codec sdk request response =
      ({ f with
        pending := f.pending.erase request
        futureBuilder := ⟨request, FutureBuilder.settled (decodeResponse codec sdk response)⟩ }, true)) ∨
      (f.futureBuilder.future ≠ request ∧
        f.hear codec sdk request response = ({ f with pending := f.pending.erase request }, false)) := by
  by_cases h : f.futureBuilder.future = request
  · left
    subst h
    exact ⟨rfl, by simp [hear, FutureBuilder.complete]⟩
  · right
    exact ⟨h, by simp [hear, FutureBuilder.complete, h]⟩

theorem respond_cases (codec : JsonCodec) (sdk : DateTimeSdk D) (builder : SnapshotBuilder D) (f : Feed D)
    (request : Nat) (response : Dart String) :
    (f.futureBuilder.future = request ∧ f.respond codec sdk builder request response =
      { f with
        pending := f.pending.erase request
        futureBuilder := ⟨request, FutureBuilder.settled (decodeResponse codec sdk response)⟩
        views := builder (FutureBuilder.settled (decodeResponse codec sdk response)) :: f.views }) ∨
      (f.futureBuilder.future ≠ request ∧ f.respond codec sdk builder request response =
        { f with pending := f.pending.erase request }) := by
  rcases hear_cases codec sdk f request response with ⟨h, hhear⟩ | ⟨h, hhear⟩
  · exact Or.inl ⟨h, by rw [respond, hhear]; rfl⟩
  · exact Or.inr ⟨h, by rw [respond, hhear]; rfl⟩

@[simp] theorem gets_respond (f : Feed D) (request : Nat) (response : Dart String) :
    (f.respond codec sdk builder request response).gets = f.gets := by
  rcases respond_cases codec sdk builder f request response with ⟨_, h⟩ | ⟨_, h⟩ <;> rw [h]

/-! ## The number of requests -/

theorem gets_run {es : List FeedEvent} {f f' : Feed D} (h : run (step codec sdk builder) f es = some f') :
    f'.gets = f.gets + es.countP FeedEvent.isRebuild := by
  induction es generalizing f with
  | nil => cases h; rfl
  | cons e es ih =>
      obtain ⟨f₁, hstep, hrun⟩ := Option.bind_eq_some_iff.mp h
      rw [ih hrun]
      rcases step_cases hstep with ⟨rfl, rfl⟩ | ⟨request, response, rfl, _, rfl⟩
      · rw [List.countP_cons_of_pos rfl, gets_rebuild]
        omega
      · simp [FeedEvent.isRebuild]

/-! ## The subscription -/

def Subscribed (f : Feed D) : Prop := f.futureBuilder.future < f.gets

theorem mount_subscribed : (mount builder : Feed D).Subscribed := by
  simp [Subscribed, mount_eq]

/-- After a rebuild the snapshot is in state waiting, with the data and the error that it had. -/
theorem rebuild_eq {f : Feed D} (hf : f.Subscribed) :
    f.rebuild builder =
      { gets := f.gets + 1
        pending := f.pending ++ [f.gets]
        futureBuilder := ⟨f.gets, f.futureBuilder.snapshot.inState .waiting⟩
        views := builder (f.futureBuilder.snapshot.inState .waiting) :: f.views } := by
  simp [rebuild, Http.getData, FutureBuilder.didUpdateWidget_of_ne (Nat.ne_of_lt hf)]

theorem step_subscribed {f f' : Feed D} {e : FeedEvent} (hf : f.Subscribed)
    (h : step codec sdk builder f e = some f') : f'.Subscribed := by
  rcases step_cases h with ⟨rfl, rfl⟩ | ⟨request, response, rfl, _, rfl⟩
  · rw [rebuild_eq hf]
    exact Nat.lt_succ_self f.gets
  · rcases respond_cases codec sdk builder f request response with ⟨hfuture, h'⟩ | ⟨_, h'⟩
    · rw [h']
      exact hfuture ▸ hf
    · rw [h']
      exact hf

theorem reachable_subscribed {f : Feed D} (h : Reachable (step codec sdk builder) (mount builder) f) :
    f.Subscribed :=
  h.invariant step_subscribed mount_subscribed

/-! ## Fallbacks -/

theorem noFallback_cons {f f' : Feed D} {v : View D} (h : f'.views = v :: f.views) :
    f'.NoFallback ↔ f.NoFallback ∧ ∀ w ∈ f.views, w.ShowsNews → ¬ v.IsFallback := by
  simp [NoFallback, h, List.pairwise_append]

end Feed

end NewsApp
