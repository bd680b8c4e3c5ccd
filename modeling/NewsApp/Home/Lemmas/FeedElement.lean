import NewsApp.Home.HomePage
import NewsApp.Pages.Answers

/-!
# Feeds in frames

A feed on the page goes through the states of a feed on its own, but for the calls of its builder callback:
several answers and a rebuild may share a frame, and then one call.
-/

namespace NewsApp.Home

open Lib

variable {D : Type} {codec : JsonCodec} {sdk : DateTimeSdk D} {builder : SnapshotBuilder D}

namespace FeedElement

variable {f f' : FeedElement D} {g : Feed D} {request : Nat} {response : Dart String}

theorem respond_eq_some (h : f.respond codec sdk request response = some f') :
    request ∈ f.pending ∧ f' = ⟨(f.toFeed.hear codec sdk request response).1,
      f.dirty || (f.toFeed.hear codec sdk request response).2⟩ := by
  simp only [respond, Option.ite_none_right_eq_some, Option.some.injEq] at h
  exact ⟨h.1, h.2.symm⟩

theorem gets_respond (h : f.respond codec sdk request response = some f') : f'.gets = f.gets := by
  obtain ⟨_, rfl⟩ := respond_eq_some h
  rcases Feed.hear_cases codec sdk f.toFeed request response with ⟨_, h'⟩ | ⟨_, h'⟩ <;> rw [h']

@[simp] theorem gets_frame_true (f : FeedElement D) : (f.frame builder true).gets = f.gets + 1 := rfl

@[simp] theorem gets_frame_false (f : FeedElement D) : (f.frame builder false).gets = f.gets := by
  cases h : f.dirty <;> simp [frame, h, Feed.callBuilder]

@[simp] theorem frame_dirty (rebuilds : Bool) (f : FeedElement D) :
    (f.frame builder rebuilds).dirty = false := by
  cases rebuilds <;> cases h : f.dirty <;> simp [frame, h]

/-! ## The feed on its own -/

/-- The feeds are the same but for what they have shown, and what the feed on the page shows is up to date
unless its `FutureBuilder` is dirty. -/
structure Follows (builder : SnapshotBuilder D) (f : FeedElement D) (g : Feed D) : Prop where
  feed : ∃ views, g = { f.toFeed with views }
  shown : f.dirty = false → f.views.head? = some (builder f.futureBuilder.snapshot)

theorem mount_follows : (mount builder : FeedElement D).Follows builder (.mount builder) :=
  ⟨⟨_, rfl⟩, fun _ => rfl⟩

theorem Follows.respond (h : f.Follows builder g) (hf : f.respond codec sdk request response = some f') :
    ∃ g', g.step codec sdk builder (.respond request response) = some g' ∧ f'.Follows builder g' := by
  obtain ⟨hpending, rfl⟩ := respond_eq_some hf
  obtain ⟨⟨views, rfl⟩, hshown⟩ := h
  refine ⟨_, if_pos hpending, ?_⟩
  rcases Feed.hear_cases codec sdk f.toFeed request response with ⟨hfuture, hhear⟩ | ⟨hfuture, hhear⟩
  · rcases Feed.respond_cases codec sdk builder { f.toFeed with views } request response with
      ⟨_, hrespond⟩ | ⟨hne, _⟩
    · rw [hhear, hrespond]
      exact ⟨⟨_, rfl⟩, fun hclean => absurd hclean (by simp)⟩
    · exact absurd hfuture hne
  · rcases Feed.respond_cases codec sdk builder { f.toFeed with views } request response with
      ⟨heq, _⟩ | ⟨_, hrespond⟩
    · exact absurd heq hfuture
    · rw [hhear, hrespond]
      exact ⟨⟨_, rfl⟩, fun hclean => hshown (by simpa using hclean)⟩

theorem Follows.rebuild (h : f.Follows builder g) :
    (f.frame builder true).Follows builder (g.rebuild builder) := by
  obtain ⟨⟨views, rfl⟩, _⟩ := h
  exact ⟨⟨_, rfl⟩, fun _ => rfl⟩

theorem Follows.keep (h : f.Follows builder g) : (f.frame builder false).Follows builder g := by
  unfold frame
  simp only [Bool.false_eq_true, if_false]
  split_ifs
  · exact ⟨h.feed, fun _ => rfl⟩
  · exact h

section

variable {es : List FeedEvent}

/-- When its `FutureBuilder` is not dirty, a feed on the page shows what it would show on its own. -/
theorem Follows.head_views (h : f.Follows builder g)
    (hrun : run (Feed.step codec sdk builder) (Feed.mount builder) es = some g) (hclean : f.dirty = false) :
    f.views.head? = g.views.head? := by
  rw [Feed.run_latest_view hrun, h.shown hclean]
  obtain ⟨views, rfl⟩ := h.feed
  rfl

theorem Follows.newest_answer_shown (h : f.Follows builder g)
    (hrun : run (Feed.step codec sdk builder) (Feed.mount builder) es = some g) (hclean : f.dirty = false)
    (hanswered : f.gets - 1 ∉ f.pending) :
    ∃ response, .respond (f.gets - 1) response ∈ es ∧
      f.views.head? = some (builder (FutureBuilder.settled (Feed.decodeResponse codec sdk response))) := by
  rw [h.head_views hrun hclean]
  obtain ⟨views, rfl⟩ := h.feed
  exact Feed.newest_answer_shown hrun hanswered

theorem Follows.answered_newest_shown (h : f.Follows builder g)
    (hrun : run (Feed.step codec sdk builder) (Feed.mount builder) es = some g) (hclean : f.dirty = false)
    (hanswer : .respond (f.gets - 1) response ∈ es) :
    f.views.head? = some (builder (FutureBuilder.settled (Feed.decodeResponse codec sdk response))) := by
  rw [h.head_views hrun hclean]
  obtain ⟨views, rfl⟩ := h.feed
  exact Feed.answered_newest_shown hrun hanswer

end

/-! ## Two answers -/

/-- The answers of two requests can come in either order. -/
theorem respond_comm {request' : Nat} (hne : request ≠ request') (f : FeedElement D)
    (response response' : Dart String) :
    (f.respond codec sdk request response).bind (fun f' => f'.respond codec sdk request' response') =
      (f.respond codec sdk request' response').bind fun f' => f'.respond codec sdk request response := by
  have hmem : request' ∈ f.pending.erase request ↔ request' ∈ f.pending := List.mem_erase_of_ne hne.symm
  have hmem' : request ∈ f.pending.erase request' ↔ request ∈ f.pending := List.mem_erase_of_ne hne
  obtain ⟨hfeed, hheard, hheard'⟩ :
      _ ∧ _ ∧ (Feed.hear codec sdk (f.toFeed.hear codec sdk request' response').1 request response).2 = _ :=
    Feed.hear_comm hne f.toFeed response response'
  by_cases hpending : request ∈ f.pending <;> by_cases hpending' : request' ∈ f.pending <;>
    simp [respond, hpending, hpending', hmem, hmem', hfeed, hheard, hheard', Bool.or_assoc, Bool.or_comm,
      Bool.or_left_comm]

end FeedElement

end NewsApp.Home
