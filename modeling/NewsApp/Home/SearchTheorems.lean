import NewsApp.Home.Search
import NewsApp.Lib.Simulation

/-!
# Consistency of the search

The runs along which search mode, local history and query stay consistent are exactly those that neither
tap the clear button nor press Back in search mode.
-/

namespace NewsApp.Home.Route

open Lib

/-! ## Steps -/

/-- What a step can do. -/
theorem step_cases {r r' : Route} {e : SearchEvent} (h : step r e = some r') :
    (e = .tapSearch ∧ r.search.isSearching = false ∧ r' = r.startSearch) ∨
    (∃ text, e = .type text ∧ r.search.isSearching = true ∧
      r' = { r with search := ⟨text, some text, r.search.isSearching⟩ }) ∨
    (e = .tapClear ∧ r.search.isSearching = true ∧ r' = { r with search := r.search.onClear }) ∨
    (e = .back ∧ r' = r.pop) := by
  cases e with
  | tapSearch =>
      simp only [step, Option.ite_none_right_eq_some, Option.some.injEq, Bool.and_eq_true,
        Bool.not_eq_true'] at h
      exact Or.inl ⟨rfl, h.1.2, h.2.symm⟩
  | type text =>
      simp only [step, Option.ite_none_right_eq_some, Option.some.injEq, Bool.and_eq_true] at h
      exact Or.inr (Or.inl ⟨text, rfl, h.1.2, h.2.symm⟩)
  | tapClear =>
      simp only [step, Option.ite_none_right_eq_some, Option.some.injEq, Bool.and_eq_true] at h
      exact Or.inr (Or.inr (Or.inl ⟨rfl, h.1.2, h.2.symm⟩))
  | back =>
      simp only [step, Option.ite_none_right_eq_some, Option.some.injEq] at h
      exact Or.inr (Or.inr (Or.inr ⟨rfl, h.2.symm⟩))

theorem clearSearchQuery_query_ne (s : Search) :
    ¬ (s.clearSearchQuery.query = none ∨ s.clearSearchQuery.query = some s.clearSearchQuery.text) := by
  simp [Search.clearSearchQuery, Search.updateSearchQuery]

theorem not_consistent_of_clear {r : Route} {s : Search} (hquery : r.search.query = s.clearSearchQuery.query)
    (htext : r.search.text = s.clearSearchQuery.text) : ¬ r.Consistent := by
  intro h
  have hq := h.query
  rw [hquery, htext] at hq
  exact clearSearchQuery_query_ne s hq

/-! ## Runs -/

structure Inv (r : Route) : Prop where
  consistent : r.Consistent
  length_le : r.localHistory.length ≤ 1
  onRemove : ∀ f ∈ r.localHistory, f = Search.stopSearching

theorem Inv.localHistory_eq_nil {r : Route} (h : r.Inv) (hmode : r.search.isSearching = false) :
    r.localHistory = [] := by
  have hlen : r.localHistory.length ≠ 1 := fun hone => by
    rw [h.consistent.mode.mpr hone] at hmode
    cases hmode
  have hle := h.length_le
  exact List.length_eq_zero_iff.mp (by omega)

theorem startSearch_inv {r : Route} (h : r.Inv) (hmode : r.search.isSearching = false) :
    r.startSearch.Inv := by
  have hnil := h.localHistory_eq_nil hmode
  refine ⟨⟨by simp [startSearch, hnil], h.consistent.query⟩, by simp [startSearch, hnil], ?_⟩
  simp [startSearch, hnil]

theorem type_inv {r : Route} (h : r.Inv) (text : String) :
    Inv { r with search := ⟨text, some text, r.search.isSearching⟩ } :=
  ⟨⟨h.consistent.mode, Or.inr rfl⟩, h.length_le, h.onRemove⟩

/-- With an entry on the local history, Back runs `stopSearching`, which clears the query. -/
theorem pop_not_consistent {r : Route} (h : r.Inv) (hne : r.localHistory ≠ []) : ¬ r.pop.Consistent := by
  obtain ⟨f, rest, hlist⟩ := List.exists_cons_of_ne_nil hne
  have hf : f = Search.stopSearching := h.onRemove f (by rw [hlist]; exact List.mem_cons_self)
  apply not_consistent_of_clear (s := r.search) <;> simp [pop, hlist, hf, Search.stopSearching]

theorem pop_inv {r : Route} (h : r.Inv) (hnil : r.localHistory = []) : r.pop.Inv ∧ r.BackWorks r.pop := by
  have hpop : r.pop = { r with left := true } := by simp [pop, hnil]
  have hmode : r.search.isSearching = false := by
    have hm := h.consistent.mode
    simpa [hnil] using hm
  rw [hpop]
  exact ⟨⟨⟨h.consistent.mode, h.consistent.query⟩, h.length_le, h.onRemove⟩, fun _ => hmode, fun _ => hnil⟩

theorem step_inv {r r' : Route} {e : SearchEvent} (h : r.Inv) (hstep : step r e = some r') :
    (SearchOnly r e → r'.Inv ∧ StepConsistent r e r') ∧ (StepConsistent r e r' → SearchOnly r e) := by
  rcases step_cases hstep with ⟨rfl, hmode, rfl⟩ | ⟨text, rfl, _, rfl⟩ | ⟨rfl, _, rfl⟩ | ⟨rfl, rfl⟩
  · have hinv := startSearch_inv h hmode
    exact ⟨fun _ => ⟨hinv, hinv.consistent, by simp⟩, fun _ => ⟨by simp, by simp⟩⟩
  · have hinv := type_inv h text
    exact ⟨fun _ => ⟨hinv, hinv.consistent, by simp⟩, fun _ => ⟨by simp, by simp⟩⟩
  · -- the clear button always leaves the hint as the query
    refine ⟨fun hC => absurd rfl hC.1, fun hR => absurd hR.1 ?_⟩
    exact not_consistent_of_clear rfl rfl
  · refine ⟨fun hC => ?_, fun hR => ⟨by simp, fun _ => ?_⟩⟩
    · obtain ⟨hinv, hback⟩ := pop_inv h (hC.2 rfl)
      exact ⟨hinv, hinv.consistent, fun _ => hback⟩
    · by_contra hne
      exact pop_not_consistent h hne hR.1

theorem startSearch_clear {r : Route} (hleft : r.left = false) (hmode : r.search.isSearching = false)
    (htext : r.search.text = "") :
    run step r [.tapSearch, .tapClear] = some {
      search := ⟨"", some "Search query", false⟩
      localHistory := Search.stopSearching :: r.localHistory
      left := false } := by
  obtain ⟨⟨text, query, isSearching⟩, localHistory, left⟩ := r
  simp only at hleft hmode htext
  subst hleft hmode htext
  rfl

/-- Every such cycle leaves an entry on the local history, although search mode is off. -/
theorem leftover_entries (n : Nat) :
    ∃ r, run step init (List.replicate n [SearchEvent.tapSearch, .tapClear]).flatten = some r ∧
      r.localHistory.length = n ∧ r.left = false ∧ r.search.isSearching = false ∧ r.search.text = "" := by
  induction n with
  | zero => exact ⟨init, rfl, rfl, rfl, rfl, rfl⟩
  | succ n ih =>
      obtain ⟨r, hrun, hlen, hleft, hmode, htext⟩ := ih
      refine ⟨⟨⟨"", some "Search query", false⟩, Search.stopSearching :: r.localHistory, false⟩, ?_, ?_,
        rfl, rfl, rfl⟩
      · rw [List.replicate_succ', List.flatten_append, run_append, hrun]
        simpa using startSearch_clear hleft hmode htext
      · simp [hlen]

/-! ## Leaving the page -/

def searches : SearchEvent → Nat
  | .tapSearch => 1
  | _ => 0

def backs : SearchEvent → Nat
  | .back => 1
  | _ => 0

theorem not_left_of_step {r r' : Route} {e : SearchEvent} (h : step r e = some r') : r.left = false := by
  cases e <;> simp only [step, Option.ite_none_right_eq_some, Bool.and_eq_true, Bool.not_eq_true'] at h <;>
    simp [h]

/-- A search that was started is on the local history until a Back undoes it, and the Back that finds none
leaves. -/
structure Undone (es : List SearchEvent) (r : Route) : Prop where
  length : r.localHistory.length + (es.map backs).sum = (es.map searches).sum + r.left.toNat
  left : r.left = true → r.localHistory = []

theorem step_undone {es : List SearchEvent} {r r' : Route} {e : SearchEvent} (hr : r.Undone es)
    (h : step r e = some r') : r'.Undone (es ++ [e]) := by
  have hlength := hr.length
  have hleft := not_left_of_step h
  rw [hleft] at hlength
  rcases step_cases h with ⟨rfl, _, rfl⟩ | ⟨text, rfl, _, rfl⟩ | ⟨rfl, _, rfl⟩ | ⟨rfl, rfl⟩
  · refine ⟨?_, fun h' => nomatch hleft.symm.trans h'⟩
    simp only [startSearch, hleft, List.length_cons, List.map_append, List.map_cons, List.map_nil,
      List.sum_append, List.sum_cons, List.sum_nil, backs, searches, Bool.toNat_false] at hlength ⊢
    omega
  · exact ⟨by simpa [hleft, backs, searches] using hlength, hr.left⟩
  · exact ⟨by simpa [hleft, backs, searches] using hlength, hr.left⟩
  · cases hhistory : r.localHistory with
    | nil =>
        rw [pop, hhistory]
        refine ⟨?_, fun _ => rfl⟩
        simp only [hhistory, List.length_nil, List.map_append, List.map_cons, List.map_nil, List.sum_append,
          List.sum_cons, List.sum_nil, backs, searches, Bool.toNat_false, Bool.toNat_true] at hlength ⊢
        omega
    | cons onRemove rest =>
        rw [pop, hhistory]
        refine ⟨?_, fun h' => nomatch hleft.symm.trans h'⟩
        simp only [hhistory, hleft, List.length_cons, List.map_append, List.map_cons, List.map_nil,
          List.sum_append, List.sum_cons, List.sum_nil, backs, searches, Bool.toNat_false] at hlength ⊢
        omega

/-- Back leaves the home page exactly when it has been pressed once more often than the search was started,
however often the clear button has ended the search in between. -/
theorem left_iff_backs {es : List SearchEvent} {r : Route} (hrun : run step init es = some r) :
    r.left = true ↔ (es.map backs).sum = (es.map searches).sum + 1 := by
  have hundone : r.Undone es := run_history (P := fun es r => r.Undone es) ⟨rfl, nofun⟩
    (fun _ hr h => step_undone hr h) hrun
  have hlength := hundone.length
  cases hleft : r.left with
  | true =>
      rw [hundone.left hleft, hleft] at hlength
      simp only [List.length_nil, Bool.toNat_true] at hlength
      simp only [true_iff]
      omega
  | false =>
      rw [hleft] at hlength
      simp only [Bool.toNat_false] at hlength
      simp only [Bool.false_eq_true, false_iff]
      omega

theorem left_iff_backs_sample :
    ∃ r, run step init [.tapSearch, .tapClear, .back, .back] = some r ∧ r.left = true := by
  refine ⟨_, rfl, ?_⟩
  have hiff := left_iff_backs (show run step init [.tapSearch, .tapClear, .back, .back] = some _ from rfl)
  exact hiff.mpr rfl

end NewsApp.Home.Route
