import Mathlib.Data.List.Perm.Basic
import Mathlib.Logic.Relation
import NewsApp.Lib.Simulation
import NewsApp.Login.Lemmas.Protocol

/-!
# Every sign-in ends once

A ledger is kept along the run. It numbers the calls that the taps start, follows each of them through the
calls of the sign-in with Google, and notes how it ends. The app does not see the ledger.
-/

namespace NewsApp.Login

open Lib

/-! ## Ends of sign-ins -/

/-- How a sign-in ends. The error is that of the disposed page. -/
inductive Fate
  | report (success : Bool) (message : String)
  | snackBar (text : String)
  | welcome (snackBar : Option String)
  | error
  deriving DecidableEq, Repr

namespace Fate

def texts : Fate → List String
  | .snackBar text => [text]
  | .welcome text => text.toList
  | _ => []

def errors : Fate → List DartError
  | .error => [.disposedError]
  | _ => []

/-- What the end of a sign-in does to its page and to the route on top. -/
def Shown (w w' : World) (page : Nat) : Fate → Prop
  | .report success message =>
      w.mounted page = true ∧ w'.current = w.current ∧
        w'.pages = w.pages.modify page fun p => { p with success := some success, message := some message }
  | .snackBar _ => w.mounted page = true ∧ w'.current = w.current ∧ w'.pages = w.pages
  | .welcome _ => w.mounted page = true ∧ w'.current = .home ∧ w'.pages = w.pages
  | .error => w.mounted page = false ∧ w'.current = w.current

/-- The step from `w` to `w'` is this end of a sign-in of the page. -/
structure Happened (fate : Fate) (w w' : World) (page : Nat) : Prop where
  shown : fate.Shown w w' page
  snackBars : w'.snackBars = w.snackBars ++ fate.texts
  unhandled : w'.unhandled = w.unhandled ++ fate.errors

end Fate

/-! ## The ledger -/

/-- The calls of the taps, in their order; the calls under way, each with the number of the tap that it goes
back to; and the ends of the others, in their order. -/
structure Ledger where
  calls : List Task
  underWay : List (Task × Nat)
  ended : List (Fate × Nat)

namespace Ledger

def empty : Ledger := ⟨[], [], []⟩

def start (l : Ledger) (tasks : List Task) : Ledger :=
  { l with calls := l.calls ++ tasks, underWay := l.underWay ++ tasks.zipIdx l.calls.length }

def await (l : Ledger) (i : Nat) (task : Task) (call : Nat) : Ledger :=
  { l with underWay := l.underWay.eraseIdx i ++ [(task, call)] }

def close (l : Ledger) (i : Nat) (fate : Fate) (call : Nat) : Ledger :=
  { l with underWay := l.underWay.eraseIdx i, ended := l.ended ++ [(fate, call)] }

/-- What the ledger notes of an event, before the app takes it. -/
def note (env : Env) (w : World) (l : Ledger) : Event → Ledger
  | .answer i answer =>
      match l.underWay[i]? with
      | none => l
      | some (task, call) =>
          let close (fate : Fate) := l.close i (if w.mounted task.page then fate else .error) call
          match outcome env (w.authenticate answer).currentUser task.await answer with
          | none => l
          | some (.await next) => l.await i ⟨task.page, next⟩ call
          | some (.report success message _) => close (.report success message)
          | some (.snackBar text) => close (.snackBar text)
          | some (.welcome text) => close (.welcome text)
  | e => l.start e.started

end Ledger

/-- The app with its ledger. -/
def ledgerStep (env : Env) (s : World × Ledger) (e : Event) : Option (World × Ledger) :=
  (World.step env s.1 e).map fun w => (w, s.2.note env s.1 e)

/-- An answer in the run has met the call under this number, and ended it so. -/
def HasEnded (env : Env) (currentUser : Option User) (es : List Event) (calls : List Task) (fate : Fate)
    (n : Nat) : Prop :=
  ∃ call es₁ i answer es₂ w₁ l₁ w₂ task, calls[n]? = some call ∧ es = es₁ ++ .answer i answer :: es₂ ∧
    run (ledgerStep env) (World.init currentUser, .empty) es₁ = some (w₁, l₁) ∧
    l₁.underWay[i]? = some (task, n) ∧ World.step env w₁ (.answer i answer) = some w₂ ∧
    fate.Happened w₁ w₂ call.page

/-- Each call that a tap has started is under way or has ended, and not twice; and each end has happened. -/
structure Ledger.Accounts (env : Env) (currentUser : Option User) (es : List Event) (w : World)
    (l : Ledger) : Prop where
  calls : l.calls = es.flatMap Event.started
  once : (l.underWay.map Prod.snd ++ l.ended.map Prod.snd).Perm (List.range l.calls.length)
  pending : l.underWay.map Prod.fst = w.pending
  underWay : ∀ task n, (task, n) ∈ l.underWay → ∃ call, l.calls[n]? = some call ∧ call.page = task.page ∧
    Relation.ReflTransGen Await.Next call.await task.await
  ended : ∀ fate n, (fate, n) ∈ l.ended → HasEnded env currentUser es l.calls fate n
  snackBars : w.snackBars = l.ended.flatMap fun x => x.1.texts
  unhandled : w.unhandled = l.ended.flatMap fun x => x.1.errors

/-! ## Steps -/

variable {env : Env} {w w' : World} {l : Ledger}

open World

/-- What a step does to the app and to the ledger. -/
theorem note_cases {e : Event} (h : protocolStep env w e = some w')
    (hpending : l.underWay.map Prod.fst = w.pending) :
    (∃ i answer task n next, e = .answer i answer ∧ l.underWay[i]? = some (task, n) ∧ task.await.Next next ∧
      l.note env w e = l.await i ⟨task.page, next⟩ n ∧
      w'.pending = w.pending.eraseIdx i ++ [⟨task.page, next⟩] ∧ w'.snackBars = w.snackBars ∧
      w'.unhandled = w.unhandled) ∨
    (∃ i answer task n fate, e = .answer i answer ∧ l.underWay[i]? = some (task, n) ∧
      l.note env w e = l.close i fate n ∧ w'.pending = w.pending.eraseIdx i ∧
      fate.Happened w w' task.page) ∨
    (l.note env w e = l.start e.started ∧ w'.pending = w.pending ++ e.started ∧
      w'.snackBars = w.snackBars ∧ w'.unhandled = w.unhandled) := by
  rcases protocolStep_cases h with ⟨i, answer, task, o, rfl, htask, ho, rfl⟩ | ⟨hanswer, _, _, rfl⟩ |
    ⟨rfl, _, rfl⟩ | ⟨rfl, rfl⟩ | ⟨page, rfl, _, _, rfl⟩
  · obtain ⟨n, hn⟩ : ∃ n, l.underWay[i]? = some (task, n) := by
      rw [← hpending, List.getElem?_map, Option.map_eq_some_iff] at htask
      obtain ⟨⟨_, n⟩, hn, rfl⟩ := htask
      exact ⟨n, hn⟩
    have hmounted : (w.answered i answer).mounted task.page = w.mounted task.page := rfl
    rcases perform_cases env.asserts (w.answered i answer) task.page o with ⟨next, rfl, h'⟩ |
      ⟨hnext, hpage, h'⟩ | ⟨hnext, hpage, h'⟩
    · rw [h']
      refine Or.inl ⟨i, answer, task, n, next, rfl, hn, outcome_await ho, ?_, rfl, rfl, rfl⟩
      simp only [Ledger.note, hn, ho]
    · rw [h']
      rw [hmounted] at hpage
      cases o with
      | await next => cases hnext
      | report success message late =>
          refine Or.inr (Or.inl ⟨i, answer, task, n, .report success message, rfl, hn, ?_, rfl,
            ⟨hpage, rfl, rfl⟩, (List.append_nil _).symm, (List.append_nil _).symm⟩)
          simp only [Ledger.note, hn, ho, hpage, if_true]
      | snackBar text =>
          refine Or.inr (Or.inl ⟨i, answer, task, n, .snackBar text, rfl, hn, ?_, rfl, ⟨hpage, rfl, rfl⟩,
            rfl, (List.append_nil _).symm⟩)
          simp only [Ledger.note, hn, ho, hpage, if_true]
      | welcome text =>
          refine Or.inr (Or.inl ⟨i, answer, task, n, .welcome text, rfl, hn, ?_, rfl, ⟨hpage, rfl, rfl⟩,
            rfl, (List.append_nil _).symm⟩)
          simp only [Ledger.note, hn, ho, hpage, if_true]
    · rw [h']
      rw [hmounted] at hpage
      refine Or.inr (Or.inl ⟨i, answer, task, n, .error, rfl, hn, ?_, rfl, ⟨hpage, rfl⟩,
        (List.append_nil _).symm, rfl⟩)
      simp only [Ledger.note, hn, ho, hpage]
      cases o with
      | await next => cases hnext
      | _ => rfl
  · have hnote : l.note env w e = l.start e.started := by
      cases e with
      | answer i answer => exact absurd rfl (hanswer i answer)
      | _ => rfl
    exact Or.inr (Or.inr ⟨hnote, rfl, rfl, rfl⟩)
  · exact Or.inr (Or.inr ⟨rfl, (List.append_nil _).symm, rfl, rfl⟩)
  · exact Or.inr (Or.inr ⟨rfl, (List.append_nil _).symm, rfl, rfl⟩)
  · exact Or.inr (Or.inr ⟨rfl, (List.append_nil _).symm, rfl, rfl⟩)

/-! ## Runs -/

theorem eraseIdx_perm {α : Type} {xs : List α} {i : Nat} {a : α} (h : xs[i]? = some a) :
    (xs.eraseIdx i ++ [a]).Perm xs := by
  obtain ⟨hi, rfl⟩ := List.getElem?_eq_some_iff.mp h
  exact List.perm_append_comm.trans (List.getElem_cons_eraseIdx_perm hi)

theorem map_snd_perm_of_close {i : Nat} {task : Task} {n : Nat} (hn : l.underWay[i]? = some (task, n))
    (fate : Fate) : ((l.close i fate n).underWay.map Prod.snd ++ (l.close i fate n).ended.map Prod.snd).Perm
      (l.underWay.map Prod.snd ++ l.ended.map Prod.snd) := by
  have hperm := ((eraseIdx_perm hn).map Prod.snd).append_right (l.ended.map Prod.snd)
  refine List.Perm.trans ?_ hperm
  simp only [Ledger.close, List.map_append, List.append_assoc]
  exact List.Perm.append_left _ List.perm_append_comm

theorem map_snd_perm_of_start (tasks : List Task)
    (h : (l.underWay.map Prod.snd ++ l.ended.map Prod.snd).Perm (List.range l.calls.length)) :
    ((l.start tasks).underWay.map Prod.snd ++ (l.start tasks).ended.map Prod.snd).Perm
      (List.range (l.start tasks).calls.length) := by
  have hrange : List.range (l.calls.length + tasks.length) =
      List.range l.calls.length ++ List.range' l.calls.length tasks.length := by
    simp only [List.range_eq_range']
    simpa using (List.range'_append_1 (s := 0) (m := l.calls.length) (n := tasks.length)).symm
  simp only [Ledger.start, List.map_append, List.length_append, List.zipIdx_map_snd, List.append_assoc, hrange]
  refine (List.Perm.append_left _ List.perm_append_comm).trans ?_
  rw [← List.append_assoc]
  exact h.append_right _

variable {currentUser : Option User} {es : List Event}

/-- The ends of calls stay, whatever comes after. -/
theorem HasEnded.concat {calls calls' : List Task} {fate : Fate} {n : Nat}
    (h : HasEnded env currentUser es calls fate n) (e : Event)
    (hcalls : ∀ (n : Nat) call, calls[n]? = some call → calls'[n]? = some call) :
    HasEnded env currentUser (es ++ [e]) calls' fate n := by
  obtain ⟨call, es₁, i, answer, es₂, w₁, l₁, w₂, task, hcall, hes, hrest⟩ := h
  exact ⟨call, es₁, i, answer, es₂ ++ [e], w₁, l₁, w₂, task, hcalls n call hcall, by simp [hes], hrest⟩

theorem Ledger.Accounts.concat (h : l.Accounts env currentUser es w) {e : Event}
    (hrun : run (ledgerStep env) (World.init currentUser, .empty) es = some (w, l))
    (hstep : step env w e = some w') : (l.note env w e).Accounts env currentUser (es ++ [e]) w' := by
  rcases note_cases (w := w.withoutTouches) (step_of_protocolStep hstep) h.pending with
    ⟨i, answer, task, n, next, rfl, hn, hnext, hnote, hpending, hsnackBars, hunhandled⟩ |
    ⟨i, answer, task, n, fate, rfl, hn, hnote, hpending, hhappened⟩ |
    ⟨hnote, hpending, hsnackBars, hunhandled⟩
  · have hnote : l.note env w (.answer i answer) = l.await i ⟨task.page, next⟩ n := hnote
    obtain ⟨call, hcall, hpage, hleads⟩ := h.underWay task n (List.mem_of_getElem? hn)
    rw [hnote]
    refine ⟨by simp [Ledger.await, h.calls, Event.started], ?_, ?_, ?_, ?_,
      hsnackBars.trans h.snackBars, hunhandled.trans h.unhandled⟩
    · have hperm := ((eraseIdx_perm hn).map Prod.snd).append_right (l.ended.map Prod.snd)
      simpa [Ledger.await] using hperm.trans h.once
    · have hpending : w'.pending = w.pending.eraseIdx i ++ [⟨task.page, next⟩] := hpending
      simp [Ledger.await, hpending, ← h.pending, List.eraseIdx_map]
    · intro task' n' hmem
      rcases List.mem_append.mp hmem with hmem | hmem
      · exact h.underWay task' n' (List.mem_of_mem_eraseIdx hmem)
      · cases List.mem_singleton.mp hmem
        exact ⟨call, hcall, hpage, hleads.tail hnext⟩
    · exact fun fate n hended => (h.ended fate n hended).concat _ fun _ _ hcall => hcall
  · have hnote : l.note env w (.answer i answer) = l.close i fate n := hnote
    obtain ⟨call, hcall, hpage, _⟩ := h.underWay task n (List.mem_of_getElem? hn)
    have hhappened : fate.Happened w w' call.page := by
      rw [hpage]
      exact ⟨hhappened.shown, hhappened.snackBars, hhappened.unhandled⟩
    rw [hnote]
    refine ⟨by simp [Ledger.close, h.calls, Event.started], (map_snd_perm_of_close hn fate).trans h.once,
      ?_, ?_, ?_, ?_, ?_⟩
    · have hpending : w'.pending = w.pending.eraseIdx i := hpending
      simp [Ledger.close, hpending, ← h.pending, List.eraseIdx_map]
    · exact fun task' n' hmem => h.underWay task' n' (List.mem_of_mem_eraseIdx hmem)
    · intro fate' n' hended
      rcases List.mem_append.mp hended with hended | hended
      · exact (h.ended fate' n' hended).concat _ fun _ _ hcall => hcall
      · cases List.mem_singleton.mp hended
        exact ⟨call, es, i, answer, [], w, l, w', task, hcall, rfl, hrun, hn, hstep, hhappened⟩
    · simp [Ledger.close, hhappened.snackBars, h.snackBars]
    · simp [Ledger.close, hhappened.unhandled, h.unhandled]
  · have hnote : l.note env w e = l.start e.started := hnote
    have hcalls (n : Nat) (call : Task) (hcall : l.calls[n]? = some call) :
        (l.calls ++ e.started)[n]? = some call := by
      rw [List.getElem?_append_left (List.getElem?_eq_some_iff.mp hcall).1]
      exact hcall
    rw [hnote]
    refine ⟨by simp [Ledger.start, h.calls], map_snd_perm_of_start _ h.once, ?_, ?_, ?_,
      hsnackBars.trans h.snackBars, hunhandled.trans h.unhandled⟩
    · have hpending : w'.pending = w.pending ++ e.started := hpending
      simp [Ledger.start, hpending, ← h.pending]
    · intro task n hmem
      rcases List.mem_append.mp hmem with hmem | hmem
      · obtain ⟨call, hcall, hrest⟩ := h.underWay task n hmem
        exact ⟨call, hcalls n call hcall, hrest⟩
      · obtain ⟨hle, htask⟩ := List.mk_mem_zipIdx_iff_le_and_getElem?_sub.mp hmem
        refine ⟨task, ?_, rfl, .refl⟩
        simp only [Ledger.start]
        rw [List.getElem?_append_right hle]
        exact htask
    · exact fun fate n hended => (h.ended fate n hended).concat e hcalls

/-- Every run has its ledger. -/
theorem ledger_run (env : Env) (s : World × Ledger) (es : List Event) :
    run (step env) s.1 es = (run (ledgerStep env) s es).map Prod.fst := by
  have hstep (s : World × Ledger) (e : Event) :
      step env s.1 (id e) = (ledgerStep env s e).map Prod.fst := by
    simp [ledgerStep, Function.comp_def]
  have hmap := run_map hstep s es
  rwa [List.map_id] at hmap

/-- Every sign-in that a tap has started is under way or has ended once: with a report, a SnackBar, the home
page, or the error of its disposed page. -/
theorem signIns_accounted {currentUser : Option User} {es : List Event}
    (hrun : run (step env) (init currentUser) es = some w) :
    ∃ l, run (ledgerStep env) (init currentUser, .empty) es = some (w, l) ∧
      l.Accounts env currentUser es w := by
  have hmap := ledger_run env (init currentUser, Ledger.empty) es
  rw [hrun, eq_comm, Option.map_eq_some_iff] at hmap
  obtain ⟨⟨w, l⟩, hledger, rfl⟩ := hmap
  refine ⟨l, hledger, ?_⟩
  refine run_history (P := fun es (s : World × Ledger) => s.2.Accounts env currentUser es s.1) ?_ ?_ hledger
  · exact ⟨rfl, .refl _, rfl, fun _ _ h => absurd h List.not_mem_nil, fun _ _ h => absurd h List.not_mem_nil,
      rfl, rfl⟩
  · rintro es e ⟨w, l⟩ s hrun haccounts hstep
    obtain ⟨w', hw', rfl⟩ := Option.map_eq_some_iff.mp hstep
    exact haccounts.concat hrun hw'

/-- A sign-up that is refused, a sign-in, a second one that answers too late, and one with Google that is not
through. -/
def accountedEvents : List Event :=
  [.tapSignUp 0 "Ada" "ada@haber.com" "p", .tapLogin 0 "ada@haber.com" "p", .tapLogin 0 "ada@haber.com" "p",
    .answer 0 (.user (.error (.firebaseAuthException none))),
    .answer 0 (.user (.ok (some ⟨"u", some "ada@haber.com", none, false⟩))), .dispose 0,
    .answer 0 (.user (.ok (some ⟨"u", some "ada@haber.com", none, false⟩))), .tapSignOut, .tapGoogle 1,
    .answer 0 (.account (.ok (some ⟨⟩)))]

theorem signIns_accounted_sample :
    ∃ (w : World) (l : Ledger),
      run (step ⟨true, fun _ => .ok (), fun _ => "kullanımda"⟩) (init none) accountedEvents = some w ∧
      l.underWay = [(⟨1, .authentication ⟨⟩⟩, 3)] ∧
      l.ended = [(.report false "Kyıt başarısız. \n\nkullanımda", 0),
        (.welcome (some "ada@haber.com ile giriş yapıldı."), 1), (.error, 2)] ∧
      l.Accounts ⟨true, fun _ => .ok (), fun _ => "kullanımda"⟩ none accountedEvents w := by
  obtain ⟨w, hrun⟩ : ∃ w, run (step ⟨true, fun _ => .ok (), fun _ => "kullanımda"⟩) (init none)
    accountedEvents = some w := ⟨_, rfl⟩
  obtain ⟨l, hledger, haccounts⟩ := signIns_accounted hrun
  cases hledger
  exact ⟨_, _, hrun, rfl, rfl, haccounts⟩

end NewsApp.Login
