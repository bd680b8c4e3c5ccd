import Mathlib.Data.List.InsertIdx
import NewsApp.Login.Lemmas.Protocol

/-!
# What is typed stays in the calls

The texts of the forms go into the calls, and the app never looks at them again: all that it shows is the
same for other texts, as long as the same fields are empty.
-/

namespace NewsApp.Login

open Lib

/-! ## Hidden texts -/

/-- Leaves of a text whether it is empty. -/
def hideText (s : String) : String := if s.isEmpty then "" else "•"

def Await.hide : Await → Await
  | .createUserWithEmailAndPassword email password =>
      .createUserWithEmailAndPassword (hideText email) (hideText password)
  | .signInWithEmailAndPassword email password =>
      .signInWithEmailAndPassword (hideText email) (hideText password)
  | await => await

def Task.hide (task : Task) : Task := { task with await := task.await.hide }

def Event.hide : Event → Event
  | .tapSignUp page nameSurname email password =>
      .tapSignUp page (hideText nameSurname) (hideText email) (hideText password)
  | .tapLogin page email password => .tapLogin page (hideText email) (hideText password)
  | e => e

def World.hide (w : World) : World := { w with pending := w.pending.map Task.hide }

/-! ## Steps -/

variable {env : Env} {w w' : World}

@[simp] theorem hideText_isEmpty (s : String) : (hideText s).isEmpty = s.isEmpty := by
  unfold hideText
  cases h : s.isEmpty <;> simp

@[simp] theorem validator_hideText (message text : String) :
    (validator message (hideText text)).isNone = (validator message text).isNone := by
  simp [validator]

theorem outcome_hide (currentUser : Option User) (await : Await) (answer : Answer) :
    outcome env currentUser await.hide answer = outcome env currentUser await answer := by
  cases await with
  | createUserWithEmailAndPassword email password =>
      rcases answer with (e | (_ | user)) | _ | _ | _ <;> rfl
  | signInWithEmailAndPassword email password =>
      rcases answer with (e | (_ | user)) | _ | _ | _ <;> rfl
  | _ => rfl

/-- The calls in the middle of the sign-in with Google have no texts of the forms. -/
theorem next_hide {currentUser : Option User} {await next : Await} {answer : Answer}
    (h : outcome env currentUser await answer = some (.await next)) : next.hide = next := by
  cases World.outcome_await h <;> rfl

namespace World

theorem start_hide (page : Nat) (await : Await) :
    (w.start page await).hide = w.hide.start page await.hide := by
  simp [start, hide, Task.hide]

theorem perform_hide (asserts : Bool) (page : Nat) {o : Outcome}
    (hnext : ∀ next, o = .await next → next.hide = next) :
    w.hide.perform asserts page o = (w.perform asserts page o).hide := by
  cases o with
  | await next =>
      simp only [perform, Outcome.next]
      rw [start_hide, hnext next rfl]
  | report success message late =>
      simp only [perform, Outcome.next]
      rw [apply_ite hide]
      cases asserts <;> rfl
  | _ =>
      simp only [perform, Outcome.next]
      rw [apply_ite hide]
      rfl

theorem protocolStep_hide (env : Env) (w : World) (e : Event) :
    protocolStep env w.hide e.hide = (protocolStep env w e).map hide := by
  cases e with
  | answer i answer =>
      simp only [protocolStep, Event.hide]
      have htask : w.hide.pending[i]? = w.pending[i]?.map Task.hide := List.getElem?_map
      rw [htask]
      cases w.pending[i]? with
      | none => rfl
      | some task =>
          have hanswered : w.hide.answered i answer = (w.answered i answer).hide := by
            simp [answered, hide, authenticate, List.eraseIdx_map]
          have huser : (w.answered i answer).hide.currentUser = (w.answered i answer).currentUser := rfl
          change (outcome env (w.hide.answered i answer).currentUser task.await.hide answer).map
            (perform env.asserts (w.hide.answered i answer) task.page) =
              ((outcome env (w.answered i answer).currentUser task.await answer).map
                (perform env.asserts (w.answered i answer) task.page)).map hide
          rw [hanswered, huser, outcome_hide]
          cases ho : outcome env (w.answered i answer).currentUser task.await answer with
          | none => rfl
          | some o =>
              refine congrArg some (perform_hide env.asserts task.page fun next hnext => ?_)
              exact next_hide (hnext ▸ ho)
  | tapSignUp page nameSurname email password =>
      have hvalid : validateSignUp (hideText nameSurname) (hideText email) (hideText password) =
          validateSignUp nameSurname email password := by simp [validateSignUp, validate]
      simp only [protocolStep, step, Event.hide, hvalid]
      rw [apply_ite (Option.map hide), Option.map_some, Option.map_none, apply_ite hide, start_hide]
      rfl
  | tapLogin page email password =>
      have hvalid : validateLogin (hideText email) (hideText password) = validateLogin email password := by
        simp [validateLogin, validate]
      simp only [protocolStep, step, Event.hide, hvalid]
      rw [apply_ite (Option.map hide), Option.map_some, Option.map_none, apply_ite hide, start_hide]
      rfl
  | tapGoogle page =>
      simp only [protocolStep, step, Event.hide]
      rw [apply_ite (Option.map hide), Option.map_some, Option.map_none, start_hide]
      rfl
  | _ =>
      simp only [protocolStep, step, Event.hide]
      rw [apply_ite (Option.map hide)]
      rfl

/-- What the app shows does not depend on the texts of the forms: two runs in which the same buttons are
tapped with the same fields empty, and the calls answer the same, can go equally far and end with the same
session, pages, SnackBars, errors and calls under way, but for the arguments of the calls. -/
theorem typed_texts_unread {currentUser : Option User} {es es' : List Event}
    (h : es.map Event.hide = es'.map Event.hide) :
    (run (step env) (init currentUser) es).map (fun w => w.withoutTouches.hide) =
      (run (step env) (init currentUser) es').map fun w => w.withoutTouches.hide := by
  have hhide (es : List Event) : run (protocolStep env) (init currentUser).hide (es.map Event.hide) =
      (run (step env) (init currentUser) es).map fun w => w.withoutTouches.hide := by
    have hprotocol := withoutTouches_run env (init currentUser) es
    rw [run_map (protocolStep_hide env)]
    change (run (protocolStep env) (init currentUser).withoutTouches es).map hide = _
    rw [hprotocol, Option.map_map]
    rfl
  rw [← hhide, ← hhide, h]

theorem typed_texts_unread_sample :
    (run (step ⟨true, fun _ => .ok (), fun _ => ""⟩) (init none)
      [.tapLogin 0 "ada@haber.com" "parola", .answer 0 (.user (.error .typeError))]).map
        (fun w => w.withoutTouches.hide) =
      (run (step ⟨true, fun _ => .ok (), fun _ => ""⟩) (init none)
        [.tapLogin 0 "can@haber.com" "p", .answer 0 (.user (.error .typeError))]).map
        fun w => w.withoutTouches.hide :=
  typed_texts_unread rfl

end World

end NewsApp.Login
