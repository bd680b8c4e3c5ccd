import NewsApp.Login.Lemmas.Disposal
import NewsApp.Login.Lemmas.Session

/-!
# The home page and its user, and the handlers of disposed pages

Both properties can be lost. Each holds along exactly those runs whose steps meet a condition.
-/

namespace NewsApp.Login.World

open Lib

variable {env : Env} {w w' : World}

/-! ## The home page belongs to a user -/

theorem HomeSignedIn.drawer (h : w.HomeSignedIn) (hhome : w.current = .home) :
    ∃ email, w.drawerEmail = .ok email := by
  obtain ⟨user, huser⟩ := Option.ne_none_iff_exists'.mp (h hhome)
  exact ⟨user.email, by simp [drawerEmail, huser, Except.map]⟩

theorem init_homeSignedIn (currentUser : Option User) : (init currentUser).HomeSignedIn :=
  fun hhome => by cases hhome

theorem step_homeSignedIn {e : Event} (hw : w.HomeSignedIn) (h : step env w e = some w') :
    w'.HomeSignedIn ↔ w.SessionKept e := by
  rcases step_cases h with ⟨i, answer, task, handler, rfl, htask, hresume, rfl⟩ | ⟨rfl, rfl⟩ | ⟨rfl, rfl⟩ |
    ⟨hanswer, hsignOut, hquiet⟩
  · by_cases hcredential : ∃ user, answer = .user (.ok user)
    · obtain ⟨user, rfl⟩ := hcredential
      cases user with
      | some user => exact iff_of_true (answer_some hresume rfl) trivial
      | none =>
          -- the session is gone, so the route decides
          rw [answer_none hresume rfl]
          refine and_congr_right fun _ => ?_
          constructor
          · intro hgoogle page tokens htask'
            rw [htask, Option.some.injEq] at htask'
            rw [htask'] at hgoogle
            exact hgoogle tokens rfl
          · intro hgoogle tokens hawait
            exact hgoogle task.page tokens (by rw [htask, ← hawait])
    · have hauthenticate : w.authenticate answer = w := by
        unfold authenticate
        split
        · exact absurd ⟨_, rfl⟩ hcredential
        · rfl
      rw [hauthenticate]
      refine iff_of_true (answer_other (fun user huser => hcredential ⟨user, huser⟩) hresume hw) ?_
      unfold SessionKept
      split <;> simp_all
  · exact iff_of_true (fun hhome => by cases hhome) trivial
  · exact ⟨fun h' hhome => h' hhome rfl, fun hhome h' => absurd h' hhome⟩
  · refine iff_of_true (fun hhome => ?_) ?_
    · rw [hquiet.currentUser]
      exact hw (hquiet.current.symm.trans hhome)
    · cases e with
      | answer i answer => exact absurd rfl (hanswer i answer)
      | signOutDone => exact absurd rfl hsignOut
      | _ => trivial

/-- Along every run, the home page belongs to a signed-in user exactly when the session is only lost away
from it. -/
theorem home_signedIn_iff (env : Env) (currentUser : Option User) (es : List Event) :
    Always (step env) HomeSignedIn (init currentUser) es ↔
      EachStep (step env) (fun w e _ => w.SessionKept e) (init currentUser) es :=
  always_iff_guarded (I := fun _ => True) (fun _ _ => trivial) (fun _ hw h => step_homeSignedIn hw h) trivial
    (init_homeSignedIn currentUser) es

/-- A credential of Google without a user opens the home page for nobody. -/
theorem google_opens_home_for_nobody :
    ¬ Always (step ⟨true, fun _ => .ok (), fun _ => ""⟩) HomeSignedIn (init none)
      [.tapGoogle 0, .answer 0 (.account (.ok (some ⟨⟩))),
        .answer 0 (.authentication (.ok ⟨some "a", some "i"⟩)), .answer 0 (.user (.ok none))] := by
  rw [always_iff_take]
  intro h
  exact h 4 _ rfl rfl rfl

/-- A sign-out that takes effect after the next sign-in leaves the home page without its user. -/
theorem late_signOut (env : Env) (user : User) (hhome : w.current = .home) :
    ∃ w', run (step env) w [.tapSignOut, .tapLogin w.pages.length "e" "p",
      .answer w.pending.length (.user (.ok (some user))), .signOutDone] = some w' ∧ ¬ w'.HomeSignedIn := by
  have hmounted : w.signOut.mounted w.pages.length = true := by simp [mounted, signOut, LoginPage.initState]
  let started := w.signOut.start w.pages.length (.signInWithEmailAndPassword "e" "p")
  have hsignOut : step env w .tapSignOut = some w.signOut := by simp [step, hhome]
  have hlogin : step env w.signOut (.tapLogin w.pages.length "e" "p") = some started := by
    simp only [step, hmounted, if_true]
    rfl
  let answered : World := { w.signOut with
    currentUser := some user
    pending := started.pending.eraseIdx w.pending.length }
  obtain ⟨next, w', hrun, rfl, hw'⟩ :=
    (signInWithEmailAndPassword_mounted (w := answered) hmounted user).exists_ok rfl
  have hanswer : step env started (.answer w.pending.length (.user (.ok (some user)))) = some w' := by
    have htask : started.pending[w.pending.length]? =
        some ⟨w.pages.length, .signInWithEmailAndPassword "e" "p"⟩ := List.getElem?_concat_length
    have hrunHandler : answered.runHandler w.pages.length
        (signInWithEmailAndPassword w.pages.length (.ok (some user))) = w' := by
      unfold runHandler
      rw [hrun]
    simp only [step, htask]
    exact congrArg some hrunHandler
  have hdone : step env w' .signOutDone =
      some { w' with currentUser := none, signOuts := w'.signOuts - 1 } := by
    have hsignOuts : w'.signOuts = w.signOuts + 1 := by rw [hw']; rfl
    simp [step, hsignOuts]
  refine ⟨{ w' with currentUser := none, signOuts := w'.signOuts - 1 }, ?_, fun h => h ?_ rfl⟩
  · rw [run_cons_of_step hsignOut, run_cons_of_step hlogin, run_cons_of_step hanswer, run_cons_of_step hdone]
    rfl
  · rw [hw']

/-! ## Disposed pages are left alone -/

theorem init_undisturbed (currentUser : Option User) : (init currentUser).Undisturbed :=
  ⟨by simp [init], rfl⟩

theorem step_undisturbed {e : Event} (hw : w.Undisturbed) (h : step env w e = some w') :
    w'.Undisturbed ↔ w.AnswersInTime env e := by
  rcases step_cases h with ⟨i, answer, task, handler, rfl, htask, hresume, rfl⟩ | ⟨rfl, rfl⟩ | ⟨rfl, rfl⟩ |
    ⟨hanswer, _, hquiet⟩
  · have hguard : w.AnswersInTime env (.answer i answer) ↔
        w.mounted task.page = true ∨ awaitsNext env task.await answer := by
      simp [AnswersInTime, htask]
    rw [hguard]
    cases hmounted : w.mounted task.page with
    | true => exact iff_of_true (runHandler_undisturbed (resume_returns hresume) ⟨hmounted, hw⟩) (Or.inl rfl)
    | false =>
        by_cases hnext : awaitsNext env task.await answer
        · obtain ⟨next, hrun⟩ := resume_awaits hnext hresume
            { w.authenticate answer with pending := w.pending.eraseIdx i }
          rw [runHandler_awaits hrun]
          exact iff_of_true hw (Or.inr hnext)
        · refine iff_of_false (runHandler_not_undisturbed (resume_throws hnext hresume) hmounted) ?_
          exact fun h' => h'.elim nofun hnext
  · exact iff_of_true hw trivial
  · exact iff_of_true hw trivial
  · refine iff_of_true ?_ ?_
    · unfold Undisturbed
      rw [hquiet.touches, hquiet.unhandled]
      exact hw
    · cases e with
      | answer i answer => exact absurd rfl (hanswer i answer)
      | _ => trivial

/-- Along every run, disposed pages are left alone exactly when the calls answer in time. -/
theorem undisturbed_iff (env : Env) (currentUser : Option User) (es : List Event) :
    Always (step env) Undisturbed (init currentUser) es ↔
      EachStep (step env) (fun w e _ => w.AnswersInTime env e) (init currentUser) es :=
  always_iff_guarded (I := fun _ => True) (fun _ _ => trivial) (fun _ hw h => step_undisturbed hw h) trivial
    (init_undisturbed currentUser) es

/-- The second of two sign-ins on one page answers when the first has replaced it. -/
theorem second_signIn_disturbs :
    ¬ Always (step ⟨true, fun _ => .ok (), fun _ => ""⟩) Undisturbed (init none)
      [.tapLogin 0 "e" "p", .tapLogin 0 "e" "p",
        .answer 0 (.user (.ok (some ⟨"u", none, none, false⟩))), .dispose 0,
        .answer 0 (.user (.ok (some ⟨"u", none, none, false⟩)))] := by
  rw [always_iff_take]
  intro h
  exact absurd (h 5 _ rfl).2 (List.cons_ne_nil _ _)

end NewsApp.Login.World
