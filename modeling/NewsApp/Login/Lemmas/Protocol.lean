import NewsApp.Login.Lemmas.Disposal
import NewsApp.Login.Lemmas.Outcome

/-!
# The steps of the protocol
-/

namespace NewsApp.Login

open Lib

/-- The call that a tap starts, unless a field of its form is empty. -/
def Event.started : Event → List Task
  | .tapSignUp page nameSurname email password =>
      if validateSignUp nameSurname email password then
        [⟨page, .createUserWithEmailAndPassword email password⟩]
      else []
  | .tapLogin page email password =>
      if validateLogin email password then [⟨page, .signInWithEmailAndPassword email password⟩] else []
  | .tapGoogle page => [⟨page, .googleSignIn⟩]
  | _ => []

/-- The calls that the sign-in with Google awaits one after the other. -/
inductive Await.Next : Await → Await → Prop
  | authentication (account : GoogleSignInAccount) : Next .googleSignIn (.authentication account)
  | signInWithCredential (account : GoogleSignInAccount) (tokens : GoogleSignInAuthentication) :
      Next (.authentication account) (.signInWithCredential tokens)
  | getIdToken (tokens : GoogleSignInAuthentication) (user : User) :
      Next (.signInWithCredential tokens) (.getIdToken user)

theorem Await.Next.ne_createUser {await next : Await} (h : await.Next next) (email password : String) :
    next ≠ .createUserWithEmailAndPassword email password := by
  cases h <;> simp

namespace World

variable {env : Env} {w w' : World} {page : Nat} {o : Outcome} {asserts : Bool}

/-! ## The app follows the table -/

/-- The app after an answer, before the code that the answer resumes. -/
def answered (w : World) (i : Nat) (answer : Answer) : World :=
  { w.authenticate answer with pending := w.pending.eraseIdx i }

@[simp] theorem answered_pending (w : World) (i : Nat) (answer : Answer) :
    (w.answered i answer).pending = w.pending.eraseIdx i := rfl

theorem Like.withoutTouches {v : World} (h : w.Like v) : v.withoutTouches = w.withoutTouches := by
  obtain ⟨touches, rfl⟩ := h
  rfl

theorem perform_withoutTouches (asserts : Bool) (w : World) (page : Nat) (o : Outcome) :
    (w.perform asserts page o).withoutTouches = w.withoutTouches.perform asserts page o := by
  unfold perform
  cases o with
  | await next => rfl
  | report success message late =>
      simp only [Outcome.next]
      rw [apply_ite withoutTouches]
      cases asserts <;> rfl
  | _ =>
      simp only [Outcome.next]
      rw [apply_ite withoutTouches]
      rfl

theorem step_protocol (env : Env) (w : World) (e : Event) :
    protocolStep env w.withoutTouches e = (step env w e).map withoutTouches := by
  cases e with
  | answer i answer =>
      have hpending : w.withoutTouches.pending = w.pending := rfl
      simp only [protocolStep, step, hpending]
      cases w.pending[i]? with
      | none => rfl
      | some task =>
          have hrel := resume_performs env (w.answered i answer) task.page task.await answer
          change Option.map (perform env.asserts (w.answered i answer).withoutTouches task.page)
            (outcome env (w.answered i answer).currentUser task.await answer) = _
          simp only
          generalize resume env task.page task.await answer = handler at hrel ⊢
          generalize outcome env (w.answered i answer).currentUser task.await answer = o at hrel ⊢
          cases hrel with
          | none => rfl
          | some hperforms =>
              have hlike := (runHandler_perform hperforms).withoutTouches
              rw [perform_withoutTouches] at hlike
              exact congrArg some hlike.symm
  | tapSignUp page nameSurname email password =>
      simp only [protocolStep, step]
      rw [apply_ite (Option.map withoutTouches)]
      cases validateSignUp nameSurname email password <;> rfl
  | tapLogin page email password =>
      simp only [protocolStep, step]
      rw [apply_ite (Option.map withoutTouches)]
      cases validateLogin email password <;> rfl
  | _ =>
      simp only [protocolStep, step]
      rw [apply_ite (Option.map withoutTouches)]
      rfl

theorem withoutTouches_run (env : Env) (w : World) (es : List Event) :
    run (protocolStep env) w.withoutTouches es = (run (step env) w es).map withoutTouches := by
  have hrun := run_map (g := id) (step_protocol env) w es
  rwa [List.map_id] at hrun

/-- Of what the touches have no part in, everything can be read off a run of the table. -/
theorem protocol_of_run {es : List Event} (hrun : run (step env) w es = some w') :
    run (protocolStep env) w.withoutTouches es = some w'.withoutTouches := by
  rw [withoutTouches_run, hrun]
  rfl

theorem step_of_protocolStep {e : Event} (h : step env w e = some w') :
    protocolStep env w.withoutTouches e = some w'.withoutTouches := by
  rw [step_protocol, h]
  rfl

/-- What a step can do. -/
theorem protocolStep_cases {e : Event} (h : protocolStep env w e = some w') :
    (∃ i answer task o, e = .answer i answer ∧ w.pending[i]? = some task ∧
      outcome env (w.authenticate answer).currentUser task.await answer = some o ∧
      w' = (w.answered i answer).perform env.asserts task.page o) ∨
    ((∀ i answer, e ≠ .answer i answer) ∧ e ≠ .tapSignOut ∧ (∀ task ∈ e.started, w.mounted task.page = true) ∧
      w' = { w with pending := w.pending ++ e.started }) ∨
    (e = .tapSignOut ∧ w.current = .home ∧ w' = w.signOut) ∨
    (e = .signOutDone ∧ w' = { w with currentUser := none, signOuts := w.signOuts - 1 }) ∨
    (∃ page, e = .dispose page ∧ w.mounted page = true ∧ w.current ≠ .login page ∧
      w' = { w with pages := w.pages.modify page fun p => { p with mounted := false } }) := by
  cases e with
  | answer i answer =>
      simp only [protocolStep] at h
      cases htask : w.pending[i]? with
      | none => simp [htask] at h
      | some task =>
          simp only [htask, Option.map_eq_some_iff] at h
          obtain ⟨o, ho, hw'⟩ := h
          exact Or.inl ⟨i, answer, task, o, rfl, htask, ho, hw'.symm⟩
  | tapSignUp page nameSurname email password =>
      simp only [protocolStep, step, Option.ite_none_right_eq_some, Option.some.injEq] at h
      obtain ⟨hmounted, rfl⟩ := h
      refine Or.inr (Or.inl ⟨by simp, by simp, ?_, ?_⟩)
      · simp only [Event.started]
        split_ifs <;> simp [hmounted]
      · simp only [Event.started]
        split_ifs <;> simp [start]
  | tapLogin page email password =>
      simp only [protocolStep, step, Option.ite_none_right_eq_some, Option.some.injEq] at h
      obtain ⟨hmounted, rfl⟩ := h
      refine Or.inr (Or.inl ⟨by simp, by simp, ?_, ?_⟩)
      · simp only [Event.started]
        split_ifs <;> simp [hmounted]
      · simp only [Event.started]
        split_ifs <;> simp [start]
  | tapGoogle page =>
      simp only [protocolStep, step, Option.ite_none_right_eq_some, Option.some.injEq] at h
      obtain ⟨hmounted, rfl⟩ := h
      exact Or.inr (Or.inl ⟨by simp, by simp, by simp [Event.started, hmounted], rfl⟩)
  | tapSignOut =>
      simp only [protocolStep, step, Option.ite_none_right_eq_some, Option.some.injEq] at h
      exact Or.inr (Or.inr (Or.inl ⟨rfl, h.1, h.2.symm⟩))
  | signOutDone =>
      simp only [protocolStep, step, Option.ite_none_right_eq_some, Option.some.injEq] at h
      exact Or.inr (Or.inr (Or.inr (Or.inl ⟨rfl, h.2.symm⟩)))
  | dispose page =>
      simp only [protocolStep, step, Option.ite_none_right_eq_some, Option.some.injEq] at h
      exact Or.inr (Or.inr (Or.inr (Or.inr ⟨page, rfl, h.1.1, h.1.2, h.2.symm⟩)))

theorem perform_cases (asserts : Bool) (w : World) (page : Nat) (o : Outcome) :
    (∃ next, o = .await next ∧ w.perform asserts page o = w.start page next) ∨
    (o.next = none ∧ w.mounted page = true ∧ w.perform asserts page o = w.effect page o) ∨
    (o.next = none ∧ w.mounted page = false ∧ w.perform asserts page o =
      { w with
        pages := (w.lateEffect asserts page o).pages
        unhandled := w.unhandled ++ [.disposedError] }) := by
  have hdisposed (h : w.mounted page = false) (hnext : o.next = none) : w.perform asserts page o =
      { w with
        pages := (w.lateEffect asserts page o).pages
        unhandled := w.unhandled ++ [.disposedError] } := by
    simp only [perform, hnext, h, Bool.false_eq_true, if_false]
    rw [lateEffect_eq]
  cases o with
  | await next => exact Or.inl ⟨next, rfl, rfl⟩
  | _ =>
      cases hmounted : w.mounted page with
      | true => exact Or.inr (Or.inl ⟨rfl, rfl, if_pos hmounted⟩)
      | false => exact Or.inr (Or.inr ⟨rfl, rfl, hdisposed hmounted rfl⟩)

/-! ## Pages -/

theorem lt_of_mounted (h : w.mounted page = true) : page < w.pages.length := by
  unfold mounted at h
  by_contra hle
  rw [List.getElem?_eq_none (by omega)] at h
  cases h

theorem mounted_eq {p : LoginPage} (h : w.pages[page]? = some p) : w.mounted page = p.mounted := by
  simp [mounted, h]

/-- A login page on top is the newest one, and mounted. Calls belong to pages that there are. -/
structure Placed (w : World) : Prop where
  top : ∀ page, w.current = .login page → page + 1 = w.pages.length ∧ w.mounted page = true
  tasks : ∀ task ∈ w.pending, task.page < w.pages.length

theorem init_placed (currentUser : Option User) : (init currentUser).Placed := by
  refine ⟨?_, nofun⟩
  intro page hcurrent
  cases hcurrent
  exact ⟨rfl, rfl⟩

theorem effect_pages_length (w : World) (page : Nat) (o : Outcome) :
    (w.effect page o).pages.length = w.pages.length := by
  cases o <;> simp [effect]

theorem lateEffect_pages_length (asserts : Bool) (w : World) (page : Nat) (o : Outcome) :
    (w.lateEffect asserts page o).pages.length = w.pages.length := by
  rcases lateEffect_cases asserts w page o with h | ⟨_, _, _, _, _, h⟩
  · rw [h]
  · rw [h, effect_pages_length]

theorem Placed.perform (h : w.Placed) (hpage : page < w.pages.length) (o : Outcome) :
    (w.perform asserts page o).Placed := by
  rcases perform_cases asserts w page o with ⟨next, rfl, h'⟩ | ⟨_, _, h'⟩ | ⟨_, _, h'⟩
  · rw [h']
    refine ⟨h.top, fun task htask => ?_⟩
    rcases List.mem_append.mp htask with htask | htask
    · exact h.tasks task htask
    · rw [List.mem_singleton.mp htask]
      exact hpage
  · rw [h']
    refine ⟨fun page' hcurrent => ?_, fun task htask => ?_⟩
    · have hcurrent : w.current = .login page' := by
        cases o with
        | welcome text => cases hcurrent
        | _ => exact hcurrent
      obtain ⟨hlast, hmounted⟩ := h.top page' hcurrent
      rw [effect_pages_length, effect_mounted]
      exact ⟨hlast, hmounted⟩
    · rw [effect_pages_length]
      refine h.tasks task ?_
      cases o <;> exact htask
  · rw [h']
    refine ⟨fun page' hcurrent => ?_, fun task htask => ?_⟩
    · obtain ⟨hlast, hmounted⟩ := h.top page' hcurrent
      exact ⟨by rwa [lateEffect_pages_length], (lateEffect_mounted asserts w page o page').trans hmounted⟩
    · rw [lateEffect_pages_length]
      exact h.tasks task htask

theorem protocolStep_placed {e : Event} (hw : w.Placed) (h : protocolStep env w e = some w') :
    w'.Placed := by
  rcases protocolStep_cases h with ⟨i, answer, task, o, rfl, htask, _, rfl⟩ | ⟨_, _, hstarted, rfl⟩ |
    ⟨rfl, _, rfl⟩ | ⟨rfl, rfl⟩ | ⟨page, rfl, _, htop, rfl⟩
  · have hanswered : Placed (w.answered i answer) :=
      ⟨hw.top, fun t ht => hw.tasks t (List.mem_of_mem_eraseIdx ht)⟩
    exact hanswered.perform (hw.tasks task (List.mem_of_getElem? htask)) o
  · refine ⟨hw.top, fun task htask => ?_⟩
    rcases List.mem_append.mp htask with htask | htask
    · exact hw.tasks task htask
    · exact lt_of_mounted (hstarted task htask)
  · refine ⟨?_, fun task htask => ?_⟩
    · intro page hcurrent
      cases hcurrent
      exact ⟨by simp [signOut], by simp [mounted, signOut, LoginPage.initState]⟩
    · have hlt := hw.tasks task htask
      simp only [signOut, List.length_append, List.length_singleton]
      omega
  · exact ⟨hw.top, hw.tasks⟩
  · refine ⟨fun page' hcurrent => ?_, fun task htask => by simpa using hw.tasks task htask⟩
    obtain ⟨hlast, hmounted⟩ := hw.top page' hcurrent
    have hne : page ≠ page' := fun heq => htop (heq ▸ hcurrent)
    refine ⟨by simpa using hlast, ?_⟩
    simpa [mounted, List.getElem?_modify, hne] using hmounted

/-! ## Disposed pages -/

/-- A sign-up of the page is under way. -/
def Registering (w : World) (page : Nat) : Prop :=
  ∃ task ∈ w.pending, task.page = page ∧
    ∃ email password, task.await = .createUserWithEmailAndPassword email password

/-- Only sign-ups report. What they leave on a disposed page is a failure. -/
theorem outcome_report {currentUser : Option User} {await : Await} {answer : Answer} {success : Bool}
    {message late : String} (h : outcome env currentUser await answer = some (.report success message late)) :
    (∃ email password, await = .createUserWithEmailAndPassword email password) ∧
      ∃ e, late = registerFailure env e := by
  unfold outcome at h
  split at h
  case h_1 => cases h; exact ⟨⟨_, _, rfl⟩, _, rfl⟩
  case h_2 => cases h; exact ⟨⟨_, _, rfl⟩, _, rfl⟩
  case h_3 => cases h; exact ⟨⟨_, _, rfl⟩, _, rfl⟩
  case h_10 => split at h <;> cases h
  case h_12 => split_ifs at h <;> cases h
  case h_15 =>
      split at h
      · split_ifs at h <;> cases h
      · cases h
  all_goals cases h

theorem outcome_await {currentUser : Option User} {await next : Await} {answer : Answer}
    (h : outcome env currentUser await answer = some (.await next)) : await.Next next := by
  unfold outcome at h
  split at h
  case h_7 => cases h; exact .authentication _
  case h_10 => split at h <;> cases h; exact .signInWithCredential _ _
  case h_12 => split_ifs at h <;> cases h; exact .getIdToken _ _
  case h_15 =>
      split at h
      · split_ifs at h <;> cases h
      · cases h
  all_goals cases h

/-- The disposed page is as it was, or shows the report of a sign-up that has failed on it; and the sign-ups
of the page have all been under way since then. -/
structure Frozen (env : Env) (page : Nat) (p : LoginPage) (registering : Prop) (w : World) : Prop where
  shown : w.pages[page]? = some p ∨ env.asserts = false ∧ registering ∧ ∃ e,
    w.pages[page]? = some { p with success := some false, message := some (registerFailure env e) }
  calls : w.Registering page → registering

variable {p : LoginPage} {registering : Prop}

theorem Frozen.mounted (hw : w.Frozen env page p registering) : w.mounted page = p.mounted := by
  rcases hw.shown with h | ⟨_, _, _, h⟩
  · exact mounted_eq h
  · rw [mounted_eq h]

theorem Frozen.of_pages (hw : w.Frozen env page p registering) (hpage : w'.pages[page]? = w.pages[page]?)
    (hcalls : w'.Registering page → w.Registering page) : w'.Frozen env page p registering := by
  refine ⟨?_, fun h => hw.calls (hcalls h)⟩
  rw [hpage]
  exact hw.shown

theorem effect_page_ne {page' : Nat} (hne : page ≠ page') (o : Outcome) :
    (w.effect page o).pages[page']? = w.pages[page']? := by
  cases o with
  | report success message late => exact List.getElem?_modify_ne _ _ hne
  | _ => rfl

/-- A late answer may leave its report on the page. -/
theorem Frozen.late {page' : Nat} (hw : w.Frozen env page p registering)
    (hreport : ∀ success message late, o = .report success message late → page' = page →
      registering ∧ ∃ e, late = registerFailure env e) :
    (w.lateEffect env.asserts page' o).Frozen env page p registering := by
  rcases lateEffect_cases env.asserts w page' o with h | ⟨hasserts, success, message, late, ho, h⟩
  · rw [h]
    exact hw
  · rw [h]
    by_cases hpage : page' = page
    · obtain ⟨hregistering, e, rfl⟩ := hreport success message late ho hpage
      refine ⟨Or.inr ⟨hasserts, hregistering, e, ?_⟩, fun h => hw.calls h⟩
      subst hpage
      simp only [effect, List.getElem?_modify_eq]
      rcases hw.shown with h | ⟨_, _, _, h⟩ <;> rw [h] <;> rfl
    · exact hw.of_pages (effect_page_ne hpage _) fun h => h

theorem protocolStep_frozen {e : Event} (hp : p.mounted = false) (hw : w.Frozen env page p registering)
    (h : protocolStep env w e = some w') : w'.Frozen env page p registering := by
  have hdisposed : w.mounted page = false := hw.mounted.trans hp
  have hne {page' : Nat} (hmounted : w.mounted page' = true) : page' ≠ page := by
    rintro rfl
    exact Bool.false_ne_true (hdisposed.symm.trans hmounted)
  rcases protocolStep_cases h with ⟨i, answer, task, o, rfl, htask, ho, rfl⟩ | ⟨_, _, hstarted, rfl⟩ |
    ⟨rfl, _, rfl⟩ | ⟨rfl, rfl⟩ | ⟨page', rfl, hmounted, _, rfl⟩
  · have hanswered : (w.answered i answer).Frozen env page p registering := by
      refine hw.of_pages rfl ?_
      rintro ⟨t, ht, htpage, hawait⟩
      exact ⟨t, List.mem_of_mem_eraseIdx ht, htpage, hawait⟩
    rcases perform_cases env.asserts (w.answered i answer) task.page o with ⟨next, rfl, h'⟩ |
      ⟨_, hmounted, h'⟩ | ⟨_, _, h'⟩
    · rw [h']
      refine hanswered.of_pages rfl ?_
      rintro ⟨t, ht, htpage, email, password, hawait⟩
      rcases List.mem_append.mp ht with ht | ht
      · exact ⟨t, ht, htpage, email, password, hawait⟩
      · rw [List.mem_singleton.mp ht] at hawait
        exact absurd hawait ((outcome_await ho).ne_createUser email password)
    · rw [h']
      refine hanswered.of_pages (effect_page_ne (hne hmounted) o) ?_
      rintro ⟨t, ht, hrest⟩
      refine ⟨t, ?_, hrest⟩
      cases o <;> exact ht
    · rw [h']
      refine (hanswered.late fun success message late hreport hpage => ?_).of_pages rfl ?_
      · subst hreport
        obtain ⟨hawait, hlate⟩ := outcome_report ho
        exact ⟨hw.calls ⟨task, List.mem_of_getElem? htask, hpage, hawait⟩, hlate⟩
      · rw [lateEffect_eq]
        exact fun h => h
  · refine hw.of_pages rfl ?_
    rintro ⟨t, ht, htpage, hawait⟩
    rcases List.mem_append.mp ht with ht | ht
    · exact ⟨t, ht, htpage, hawait⟩
    · exact absurd htpage (hne (hstarted t ht))
  · have hlt : page < w.pages.length := by
      rcases hw.shown with h | ⟨_, _, _, h⟩ <;> exact (List.getElem?_eq_some_iff.mp h).1
    exact hw.of_pages (List.getElem?_append_left hlt) fun h => h
  · exact hw.of_pages rfl fun h => h
  · exact hw.of_pages (List.getElem?_modify_ne _ _ (hne hmounted)) fun h => h

end World

end NewsApp.Login
