import Mathlib.Algebra.BigOperators.Group.List.Basic
import Mathlib.Data.List.Perm.Basic
import NewsApp.Login.Lemmas.Protocol
import NewsApp.Login.Lemmas.Session

/-!
# What holds of the app in every run

The handlers follow the table, so a run of the app is a run of the table. The rest is read off the table.
-/

namespace NewsApp.Login

open Lib

/-! ## What the answers have done -/

/-- The text that goes under the button of the sign-up. -/
def Outcome.reported : Outcome → List String
  | .report _ message _ => [message]
  | _ => []

/-- The effect of the answer, with its page. The answer has none in the middle of the sign-in with Google,
and on a disposed page. -/
def World.performed (env : Env) (w : World) : Event → List (Nat × Outcome)
  | .answer i answer =>
      match w.pending[i]? with
      | some task =>
          match outcome env (w.authenticate answer).currentUser task.await answer with
          | some o => if o.next = none ∧ w.mounted task.page = true then [(task.page, o)] else []
          | none => []
      | none => []
  | _ => []

namespace World

variable {env : Env} {w w' : World} {page : Nat} {o : Outcome}

/-- The answer of a call starts the next one, or has its effect, or finds the page disposed. -/
theorem performed_cases {i : Nat} {answer : Answer} {task : Task} (htask : w.pending[i]? = some task)
    (ho : outcome env (w.authenticate answer).currentUser task.await answer = some o) :
    (∃ next, o = .await next ∧ w.performed env (.answer i answer) = [] ∧
      (w.answered i answer).perform env.asserts task.page o = (w.answered i answer).start task.page next) ∨
    (o.next = none ∧ w.mounted task.page = true ∧ w.performed env (.answer i answer) = [(task.page, o)] ∧
      (w.answered i answer).perform env.asserts task.page o = (w.answered i answer).effect task.page o) ∨
    (w.mounted task.page = false ∧ w.performed env (.answer i answer) = [] ∧
      (w.answered i answer).perform env.asserts task.page o =
        { w.answered i answer with
          pages := ((w.answered i answer).lateEffect env.asserts task.page o).pages
          unhandled := w.unhandled ++ [.disposedError] }) := by
  have hperformed : w.performed env (.answer i answer) =
      if o.next = none ∧ w.mounted task.page = true then [(task.page, o)] else [] := by
    simp only [performed, htask, ho]
  rw [hperformed]
  rcases perform_cases env.asserts (w.answered i answer) task.page o with ⟨next, rfl, h'⟩ |
    ⟨hnext, hmounted, h'⟩ | ⟨hnext, hmounted, h'⟩
  · exact Or.inl ⟨next, rfl, if_neg (by simp [Outcome.next]), h'⟩
  · exact Or.inr (Or.inl ⟨hnext, hmounted, if_pos ⟨hnext, hmounted⟩, h'⟩)
  · have hdisposed : ¬ (o.next = none ∧ w.mounted task.page = true) := fun hperforms =>
      Bool.false_ne_true (hmounted.symm.trans hperforms.2)
    exact Or.inr (Or.inr ⟨hmounted, if_neg hdisposed, h'⟩)

theorem performed_other {e : Event} (he : ∀ i answer, e ≠ .answer i answer) : w.performed env e = [] := by
  cases e with
  | answer i answer => exact absurd rfl (he i answer)
  | _ => rfl

theorem performed_withoutTouches (e : Event) : w.withoutTouches.performed env e = w.performed env e := by
  cases e <;> rfl

theorem mem_performed {e : Event} (h : (page, o) ∈ w.performed env e) :
    w.mounted page = true ∧ ∃ i answer task, e = .answer i answer ∧ w.pending[i]? = some task ∧
      task.page = page ∧ outcome env (w.authenticate answer).currentUser task.await answer = some o := by
  cases e with
  | answer i answer =>
      simp only [performed] at h
      split at h
      case h_1 task htask =>
          split at h
          case h_1 o' ho' =>
              split_ifs at h with hperformed
              · rw [List.mem_singleton, Prod.mk.injEq] at h
                obtain ⟨rfl, rfl⟩ := h
                exact ⟨hperformed.2, i, answer, task, rfl, htask, rfl, ho'⟩
              · cases h
          case h_2 => cases h
      case h_2 => cases h
  | _ => cases h

/-! ## Runs of the table -/

/-- The app has the runs of the table, and no others: the code of the handlers, with its exceptions, can be
forgotten. -/
theorem app_follows_table (env : Env) (currentUser : Option User) (es : List Event) :
    run (protocolStep env) (init currentUser) es =
      (run (step env) (init currentUser) es).map withoutTouches :=
  withoutTouches_run env (init currentUser) es

/-- In every state, a login page on top is the newest of the login pages and is mounted, and the calls under
way belong to pages that have been opened. -/
theorem top_login_newest (env : Env) (currentUser : Option User) (es : List Event) :
    Always (step env) (fun w =>
      (∀ page, w.current = .login page → page + 1 = w.pages.length ∧ w.mounted page = true) ∧
      ∀ task ∈ w.pending, task.page < w.pages.length) (init currentUser) es := by
  rw [always_iff_take]
  intro n w hrun
  have hplaced : w.withoutTouches.Placed :=
    run_invariant protocolStep_placed (init_placed currentUser) (protocol_of_run hrun)
  exact ⟨hplaced.top, hplaced.tasks⟩

/-- A login page that is disposed stays disposed, and its fields stay as they were. The exception is an app
without assertions, where a sign-up of the page that was under way may leave the report of a failure. -/
theorem disposed_frozen {p : LoginPage} {es : List Event} (hpage : w.pages[page]? = some p)
    (hdisposed : p.mounted = false) (hrun : run (step env) w es = some w') :
    w'.pages[page]? = some p ∨ env.asserts = false ∧ w.Registering page ∧ ∃ e,
      w'.pages[page]? = some { p with success := some false, message := some (registerFailure env e) } := by
  have hfrozen : w.withoutTouches.Frozen env page p (w.Registering page) := ⟨Or.inl hpage, fun h => h⟩
  exact (run_invariant (protocolStep_frozen hdisposed) hfrozen (protocol_of_run hrun)).shown

def releaseEnv : Env := ⟨false, fun _ => .ok (), fun _ => "markNeedsBuild was called on null"⟩

/-- A sign-up that succeeds on the first page when a sign-in has replaced it, without assertions. -/
theorem disposed_frozen_sample :
    ∃ w w', run (step releaseEnv) (init none) [.tapLogin 0 "ada@haber.com" "p",
        .tapSignUp 0 "Ada" "ada@haber.com" "p",
        .answer 0 (.user (.ok (some ⟨"u", some "ada@haber.com", none, false⟩))), .dispose 0] = some w ∧
      run (step releaseEnv) w [.answer 0 (.user (.ok (some ⟨"v", none, none, false⟩)))] = some w' ∧
      w'.pages[0]? ≠ some ⟨false, some true, none⟩ ∧ w.Registering 0 ∧ ∃ e,
        w'.pages[0]? = some ⟨false, some false, some (registerFailure releaseEnv e)⟩ := by
  obtain ⟨w, hrun, hpage, w', hrun', hpage'⟩ : ∃ w, run (step releaseEnv) (init none)
      [.tapLogin 0 "ada@haber.com" "p", .tapSignUp 0 "Ada" "ada@haber.com" "p",
        .answer 0 (.user (.ok (some ⟨"u", some "ada@haber.com", none, false⟩))), .dispose 0] = some w ∧
      w.pages[0]? = some ⟨false, some true, none⟩ ∧
      ∃ w', run (step releaseEnv) w [.answer 0 (.user (.ok (some ⟨"v", none, none, false⟩)))] = some w' ∧
        w'.pages[0]? = some ⟨false, some false, some (registerFailure releaseEnv .disposedError)⟩ :=
    ⟨_, rfl, rfl, _, rfl, rfl⟩
  have hchanged : w'.pages[0]? ≠ some ⟨false, some true, none⟩ := by
    rw [hpage']
    simp
  rcases disposed_frozen hpage rfl hrun' with h | ⟨_, hregistering, e, h⟩
  · exact absurd h hchanged
  · exact ⟨w, w', hrun, hrun', hchanged, hregistering, e, h⟩

/-! ## The text of the sign-up -/

/-- The text that the effects have put under the button of the page. -/
def lastReport (effects : List (Nat × Outcome)) (page : Nat) : String :=
  ((effects.filter (·.1 = page)).flatMap (·.2.reported)).getLast?.getD ""

variable {effects : List (Nat × Outcome)}

theorem lastReport_report (success : Bool) (message late : String) :
    lastReport (effects ++ [(page, .report success message late)]) page = message := by
  simp [lastReport, Outcome.reported, List.filter_append]

theorem lastReport_of_ne {page' : Nat} (h : page' ≠ page) (o : Outcome) :
    lastReport (effects ++ [(page', o)]) page = lastReport effects page := by
  simp [lastReport, List.filter_append, h]

theorem lastReport_of_quiet (h : o.reported = []) (page' : Nat) :
    lastReport (effects ++ [(page', o)]) page = lastReport effects page := by
  by_cases hpage : page' = page
  · simp [lastReport, List.filter_append, hpage, h]
  · exact lastReport_of_ne hpage o

theorem lastReport_fresh (h : ∀ x ∈ effects, x.1 ≠ page) : lastReport effects page = "" := by
  have hnone : effects.filter (·.1 = page) = [] := by simpa using h
  simp [lastReport, hnone]

/-- The text of every page is its last one, where it is kept, and pages have effects only once they are
there. -/
structure Reported (asserts : Bool) (effects : List (Nat × Outcome)) (w : World) : Prop where
  pages : ∀ x ∈ effects, x.1 < w.pages.length
  text : ∀ page p, w.pages[page]? = some p → p.mounted = true ∨ asserts = true →
    p.success ≠ none ∧ p.message.getD "" = lastReport effects page

theorem Reported.effect {asserts : Bool} (hw : w.Reported asserts effects) (hmounted : w.mounted page = true)
    (o : Outcome) : (w.effect page o).Reported asserts (effects ++ [(page, o)]) := by
  have hpages : ∀ x ∈ effects ++ [(page, o)], x.1 < w.pages.length := by
    intro x hx
    rcases List.mem_append.mp hx with hx | hx
    · exact hw.pages x hx
    · rw [List.mem_singleton.mp hx]
      exact lt_of_mounted hmounted
  cases o with
  | report success message late =>
      refine ⟨by rwa [effect_pages_length], fun page' p hp hkept => ?_⟩
      by_cases hpage : page = page'
      · subst hpage
        simp only [World.effect, List.getElem?_modify_eq] at hp
        obtain ⟨p', _, rfl⟩ := Option.map_eq_some_iff.mp hp
        exact ⟨Option.some_ne_none success, (lastReport_report success message late).symm⟩
      · rw [effect_page_ne hpage] at hp
        rw [lastReport_of_ne hpage]
        exact hw.text page' p hp hkept
  | _ =>
      refine ⟨hpages, fun page' p hp hkept => ?_⟩
      rw [lastReport_of_quiet rfl]
      exact hw.text page' p hp hkept

/-- A late answer changes the text of a disposed page at most, and only without assertions. -/
theorem Reported.late {asserts : Bool} (hw : w.Reported asserts effects) (hdisposed : w.mounted page = false)
    (o : Outcome) : (w.lateEffect asserts page o).Reported asserts effects := by
  refine ⟨by rw [lateEffect_pages_length]; exact hw.pages, fun page' p hp hkept => ?_⟩
  have hmounted : w.mounted page' = p.mounted := by rw [← lateEffect_mounted asserts w page o, mounted_eq hp]
  rcases lateEffect_cases asserts w page o with h | ⟨hasserts, _, _, _, _, h⟩
  · rw [h] at hp
    exact hw.text page' p hp hkept
  · have hpage : page ≠ page' := by
      rintro rfl
      rw [← hmounted, hdisposed, hasserts] at hkept
      simp at hkept
    rw [h, effect_page_ne hpage] at hp
    exact hw.text page' p hp hkept

theorem protocolStep_reported {e : Event} (hw : w.Reported env.asserts effects)
    (h : protocolStep env w e = some w') : w'.Reported env.asserts (effects ++ w.performed env e) := by
  rcases protocolStep_cases h with ⟨i, answer, task, o, rfl, htask, ho, rfl⟩ | ⟨hanswer, _, _, rfl⟩ |
    ⟨rfl, _, rfl⟩ | ⟨rfl, rfl⟩ | ⟨page, rfl, _, _, rfl⟩
  · have hanswered : (w.answered i answer).Reported env.asserts effects := ⟨hw.pages, hw.text⟩
    rcases performed_cases htask ho with ⟨next, rfl, hnone, h'⟩ | ⟨_, hmounted, heffect, h'⟩ |
      ⟨hdisposed, hnone, h'⟩
    · rw [h', hnone, List.append_nil]
      exact ⟨hw.pages, hw.text⟩
    · rw [h', heffect]
      exact hanswered.effect hmounted o
    · rw [h', hnone, List.append_nil]
      have hlate := hanswered.late hdisposed o
      exact ⟨hlate.pages, hlate.text⟩
  · rw [performed_other hanswer, List.append_nil]
    exact ⟨hw.pages, hw.text⟩
  · rw [performed_other (e := .tapSignOut) (by simp), List.append_nil]
    refine ⟨fun x hx => ?_, fun page p hp hkept => ?_⟩
    · have hlt := hw.pages x hx
      simp only [signOut, List.length_append, List.length_singleton]
      omega
    · simp only [signOut] at hp
      by_cases hpage : page < w.pages.length
      · rw [List.getElem?_append_left hpage] at hp
        exact hw.text page p hp hkept
      · -- the new page
        obtain rfl : p = LoginPage.initState := by
          rw [List.getElem?_append_right (by omega)] at hp
          exact List.mem_singleton.mp (List.mem_of_getElem? hp)
        have hfresh : ∀ x ∈ effects, x.1 ≠ page := fun x hx heq => hpage (heq ▸ hw.pages x hx)
        rw [lastReport_fresh hfresh]
        exact ⟨Option.some_ne_none true, rfl⟩
  · rw [performed_other (e := .signOutDone) (by simp), List.append_nil]
    exact ⟨hw.pages, hw.text⟩
  · rw [performed_other (e := (.dispose page)) (by simp), List.append_nil]
    refine ⟨by simpa using hw.pages, fun page' p hp hkept => ?_⟩
    by_cases hpage : page = page'
    · subst hpage
      simp only [List.getElem?_modify_eq] at hp
      obtain ⟨p', hp', rfl⟩ := Option.map_eq_some_iff.mp hp
      exact hw.text page p' hp' (Or.inr (hkept.resolve_left Bool.false_ne_true))
    · simp only [List.getElem?_modify_ne _ _ hpage] at hp
      exact hw.text page' p hp hkept

/-- The text under the sign-up button of a mounted page is that of the last sign-up which was answered,
whatever else was answered in between and on other pages. With assertions a disposed page keeps its text. -/
theorem resultText_last {currentUser : Option User} {es : List Event} {p : LoginPage}
    (hrun : run (step env) (init currentUser) es = some w) (hpage : w.pages[page]? = some p)
    (hkept : p.mounted = true ∨ env.asserts = true) :
    p.resultText = lastReport (translated (step env) (performed env) (init currentUser) es) page := by
  have hreported : w.Reported env.asserts (translated (step env) (performed env) (init currentUser) es) := by
    refine run_history (P := fun es w =>
      w.Reported env.asserts (translated (step env) (performed env) (init currentUser) es)) ?_ ?_ hrun
    · refine ⟨fun _ hx => absurd hx List.not_mem_nil, fun page p hp _ => ?_⟩
      obtain rfl : p = LoginPage.initState := List.mem_singleton.mp (List.mem_of_getElem? hp)
      exact ⟨Option.some_ne_none true, rfl⟩
    · intro es e w w' hrun hw h
      have hw' := protocolStep_reported (w := w.withoutTouches) ⟨hw.pages, hw.text⟩ (step_of_protocolStep h)
      rw [performed_withoutTouches] at hw'
      rw [translated_concat _ hrun]
      exact ⟨hw'.pages, hw'.text⟩
  obtain ⟨hsuccess, htext⟩ := hreported.text page p hpage hkept
  rw [← htext]
  unfold LoginPage.resultText
  cases hp : p.success with
  | none => exact absurd hp hsuccess
  | some success => rfl

/-- A sign-up that fails and a sign-in on the first page, which is disposed under the home page. -/
def sampleEvents : List Event :=
  [.tapSignUp 0 "Ada" "ada@haber.com" "p", .tapLogin 0 "ada@haber.com" "p",
    .answer 0 (.user (.error (.firebaseAuthException none))),
    .answer 0 (.user (.ok (some ⟨"u", some "ada@haber.com", none, false⟩))), .dispose 0]

def sampleEnv : Env := ⟨true, fun _ => .ok (), fun _ => "email-already-in-use"⟩

theorem sampleEvents_run :
    ∃ w, run (step sampleEnv) (init none) sampleEvents = some w ∧ w.current = .home ∧
      w.pages = [⟨false, some false, some "Kyıt başarısız. \n\nemail-already-in-use"⟩] :=
  ⟨_, rfl, rfl, rfl⟩

theorem resultText_last_sample :
    lastReport (translated (step sampleEnv) (performed sampleEnv) (init none) sampleEvents) 0 =
      "Kyıt başarısız. \n\nemail-already-in-use" := by
  obtain ⟨w, hrun, _, hpages⟩ := sampleEvents_run
  have hpage : w.pages[0]? = some ⟨false, some false, some "Kyıt başarısız. \n\nemail-already-in-use"⟩ := by
    rw [hpages]
    rfl
  exact (resultText_last hrun hpage (Or.inr rfl)).symm

/-! ## Who opens the home page -/

theorem protocolStep_current {e : Event} (h : protocolStep env w e = some w') (hhome : w'.current = .home) :
    (∃ page text, (page, .welcome text) ∈ w.performed env e) ∨ w.current = .home ∧ e ≠ .tapSignOut := by
  rcases protocolStep_cases h with ⟨i, answer, task, o, rfl, htask, ho, rfl⟩ | ⟨_, hsignOut, _, rfl⟩ |
    ⟨rfl, _, rfl⟩ | ⟨rfl, rfl⟩ | ⟨page, rfl, _, _, rfl⟩
  · rcases performed_cases htask ho with ⟨next, rfl, _, h'⟩ | ⟨_, _, heffect, h'⟩ | ⟨_, _, h'⟩
    · rw [h'] at hhome
      exact Or.inr ⟨hhome, nofun⟩
    · rw [h'] at hhome
      cases o with
      | welcome text =>
          refine Or.inl ⟨task.page, text, ?_⟩
          rw [heffect]
          exact List.mem_singleton_self _
      | _ => exact Or.inr ⟨hhome, nofun⟩
    · rw [h'] at hhome
      exact Or.inr ⟨hhome, nofun⟩
  · exact Or.inr ⟨hhome, hsignOut⟩
  · cases hhome
  · exact Or.inr ⟨hhome, nofun⟩
  · exact Or.inr ⟨hhome, nofun⟩

/-- The answer of this call is a welcome, and finds its page mounted. -/
def Welcomes (env : Env) (w : World) (i : Nat) (answer : Answer) : Prop :=
  ∃ task text, w.pending[i]? = some task ∧ w.mounted task.page = true ∧
    outcome env (w.authenticate answer).currentUser task.await answer = some (.welcome text)

theorem Welcomes.protocolStep_home {i : Nat} {answer : Answer} (hwelcome : w.Welcomes env i answer)
    (h : protocolStep env w (.answer i answer) = some w') : w'.current = .home := by
  obtain ⟨task, text, htask, hmounted, ho⟩ := hwelcome
  have hw' : (w.answered i answer).perform env.asserts task.page (.welcome text) = w' := by
    simp only [protocolStep, htask, ho, Option.map_some, Option.some.injEq] at h
    exact h
  rw [← hw']
  rcases performed_cases htask ho with ⟨_, hawait, _⟩ | ⟨_, _, _, h'⟩ | ⟨hdisposed, _⟩
  · cases hawait
  · rw [h']
    rfl
  · exact absurd (hdisposed.symm.trans hmounted) Bool.false_ne_true

/-- Only a welcome that finds its page mounted opens the home page, and every such welcome does: when it is on
top after a run there was one, with no sign-out since; and it is on top after every step that is one. -/
theorem welcomes_open_home (env : Env) (currentUser : Option User) :
    (∀ es w, run (step env) (init currentUser) es = some w → w.current = .home →
      ∃ es₁ i answer es₂ w₁, es = es₁ ++ .answer i answer :: es₂ ∧ .tapSignOut ∉ es₂ ∧
        run (step env) (init currentUser) es₁ = some w₁ ∧ w₁.Welcomes env i answer) ∧
    ∀ w w' i answer, w.Welcomes env i answer → step env w (.answer i answer) = some w' →
      w'.current = .home := by
  constructor
  · intro es w hrun
    refine run_history (P := fun es w => w.current = .home → ∃ es₁ i answer es₂ w₁,
      es = es₁ ++ .answer i answer :: es₂ ∧ .tapSignOut ∉ es₂ ∧
        run (step env) (init currentUser) es₁ = some w₁ ∧ w₁.Welcomes env i answer) ?_ ?_ hrun
    · intro hcurrent
      cases hcurrent
    intro es e w w' hrun hw h hhome
    rcases protocolStep_current (step_of_protocolStep h) hhome with ⟨page, text, hperformed⟩ | ⟨hcurrent, he⟩
    · rw [performed_withoutTouches] at hperformed
      obtain ⟨hmounted, i, answer, task, rfl, htask, rfl, ho⟩ := mem_performed hperformed
      exact ⟨es, i, answer, [], w, rfl, List.not_mem_nil, hrun, task, text, htask, hmounted, ho⟩
    · obtain ⟨es₁, i, answer, es₂, w₁, rfl, hes₂, hrest⟩ := hw hcurrent
      refine ⟨es₁, i, answer, es₂ ++ [e], w₁, by simp, ?_, hrest⟩
      simp only [List.mem_append, List.mem_singleton, not_or]
      exact ⟨hes₂, he.symm⟩
  · intro w w' i answer hwelcome h
    have hhome : w'.withoutTouches.current = .home :=
      Welcomes.protocolStep_home (w := w.withoutTouches) hwelcome (step_of_protocolStep h)
    exact hhome

theorem welcomes_open_home_sample :
    (∃ es₁ i answer es₂ w₁, sampleEvents = es₁ ++ .answer i answer :: es₂ ∧ .tapSignOut ∉ es₂ ∧
      run (step sampleEnv) (init none) es₁ = some w₁ ∧ w₁.Welcomes sampleEnv i answer) ∧
    ∃ w w', run (step sampleEnv) (init none) [.tapLogin 0 "ada@haber.com" "p"] = some w ∧
      step sampleEnv w (.answer 0 (.user (.ok (some ⟨"u", none, none, false⟩)))) = some w' ∧
      w'.current = .home := by
  constructor
  · obtain ⟨w, hrun, hhome, _⟩ := sampleEvents_run
    exact (welcomes_open_home sampleEnv none).1 sampleEvents w hrun hhome
  · let w := (init none).start 0 (.signInWithEmailAndPassword "ada@haber.com" "p")
    obtain ⟨w', hw'⟩ : ∃ w', step sampleEnv w (.answer 0 (.user (.ok (some ⟨"u", none, none, false⟩)))) =
      some w' := ⟨_, rfl⟩
    have hwelcome : w.Welcomes sampleEnv 0 (.user (.ok (some ⟨"u", none, none, false⟩))) :=
      ⟨_, _, rfl, rfl, rfl⟩
    exact ⟨w, w', rfl, hw', (welcomes_open_home sampleEnv none).2 w w' 0 _ hwelcome hw'⟩

/-! ## Sign-ins end -/

/-- The answers that a call still takes to its end, at most. -/
def remaining : Await → Nat
  | .googleSignIn => 4
  | .authentication _ => 3
  | .signInWithCredential _ => 2
  | _ => 1

def work (w : World) : Nat := (w.pending.map fun task => remaining task.await).sum

/-- The answers that an event calls for, and the answers that it is. -/
def callsFor (e : Event) : Nat := (e.started.map fun task => remaining task.await).sum

def answers : Event → Nat
  | .answer _ _ => 1
  | _ => 0

theorem remaining_lt {currentUser : Option User} {await next : Await} {answer : Answer}
    (h : outcome env currentUser await answer = some (.await next)) : remaining next < remaining await := by
  unfold outcome at h
  split at h
  case h_10 tokens =>
      split at h <;> cases h
      simp [remaining]
  case h_12 =>
      split_ifs at h <;> cases h
      simp [remaining]
  case h_15 =>
      split at h
      · split_ifs at h <;> cases h
      · cases h
  all_goals cases h
  all_goals simp [remaining]

theorem work_eraseIdx {tasks : List Task} {i : Nat} {task : Task} (h : tasks[i]? = some task) :
    ((tasks.eraseIdx i).map fun task => remaining task.await).sum + remaining task.await =
      (tasks.map fun task => remaining task.await).sum := by
  obtain ⟨hlt, rfl⟩ := List.getElem?_eq_some_iff.mp h
  have hperm := ((List.getElem_cons_eraseIdx_perm hlt).map fun task => remaining task.await).sum_eq
  rw [List.map_cons, List.sum_cons] at hperm
  omega

theorem protocolStep_work {e : Event} (h : protocolStep env w e = some w') :
    w'.work + answers e ≤ w.work + callsFor e := by
  rcases protocolStep_cases h with ⟨i, answer, task, o, rfl, htask, ho, rfl⟩ | ⟨hanswer, _, _, rfl⟩ |
    ⟨rfl, _, rfl⟩ | ⟨rfl, rfl⟩ | ⟨page, rfl, _, _, rfl⟩
  · have hwork := work_eraseIdx htask
    have hpos : 0 < remaining task.await := by cases task.await <;> simp [remaining]
    simp only [work, callsFor, answers, Event.started, List.map_nil, List.sum_nil]
    rcases performed_cases htask ho with ⟨next, rfl, _, h'⟩ | ⟨_, _, _, h'⟩ | ⟨_, _, h'⟩
    · have hlt := remaining_lt ho
      rw [h']
      simp only [start, answered_pending, List.map_append, List.sum_append, List.map_cons, List.map_nil,
        List.sum_cons, List.sum_nil]
      omega
    · rw [h']
      cases o <;> simp only [effect, answered_pending] <;> omega
    · rw [h']
      simp only [answered_pending]
      omega
  · have hanswers : answers e = 0 := by
      cases e with
      | answer i answer => exact absurd rfl (hanswer i answer)
      | _ => rfl
    simp only [work, callsFor, hanswers, List.map_append, List.sum_append]
    omega
  · simp [work, signOut, answers, callsFor]
  · simp [work, answers, callsFor]
  · simp [work, answers, callsFor]

/-- The error with which any call may answer. -/
def refusal (e : DartError) : Await → Answer
  | .googleSignIn => .account (.error e)
  | .authentication _ => .authentication (.error e)
  | .getIdToken _ => .idToken (.error e)
  | _ => .user (.error e)

theorem step_refusal (env : Env) (w : World) {task : Task} {i : Nat} (htask : w.pending[i]? = some task)
    (e : DartError) : ∃ w', step env w (.answer i (refusal e task.await)) = some w' := by
  simp only [step, htask]
  cases task.await <;> exact ⟨_, rfl⟩

/-- Sign-ins end: a call of Google takes four answers at most, another one takes one, and from every state
there are answers after which nothing is under way. -/
theorem signIns_end (env : Env) (w : World) :
    (∀ es w', run (step env) w es = some w' →
      w'.work + (es.map answers).sum ≤ w.work + (es.map callsFor).sum) ∧
    ∃ es w', (∀ e ∈ es, answers e = 1) ∧ run (step env) w es = some w' ∧ w'.pending = [] := by
  have hstep {w w' : World} {e : Event} (h : step env w e = some w') :
      w'.work + answers e ≤ w.work + callsFor e := by
    have hwork := protocolStep_work (step_of_protocolStep h)
    exact hwork
  constructor
  · intro es w' hrun
    exact run_account work answers callsFor (I := fun _ => True) (fun _ _ => trivial)
      (fun _ h => hstep h) trivial hrun
  · induction hwork : w.work using Nat.strongRecOn generalizing w with
    | ind n ih =>
        cases hpending : w.pending with
        | nil => exact ⟨[], w, nofun, rfl, hpending⟩
        | cons task tasks =>
            obtain ⟨w₁, hw₁⟩ := step_refusal env w (i := 0) (by rw [hpending]; rfl) .typeError
            have hlt := hstep hw₁
            simp only [answers, callsFor, Event.started, List.map_nil, List.sum_nil] at hlt
            obtain ⟨es, w', hes, hrun, hnone⟩ := ih w₁.work (by omega) w₁ rfl
            refine ⟨_ :: es, w', ?_, (run_cons_of_step hw₁ es).trans hrun, hnone⟩
            rintro e he
            rcases List.mem_cons.mp he with rfl | he
            · rfl
            · exact hes e he

end World

end NewsApp.Login
