import NewsApp.Login.Lemmas.Disposal

/-!
# What the handlers do to the session and the route on top
-/

namespace NewsApp.Login

open Lib

variable {env : Env} {page : Nat} {await : Await} {answer : Answer} {handler : Handler (Option Await)}
  {S : Option User → Route → Prop}

/-! ## The session and the route -/

def World.OnSession (S : Option User → Route → Prop) (w : World) : Prop := S w.currentUser w.current

theorem useContext_keeps (use : ContextUse) : Keeps (World.OnSession S) (useContext page use) := by
  intro w hw
  rw [useContext_run]
  split_ifs <;> exact hw

theorem setState_keeps (asserts : Bool) (f : LoginPage → LoginPage) :
    Keeps (World.OnSession S) (setState asserts page f) := by
  have hcallback : Keeps (World.OnSession S)
      (modify fun w : World => { w with pages := w.pages.modify page f } : Handler Unit) :=
    Triple.of_modify fun _ hw => hw
  cases asserts with
  | true => exact (useContext_keeps .setState).bind fun _ => hcallback
  | false => exact hcallback.bind fun _ => useContext_keeps .setState

theorem showSnackBar_keeps (text : String) : Keeps (World.OnSession S) (showSnackBar text) :=
  Triple.of_modify fun _ hw => hw

theorem pushHomePage_keeps (hS : ∀ u r, S u r → S u .home) :
    Keeps (World.OnSession S) (pushHomePage page) := by
  apply Keeps.bind (useContext_keeps .navigator)
  intro _
  apply Triple.of_modify
  intro w hw
  exact hS w.currentUser w.current hw

theorem welcome_keeps (hS : ∀ u r, S u r → S u .home) (text : String) :
    Keeps (World.OnSession S) (do showSnackBar text; pushHomePage page; return (none : Option Await)) := by
  apply Keeps.bind (showSnackBar_keeps text)
  intro _
  apply Keeps.bind (pushHomePage_keeps hS)
  intro _
  exact Keeps.pure none

theorem catchSignIn_keeps (text : String) (e : DartError) :
    Keeps (World.OnSession S) (catchSignIn page text e) := by
  unfold catchSignIn
  split
  all_goals
    apply Keeps.bind (useContext_keeps .scaffoldOf)
    intro _
    apply Keeps.bind (showSnackBar_keeps _)
    intro _
    exact Keeps.pure none

theorem register_keeps (credential : Dart (Option User)) :
    Keeps (World.OnSession S) (register env page credential) := by
  apply Keeps.tryCatch
  · apply Keeps.bind (ofDart_keeps credential)
    intro user
    cases user with
    | none => exact Keeps.bind (setState_keeps env.asserts _) fun _ => Keeps.pure none
    | some user => exact Keeps.bind (setState_keeps env.asserts _) fun _ => Keeps.pure none
  · intro e
    exact Keeps.bind (setState_keeps env.asserts _) fun _ => Keeps.pure none

theorem signInWithEmailAndPassword_keeps {credential : Dart (Option User)}
    (hS : ∀ user, credential = .ok (some user) → ∀ u r, S u r → S u .home) :
    Keeps (World.OnSession S) (signInWithEmailAndPassword page credential) := by
  apply Keeps.tryCatch _ (catchSignIn_keeps _)
  cases credential with
  | error e => exact ((ofDart_error_throws e).bind _).keeps
  | ok user =>
      rw [ofDart_ok_bind]
      apply Keeps.bind (useContext_keeps .scaffoldOf)
      intro _
      cases user with
      | none => exact ((ofDart_error_throws .noSuchMethodError).bind _).keeps
      | some user =>
          rw [deref_some, ofDart_ok_bind]
          exact welcome_keeps (hS user rfl) _

/-- With assertions, the code after the check has a user that is signed in. -/
theorem assertCurrentUser_signedIn (asserts : Bool) (user : User) :
    Triple (World.OnSession S) (assertCurrentUser asserts user)
      (fun _ => World.OnSession fun u r => (asserts = true → u ≠ none) ∧ S u r)
      (fun _ => World.OnSession S) := by
  intro w hw
  unfold assertCurrentUser
  cases asserts with
  | false => exact ⟨nofun, hw⟩
  | true =>
      simp only [if_true, EStateM.run_bind, EStateM.run_get]
      cases hu : w.currentUser with
      | none => exact hw
      | some currentUser =>
          have hassert : Keeps (World.OnSession fun u r => u ≠ none ∧ S u r)
              (ofDart (assert true (user.uid == currentUser.uid))) := ofDart_keeps _
          have hsignedIn : w.OnSession fun u r => u ≠ none ∧ S u r := ⟨by simp [hu], hw⟩
          exact hassert.conseq (fun _ h => h) (fun _ _ h => ⟨fun _ => h.1, h.2⟩) (fun _ _ h => h.2) w
            hsignedIn

theorem googleSignedIn_keeps {asserts : Bool} {user : User}
    (hS : ∀ u r, (asserts = true → u ≠ none) → S u r → S u .home) :
    Keeps (World.OnSession S) (googleSignedIn asserts page user) := by
  apply Triple.bind (assertCurrentUser_signedIn asserts user)
  intro _
  have hrest : Keeps (World.OnSession fun u r => (asserts = true → u ≠ none) ∧ S u r) (do
      scaffoldOf page
      showSnackBar (interpolate user.displayName ++ ", Google ile giriş yaptı")
      pushHomePage page
      return (none : Option Await)) := by
    apply Keeps.bind (useContext_keeps .scaffoldOf)
    intro _
    exact welcome_keeps (fun u r hu => ⟨hu.1, hS u r hu.1 hu.2⟩) _
  exact hrest.conseq (fun _ hw => hw) (fun _ _ hw => hw.2) (fun _ _ hw => hw.2)

theorem signInWithGoogle_keeps {body : Handler (Option Await)} (hbody : Keeps (World.OnSession S) body) :
    Keeps (World.OnSession S) (signInWithGoogle page body) :=
  Keeps.tryCatch hbody (catchSignIn_keeps _)

theorem googleCredential_keeps {user : Option User} (hS : ∀ u r, S u r → S u .home) :
    Keeps (World.OnSession S) (googleCredential env page user) := by
  cases user with
  | none =>
      apply Keeps.bind (pushHomePage_keeps hS)
      intro _
      exact Keeps.pure none
  | some user =>
      apply Keeps.bind (ofDart_keeps _)
      intro _
      split_ifs
      · exact Keeps.pure _
      · exact googleSignedIn_keeps fun u r _ => hS u r

/-- The answers after which a handler may open the home page, with the user that is signed in then. -/
def opensHome : Await → Answer → Option User → Prop
  | .signInWithEmailAndPassword _ _, .user (.ok (some _)), _ => True
  | .signInWithCredential _, .user (.ok _), _ => True
  | .getIdToken _, .idToken _, user => user ≠ none
  | _, _, _ => False

/-- A handler only changes the route, to the home page, and only after certain answers. -/
theorem resume_keeps (hS : ∀ u r, opensHome await answer u → S u r → S u .home)
    (h : resume env page await answer = some handler) : Keeps (World.OnSession S) handler := by
  unfold resume at h
  split at h <;> cases h
  case h_1 credential => exact register_keeps credential
  case h_2 credential =>
      apply signInWithEmailAndPassword_keeps
      intro user hcredential u r
      apply hS u r
      rw [hcredential]
      trivial
  case h_3 account =>
      apply signInWithGoogle_keeps
      apply Keeps.bind (ofDart_keeps account)
      intro account
      apply Keeps.bind (ofDart_keeps (deref account))
      intro account
      exact Keeps.pure _
  case h_4 tokens =>
      apply signInWithGoogle_keeps
      apply Keeps.bind (ofDart_keeps tokens)
      intro tokens
      apply Keeps.bind (ofDart_keeps (env.credential tokens))
      intro _
      exact Keeps.pure _
  case h_5 credential =>
      apply signInWithGoogle_keeps
      cases credential with
      | error e => exact ((ofDart_error_throws e).bind _).keeps
      | ok user =>
          rw [ofDart_ok_bind]
          exact googleCredential_keeps fun u r => hS u r trivial
  case h_6 user token =>
      apply signInWithGoogle_keeps
      apply Keeps.bind (ofDart_keeps token)
      intro token
      apply Keeps.bind (ofDart_keeps _)
      intro _
      exact googleSignedIn_keeps fun u r hu => hS u r (hu rfl)

namespace World

variable {w : World}

/-! ## After an answer -/

theorem runHandler_onSession {P : World → Prop}
    (htriple : Triple P handler (fun _ => OnSession S) (fun _ => OnSession S)) (hw : P w) :
    (w.runHandler page handler).OnSession S := by
  unfold runHandler
  cases hrun : handler.run w with
  | ok next w' =>
      have hw' : w'.OnSession S := htriple.ok hw hrun
      cases next with
      | none => exact hw'
      | some await => exact hw'
  | error e w' =>
      have hw' : w'.OnSession S := htriple.error hw hrun
      exact hw'

theorem answer_some {user : User} (h : resume env page await (.user (.ok (some user))) = some handler)
    (hw : w.currentUser = some user) : (w.runHandler page handler).HomeSignedIn := by
  have hkeeps : Keeps (OnSession fun u _ => u = some user) handler := resume_keeps (fun _ _ _ hu => hu) h
  have huser : (w.runHandler page handler).currentUser = some user := runHandler_onSession hkeeps hw
  intro _
  rw [huser]
  nofun

theorem answer_other (hanswer : ∀ user, answer ≠ .user (.ok user))
    (h : resume env page await answer = some handler) (hw : w.HomeSignedIn) :
    (w.runHandler page handler).HomeSignedIn := by
  have hopens : ∀ u, opensHome await answer u → u ≠ none := by
    intro u hu
    unfold opensHome at hu
    split at hu
    · exact absurd rfl (hanswer _)
    · exact absurd rfl (hanswer _)
    · exact hu
    · exact hu.elim
  have hkeeps : Keeps (OnSession fun u r => r = .home → u ≠ none) handler :=
    resume_keeps (fun u _ hu _ _ => hopens u hu) h
  exact runHandler_onSession hkeeps hw

/-- Without a user, the sign-in with Google still opens the home page. -/
theorem google_none_mounted (env : Env) (hmounted : w.mounted page = true) :
    (w.runHandler page (signInWithGoogle page (googleCredential env page none))).current = .home := by
  have hpush : Triple (fun w => w.mounted page = true) (pushHomePage page)
      (fun _ => OnSession fun _ r => r = .home) (fun _ _ => False) :=
    Triple.bind (useContext_returns_mounted .navigator) fun _ => Triple.of_modify fun _ _ => rfl
  have hbody : Triple (fun w => w.mounted page = true) (googleCredential env page none)
      (fun _ => OnSession fun _ r => r = .home) (fun _ _ => False) :=
    hpush.bind fun _ => Triple.pure fun _ hw => hw
  exact runHandler_onSession (S := fun _ r => r = .home) (hbody.tryCatch fun _ _ hw => hw.elim) hmounted

theorem google_none_disposed (env : Env) (hdisposed : w.mounted page = false) (hw : w.OnSession S) :
    (w.runHandler page (signInWithGoogle page (googleCredential env page none))).OnSession S := by
  have hcontext (use : ContextUse) :
      Throws (fun w => w.Disposed page ∧ w.OnSession S) (useContext page use) :=
    (useContext_throws use).and_keeps (useContext_keeps use)
  have hthrows : Throws (fun w => w.Disposed page ∧ w.OnSession S)
      (signInWithGoogle page (googleCredential env page none)) :=
    Throws.tryCatch (((hcontext .navigator).bind _).bind _) fun e =>
      (catchSignIn_throws _ e).and_keeps (catchSignIn_keeps _ e)
  have hsession : Triple (fun w => w.Disposed page ∧ w.OnSession S)
      (signInWithGoogle page (googleCredential env page none))
      (fun _ => OnSession S) (fun _ => OnSession S) :=
    hthrows.conseq (fun _ h => h) (fun _ _ h => h.elim) (fun _ _ h => h.2)
  exact runHandler_onSession hsession ⟨hdisposed, hw⟩

/-- A credential without a user ends the session. The home page is then on top exactly if it was before,
or if the credential is Google's and the page is mounted. -/
theorem answer_none (h : resume env page await (.user (.ok none)) = some handler)
    (hw : w.currentUser = none) :
    (w.runHandler page handler).HomeSignedIn ↔
      w.current ≠ .home ∧ ∀ tokens, await = .signInWithCredential tokens → w.mounted page = false := by
  have huser : (w.runHandler page handler).currentUser = none :=
    runHandler_onSession (S := fun u _ => u = none) (resume_keeps (fun _ _ _ hu => hu) h) hw
  have hiff : (w.runHandler page handler).HomeSignedIn ↔ (w.runHandler page handler).current ≠ .home :=
    ⟨fun h' hcurrent => h' hcurrent huser, fun hcurrent h' => absurd h' hcurrent⟩
  rw [hiff]
  by_cases hhome : w.current = .home
  · have hcurrent : (w.runHandler page handler).current = .home :=
      runHandler_onSession (S := fun _ r => r = .home) (resume_keeps (fun _ _ _ _ => rfl) h) hhome
    exact iff_of_false (fun h' => h' hcurrent) fun h' => h'.1 hhome
  · by_cases hgoogle : ∃ tokens, await = .signInWithCredential tokens
    · obtain ⟨tokens, rfl⟩ := hgoogle
      cases h
      cases hmounted : w.mounted page with
      | true =>
          have hcurrent := google_none_mounted env hmounted
          exact iff_of_false (fun h' => h' hcurrent) fun h' => nomatch h'.2 tokens rfl
      | false =>
          exact iff_of_true (google_none_disposed (S := fun _ r => r ≠ .home) env hmounted hhome)
            ⟨hhome, fun _ _ => rfl⟩
    · have hopens : ∀ u, ¬ opensHome await (.user (.ok none)) u := by
        intro u hu
        unfold opensHome at hu
        split at hu <;> simp_all
      refine iff_of_true ?_ ⟨hhome, fun tokens htokens => absurd ⟨tokens, htokens⟩ hgoogle⟩
      exact runHandler_onSession (S := fun _ r => r ≠ .home)
        (resume_keeps (fun u _ hu _ => absurd hu (hopens u)) h) hhome

end World

end NewsApp.Login
