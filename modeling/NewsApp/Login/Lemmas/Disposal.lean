import NewsApp.Login.Lemmas.Steps

/-!
# What the handlers do to mounted and to disposed pages
-/

namespace NewsApp.Login

open Lib

variable {env : Env} {page : Nat} {await : Await} {answer : Answer} {handler : Handler (Option Await)}

/-! ## Mounted pages -/

def World.Safe (page : Nat) (w : World) : Prop := w.mounted page = true ∧ w.Undisturbed

theorem useContext_returns (use : ContextUse) : Returns (World.Safe page) (useContext page use) := by
  rintro w ⟨hmounted, htouches, hunhandled⟩
  rw [useContext_run, if_pos hmounted]
  refine ⟨hmounted, fun t ht => ?_, hunhandled⟩
  rcases List.mem_append.mp ht with ht | ht
  · exact htouches t ht
  · rw [List.mem_singleton.mp ht]
    exact hmounted

theorem setState_returns (asserts : Bool) {f : LoginPage → LoginPage} (hf : ∀ p, (f p).mounted = p.mounted) :
    Returns (World.Safe page) (setState asserts page f) := by
  rintro w ⟨hmounted, htouches, hunhandled⟩
  rw [setState_run hf, if_pos hmounted]
  refine ⟨(mounted_modify hf w page page).trans hmounted, fun t ht => ?_, hunhandled⟩
  rcases List.mem_append.mp ht with ht | ht
  · exact htouches t ht
  · rw [List.mem_singleton.mp ht]
    exact hmounted

theorem showSnackBar_returns (text : String) : Returns (World.Safe page) (showSnackBar text) :=
  Triple.of_modify fun _ hw => hw

theorem pushHomePage_returns : Returns (World.Safe page) (pushHomePage page) := by
  apply Returns.bind (useContext_returns .navigator)
  intro _
  exact Triple.of_modify fun _ hw => hw

/-- The end of the two sign-ins. -/
theorem welcome_returns (text : String) :
    Returns (World.Safe page) (do showSnackBar text; pushHomePage page; return (none : Option Await)) := by
  apply Returns.bind (showSnackBar_returns text)
  intro _
  apply Returns.bind pushHomePage_returns
  intro _
  exact Returns.pure none

theorem catchSignIn_returns (text : String) (e : DartError) :
    Returns (World.Safe page) (catchSignIn page text e) := by
  unfold catchSignIn
  split
  all_goals
    apply Returns.bind (useContext_returns .scaffoldOf)
    intro _
    apply Returns.bind (showSnackBar_returns _)
    intro _
    exact Returns.pure none

theorem register_returns (credential : Dart (Option User)) :
    Returns (World.Safe page) (register env page credential) := by
  apply Returns.tryCatch
  · apply Keeps.bind (ofDart_keeps credential)
    intro user
    cases user with
    | none =>
        exact Keeps.bind (Returns.keeps (setState_returns env.asserts fun _ => rfl)) fun _ => Keeps.pure none
    | some user =>
        exact Keeps.bind (Returns.keeps (setState_returns env.asserts fun _ => rfl)) fun _ => Keeps.pure none
  · intro e
    exact Returns.bind (setState_returns env.asserts fun _ => rfl) fun _ => Returns.pure none

theorem signInWithEmailAndPassword_returns (credential : Dart (Option User)) :
    Returns (World.Safe page) (signInWithEmailAndPassword page credential) := by
  apply Returns.tryCatch _ (catchSignIn_returns _)
  apply Keeps.bind (ofDart_keeps credential)
  intro user
  apply Keeps.bind (useContext_returns .scaffoldOf).keeps
  intro _
  apply Keeps.bind (ofDart_keeps (deref user))
  intro user
  exact (welcome_returns _).keeps

theorem signInWithGoogle_returns {body : Handler (Option Await)} (hbody : Keeps (World.Safe page) body) :
    Returns (World.Safe page) (signInWithGoogle page body) :=
  Returns.tryCatch hbody (catchSignIn_returns _)

theorem assertCurrentUser_keeps {P : World → Prop} (asserts : Bool) (user : User) :
    Keeps P (assertCurrentUser asserts user) := by
  unfold assertCurrentUser
  cases asserts with
  | false => exact Keeps.pure ()
  | true =>
      apply Keeps.bind (fun _ hw => hw)
      intro w
      apply Keeps.bind (ofDart_keeps (deref w.currentUser))
      intro currentUser
      exact ofDart_keeps _

theorem googleSignedIn_safe (asserts : Bool) (user : User) :
    Keeps (World.Safe page) (googleSignedIn asserts page user) := by
  apply Keeps.bind (assertCurrentUser_keeps asserts user)
  intro _
  apply Keeps.bind (useContext_returns .scaffoldOf).keeps
  intro _
  exact (welcome_returns _).keeps

theorem googleCredential_safe (user : Option User) :
    Keeps (World.Safe page) (googleCredential env page user) := by
  cases user with
  | none =>
      apply Keeps.bind pushHomePage_returns.keeps
      intro _
      exact Keeps.pure none
  | some user =>
      apply Keeps.bind (ofDart_keeps _)
      intro _
      split_ifs
      · exact Keeps.pure _
      · exact googleSignedIn_safe false user

/-- On a mounted page every handler returns: its clauses catch all errors of its body. -/
theorem resume_returns (h : resume env page await answer = some handler) :
    Returns (World.Safe page) handler := by
  unfold resume at h
  split at h <;> cases h
  case h_1 credential => exact register_returns credential
  case h_2 credential => exact signInWithEmailAndPassword_returns credential
  case h_3 account =>
      apply signInWithGoogle_returns
      apply Keeps.bind (ofDart_keeps account)
      intro account
      apply Keeps.bind (ofDart_keeps (deref account))
      intro account
      exact Keeps.pure _
  case h_4 tokens =>
      apply signInWithGoogle_returns
      apply Keeps.bind (ofDart_keeps tokens)
      intro tokens
      apply Keeps.bind (ofDart_keeps (env.credential tokens))
      intro _
      exact Keeps.pure _
  case h_5 credential =>
      apply signInWithGoogle_returns
      apply Keeps.bind (ofDart_keeps credential)
      intro user
      exact googleCredential_safe user
  case h_6 user token =>
      apply signInWithGoogle_returns
      apply Keeps.bind (ofDart_keeps token)
      intro token
      apply Keeps.bind (ofDart_keeps _)
      intro _
      exact googleSignedIn_safe true user

/-! ## Disposed pages -/

def World.Disposed (page : Nat) (w : World) : Prop := w.mounted page = false

theorem useContext_throws (use : ContextUse) : Throws (World.Disposed page) (useContext page use) := by
  intro w hw
  have hmounted : ¬ w.mounted page = true := by
    rw [show w.mounted page = false from hw]
    nofun
  rw [useContext_run, if_neg hmounted]
  exact hw

theorem catchSignIn_throws (text : String) (e : DartError) :
    Throws (World.Disposed page) (catchSignIn page text e) := by
  unfold catchSignIn
  split
  all_goals exact (useContext_throws .scaffoldOf).bind _

theorem setState_throws (asserts : Bool) {f : LoginPage → LoginPage} (hf : ∀ p, (f p).mounted = p.mounted) :
    Throws (World.Disposed page) (setState asserts page f) := by
  intro w hw
  have hmounted : ¬ w.mounted page = true := by
    rw [show w.mounted page = false from hw]
    nofun
  rw [setState_run hf, if_neg hmounted]
  cases asserts with
  | true => exact hw
  | false => exact (mounted_modify hf w page page).trans hw

theorem pushHomePage_throws : Throws (World.Disposed page) (pushHomePage page) :=
  (useContext_throws .navigator).bind _

theorem register_throws (credential : Dart (Option User)) :
    Throws (World.Disposed page) (register env page credential) := by
  have hreport {f : LoginPage → LoginPage} (hf : ∀ p, (f p).mounted = p.mounted) :
      Throws (World.Disposed page) (do setState env.asserts page f; return (none : Option Await)) :=
    (setState_throws env.asserts hf).bind _
  apply Throws.tryCatch
  · apply Throws.bind_of_keeps (ofDart_keeps credential)
    intro user
    cases user with
    | none => exact hreport fun _ => rfl
    | some user => exact hreport fun _ => rfl
  · intro e
    exact hreport fun _ => rfl

theorem signInWithEmailAndPassword_throws (credential : Dart (Option User)) :
    Throws (World.Disposed page) (signInWithEmailAndPassword page credential) := by
  apply Throws.tryCatch _ (catchSignIn_throws _)
  apply Throws.bind_of_keeps (ofDart_keeps credential)
  intro user
  exact (useContext_throws .scaffoldOf).bind _

theorem signInWithGoogle_throws {body : Handler (Option Await)} (hbody : Throws (World.Disposed page) body) :
    Throws (World.Disposed page) (signInWithGoogle page body) :=
  Throws.tryCatch hbody (catchSignIn_throws _)

theorem googleSignedIn_throws (asserts : Bool) (user : User) :
    Throws (World.Disposed page) (googleSignedIn asserts page user) := by
  apply Throws.bind_of_keeps (assertCurrentUser_keeps asserts user)
  intro _
  exact (useContext_throws .scaffoldOf).bind _

theorem googleCredential_throws {user : Option User} {tokens : GoogleSignInAuthentication}
    (hlast : ¬ World.awaitsNext env (.signInWithCredential tokens) (.user (.ok user))) :
    Throws (World.Disposed page) (googleCredential env page user) := by
  cases user with
  | none => exact pushHomePage_throws.bind _
  | some user =>
      have hlast : ¬ (env.asserts = true ∧ user.isAnonymous = false) := hlast
      simp only [googleCredential]
      cases hasserts : env.asserts with
      | false =>
          apply Throws.bind_of_keeps (ofDart_keeps _)
          intro _
          exact googleSignedIn_throws false user
      | true =>
          have hanonymous : user.isAnonymous = true := by simpa [hasserts] using hlast
          rw [hanonymous]
          exact (ofDart_error_throws .assertionError).bind _

/-- On a disposed page a handler that does not await another call throws, and its clauses throw again. -/
theorem resume_throws (hlast : ¬ World.awaitsNext env await answer)
    (h : resume env page await answer = some handler) : Throws (World.Disposed page) handler := by
  unfold resume at h
  split at h <;> cases h
  case h_1 credential => exact register_throws credential
  case h_2 credential => exact signInWithEmailAndPassword_throws credential
  case h_3 account =>
      apply signInWithGoogle_throws
      cases account with
      | error e => exact (ofDart_error_throws e).bind _
      | ok account =>
          rw [ofDart_ok_bind]
          cases account with
          | none => exact (ofDart_error_throws .noSuchMethodError).bind _
          | some account => exact absurd trivial hlast
  case h_4 tokens =>
      apply signInWithGoogle_throws
      cases tokens with
      | error e => exact (ofDart_error_throws e).bind _
      | ok tokens =>
          rw [ofDart_ok_bind]
          cases hcredential : env.credential tokens with
          | ok _ => exact absurd hcredential hlast
          | error e => exact (ofDart_error_throws e).bind _
  case h_5 credential =>
      apply signInWithGoogle_throws
      cases credential with
      | error e => exact (ofDart_error_throws e).bind _
      | ok user =>
          rw [ofDart_ok_bind]
          exact googleCredential_throws hlast
  case h_6 user token =>
      apply signInWithGoogle_throws
      apply Throws.bind_of_keeps (ofDart_keeps token)
      intro token
      apply Throws.bind_of_keeps (ofDart_keeps _)
      intro _
      exact googleSignedIn_throws true user

/-- A handler that awaits another call has done nothing since the last one. -/
theorem resume_awaits (hnext : World.awaitsNext env await answer)
    (h : resume env page await answer = some handler) (w : World) :
    ∃ next, handler.run w = .ok (some next) w := by
  unfold World.awaitsNext at hnext
  split at hnext
  case h_1 account =>
      cases h
      exact ⟨_, rfl⟩
  case h_2 tokens =>
      cases h
      have hrun : (signInWithGoogle page do
          ofDart (env.credential tokens)
          return some (.signInWithCredential tokens)).run w =
            .ok (some (.signInWithCredential tokens)) w := by
        rw [hnext]
        rfl
      exact ⟨_, hrun⟩
  case h_3 user =>
      cases h
      have hrun : (signInWithGoogle page (googleCredential env page (some user))).run w =
          .ok (some (.getIdToken user)) w := by
        simp only [googleCredential]
        rw [hnext.1, hnext.2]
        rfl
      exact ⟨_, hrun⟩
  case h_4 => exact hnext.elim

/-! ## After an answer -/

namespace World

variable {w : World}

theorem runHandler_undisturbed (hreturns : Returns (Safe page) handler) (hw : w.Safe page) :
    (w.runHandler page handler).Undisturbed := by
  unfold runHandler
  cases hrun : handler.run w with
  | ok next w' =>
      have hw' : w'.Safe page := hreturns.ok hw hrun
      cases next with
      | none => exact hw'.2
      | some await => exact hw'.2
  | error e w' => exact (hreturns.error hw hrun).elim

theorem runHandler_not_undisturbed (hthrows : Throws (Disposed page) handler) (hw : w.Disposed page) :
    ¬ (w.runHandler page handler).Undisturbed := by
  unfold runHandler
  cases hrun : handler.run w with
  | ok next w' => exact (hthrows.ok hw hrun).elim
  | error e w' => exact fun h => List.append_ne_nil_of_right_ne_nil _ (List.cons_ne_nil e []) h.2

theorem runHandler_awaits {next : Await} (hrun : handler.run w = .ok (some next) w) :
    w.runHandler page handler = w.start page next := by
  unfold runHandler
  rw [hrun]

end World

end NewsApp.Login
