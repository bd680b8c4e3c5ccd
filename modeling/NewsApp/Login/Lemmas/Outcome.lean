import NewsApp.Lib.Simulation
import NewsApp.Login.Lemmas.Steps
import NewsApp.Login.Outcome

/-!
# The handlers follow the table
-/

namespace NewsApp.Login

open Lib

variable {env : Env} {w : World} {page : Nat} {o : Outcome} {text : String} {asserts : Bool}

/-- The same but for the touches. -/
def World.Like (w v : World) : Prop := ∃ touches, v = { w with touches }

namespace World

theorem effect_mounted (w : World) (page : Nat) (o : Outcome) (page' : Nat) :
    (w.effect page o).mounted page' = w.mounted page' := by
  cases o with
  | report success message late =>
      exact mounted_modify (f := fun p => { p with success := some success, message := some message })
        (fun _ => rfl) w page page'
  | _ => rfl

/-- Only a report without assertions leaves something. -/
theorem lateEffect_cases (asserts : Bool) (w : World) (page : Nat) (o : Outcome) :
    w.lateEffect asserts page o = w ∨ asserts = false ∧ ∃ success message late,
      o = .report success message late ∧
        w.lateEffect asserts page o = w.effect page (.report false late late) := by
  cases o with
  | report success message late =>
      cases asserts with
      | true => exact Or.inl rfl
      | false => exact Or.inr ⟨rfl, success, message, late, rfl, rfl⟩
  | _ => exact Or.inl rfl

theorem lateEffect_eq (asserts : Bool) (w : World) (page : Nat) (o : Outcome) :
    w.lateEffect asserts page o = { w with pages := (w.lateEffect asserts page o).pages } := by
  rcases lateEffect_cases asserts w page o with h | ⟨_, _, _, _, _, h⟩
  · rw [h]
  · rw [h]
    rfl

theorem lateEffect_mounted (asserts : Bool) (w : World) (page : Nat) (o : Outcome) (page' : Nat) :
    (w.lateEffect asserts page o).mounted page' = w.mounted page' := by
  rcases lateEffect_cases asserts w page o with h | ⟨_, _, _, _, _, h⟩
  · rw [h]
  · rw [h, effect_mounted]

end World

namespace Outcome

/-- The code returns the next call of the outcome, with its effect; on a disposed page there is none. -/
def Returned (o : Outcome) (w : World) (page : Nat) (next : Option Await) (v : World) : Prop :=
  next = o.next ∧ (o.next = none → w.mounted page = true) ∧ (w.effect page o).Like v

/-- The handler returns so, or throws because the page is disposed. -/
def Performs (asserts : Bool) (o : Outcome) (w : World) (page : Nat)
    (handler : Handler (Option Await)) : Prop :=
  Triple w.Like handler (o.Returned w page) (fun e v =>
    e = .disposedError ∧ o.next = none ∧ w.mounted page = false ∧ (w.lateEffect asserts page o).Like v)

/-- Nothing is left of the effect on a disposed page. -/
def Traceless (o : Outcome) : Prop := ∀ asserts w page, World.lateEffect asserts w page o = w

/-- The body of a sign-in returns so, or throws an error for which the clauses show the outcome. -/
def PerformsIn (o : Outcome) (text : String) (w : World) (page : Nat) (body : Handler (Option Await)) : Prop :=
  Triple w.Like body (o.Returned w page) (fun e v =>
    o.next = none ∧ o.Traceless ∧ (w.mounted page = true → o = .snackBar (failureText text e)) ∧ w.Like v)

end Outcome

open Outcome

/-! ## The use of the context -/

theorem useContext_like {E : DartError → World → Prop}
    (hE : w.mounted page = false → ∀ v, w.Like v → E .disposedError v) (use : ContextUse) :
    Triple w.Like (useContext page use) (fun _ v => w.mounted page = true ∧ w.Like v) E := by
  rintro _ ⟨touches, rfl⟩
  have hmounted : World.mounted { w with touches } page = w.mounted page := rfl
  rw [useContext_run, hmounted]
  cases h : w.mounted page with
  | true => exact ⟨rfl, _, rfl⟩
  | false => exact hE h _ ⟨_, rfl⟩

theorem effect_like (hnext : o.next = none) {f : World → World}
    (hf : ∀ touches, f { w with touches } = { w.effect page o with touches }) {E : DartError → World → Prop} :
    Triple (fun v => w.mounted page = true ∧ w.Like v) (modify f)
      (fun _ v => o.Returned w page none v) E := by
  apply Triple.of_modify
  rintro _ ⟨hmounted, touches, rfl⟩
  exact ⟨hnext.symm, fun _ => hmounted, touches, hf touches⟩

/-- `_register` sets both fields at once. On a disposed page they are set without assertions only. -/
theorem setState_report (asserts success : Bool) (message : String) (w : World) :
    Triple w.Like (do
      setState asserts page fun p => { p with success := some success, message := some message }
      return (none : Option Await))
      (fun next v => next = none ∧ w.mounted page = true ∧
        (w.effect page (.report success message message)).Like v)
      (fun e v => e = .disposedError ∧ w.mounted page = false ∧
        (if asserts then w else w.effect page (.report success message message)).Like v) := by
  rintro _ ⟨touches, rfl⟩
  have hmounted : World.mounted { w with touches } page = w.mounted page := rfl
  rw [EStateM.run_bind, setState_run, hmounted]
  · cases h : w.mounted page with
    | true => exact ⟨rfl, rfl, _, rfl⟩
    | false => cases asserts <;> exact ⟨rfl, rfl, _, rfl⟩
  · exact fun _ => rfl

/-- The clause `catch (e)` of `_register` replaces the report whose `setState` has failed. -/
theorem setState_late (asserts success : Bool) (message late : String) (hdisposed : w.mounted page = false) :
    Triple (if asserts then w else w.effect page (.report success message message)).Like (do
      setState asserts page fun p => { p with success := some false, message := some late }
      return (none : Option Await))
      ((Outcome.report success message late).Returned w page)
      (fun e v => e = .disposedError ∧ (w.lateEffect asserts page (.report success message late)).Like v) := by
  cases asserts with
  | true =>
      refine (setState_report true false late w).conseq (fun _ hv => hv) ?_ ?_
      · exact fun _ _ h => absurd (hdisposed.symm.trans h.2.1) Bool.false_ne_true
      · exact fun _ _ h => ⟨h.1, h.2.2⟩
  | false =>
      let w₁ := w.effect page (.report success message message)
      have hdisposed₁ : w₁.mounted page = false := (World.effect_mounted w page _ page).trans hdisposed
      have hover : w₁.effect page (.report false late late) = w.effect page (.report false late late) := by
        simp only [w₁, World.effect, List.modify_modify_eq]
        rfl
      refine (setState_report false false late w₁).conseq (fun _ hv => hv) ?_ ?_
      · exact fun _ _ h => absurd (hdisposed₁.symm.trans h.2.1) Bool.false_ne_true
      · rintro e v ⟨he, _, hv⟩
        rw [hover] at hv
        exact ⟨he, hv⟩

theorem snackBar_performs (text : String) :
    Performs asserts (.snackBar text) w page (do scaffoldOf page; showSnackBar text; return none) := by
  apply Triple.bind (useContext_like (fun hdisposed v hv => ⟨rfl, rfl, hdisposed, hv⟩) .scaffoldOf)
  intro _
  apply Triple.bind (effect_like (o := .snackBar text) rfl fun _ => rfl)
  intro _
  exact Triple.pure fun _ hv => hv

theorem catchSignIn_performs (e : DartError) :
    Performs asserts (.snackBar (failureText text e)) w page (catchSignIn page text e) := by
  cases e with
  | firebaseAuthException message => exact snackBar_performs (interpolate message)
  | _ => exact snackBar_performs text

/-! ## The bodies of the sign-ins -/

theorem performsIn_error {α : Type} (e : DartError) (f : α → Handler (Option Await)) :
    PerformsIn (.snackBar (failureText text e)) text w page (ofDart (.error e) >>= f) :=
  fun _ hv => ⟨rfl, fun _ _ _ => rfl, fun _ => rfl, hv⟩

theorem performsIn_await (next : Await) : PerformsIn (.await next) text w page (return some next) :=
  fun _ hv => ⟨rfl, nofun, hv⟩

theorem performsIn_useContext (hnext : o.next = none) (htrace : o.Traceless) (use : ContextUse)
    {rest : Handler (Option Await)} (hrest : w.mounted page = true → PerformsIn o text w page rest) :
    PerformsIn o text w page (do useContext page use; rest) := by
  apply Triple.bind (useContext_like (fun hdisposed v hv =>
    ⟨hnext, htrace, fun hmounted => (nomatch hdisposed.symm.trans hmounted), hv⟩) use)
  rintro _ v ⟨hmounted, hv⟩
  exact hrest hmounted v hv

theorem pushHomePage_performs :
    PerformsIn (.welcome none) text w page (do pushHomePage page; return none) := by
  apply Triple.bind (Q := fun _ v => (Outcome.welcome none).Returned w page none v)
  · apply Triple.bind (useContext_like (fun hdisposed v hv =>
      ⟨rfl, fun _ _ _ => rfl, fun hmounted => (nomatch hdisposed.symm.trans hmounted), hv⟩) .navigator)
    intro _
    exact effect_like (o := .welcome none) rfl fun touches => by simp [World.effect]
  · intro _
    exact Triple.pure fun _ hv => hv

theorem welcome_performs (shown : String) (hmounted : w.mounted page = true) :
    PerformsIn (.welcome (some shown)) text w page (do
      showSnackBar shown
      pushHomePage page
      return none) := by
  have hpush : PerformsIn (.welcome none) text { w with snackBars := w.snackBars ++ [shown] } page
      (do pushHomePage page; return none) := pushHomePage_performs
  have hshow : Triple w.Like (showSnackBar shown)
      (fun _ => World.Like { w with snackBars := w.snackBars ++ [shown] }) (fun _ _ => False) := by
    apply Triple.of_modify
    rintro _ ⟨touches, rfl⟩
    exact ⟨touches, rfl⟩
  refine (hshow.conseq (fun _ hv => hv) (fun _ _ hv => hv) fun _ _ hv => hv.elim).bind fun _ => ?_
  refine hpush.conseq (fun _ hv => hv) ?_ ?_
  · rintro next v ⟨hnext, _, hv⟩
    refine ⟨hnext, fun _ => hmounted, ?_⟩
    simpa [World.effect] using hv
  · rintro e v ⟨_, _, hshown, _⟩
    exact nomatch hshown hmounted

/-- On a disposed page all effects that leave nothing are the same error. -/
theorem Outcome.Performs.of_disposed {o' : Outcome} {handler : Handler (Option Await)}
    (h : Performs asserts o w page handler) (hdisposed : ¬ w.mounted page = true) (hnext : o.next = none)
    (htrace : o.Traceless) (hnext' : o'.next = none) (htrace' : o'.Traceless) :
    Performs asserts o' w page handler := by
  refine h.conseq (fun _ hv => hv) ?_ ?_
  · rintro next v ⟨_, hreturned, _⟩
    exact absurd (hreturned hnext) hdisposed
  · rintro e v ⟨he, _, hmounted, hv⟩
    rw [htrace] at hv
    exact ⟨he, hnext', hmounted, (htrace' asserts w page).symm ▸ hv⟩

theorem tryCatch_performs {body : Handler (Option Await)} (hbody : PerformsIn o text w page body) :
    Performs asserts o w page (tryCatch body (catchSignIn page text)) := by
  apply Triple.tryCatch hbody
  rintro e v ⟨hnext, htrace, hshown, hv⟩
  by_cases hmounted : w.mounted page = true
  · rw [hshown hmounted]
    exact catchSignIn_performs e v hv
  · -- the clauses use the context of the disposed page too
    exact (catchSignIn_performs e).of_disposed hmounted rfl (fun _ _ _ => rfl) hnext htrace v hv

/-! ## The handlers -/

theorem register_performs (credential : Dart (Option User)) (email password : String) :
    Option.Rel (fun handler o => Performs env.asserts o w page handler)
      (some (register env page credential))
      (outcome env w.currentUser (.createUserWithEmailAndPassword email password) (.user credential)) := by
  have hcatch (success : Bool) (message : String) (e : DartError) :
      Triple (fun v => e = .disposedError ∧ w.mounted page = false ∧
          (if env.asserts then w else w.effect page (.report success message message)).Like v)
        (do
          setState env.asserts page fun p =>
            { p with success := some false, message := some (registerFailure env e) }
          return none)
        ((Outcome.report success message (registerFailure env .disposedError)).Returned w page)
        (fun e v => e = .disposedError ∧
          (Outcome.report success message (registerFailure env .disposedError)).next = none ∧
          w.mounted page = false ∧ (w.lateEffect env.asserts page
            (.report success message (registerFailure env .disposedError))).Like v) := by
    rintro v ⟨rfl, hdisposed, hv⟩
    refine (setState_late env.asserts success message _ hdisposed).conseq (fun _ hv => hv)
      (fun _ _ hv => hv) ?_ v hv
    exact fun _ _ h => ⟨h.1, rfl, hdisposed, h.2⟩
  have hreport (success : Bool) (message : String) :
      Performs env.asserts (.report success message (registerFailure env .disposedError)) w page (tryCatch
        (do
          setState env.asserts page fun p => { p with success := some success, message := some message }
          return none)
        fun e => do
          setState env.asserts page fun p =>
            { p with success := some false, message := some (registerFailure env e) }
          return none) := by
    refine Triple.tryCatch ?_ (hcatch success message)
    refine (setState_report env.asserts success message w).conseq (fun _ hv => hv) ?_ fun _ _ h => h
    exact fun _ _ h => ⟨h.1, fun _ => h.2.1, h.2.2⟩
  cases credential with
  | error e =>
      refine .some (Triple.tryCatch (R := fun e' v => e' = e ∧ w.Like v) (fun _ hv => ⟨rfl, hv⟩) ?_)
      rintro _ v ⟨rfl, hv⟩
      refine (setState_report env.asserts false (registerFailure env _) w).conseq (fun _ hv => hv) ?_ ?_ v hv
      · exact fun _ _ h => ⟨h.1, fun _ => h.2.1, h.2.2⟩
      · exact fun _ _ h => ⟨h.1, rfl, h.2⟩
  | ok user =>
      cases user with
      | none => exact .some (hreport false _)
      | some user => exact .some (hreport true _)

theorem signInWithEmailAndPassword_performs (credential : Dart (Option User)) (email password : String) :
    Option.Rel (fun handler o => Performs env.asserts o w page handler)
      (some (signInWithEmailAndPassword page credential))
      (outcome env w.currentUser (.signInWithEmailAndPassword email password) (.user credential)) := by
  cases credential with
  | error e => exact .some (tryCatch_performs (performsIn_error e _))
  | ok user =>
      cases user with
      | none =>
          exact .some (tryCatch_performs (performsIn_useContext rfl (fun _ _ _ => rfl) .scaffoldOf fun _ =>
            performsIn_error _ _))
      | some user =>
          exact .some (tryCatch_performs (performsIn_useContext rfl (fun _ _ _ => rfl) .scaffoldOf
            fun hmounted => welcome_performs _ hmounted))

theorem assertCurrentUser_run (user : User) (w : World) :
    (assertCurrentUser true user).run w = match w.currentUser with
      | some currentUser =>
          if user.uid = currentUser.uid then .ok () w else .error .assertionError w
      | none => .error .noSuchMethodError w := by
  simp only [assertCurrentUser, if_true, EStateM.run_bind, EStateM.run_get]
  cases hcurrent : w.currentUser with
  | none => rfl
  | some currentUser =>
      by_cases huid : user.uid = currentUser.uid <;> simp [ofDart, assert, huid]

theorem googleSignedIn_performs {asserts : Bool} {user : User}
    (hassert : Triple w.Like (assertCurrentUser asserts user) (fun _ => w.Like) fun _ _ => False) :
    PerformsIn (googleWelcome user) text w page (googleSignedIn asserts page user) := by
  refine (hassert.conseq (fun _ hv => hv) (fun _ _ hv => hv) fun _ _ hv => hv.elim).bind fun _ => ?_
  exact performsIn_useContext rfl (fun _ _ _ => rfl) .scaffoldOf fun hmounted => welcome_performs _ hmounted

/-- What the sign-in with Google does with the user of its credential. -/
theorem googleCredential_performs (user : Option User) (tokens : GoogleSignInAuthentication) :
    Option.Rel (fun handler o => Performs env.asserts o w page handler)
      (some (signInWithGoogle page (googleCredential env page user)))
      (outcome env w.currentUser (.signInWithCredential tokens) (.user (.ok user))) := by
  cases user with
  | none => exact .some (tryCatch_performs pushHomePage_performs)
  | some user =>
      simp only [outcome, googleCredential]
      cases env.asserts with
      | false =>
          have hbody : PerformsIn (googleWelcome user) "Google ile giriş yaparken bir hata oluştu." w page
              (googleSignedIn false page user) := googleSignedIn_performs fun _ hv => hv
          exact .some (tryCatch_performs hbody)
      | true =>
          cases user.isAnonymous with
          | true => exact .some (tryCatch_performs (performsIn_error .assertionError _))
          | false => exact .some (tryCatch_performs (performsIn_await _))

/-- What it does when the token has come. -/
theorem googleIdToken_performs (user : User) (token : Option String) :
    Option.Rel (fun handler o => Performs env.asserts o w page handler)
      (some (signInWithGoogle page do
        ofDart (assert true token.isSome)
        googleSignedIn true page user))
      (outcome env w.currentUser (.getIdToken user) (.idToken (.ok token))) := by
  cases token with
  | none => exact .some (tryCatch_performs (performsIn_error .assertionError _))
  | some token =>
      simp only [outcome]
      have hlike {e : DartError} (hrun : ∀ v, w.Like v → (assertCurrentUser true user).run v = .error e v) :
          PerformsIn (googleFailure e) "Google ile giriş yaparken bir hata oluştu." w page
            (googleSignedIn true page user) := by
        intro v hv
        unfold googleSignedIn
        rw [EStateM.run_bind, hrun v hv]
        exact ⟨rfl, fun _ _ _ => rfl, fun _ => rfl, hv⟩
      cases hcurrent : w.currentUser with
      | none =>
          refine .some (tryCatch_performs (hlike ?_))
          rintro _ ⟨touches, rfl⟩
          rw [assertCurrentUser_run, hcurrent]
      | some currentUser =>
          by_cases huid : user.uid = currentUser.uid
          · simp only [if_pos huid]
            refine .some (tryCatch_performs (googleSignedIn_performs fun v hv => ?_))
            have hrun : (assertCurrentUser true user).run v = .ok () v := by
              obtain ⟨touches, rfl⟩ := hv
              simp only [assertCurrentUser_run, hcurrent, if_pos huid]
            rw [hrun]
            exact hv
          · simp only [if_neg huid]
            refine .some (tryCatch_performs (hlike ?_))
            rintro _ ⟨touches, rfl⟩
            rw [assertCurrentUser_run, hcurrent]
            simp only [if_neg huid]

/-- The table has an outcome for exactly the answers that resume a handler, and the handler performs it. -/
theorem resume_performs (env : Env) (w : World) (page : Nat) (await : Await) (answer : Answer) :
    Option.Rel (fun handler o => Performs env.asserts o w page handler)
      (resume env page await answer) (outcome env w.currentUser await answer) := by
  cases await with
  | createUserWithEmailAndPassword email password =>
      cases answer with
      | user credential => exact register_performs credential email password
      | _ => exact .none
  | signInWithEmailAndPassword email password =>
      cases answer with
      | user credential => exact signInWithEmailAndPassword_performs credential email password
      | _ => exact .none
  | googleSignIn =>
      rcases answer with _ | (e | account) | _ | _
      · exact .none
      · exact .some (tryCatch_performs (performsIn_error e _))
      · cases account with
        | none => exact .some (tryCatch_performs fun _ hv => ⟨rfl, fun _ _ _ => rfl, fun _ => rfl, hv⟩)
        | some account => exact .some (tryCatch_performs (performsIn_await _))
      · exact .none
      · exact .none
  | authentication account =>
      rcases answer with _ | _ | (e | tokens) | _
      · exact .none
      · exact .none
      · exact .some (tryCatch_performs (performsIn_error e _))
      · simp only [resume, outcome, ofDart_ok_bind]
        cases hcredential : env.credential tokens with
        | error e => exact .some (tryCatch_performs (performsIn_error e _))
        | ok _ => exact .some (tryCatch_performs (performsIn_await _))
      · exact .none
  | signInWithCredential tokens =>
      rcases answer with (e | user) | _ | _ | _
      · exact .some (tryCatch_performs (performsIn_error e _))
      · exact googleCredential_performs user tokens
      · exact .none
      · exact .none
      · exact .none
  | getIdToken user =>
      rcases answer with _ | _ | _ | (e | token)
      · exact .none
      · exact .none
      · exact .none
      · exact .some (tryCatch_performs (performsIn_error e _))
      · exact googleIdToken_performs user token

/-! ## The app -/

namespace World

theorem runHandler_perform {handler : Handler (Option Await)}
    (h : Performs asserts o w page handler) :
    (w.perform asserts page o).Like (w.runHandler page handler) := by
  unfold runHandler perform
  cases hrun : handler.run w with
  | ok next v =>
      obtain ⟨rfl, hmounted, touches, rfl⟩ := h.ok ⟨_, rfl⟩ hrun
      cases hnext : o.next with
      | none =>
          rw [if_pos (hmounted hnext)]
          exact ⟨touches, rfl⟩
      | some next =>
          cases o with
          | await next => exact ⟨touches, by cases hnext; rfl⟩
          | _ => cases hnext
  | error e v =>
      obtain ⟨rfl, hnext, hdisposed, touches, rfl⟩ := h.error ⟨_, rfl⟩ hrun
      simp only [hnext, hdisposed, Bool.false_eq_true, if_false]
      rw [lateEffect_eq]
      exact ⟨touches, rfl⟩

end World

end NewsApp.Login
