import NewsApp.Login.Session

/-!
# Steps of handlers and of the app
-/

namespace NewsApp.Login

open Lib

variable {page : Nat}

/-! ## Handlers -/

theorem ofDart_keeps {α : Type} {P : World → Prop} (x : Dart α) : Keeps P (ofDart x) := by
  cases x with
  | ok a => exact Keeps.pure a
  | error e => exact Keeps.throw e

theorem ofDart_ok_bind {α β : Type} (a : α) (f : α → Handler β) : ofDart (.ok a) >>= f = f a := rfl

theorem ofDart_error_throws {α : Type} {P : World → Prop} (e : DartError) :
    Throws P (ofDart (.error e : Dart α)) := Throws.throw e

theorem useContext_run (w : World) (use : ContextUse) :
    (useContext page use).run w =
      if w.mounted page then .ok () (w.touch page use) else .error .disposedError (w.touch page use) := by
  unfold useContext
  simp only [EStateM.run_bind, EStateM.run_get, EStateM.run_set]
  split_ifs <;> rfl

theorem mounted_modify {f : LoginPage → LoginPage} (hf : ∀ p, (f p).mounted = p.mounted) (w : World)
    (page page' : Nat) : World.mounted { w with pages := w.pages.modify page f } page' = w.mounted page' := by
  unfold World.mounted
  rw [List.getElem?_modify]
  by_cases h : page = page'
  · cases w.pages[page']? with
    | none => rfl
    | some p => simp [h, hf]
  · cases w.pages[page']? <;> simp [h]

/-- The assertion decides whether the callback of a disposed State has run before the error. -/
theorem setState_run {f : LoginPage → LoginPage} (hf : ∀ p, (f p).mounted = p.mounted) (asserts : Bool)
    (w : World) : (setState asserts page f).run w =
      if w.mounted page then .ok () { w.touch page .setState with pages := w.pages.modify page f }
      else .error .disposedError { w.touch page .setState with
        pages := if asserts then w.pages else w.pages.modify page f } := by
  have hcallback : World.touch { w with pages := w.pages.modify page f } page .setState =
      { w.touch page .setState with pages := w.pages.modify page f } := by
    simp only [World.touch, mounted_modify hf]
  unfold setState
  cases asserts with
  | true =>
      simp only [if_true, EStateM.run_bind, useContext_run]
      split_ifs <;> rfl
  | false =>
      simp only [Bool.false_eq_true, if_false, EStateM.run_bind, EStateM.run_modify, useContext_run,
        mounted_modify hf, hcallback]

theorem useContext_returns_mounted (use : ContextUse) :
    Returns (fun w => w.mounted page = true) (useContext page use) := by
  intro w hw
  rw [useContext_run, if_pos hw]
  exact hw

theorem useContext_mounted {w : World} (hmounted : w.mounted page = true) (use : ContextUse) :
    Triple (· = w) (useContext page use) (fun _ w' => w' = w.touch page use) (fun _ _ => False) := by
  rintro _ rfl
  rw [useContext_run, if_pos hmounted]

theorem signInWithEmailAndPassword_mounted {w : World} (hmounted : w.mounted page = true) (user : User) :
    Triple (· = w) (signInWithEmailAndPassword page (.ok (some user)))
      (fun next w' => next = none ∧ w' = { (w.touch page .scaffoldOf).touch page .navigator with
        current := .home
        snackBars := w.snackBars ++ [interpolate user.email ++ " ile giriş yapıldı."] })
      (fun _ _ => False) := by
  refine Triple.tryCatch (R := fun _ _ => False) ?_ fun _ _ hw => hw.elim
  rw [ofDart_ok_bind]
  refine (useContext_mounted hmounted .scaffoldOf).bind fun _ => ?_
  rw [deref_some, ofDart_ok_bind]
  let shown : World := { w.touch page .scaffoldOf with
    snackBars := w.snackBars ++ [interpolate user.email ++ " ile giriş yapıldı."] }
  have hshow : Triple (· = w.touch page .scaffoldOf)
      (showSnackBar (interpolate user.email ++ " ile giriş yapıldı."))
      (fun _ w' => w' = shown) (fun _ _ => False) := Triple.of_modify fun w' hw' => by rw [hw']; rfl
  have hpush : Triple (· = shown) (pushHomePage page)
      (fun _ w' => w' = { shown.touch page .navigator with current := .home }) (fun _ _ => False) :=
    (useContext_mounted (w := shown) hmounted .navigator).bind fun _ =>
      Triple.of_modify fun w' hw' => by rw [hw']
  exact hshow.bind fun _ => hpush.bind fun _ => Triple.pure fun w' hw' => ⟨rfl, hw'⟩

/-! ## The app -/

namespace World

variable {env : Env} {w w' : World}

structure Quiet (w w' : World) : Prop where
  currentUser : w'.currentUser = w.currentUser
  current : w'.current = w.current
  touches : w'.touches = w.touches
  unhandled : w'.unhandled = w.unhandled

/-- What a step can do. -/
theorem step_cases {e : Event} (h : step env w e = some w') :
    (∃ i answer task handler, e = .answer i answer ∧ w.pending[i]? = some task ∧
      resume env task.page task.await answer = some handler ∧
      w' = runHandler { w.authenticate answer with pending := w.pending.eraseIdx i } task.page handler) ∨
    (e = .tapSignOut ∧ w' = w.signOut) ∨
    (e = .signOutDone ∧ w' = { w with currentUser := none, signOuts := w.signOuts - 1 }) ∨
    ((∀ i answer, e ≠ .answer i answer) ∧ e ≠ .signOutDone ∧ Quiet w w') := by
  cases e with
  | tapSignUp page nameSurname email password =>
      simp only [step, Option.ite_none_right_eq_some, Option.some.injEq] at h
      obtain ⟨_, rfl⟩ := h
      refine Or.inr (Or.inr (Or.inr ⟨nofun, nofun, ?_⟩))
      split_ifs <;> exact ⟨rfl, rfl, rfl, rfl⟩
  | tapLogin page email password =>
      simp only [step, Option.ite_none_right_eq_some, Option.some.injEq] at h
      obtain ⟨_, rfl⟩ := h
      refine Or.inr (Or.inr (Or.inr ⟨nofun, nofun, ?_⟩))
      split_ifs <;> exact ⟨rfl, rfl, rfl, rfl⟩
  | tapGoogle page =>
      simp only [step, Option.ite_none_right_eq_some, Option.some.injEq] at h
      obtain ⟨_, rfl⟩ := h
      exact Or.inr (Or.inr (Or.inr ⟨nofun, nofun, rfl, rfl, rfl, rfl⟩))
  | answer i answer =>
      simp only [step] at h
      cases htask : w.pending[i]? with
      | none => simp [htask] at h
      | some task =>
          simp only [htask, Option.map_eq_some_iff] at h
          obtain ⟨handler, hresume, hw'⟩ := h
          exact Or.inl ⟨i, answer, task, handler, rfl, htask, hresume, hw'.symm⟩
  | tapSignOut =>
      simp only [step, Option.ite_none_right_eq_some, Option.some.injEq] at h
      exact Or.inr (Or.inl ⟨rfl, h.2.symm⟩)
  | signOutDone =>
      simp only [step, Option.ite_none_right_eq_some, Option.some.injEq] at h
      exact Or.inr (Or.inr (Or.inl ⟨rfl, h.2.symm⟩))
  | dispose page =>
      simp only [step, Option.ite_none_right_eq_some, Option.some.injEq] at h
      obtain ⟨_, rfl⟩ := h
      exact Or.inr (Or.inr (Or.inr ⟨nofun, nofun, rfl, rfl, rfl, rfl⟩))

end World

end NewsApp.Login
