import Mathlib.Data.List.Forall2

/-!
# Decoders and encoders that can fail

A decoder and an encoder are functions into `Except`. `Inverts dec enc y` says that encoding `y`
succeeds and that decoding the result gives `y` back. From `Inverts` on every decoded value follows
that decoding and encoding again is an idempotent normal form.
-/

namespace NewsApp.Lib

universe u v

variable {ε : Type u} {α β γ : Type v}

/-! ## Sequencing -/

theorem bind_ok_iff {x : Except ε α} {f : α → Except ε β} {b : β} :
    (x >>= f) = .ok b ↔ ∃ a, x = .ok a ∧ f a = .ok b := by
  cases x <;> simp [bind, Except.bind]

@[simp] theorem ok_bind (a : α) (f : α → Except ε β) : (Except.ok a >>= f) = f a := rfl

@[simp] theorem error_bind (e : ε) (f : α → Except ε β) : (Except.error e >>= f) = .error e := rfl

@[simp] theorem pure_eq_ok (a : α) : (pure a : Except ε α) = .ok a := rfl

theorem not_ok_iff {x : Except ε α} : (¬ ∃ a, x = .ok a) ↔ ∃ e, x = .error e := by
  cases x <;> simp

/-! ## Lists -/

/-- The elements are decoded one by one, in order, and the first error is the error of the list. -/
theorem mapM_ok_iff {f : α → Except ε β} {xs : List α} {ys : List β} :
    xs.mapM f = .ok ys ↔ List.Forall₂ (fun x y => f x = .ok y) xs ys := by
  induction xs generalizing ys with
  | nil => cases ys <;> simp
  | cons x xs ih =>
      simp only [List.mapM_cons, bind_ok_iff, pure_eq_ok, Except.ok.injEq, List.forall₂_cons_left_iff]
      constructor
      · rintro ⟨y, hy, zs, hzs, rfl⟩
        exact ⟨y, zs, hy, ih.mp hzs, rfl⟩
      · rintro ⟨y, zs, hy, hzs, rfl⟩
        exact ⟨y, hy, zs, ih.mpr hzs, rfl⟩

theorem mapM_ok_length {f : α → Except ε β} {xs : List α} {ys : List β} (h : xs.mapM f = .ok ys) :
    ys.length = xs.length :=
  (mapM_ok_iff.mp h).length_eq.symm

theorem mapM_ok_getElem {f : α → Except ε β} {xs : List α} {ys : List β} (h : xs.mapM f = .ok ys)
    (k : Nat) (hk : k < xs.length) (hk' : k < ys.length) : f xs[k] = .ok ys[k] := by
  have h' := (mapM_ok_iff.mp h).get hk hk'
  simpa using h'

theorem mapM_ok_mem {f : α → Except ε β} {xs : List α} {ys : List β} (h : xs.mapM f = .ok ys) {y : β}
    (hy : y ∈ ys) : ∃ x ∈ xs, f x = .ok y := by
  obtain ⟨k, hk, rfl⟩ := List.getElem_of_mem hy
  have hk' : k < xs.length := mapM_ok_length h ▸ hk
  exact ⟨xs[k], List.getElem_mem hk', mapM_ok_getElem h k hk' hk⟩

theorem mapM_forall_iff {f : α → Except ε β} {P : β → Prop} {xs : List α} :
    (∃ ys, xs.mapM f = .ok ys ∧ ∀ y ∈ ys, P y) ↔ ∀ x ∈ xs, ∃ y, f x = .ok y ∧ P y := by
  simp only [mapM_ok_iff]
  induction xs with
  | nil => simp
  | cons x xs ih =>
      simp only [List.forall₂_cons_left_iff, List.forall_mem_cons, ← ih]
      constructor
      · rintro ⟨_, ⟨y, ys, hy, hys, rfl⟩, hP⟩
        have hP := List.forall_mem_cons.mp hP
        exact ⟨⟨y, hy, hP.1⟩, ys, hys, hP.2⟩
      · rintro ⟨⟨y, hy, hP⟩, ys, hys, hPs⟩
        exact ⟨y :: ys, ⟨y, ys, hy, hys, rfl⟩, List.forall_mem_cons.mpr ⟨hP, hPs⟩⟩

theorem mapM_accepts_iff {f : α → Except ε β} {xs : List α} :
    (∃ ys, xs.mapM f = .ok ys) ↔ ∀ x ∈ xs, ∃ y, f x = .ok y := by
  have h : (∃ ys, xs.mapM f = .ok ys ∧ ∀ y ∈ ys, True) ↔ _ := mapM_forall_iff (P := fun _ => True)
  simpa using h

/-- The list raises what its first bad element raises. -/
theorem mapM_error_iff {f : α → Except ε β} {xs : List α} {e : ε} :
    xs.mapM f = .error e ↔
      ∃ pre x post, xs = pre ++ x :: post ∧ (∀ y ∈ pre, ∃ b, f y = .ok b) ∧ f x = .error e := by
  induction xs with
  | nil => simp
  | cons x xs ih =>
      rw [List.mapM_cons]
      cases hx : f x with
      | error e' =>
          rw [error_bind]
          constructor
          · intro h
            cases h
            exact ⟨[], x, xs, rfl, nofun, hx⟩
          · rintro ⟨pre, y, post, hxs, hpre, hy⟩
            cases pre with
            | nil =>
                cases hxs
                rw [hx] at hy
                cases hy
                rfl
            | cons z pre =>
                cases hxs
                obtain ⟨b, hb⟩ := hpre x List.mem_cons_self
                rw [hx] at hb
                cases hb
      | ok b =>
          have htail : (xs.mapM f >>= fun bs => pure (b :: bs)) = Except.error e ↔ xs.mapM f = .error e := by
            cases xs.mapM f <;> simp
          rw [ok_bind, htail, ih]
          constructor
          · rintro ⟨pre, y, post, rfl, hpre, hy⟩
            exact ⟨x :: pre, y, post, rfl, List.forall_mem_cons.mpr ⟨⟨b, hx⟩, hpre⟩, hy⟩
          · rintro ⟨pre, y, post, hxs, hpre, hy⟩
            cases pre with
            | nil =>
                cases hxs
                rw [hx] at hy
                cases hy
            | cons z pre =>
                cases hxs
                exact ⟨pre, y, post, rfl, (List.forall_mem_cons.mp hpre).2, hy⟩

/-! ## Errors -/

/-- Whatever the code raises has the property. -/
def Raises (E : ε → Prop) (x : Except ε α) : Prop := ∀ e, x = .error e → E e

theorem Raises.ok {E : ε → Prop} (a : α) : Raises E (.ok a : Except ε α) := nofun

theorem Raises.error {E : ε → Prop} {e : ε} (h : E e) : Raises E (.error e : Except ε α) := by
  rintro _ ⟨⟩
  exact h

theorem Raises.bind {E : ε → Prop} {x : Except ε α} {f : α → Except ε β} (hx : Raises E x)
    (hf : ∀ a, Raises E (f a)) : Raises E (x >>= f) := by
  cases x with
  | ok a => exact hf a
  | error e => exact Raises.error (hx e rfl)

theorem Raises.mapM {E : ε → Prop} {f : α → Except ε β} (hf : ∀ a, Raises E (f a)) (xs : List α) :
    Raises E (xs.mapM f) := by
  intro e he
  obtain ⟨_, x, _, _, _, hx⟩ := mapM_error_iff.mp he
  exact hf x e hx

/-! ## Round trips -/

/-- Encoding `y` succeeds, and decoding the result gives `y` back. -/
def Inverts (dec : α → Except ε β) (enc : β → Except ε α) (y : β) : Prop :=
  ∃ x, enc y = .ok x ∧ dec x = .ok y

theorem Inverts.mapM {dec : α → Except ε β} {enc : β → Except ε α} {ys : List β}
    (h : ∀ y ∈ ys, Inverts dec enc y) :
    Inverts (fun xs : List α => xs.mapM dec) (fun zs : List β => zs.mapM enc) ys := by
  induction ys with
  | nil => exact ⟨[], rfl, rfl⟩
  | cons y ys ih =>
      obtain ⟨x, hx, hy⟩ := h y List.mem_cons_self
      obtain ⟨xs, hxs, hys⟩ := ih fun z hz => h z (List.mem_cons_of_mem y hz)
      dsimp only at hxs hys
      exact ⟨x :: xs, by simp [List.mapM_cons, hx, hxs], by simp [List.mapM_cons, hy, hys]⟩

theorem Inverts.comp {dec : α → Except ε β} {enc : β → Except ε α} {dec' : γ → Except ε α}
    {enc' : α → Except ε γ} {y : β} (h : Inverts dec enc y)
    (h' : ∀ x, enc y = .ok x → Inverts dec' enc' x) :
    Inverts (fun z => dec' z >>= dec) (fun y => enc y >>= enc') y := by
  obtain ⟨x, hx, hy⟩ := h
  obtain ⟨z, hz, hx'⟩ := h' x hx
  exact ⟨z, by simp [hx, hz], by simp [hx', hy]⟩

def normalize (dec : α → Except ε β) (enc : β → Except ε α) (x : α) : Except ε α :=
  dec x >>= enc

theorem normalize_idempotent {dec : α → Except ε β} {enc : β → Except ε α}
    (h : ∀ x y, dec x = .ok y → Inverts dec enc y) {x t : α}
    (ht : normalize dec enc x = .ok t) : normalize dec enc t = .ok t := by
  obtain ⟨y, hy, henc⟩ := bind_ok_iff.mp ht
  obtain ⟨t', ht', hdec⟩ := h x y hy
  obtain rfl : t = t' := by simpa [henc] using ht'
  exact bind_ok_iff.mpr ⟨y, hdec, henc⟩

end NewsApp.Lib
