import Mathlib.Init

/-!
# Code with state and exceptions

Triples for code in `EStateM`, with a postcondition for what it returns and one for what it throws. An
exception that is caught does not roll the state back.
-/

namespace NewsApp.Lib

variable {ε σ α β : Type} {P : σ → Prop}

/-- From a state with `P`, the code returns with `Q` or throws with `E`. -/
def Triple (P : σ → Prop) (x : EStateM ε σ α) (Q : α → σ → Prop) (E : ε → σ → Prop) : Prop :=
  ∀ s, P s → match x.run s with
    | .ok a s' => Q a s'
    | .error e s' => E e s'

namespace Triple

variable {x : EStateM ε σ α} {Q : α → σ → Prop} {E : ε → σ → Prop}

theorem ok (h : Triple P x Q E) {s s' : σ} {a : α} (hs : P s) (hx : x.run s = .ok a s') : Q a s' := by
  have hpost := h s hs
  rw [hx] at hpost
  exact hpost

theorem error (h : Triple P x Q E) {s s' : σ} {e : ε} (hs : P s) (hx : x.run s = .error e s') : E e s' := by
  have hpost := h s hs
  rw [hx] at hpost
  exact hpost

theorem exists_ok (h : Triple P x Q fun _ _ => False) {s : σ} (hs : P s) :
    ∃ a s', x.run s = .ok a s' ∧ Q a s' := by
  cases hx : x.run s with
  | ok a s' => exact ⟨a, s', rfl, h.ok hs hx⟩
  | error e s' => exact (h.error hs hx).elim

theorem conseq {P' : σ → Prop} {Q' : α → σ → Prop} {E' : ε → σ → Prop} (h : Triple P x Q E)
    (hP : ∀ s, P' s → P s) (hQ : ∀ a s, Q a s → Q' a s) (hE : ∀ e s, E e s → E' e s) :
    Triple P' x Q' E' := by
  intro s hs
  cases hx : x.run s with
  | ok a s' => exact hQ a s' (h.ok (hP s hs) hx)
  | error e s' => exact hE e s' (h.error (hP s hs) hx)

theorem pure {a : α} (h : ∀ s, P s → Q a s) : Triple P (Pure.pure a) Q E := h

theorem throw {e : ε} (h : ∀ s, P s → E e s) : Triple P (MonadExcept.throw e) Q E := h

theorem of_modify {f : σ → σ} {Q : Unit → σ → Prop} (h : ∀ s, P s → Q () (f s)) :
    Triple P (modify f) Q E := h

theorem bind {f : α → EStateM ε σ β} {R : β → σ → Prop} (hx : Triple P x Q E)
    (hf : ∀ a, Triple (Q a) (f a) R E) : Triple P (x >>= f) R E := by
  intro s hs
  rw [EStateM.run_bind]
  cases h : x.run s with
  | ok a s' => exact hf a s' (hx.ok hs h)
  | error e s' => exact hx.error hs h

theorem tryCatch {handler : ε → EStateM ε σ α} {R : ε → σ → Prop} (hx : Triple P x Q R)
    (hhandler : ∀ e, Triple (R e) (handler e) Q E) : Triple P (MonadExcept.tryCatch x handler) Q E := by
  intro s hs
  have hrun : (MonadExcept.tryCatch x handler).run s = match x.run s with
      | .ok a s' => .ok a s'
      | .error e s' => (handler e).run s' := by
    change EStateM.tryCatch x handler s = _
    unfold EStateM.tryCatch EStateM.run
    cases x s <;> rfl
  rw [hrun]
  cases h : x.run s with
  | ok a s' => exact hx.ok hs h
  | error e s' => exact hhandler e s' (hx.error hs h)

end Triple

/-! ## Code that keeps a property -/

/-- However the code ends, `P` still holds. -/
def Keeps (P : σ → Prop) (x : EStateM ε σ α) : Prop := Triple P x (fun _ => P) (fun _ => P)

/-- The code keeps `P`, and returns. -/
def Returns (P : σ → Prop) (x : EStateM ε σ α) : Prop := Triple P x (fun _ => P) (fun _ _ => False)

/-- The code keeps `P`, and throws. -/
def Throws (P : σ → Prop) (x : EStateM ε σ α) : Prop := Triple P x (fun _ _ => False) (fun _ => P)

section

variable {x : EStateM ε σ α} {f : α → EStateM ε σ β} {handler : ε → EStateM ε σ α}

theorem Keeps.pure (a : α) : Keeps P (Pure.pure a : EStateM ε σ α) := Triple.pure fun _ hs => hs

theorem Keeps.throw (e : ε) : Keeps P (MonadExcept.throw e : EStateM ε σ α) := Triple.throw fun _ hs => hs

theorem Keeps.bind (hx : Keeps P x) (hf : ∀ a, Keeps P (f a)) : Keeps P (x >>= f) := Triple.bind hx hf

theorem Keeps.tryCatch (hx : Keeps P x) (hhandler : ∀ e, Keeps P (handler e)) :
    Keeps P (MonadExcept.tryCatch x handler) := Triple.tryCatch hx hhandler

theorem Returns.keeps (hx : Returns P x) : Keeps P x :=
  hx.conseq (fun _ hs => hs) (fun _ _ hs => hs) (fun _ _ hs => hs.elim)

theorem Throws.keeps (hx : Throws P x) : Keeps P x :=
  hx.conseq (fun _ hs => hs) (fun _ _ hs => hs.elim) (fun _ _ hs => hs)

theorem Returns.pure (a : α) : Returns P (Pure.pure a : EStateM ε σ α) := Triple.pure fun _ hs => hs

theorem Returns.bind (hx : Returns P x) (hf : ∀ a, Returns P (f a)) : Returns P (x >>= f) :=
  Triple.bind hx hf

/-- Clauses that always return catch everything. -/
theorem Returns.tryCatch (hx : Keeps P x) (hhandler : ∀ e, Returns P (handler e)) :
    Returns P (MonadExcept.tryCatch x handler) := Triple.tryCatch hx hhandler

theorem Throws.throw (e : ε) : Throws P (MonadExcept.throw e : EStateM ε σ α) :=
  Triple.throw fun _ hs => hs

theorem Throws.bind (hx : Throws P x) (f : α → EStateM ε σ β) : Throws P (x >>= f) :=
  Triple.bind hx fun _ _ hs => hs.elim

theorem Throws.bind_of_keeps (hx : Keeps P x) (hf : ∀ a, Throws P (f a)) : Throws P (x >>= f) :=
  Triple.bind hx hf

theorem Throws.and_keeps {P' : σ → Prop} (hx : Throws P x) (hx' : Keeps P' x) :
    Throws (fun s => P s ∧ P' s) x := by
  intro s hs
  cases h : x.run s with
  | ok a s' => exact hx.ok hs.1 h
  | error e s' => exact ⟨hx.error hs.1 h, hx'.error hs.2 h⟩

theorem Throws.tryCatch (hx : Throws P x) (hhandler : ∀ e, Throws P (handler e)) :
    Throws P (MonadExcept.tryCatch x handler) := Triple.tryCatch hx hhandler

end

end NewsApp.Lib
