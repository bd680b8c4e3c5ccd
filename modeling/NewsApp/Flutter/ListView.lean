import Mathlib.Data.List.Basic

/-!
# The lazily built list

`ListView.builder` asks its callback for the children 0, 1, 2, … below `itemCount`. A null child means
that there are no more children; a child whose callback raises is replaced by an error widget, and the
list goes on.
-/

namespace NewsApp.Flutter

universe u v

variable {α ρ : Type u} {ε : Type v}

def untilNone : List (Option α) → List α
  | some a :: xs => a :: untilNone xs
  | _ => []

/-- What the list shows for a result of the callback: nothing, a row, or an error widget. -/
def child : Except ε (Option ρ) → Option (Except ε ρ)
  | .ok none => none
  | .ok (some r) => some (.ok r)
  | .error e => some (.error e)

def listView (itemCount : Nat) (itemBuilder : Nat → Except ε (Option ρ)) : List (Except ε ρ) :=
  untilNone ((List.range itemCount).map fun i => child (itemBuilder i))

/-! ## The children -/

@[simp] theorem untilNone_nil : untilNone ([] : List (Option α)) = [] := rfl

@[simp] theorem untilNone_none (xs : List (Option α)) : untilNone (none :: xs) = [] := rfl

@[simp] theorem untilNone_some (a : α) (xs : List (Option α)) :
    untilNone (some a :: xs) = a :: untilNone xs := rfl

theorem child_map_some (r : Except ε ρ) : child (some <$> r) = some r := by
  cases r <;> rfl

theorem untilNone_append_of_mem {xs : List (Option α)} (h : none ∈ xs) (ys : List (Option α)) :
    untilNone (xs ++ ys) = untilNone xs := by
  induction xs with
  | nil => cases h
  | cons x xs ih =>
      cases x with
      | none => rfl
      | some a => simpa using ih (by simpa using h)

theorem untilNone_append_of_notMem {xs : List (Option α)} (h : none ∉ xs) (ys : List (Option α)) :
    untilNone (xs ++ ys) = untilNone xs ++ untilNone ys := by
  induction xs with
  | nil => rfl
  | cons x xs ih =>
      cases x with
      | none => simp at h
      | some a => simpa using ih (by simpa using h)

@[simp] theorem untilNone_map_some (xs : List α) : untilNone (xs.map some) = xs := by
  induction xs with
  | nil => rfl
  | cons x xs ih => simp [ih]

theorem untilNone_map {β : Type u} {p : α → Bool} {f : α → Option β} {g : α → β}
    (hsome : ∀ a, p a = true → f a = some (g a)) (hnone : ∀ a, p a = false → f a = none)
    (xs : List α) : untilNone (xs.map f) = (xs.takeWhile p).map g := by
  induction xs with
  | nil => rfl
  | cons x xs ih =>
      cases h : p x with
      | true => simp [hsome x h, h, ih]
      | false => simp [hnone x h, h]

/-! ## Skipped elements -/

/-- Stopping at the first element without `p` loses no element with `p` exactly when no such element
comes later; and keeping only those with `q` loses none exactly when `p` implies `q`. -/
theorem filter_takeWhile_eq_filter_iff {p q : α → Bool} {xs : List α} :
    (xs.takeWhile p).filter q = xs.filter p ↔
      xs.Pairwise (fun a b => p a = false → p b = false) ∧ ∀ a ∈ xs, p a = true → q a = true := by
  induction xs with
  | nil => simp
  | cons x xs ih =>
      cases hp : p x with
      | false =>
          simp only [List.takeWhile_cons, hp, List.filter_cons, Bool.false_eq_true, ↓reduceIte,
            List.filter_nil, List.pairwise_cons, List.forall_mem_cons]
          rw [eq_comm, List.filter_eq_nil_iff]
          refine ⟨fun h => ⟨⟨fun b hb _ => by simpa using h b hb, ?_⟩, by simp, fun a ha hpa =>
            absurd hpa (h a ha)⟩, fun h a ha => by simp [h.1.1 a ha]⟩
          exact List.pairwise_of_forall_mem_list fun a _ b hb _ => by simpa using h b hb
      | true =>
          have hpair : (x :: xs).Pairwise (fun a b => p a = false → p b = false) ↔
              xs.Pairwise (fun a b => p a = false → p b = false) := by
            simp [List.pairwise_cons, hp]
          rw [hpair]
          cases hq : q x with
          | true => simp [hp, hq, ih]
          | false =>
              simp only [List.takeWhile_cons, hp, ↓reduceIte, List.filter_cons, hq, Bool.false_eq_true]
              refine iff_of_false (fun h => ?_) fun h => ?_
              · have hx : x ∈ (xs.takeWhile p).filter q := h ▸ List.mem_cons_self
                simp [hq] at hx
              · simp [h.2 x List.mem_cons_self hp] at hq

theorem zipIdx_takeWhile (p : α → Bool) (xs : List α) (k : Nat) :
    (xs.takeWhile p).zipIdx k = (xs.zipIdx k).takeWhile fun x => p x.1 := by
  induction xs generalizing k with
  | nil => rfl
  | cons x xs ih => cases h : p x <;> simp [h, ih]

end NewsApp.Flutter
