import NewsApp.Dart.Basic

/-!
# `FutureBuilder`

The subscription of a `FutureBuilder` to its future, over any type of data. A future is given by a
number: two futures with different numbers are different objects.
-/

namespace NewsApp

inductive ConnectionState
  | none
  | waiting
  | active
  | done
  deriving DecidableEq, Repr

structure AsyncSnapshot (α : Type) where
  connectionState : ConnectionState
  data : Option α
  error : Option DartError

namespace AsyncSnapshot

variable {α : Type}

def hasError (s : AsyncSnapshot α) : Bool := s.error.isSome

def withData (state : ConnectionState) (data : α) : AsyncSnapshot α := ⟨state, some data, none⟩

def withError (state : ConnectionState) (error : DartError) : AsyncSnapshot α := ⟨state, none, some error⟩

def inState (s : AsyncSnapshot α) (state : ConnectionState) : AsyncSnapshot α :=
  { s with connectionState := state }

@[simp] theorem inState_inState (s : AsyncSnapshot α) (state₁ state₂ : ConnectionState) :
    (s.inState state₁).inState state₂ = s.inState state₂ := rfl

end AsyncSnapshot

/-- The state of a `FutureBuilder`: the future it is subscribed to, and its snapshot. -/
structure FutureBuilder (α : Type) where
  future : Nat
  snapshot : AsyncSnapshot α

namespace FutureBuilder

variable {α : Type}

/-- Subscribe: the snapshot keeps its data and error in state waiting. -/
def subscribe (future : Nat) (snapshot : AsyncSnapshot α) : FutureBuilder α :=
  ⟨future, snapshot.inState .waiting⟩

def initState (future : Nat) : FutureBuilder α := subscribe future ⟨.none, none, none⟩

def didUpdateWidget (b : FutureBuilder α) (future : Nat) : FutureBuilder α :=
  if b.future = future then b else subscribe future (b.snapshot.inState .none)

def settled : Dart α → AsyncSnapshot α
  | .ok data => .withData .done data
  | .error e => .withError .done e

/-- A future completes. Only the one subscribed to is heard; the result tells whether the builder
callback is called again. -/
def complete (b : FutureBuilder α) (future : Nat) (result : Dart α) : Option (FutureBuilder α) :=
  if b.future = future then some { b with snapshot := settled result } else none

/-! ## What the operations say of the snapshot -/

@[simp] theorem snapshot_initState (future : Nat) :
    (initState future : FutureBuilder α).snapshot = ⟨.waiting, none, none⟩ := rfl

@[simp] theorem future_initState (future : Nat) : (initState future : FutureBuilder α).future = future :=
  rfl

theorem didUpdateWidget_of_ne {b : FutureBuilder α} {future : Nat} (h : b.future ≠ future) :
    b.didUpdateWidget future = ⟨future, b.snapshot.inState .waiting⟩ := by
  simp [didUpdateWidget, h, subscribe, AsyncSnapshot.inState]

end FutureBuilder

end NewsApp
