import NewsApp.Lib.Codec

/-!
# Errors and nullable values of Dart

The app is written before null safety: every variable may be null, and a null receiver raises. A value
of a Dart type is an `Option`, and code that can raise is in `Except DartError`.
-/

namespace NewsApp

inductive DartError
  | typeError
  | noSuchMethodError
  | argumentError
  | formatException (source : String)
  | rangeError (index length : Nat)
  /-- A failed `assert`. Only raised when the app runs with assertions. -/
  | assertionError
  | disposedError
  | firebaseAuthException (message : Option String)
  | exception (text : String)
  deriving DecidableEq, Repr

/-- What a step of Dart code returns or throws. -/
abbrev Dart (α : Type) := Except DartError α

/-- Access to a member of a value that may be null. -/
def deref {α : Type} : Option α → Dart α
  | some a => .ok a
  | none => .error .noSuchMethodError

@[simp] theorem deref_some {α : Type} (a : α) : deref (some a) = .ok a := rfl

@[simp] theorem deref_none {α : Type} : deref (none : Option α) = .error .noSuchMethodError := rfl

def elementAt {α : Type} (xs : List α) (index : Nat) : Dart α :=
  match xs[index]? with
  | some a => .ok a
  | none => .error (.rangeError index xs.length)

theorem elementAt_of_lt {α : Type} {xs : List α} {index : Nat} (h : index < xs.length) :
    elementAt xs index = .ok xs[index] := by
  simp [elementAt, h]

theorem elementAt_of_le {α : Type} {xs : List α} {index : Nat} (h : xs.length ≤ index) :
    elementAt xs index = .error (.rangeError index xs.length) := by
  simp [elementAt, h]

def substring (s : String) (start stop : Nat) : Dart String :=
  if start ≤ stop ∧ stop ≤ s.length then
    .ok (String.ofList ((s.toList.drop start).take (stop - start)))
  else .error (.rangeError stop s.length)

theorem substring_of_le {s : String} {stop : Nat} (h : stop ≤ s.length) :
    substring s 0 stop = .ok (String.ofList (s.toList.take stop)) := by
  simp [substring, h]

/-- `assert(condition)`, which is evaluated only when the app runs with assertions. -/
def assert (asserts condition : Bool) : Dart Unit :=
  if asserts && !condition then .error .assertionError else .ok ()

end NewsApp
