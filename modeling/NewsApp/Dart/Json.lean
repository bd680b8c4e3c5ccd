import NewsApp.Dart.Basic

/-!
# JSON trees as `json.decode` returns them

A tree is a value of static type `dynamic`. The operations below are the ones generated code uses on
it: implicit downcasts, the index operator of a map, and a dynamic call of `map`.
-/

namespace NewsApp

/-- A decoded JSON value. A number is an `int` or a `double`, given by its bits. -/
inductive Json
  | null
  | bool (b : Bool)
  | int (n : Int64)
  | double (bits : BitVec 64)
  | string (s : String)
  | list (xs : List Json)
  | map (fields : List (String × Json))
  deriving Repr

abbrev DartMap := List (String × Json)

namespace Json

/-- Implicit downcast to `Map<String, dynamic>`. Null passes every downcast. -/
def asMap : Json → Dart (Option DartMap)
  | .null => .ok none
  | .map fields => .ok (some fields)
  | _ => .error .typeError

def asString : Json → Dart (Option String)
  | .null => .ok none
  | .string s => .ok (some s)
  | _ => .error .typeError

/-- Implicit downcast to `int`. A `double` is not an `int`, also when it is integral. -/
def asInt : Json → Dart (Option Int64)
  | .null => .ok none
  | .int n => .ok (some n)
  | _ => .error .typeError

/-- The value of a key. An absent key gives null. -/
def field (fields : DartMap) (key : String) : Json := (fields.lookup key).getD .null

def index (json : Option DartMap) (key : String) : Dart Json := do
  return field (← deref json) key

/-- `List.from(json.map(f))` with `json` of type `dynamic`. Of the values of a tree only lists and maps
have a member `map`, and the one of maps does not take a callback of one argument. -/
def mapElements {α : Type} (f : Json → Dart α) : Json → Dart (List α)
  | .list xs => xs.mapM f
  | .map _ => .error .typeError
  | _ => .error .noSuchMethodError

def ofString : Option String → Json
  | none => .null
  | some s => .string s

def ofInt : Option Int64 → Json
  | none => .null
  | some n => .int n

/-- The exponent bits of a double are not all ones: it is neither infinite nor a NaN. -/
def isFinite (bits : BitVec 64) : Bool := bits.extractLsb' 52 11 != 0x7ff#11

mutual
def finiteNumbers : Json → Bool
  -- `json.encode` raises on any other double
  | .double bits => isFinite bits
  | .list xs => finiteNumbersList xs
  | .map fields => finiteNumbersFields fields
  | _ => true

def finiteNumbersList : List Json → Bool
  | [] => true
  | x :: xs => x.finiteNumbers && finiteNumbersList xs

def finiteNumbersFields : List (String × Json) → Bool
  | [] => true
  | (_, v) :: fields => v.finiteNumbers && finiteNumbersFields fields
end

/-! ## Downcasts -/

def IsString (j : Json) : Prop := j = .null ∨ ∃ s, j = .string s

def IsInt (j : Json) : Prop := j = .null ∨ ∃ n, j = .int n

theorem asMap_ok_iff {j : Json} {m : Option DartMap} :
    j.asMap = .ok m ↔ (j = .null ∧ m = none) ∨ ∃ fields, j = .map fields ∧ m = some fields := by
  cases j <;> simp [asMap, eq_comm]

theorem asString_accepts_iff {j : Json} : (∃ s, j.asString = .ok s) ↔ j.IsString := by
  cases j <;> simp [asString, IsString]

theorem asInt_accepts_iff {j : Json} : (∃ n, j.asInt = .ok n) ↔ j.IsInt := by
  cases j <;> simp [asInt, IsInt]

@[simp] theorem asString_ofString (s : Option String) : (ofString s).asString = .ok s := by
  cases s <;> rfl

@[simp] theorem asInt_ofInt (n : Option Int64) : (ofInt n).asInt = .ok n := by
  cases n <;> rfl

@[simp] theorem index_none (key : String) : index none key = .error .noSuchMethodError := rfl

@[simp] theorem index_some (fields : DartMap) (key : String) :
    index (some fields) key = .ok (field fields key) := rfl

theorem mapElements_ok_iff {α : Type} {f : Json → Dart α} {j : Json} {as : List α} :
    j.mapElements f = .ok as ↔ ∃ xs, j = .list xs ∧ xs.mapM f = .ok as := by
  cases j <;> simp [mapElements]

end Json

/-- What the app uses of `DateTime`, over a type `D` of its values. -/
structure DateTimeSdk (D : Type) where
  parse : String → Dart D
  toIso8601String : D → String
  -- `toString`
  toText : D → String

/-- `json.encode` and `json.decode` of `dart:convert`. -/
structure JsonCodec where
  encode : Json → Dart String
  decode : String → Dart Json

end NewsApp
