import MqttForwarder.Rust.HashMap

/-!
# TOML documents

The value of a TOML text, the paths into it, and the visitors of derived
`Deserialize` implementations on it.  A struct whose container has a default
takes the fields that the document does not give from the default value, and
does not look at keys that it does not know.
-/

namespace MqttForwarder.Toml

open MqttForwarder.Rust

/-! ## Values -/

inductive Scalar where
  | string (text : String)
  | boolean (value : Bool)
  | integer (value : Int)
  deriving DecidableEq, Repr

/-- A value; a float or a date is given by its spelling. -/
inductive Value where
  | scalar (value : Scalar)
  | float (spelling : String)
  | date (spelling : String)
  | array (items : List Value)
  | table (entries : List (String × Value))

namespace Value

/-- The value under a key of a table. -/
def get? : Value → String → Option Value
  | table entries, key => entries.lookup key
  | _, _ => none

/-- The value at the end of a path of keys. -/
def follow : Value → List String → Option Value
  | root, [] => some root
  | root, key :: path =>
      match root.get? key with
      | some value => value.follow path
      | none => none

/-- The scalar at the end of a path. -/
def scalarAt (root : Value) (path : List String) : Option Scalar :=
  match root.follow path with
  | some (scalar value) => some value
  | _ => none

theorem scalarAt_eq_some {root : Value} {path : List String} {value : Scalar} :
    root.scalarAt path = some value ↔ root.follow path = some (scalar value) := by
  unfold scalarAt
  split
  · next found => rw [found, Option.some.injEq, Option.some.injEq, Value.scalar.injEq]
  · next other =>
      refine iff_of_false (by simp) fun found => other value found

theorem follow_cons {root : Value} {key : String} {path : List String} {value : Value} :
    root.follow (key :: path) = some value ↔
      ∃ inner, root.get? key = some inner ∧ inner.follow path = some value := by
  rw [follow]
  cases root.get? key with
  | none => simp
  | some inner => simp

/-- The entries of a table; nothing else has any. -/
def entries : Value → List (String × Value)
  | table entries => entries
  | _ => []

/-- The document with another value at the end of the path. -/
def insert (value : Value) : List String → Value → Value
  | [], _ => value
  | key :: path, root =>
      let inner := insert value path ((root.get? key).getD (table []))
      table (root.entries.filter (fun entry => entry.1 ≠ key) ++ [(key, inner)])

/-! ## Visitors -/

section

variable {α : Type}

/-- `String`. -/
def text : Value → Option String
  | scalar (.string text) => some text
  | _ => none

/-- `bool`. -/
def boolean : Value → Option Bool
  | scalar (.boolean value) => some value
  | _ => none

/-- An unsigned integer below `bound`. -/
def unsigned (bound : Nat) : Value → Option Nat
  | scalar (.integer value) => if 0 ≤ value ∧ value < bound then some value.toNat else none
  | _ => none

/-- `Vec<T>`. -/
def vec (visit : Value → Option α) : Value → Option (List α)
  | array items => items.mapM visit
  | _ => none

/-- `HashMap<String, T>`. -/
def map (visit : Value → Option α) : Value → Option (HashMap String α)
  | table entries => entries.foldlM (fun map entry => do
      let value ← visit entry.2
      pure (map.insert entry.1 value)) ∅
  | _ => none

/-- The fields that the visitor of a struct is given: those of a table, or the elements of an
array under the declared names. -/
def fieldsFor (names : List String) : Value → Option (String → Option Value)
  | table entries => some fun name => entries.lookup name
  | array items => some fun name => (names.zip items).lookup name
  | _ => none

/-- A field of a struct with `#[serde(default)]`. -/
def field (fields : String → Option Value) (name : String) (default : α)
    (visit : Value → Option α) : Option α :=
  match fields name with
  | some value => visit value
  | none => some default

theorem fieldsFor_of_get? {root value : Value} {key : String} (found : root.get? key = some value)
    (names : List String) :
    ∃ fields, root.fieldsFor names = some fields ∧ fields key = some value := by
  cases root with
  | table entries => exact ⟨_, rfl, found⟩
  | _ => cases found

theorem field_of_some {fields : String → Option Value} {name : String} {value : Value}
    (given : fields name = some value) (default : α) (visit : Value → Option α) :
    field fields name default visit = visit value := by
  rw [field, given]

end

end Value

end MqttForwarder.Toml
