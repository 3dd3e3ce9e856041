import MqttForwarder.Serde.Json

/-!
# Values that are written and read again

A writer and a reader of JSON agree on a value up to the digits of its floats.
A string can be borrowed from the text only if it was written without escapes,
so the strings of such a value have no character that the writer escapes.
-/

namespace MqttForwarder.Serde

open MqttForwarder.Rust

/-- The writer needs no escape for the character. -/
def unescapedChar (c : Char) : Bool := c ≠ '"' && c ≠ '\\' && 32 ≤ c.toNat

def unescapedText (text : String) : Bool := text.toList.all unescapedChar

namespace Json

mutual

/-- No part of the value is malformed, and no string of it needs an escape. -/
def unescaped : Json → Bool
  | malformed => false
  | string text escaped => !escaped && unescapedText text
  | array items => unescapedItems items
  | object fields => unescapedFields fields
  | _ => true

def unescapedItems : List Json → Bool
  | [] => true
  | item :: rest => item.unescaped && unescapedItems rest

def unescapedFields : List (String × Json) → Bool
  | [] => true
  | field :: rest =>
      unescapedText field.1 && field.2.unescaped && unescapedFields rest

end

mutual

/-- The value without the digits of its floats. -/
def skeleton : Json → Json
  | number (.float _) => number (.float 0)
  | array items => array (skeletonItems items)
  | object fields => object (skeletonFields fields)
  | value => value

def skeletonItems : List Json → List Json
  | [] => []
  | item :: rest => item.skeleton :: skeletonItems rest

def skeletonFields : List (String × Json) → List (String × Json)
  | [] => []
  | field :: rest => (field.1, field.2.skeleton) :: skeletonFields rest

end

/-! ## Skeletons -/

section

variable {value : Json} {fields : List (String × Json)}

/-- The value is no object, array or float, so its skeleton determines it. -/
def scalar : Json → Bool
  | number (.float _) => false
  | array _ => false
  | object _ => false
  | _ => true

theorem skeleton_of_scalar (scalar : value.scalar = true) : value.skeleton = value := by
  cases value with
  | number number => cases number <;> first | rfl | cases scalar
  | array items => cases scalar
  | object fields => cases scalar
  | _ => rfl

theorem eq_of_skeleton {again : Json} (scalar : value.scalar = true)
    (same : again.skeleton = value.skeleton) : again = value := by
  rw [skeleton_of_scalar scalar] at same
  cases again with
  | number number =>
      cases number with
      | float digits =>
          rw [← same] at scalar
          cases scalar
      | posInt digits => exact same
      | negInt digits => exact same
  | array items =>
      rw [← same] at scalar
      cases scalar
  | object fields =>
      rw [← same] at scalar
      cases scalar
  | _ => exact same

theorem object_of_skeleton {again : Json} (same : again.skeleton = (object fields).skeleton) :
    ∃ fields', again = object fields' ∧ skeletonFields fields' = skeletonFields fields := by
  cases again with
  | object fields' => exact ⟨fields', rfl, object.inj same⟩
  | number number => cases number <;> cases same
  | _ => cases same

theorem lookup_skeletonFields (fields : List (String × Json)) (name : String) :
    (skeletonFields fields).lookup name = (fields.lookup name).map skeleton := by
  induction fields with
  | nil => rfl
  | cons field rest ih =>
      obtain ⟨own, value⟩ := field
      rw [skeletonFields, List.lookup_cons, List.lookup_cons]
      cases name == own with
      | true => rfl
      | false => exact ih

/-- A field with a scalar, or without a value, is the same again. -/
theorem lookup_of_skeleton {fields' : List (String × Json)}
    (same : skeletonFields fields' = skeletonFields fields) {name : String}
    (scalars : ∀ value, fields.lookup name = some value → value.scalar = true) :
    fields'.lookup name = fields.lookup name := by
  have skeletons : (fields'.lookup name).map skeleton = (fields.lookup name).map skeleton := by
    rw [← lookup_skeletonFields, same, lookup_skeletonFields]
  cases found : fields.lookup name with
  | none =>
      rw [found] at skeletons
      exact Option.map_eq_none_iff.mp skeletons
  | some value =>
      rw [found] at skeletons
      obtain ⟨again, found', equal⟩ := Option.map_eq_some_iff.mp skeletons
      rw [found', eq_of_skeleton (scalars value found) equal]

theorem unescapedFields_append (first second : List (String × Json)) :
    unescapedFields (first ++ second) = (unescapedFields first && unescapedFields second) := by
  induction first with
  | nil => rfl
  | cons field rest ih =>
      rw [List.cons_append, unescapedFields, unescapedFields, ih, ← Bool.and_assoc]

end

/-! ## Fields of an object -/

section

variable {α : Type} (fields : List (String × Json)) (name : String) (read : Json → Outcome α)

/-- The field is read; it must be there. -/
def field : Outcome α := do
  let value ← Outcome.okOr (fields.lookup name) ("missing field " ++ name)
  read value

/-- The field is read if it is there. -/
def fieldOption : Outcome (Option α) :=
  match fields.lookup name with
  | some value => some <$> read value
  | none => pure none

end

end Json

end MqttForwarder.Serde
