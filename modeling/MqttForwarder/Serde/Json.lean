import MqttForwarder.Rust.HashMap
import MqttForwarder.Rust.Outcome

/-!
# JSON documents and typed visitors

A JSON text is read front to back and handed to the visitors of the target
type as it is read, so a visitor can fail, or panic, before the rest of the
text has been looked at.  A document is therefore a tree in which `malformed`
marks the place where the reader fails.  A string remembers whether it was
written with escapes, because only an unescaped string can be borrowed.
-/

namespace MqttForwarder.Serde

open MqttForwarder.Rust

/-- A JSON number, by the representation the reader chose for it. -/
inductive Number where
  | posInt (value : UInt64)
  | negInt (value : Int64)
  | float (value : Float)
  deriving DecidableEq

/-- `Number::as_u64`. -/
def Number.asU64 : Number → Option UInt64
  | posInt value => some value
  | _ => none

inductive Json where
  | null
  | bool (value : Bool)
  | number (value : Number)
  | string (text : String) (escaped : Bool)
  | array (items : List Json)
  | object (fields : List (String × Json))
  | malformed

/-- A text: its value, and whether other characters follow the value. -/
structure Document where
  root : Json
  trailing : Bool

namespace Json

mutual

/-- No part of the value is malformed. -/
def wellFormed : Json → Bool
  | malformed => false
  | array items => wellFormedItems items
  | object fields => wellFormedFields fields
  | _ => true

def wellFormedItems : List Json → Bool
  | [] => true
  | item :: rest => item.wellFormed && wellFormedItems rest

def wellFormedFields : List (String × Json) → Bool
  | [] => true
  | field :: rest => field.2.wellFormed && wellFormedFields rest

end

/-! ## Scalars -/

/-- An unsigned integer below `bound`. -/
def unsigned (bound : Nat) : Json → Outcome Nat
  | number (.posInt value) =>
      if value.toNat < bound then .ok value.toNat else .err "invalid value: integer"
  | _ => .err "invalid type"

/-- A signed integer from `-bound` to below `bound`. -/
def signed (bound : Nat) : Json → Outcome Int
  | number (.posInt value) =>
      if value.toNat < bound then .ok value.toNat else .err "invalid value: integer"
  | number (.negInt value) =>
      if -(bound : Int) ≤ value.toInt then .ok value.toInt else .err "invalid value: integer"
  | _ => .err "invalid type"

def u8 (value : Json) : Outcome UInt8 := UInt8.ofNat <$> value.unsigned (2 ^ 8)

def u16 (value : Json) : Outcome UInt16 := UInt16.ofNat <$> value.unsigned (2 ^ 16)

def u32 (value : Json) : Outcome UInt32 := UInt32.ofNat <$> value.unsigned (2 ^ 32)

def u64 (value : Json) : Outcome UInt64 := UInt64.ofNat <$> value.unsigned (2 ^ 64)

def i16 (value : Json) : Outcome Int16 := Int16.ofInt <$> value.signed (2 ^ 15)

def i32 (value : Json) : Outcome Int32 := Int32.ofInt <$> value.signed (2 ^ 31)

def f64 : Json → Outcome Float
  | number (.posInt value) => .ok value.toFloat
  | number (.negInt value) => .ok value.toFloat
  | number (.float value) => .ok value
  | _ => .err "invalid type"

def f32 : Json → Outcome Float32
  | number (.posInt value) => .ok value.toFloat32
  | number (.negInt value) => .ok value.toFloat32
  | number (.float value) => .ok value.toFloat32
  | _ => .err "invalid type"

def boolean : Json → Outcome Bool
  | bool value => .ok value
  | _ => .err "invalid type"

/-- An owned `String`. -/
def text : Json → Outcome String
  | string value _ => .ok value
  | _ => .err "invalid type"

/-- A borrowed `&str`. -/
def str : Json → Outcome String
  | string value false => .ok value
  | _ => .err "invalid type"

/-! ## Containers -/

section

variable {α β γ : Type}

/-- `Option<T>`. -/
def option (visit : Json → Outcome α) : Json → Outcome (Option α)
  | null => .ok none
  | value => some <$> visit value

/-- The elements of a list, visited in order. -/
def visitAll (visit : Json → Outcome α) : List Json → Outcome (List α)
  | [] => .ok []
  | item :: rest => do
      let first ← visit item
      let others ← visitAll visit rest
      pure (first :: others)

/-- `Vec<T>`. -/
def vec (visit : Json → Outcome α) : Json → Outcome (List α)
  | array items => visitAll visit items
  | _ => .err "invalid type"

/-- `HashMap<String, String>`. -/
def stringMap : Json → Outcome (HashMap String String)
  | object fields => fields.foldlM (fun map field => do
      let value ← field.2.text
      pure (map.insert field.1 value)) ∅
  | _ => .err "invalid type"

/-- `IgnoredAny`: the value is skipped, but it must be readable. -/
def ignored (value : Json) (result : α) : Outcome α :=
  if value.wellFormed then .ok result else .err "expected value"

/-- Fill the slot of a struct field that has not been seen before. -/
def once (slot : Option γ) (name : String) (value : Outcome γ) (put : γ → α) : Outcome α :=
  if slot.isSome then .err ("duplicate field " ++ name) else put <$> value

/-- A derived struct visitor.  A struct is an object, or an array that lists the
fields in their declared order; `finish` is told which, because an absent
optional field is an error in the array form. -/
def struct (names : List String) (visit : β → String → Json → Outcome β) (start : β)
    (finish : Bool → β → Outcome α) : Json → Outcome α
  | object fields => do
      let slots ← fields.foldlM (fun slots field => visit slots field.1 field.2) start
      finish false slots
  | array items => do
      let slots ← (names.zip items).foldlM (fun slots field => visit slots field.1 field.2) start
      let result ← finish true slots
      if names.length < items.length then .err "trailing characters" else pure result
  | _ => .err "invalid type"

end

/-! ## Finishing a struct -/

/-- A field without default. -/
def required {γ : Type} (slot : Option γ) (name : String) : Outcome γ :=
  Outcome.okOr slot ("missing field " ++ name)

/-- An optional field without `#[serde(default)]`. -/
def optionalField {γ : Type} (isArray : Bool) (slot : Option (Option γ)) (name : String) :
    Outcome (Option γ) :=
  match slot with
  | some value => .ok value
  | none => if isArray then .err ("invalid length, missing " ++ name) else .ok none

end Json

end MqttForwarder.Serde
