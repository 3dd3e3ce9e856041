import MqttForwarder.Rust.Text

/-!
# Handlebars templates

A template is a list of parts.  It is rendered in the default mode: a path that
leads nowhere renders as the empty string, and everything that is interpolated
goes through the escape function.  Lines that hold nothing but the tag of a
block do not appear in the rendered text, so a template is given without them.
-/

namespace MqttForwarder.Handlebars

/-- The data of a template: what `serde_json::to_value` makes of a value.  Floats do not occur. -/
inductive Data where
  | null
  | bool (value : Bool)
  | integer (value : Int)
  | string (text : String)
  | array (items : List Data)
  | object (fields : List (String × Data))

/-- A part of a template.  The empty path is `this`, and `key` is `@key`. -/
inductive Part where
  | text (text : String)
  | path (path : List String)
  | key
  | each (path : List String) (body : List Part)

namespace Data

mutual

/-- The text of a value. -/
def render : Data → String
  | null => ""
  | bool value => toString value
  | integer value => toString value
  | string text => text
  | array items => "[" ++ ", ".intercalate (renderItems items) ++ "]"
  | object _ => "[object]"

def renderItems : List Data → List String
  | [] => []
  | item :: rest => item.render :: renderItems rest

end

/-- The value at the end of a path. -/
def follow : Data → List String → Option Data
  | data, [] => some data
  | object fields, key :: path =>
      match fields.lookup key with
      | some value => value.follow path
      | none => none
  | _, _ => none

end Data

/-! ## Rendering -/

mutual

/-- A part, in a block for the value `this` of the key. -/
def Part.render (escape : String → String) (this : Data) (key : Option String) : Part → String
  | .text text => text
  | .path path =>
      match this.follow path with
      | some data => escape data.render
      | none => escape ""
  | .key => escape (key.getD "")
  | .each path body =>
      match this.follow path with
      | some (.array items) =>
          String.join (items.map fun item => renderParts escape item none body)
      | some (.object fields) =>
          String.join (fields.map fun field => renderParts escape field.2 (some field.1) body)
      | _ => ""

def renderParts (escape : String → String) (this : Data) (key : Option String) :
    List Part → String
  | [] => ""
  | part :: rest => part.render escape this key ++ renderParts escape this key rest

end

/-- `render_template`. -/
def renderTemplate (escape : String → String) (template : List Part) (data : Data) : String :=
  renderParts escape data none template

section

variable (escape : String → String) (this : Data) (key : Option String)

@[simp] theorem renderParts_cons (part : Part) (rest : List Part) :
    renderParts escape this key (part :: rest) =
      part.render escape this key ++ renderParts escape this key rest := rfl

@[simp] theorem render_text (text : String) :
    (Part.text text).render escape this key = text := rfl

end

end MqttForwarder.Handlebars
