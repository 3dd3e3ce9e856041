import MqttForwarder.Config.Configuration
import MqttForwarder.Rust.Text

/-!
# The gateway metadata

The metadata of a gateway are static entries, the version of the forwarder,
and what the configured commands print.  A command that prints lines with the
delimiter gives one entry for each of them, under its own name and the key of
the line; a single line without the delimiter is an entry under the name.
-/

namespace MqttForwarder.Metadata

open MqttForwarder.Rust

/-- `std::process::Output`. -/
structure Output where
  /-- `status.success()`. -/
  success : Bool
  stdout : List UInt8

/-- A program with its arguments. -/
structure Command where
  program : String
  args : List String
  deriving DecidableEq, Repr

/-- What `cmd.output().await` gives for the command under a name. -/
abbrev Outputs := String → Command → Except String Output

/-- A name of the configuration, and its program and arguments. -/
abbrev Entry := Sigma fun _ : String => List String

/-- `String::from_utf8`. -/
def fromUtf8 (bytes : List UInt8) : Outcome String :=
  Outcome.okOr (String.fromUTF8? ⟨bytes.toArray⟩) "invalid utf-8 sequence"

/-- `env!("CARGO_PKG_VERSION")`. -/
def version : String := "4.7.0-test.2"

def versionKey : String := "mqtt_forwarder_version"

section

variable (splitDelimiter k : String)

/-- The body of the loop over the lines; `single` says that there is no other line. -/
def addLine (single : Bool) (metadata : HashMap String String) (line : String) :
    HashMap String String :=
  match splitOnce splitDelimiter line with
  | some (key, value) => metadata.insert (k ++ "_" ++ trim key) (trim value)
  | none => if single then metadata.insert k (trim line) else metadata

/-- The loop over the lines of an output. -/
def addOutput (out : String) (metadata : HashMap String String) : HashMap String String :=
  (lines out).foldl (addLine splitDelimiter k ((lines out).length == 1)) metadata

end

section

variable (outputs : Outputs) (splitDelimiter : String)

/-- The body of the loop over the commands. -/
def addCommand (metadata : HashMap String String) (entry : Entry) :
    Outcome (HashMap String String) :=
  match entry with
  | ⟨_, []⟩ => .ok metadata
  | ⟨k, program :: args⟩ =>
      match outputs k ⟨program, args⟩ with
      | .error message => .err message
      | .ok out =>
          if out.success then do
            let out ← fromUtf8 out.stdout
            pure (addOutput splitDelimiter k out metadata)
          else .ok metadata

/-- The loop over the commands. -/
def addCommands : HashMap String String → List Entry → Outcome (HashMap String String)
  | metadata, [] => .ok metadata
  | metadata, entry :: rest => do
      let metadata ← addCommand outputs splitDelimiter metadata entry
      addCommands metadata rest

end

/-- `get`, with the commands in the order in which the map yields them. -/
def get (outputs : Outputs) (conf : Config.Metadata) (commands : List Entry) :
    Outcome (HashMap String String) :=
  addCommands outputs conf.splitDelimiter (conf.static.insert versionKey version) commands

/-- A hash map may yield its entries in this order. -/
def Yields (conf : Config.Metadata) (commands : List Entry) : Prop :=
  commands.Perm conf.commands.entries

/-! ## What is written under a key -/

/-- What a line gives under a key. -/
def lineValue (splitDelimiter k : String) (single : Bool) (key line : String) : Option String :=
  match splitOnce splitDelimiter line with
  | some (own, value) => if key = k ++ "_" ++ trim own then some (trim value) else none
  | none => if single ∧ key = k then some (trim line) else none

theorem lookup_insert_or {key own value : String} (metadata : HashMap String String) :
    (metadata.insert own value).lookup key =
      (if key = own then some value else none).or (metadata.lookup key) := by
  by_cases same : key = own
  · subst same
    rw [AList.lookup_insert, if_pos rfl, Option.some_or]
  · rw [AList.lookup_insert_ne same, if_neg same, Option.none_or]

theorem lookup_addLine (splitDelimiter k : String) (single : Bool) (key : String)
    (metadata : HashMap String String) (line : String) :
    (addLine splitDelimiter k single metadata line).lookup key =
      (lineValue splitDelimiter k single key line).or (metadata.lookup key) := by
  unfold addLine lineValue
  split
  · exact lookup_insert_or metadata
  · cases single with
    | false => rfl
    | true =>
        simp only [if_true, true_and]
        exact lookup_insert_or metadata

/-- What the text that a command prints gives under a key: the last of its lines counts. -/
def printed (splitDelimiter k text key : String) : Option String :=
  ((lines text).filterMap
    (lineValue splitDelimiter k ((lines text).length == 1) key)).getLast?

theorem lookup_addOutput (splitDelimiter k text : String) (metadata : HashMap String String)
    (key : String) :
    (addOutput splitDelimiter k text metadata).lookup key =
      (printed splitDelimiter k text key).or (metadata.lookup key) :=
  HashMap.lookup_foldl (lookup_addLine splitDelimiter k _ key) _ metadata

/-- The text that a command prints, if it can be used. -/
def text? (outputs : Outputs) (entry : Entry) : Option String :=
  match entry with
  | ⟨_, []⟩ => none
  | ⟨k, program :: args⟩ =>
      match outputs k ⟨program, args⟩ with
      | .error _ => none
      | .ok out => if out.success then
          match fromUtf8 out.stdout with
          | .ok text => some text
          | _ => none
        else none

/-- The command can be started, and prints UTF-8 if it succeeds; or there is no command. -/
def Harmless (outputs : Outputs) (entry : Entry) : Prop :=
  ∀ program args, entry.2 = program :: args → ∃ out, outputs entry.1 ⟨program, args⟩ = .ok out ∧
    (out.success = true → ∃ text, fromUtf8 out.stdout = .ok text)

/-- What a command gives under a key. -/
def contribution (outputs : Outputs) (splitDelimiter key : String) (entry : Entry) :
    Option String :=
  (text? outputs entry).bind fun text => printed splitDelimiter entry.1 text key

/-- The metadata after a command that does not stop the loop. -/
def withCommand (outputs : Outputs) (splitDelimiter : String) (metadata : HashMap String String)
    (entry : Entry) : HashMap String String :=
  match text? outputs entry with
  | some text => addOutput splitDelimiter entry.1 text metadata
  | none => metadata

theorem lookup_withCommand (outputs : Outputs) (splitDelimiter key : String)
    (metadata : HashMap String String) (entry : Entry) :
    (withCommand outputs splitDelimiter metadata entry).lookup key =
      (contribution outputs splitDelimiter key entry).or (metadata.lookup key) := by
  unfold withCommand contribution
  cases text? outputs entry with
  | none => rfl
  | some text => exact lookup_addOutput _ _ _ _ _

/-! ## The loop -/

section

variable {outputs : Outputs} {splitDelimiter : String} {entry : Entry}

theorem addCommand_of_harmless (harmless : Harmless outputs entry)
    (metadata : HashMap String String) :
    addCommand outputs splitDelimiter metadata entry =
      .ok (withCommand outputs splitDelimiter metadata entry) := by
  obtain ⟨k, v⟩ := entry
  cases v with
  | nil => rfl
  | cons program args =>
      obtain ⟨out, ran, readable⟩ := harmless program args rfl
      cases success : out.success with
      | false => simp [addCommand, withCommand, text?, ran, success]
      | true =>
          obtain ⟨text, read⟩ := readable success
          simp [addCommand, withCommand, text?, ran, success, read]

theorem addCommand_of_not_harmless (harmful : ¬ Harmless outputs entry)
    (metadata : HashMap String String) :
    ∀ result, addCommand outputs splitDelimiter metadata entry ≠ .ok result := by
  intro result given
  refine harmful fun program args line => ?_
  obtain ⟨k, v⟩ := entry
  obtain rfl : v = program :: args := line
  unfold addCommand at given
  dsimp only at given
  split at given
  · cases given
  · next out ran =>
      refine ⟨out, ran, fun success => ?_⟩
      rw [if_pos success] at given
      obtain ⟨text, read, _⟩ := Outcome.bind_eq_ok.mp given
      exact ⟨text, read⟩

/-- The loop goes through all commands exactly when none of them stops it. -/
theorem addCommands_eq_ok_iff (commands : List Entry) (metadata result : HashMap String String) :
    addCommands outputs splitDelimiter metadata commands = .ok result ↔
      (∀ entry ∈ commands, Harmless outputs entry) ∧
        result = commands.foldl (withCommand outputs splitDelimiter) metadata := by
  induction commands generalizing metadata with
  | nil =>
      rw [addCommands, Outcome.ok.injEq, List.foldl_nil, eq_comm]
      exact (and_iff_right fun _ impossible => by cases impossible).symm
  | cons entry rest ih =>
      rw [addCommands, List.forall_mem_cons, List.foldl_cons]
      by_cases harmless : Harmless outputs entry
      · rw [addCommand_of_harmless harmless, Outcome.ok_bind, ih, and_iff_right harmless]
      · refine iff_of_false (fun given => ?_) fun both => harmless both.1.1
        obtain ⟨middle, first, _⟩ := Outcome.bind_eq_ok.mp given
        exact addCommand_of_not_harmless harmless metadata middle first

/-- An entry of the metadata is from the last command that gives it, or from the configuration. -/
theorem lookup_get {conf : Config.Metadata} {commands : List Entry}
    {result : HashMap String String} (given : get outputs conf commands = .ok result)
    (key : String) :
    result.lookup key =
      (commands.filterMap (contribution outputs conf.splitDelimiter key)).getLast?.or
        ((conf.static.insert versionKey version).lookup key) := by
  obtain ⟨_, rfl⟩ := (addCommands_eq_ok_iff _ _ _).mp given
  exact HashMap.lookup_foldl (lookup_withCommand outputs conf.splitDelimiter key) commands _

end

end MqttForwarder.Metadata
