import MqttForwarder.Rust.Text
import MqttForwarder.Toml.Document

/-!
# The beginning of a TOML text

A text is read character by character for as long as it is simple: blank
lines, comments, tables with bare keys, and bare keys whose values are basic
strings, booleans or integers.  The reading shows entries that the document of
the text must have, and it notices some of the places where every reader of
TOML refuses the text.  From the first part on that is not simple it is silent.
-/

namespace MqttForwarder.Toml

open MqttForwarder.Rust

/-! ## The reading -/

/-- The place of a value: the keys of its table, and its own key. -/
structure Place where
  table : List (List Char)
  key : List Char
  deriving DecidableEq, Repr

def Place.path (place : Place) : List String :=
  (place.table ++ [place.key]).map String.ofList

/-- A value that the text gives. -/
structure Entry where
  place : Place
  value : Scalar
  deriving DecidableEq, Repr

/-- What the last character was part of. -/
inductive Mode where
  | start (table : List (List Char))
  | comment (table : List (List Char))
  | header (path : List (List Char)) (key : List Char)
  | done (table : List (List Char))
  | key (place : Place)
  | value (place : Place)
  | string (place : Place) (text : List Char)
  | escape (place : Place) (text : List Char)
  | unicode (place : Place) (text : List Char) (missing code : Nat)
  | closed (place : Place) (text : List Char)
  | token (place : Place) (text : List Char)
  | unclear
  | rejected
  deriving DecidableEq, Repr

/-- The characters of bare keys, and of booleans and integers. -/
def isBare (c : Char) : Bool :=
  c.isAlphanum || c = '_' || c = '-'

/-- The characters that can follow a value. -/
def isEnd (c : Char) : Bool :=
  c = ' ' || c = '\t' || c = '\n' || c = '#'

/-- After a complete header or value. -/
def ended (table : List (List Char)) (c : Char) : Mode :=
  if c = '\n' then .start table
  else if c = '#' then .comment table
  else if c = ' ' ∨ c = '\t' then .done table
  else .unclear

/-- The escapes of one character. -/
def escaped? : Char → Option Char
  | 'b' => some (Char.ofNat 8)
  | 't' => some '\t'
  | 'n' => some '\n'
  | 'f' => some (Char.ofNat 12)
  | 'r' => some '\r'
  | 'e' => some (Char.ofNat 27)
  | '"' => some '"'
  | '\\' => some '\\'
  | _ => none

/-- The number of digits of an escape by code. -/
def digits? : Char → Option Nat
  | 'x' => some 2
  | 'u' => some 4
  | 'U' => some 8
  | _ => none

def hexDigit? (c : Char) : Option Nat :=
  if c.isDigit then some (c.toNat - 48)
  else if 'a' ≤ c ∧ c ≤ 'f' then some (c.toNat - 87)
  else if 'A' ≤ c ∧ c ≤ 'F' then some (c.toNat - 55)
  else none

/-- The value of a word, if it is a boolean or consists of digits. -/
def word? (text : List Char) : Option Scalar :=
  if text = ['t', 'r', 'u', 'e'] then some (.boolean true)
  else if text = ['f', 'a', 'l', 's', 'e'] then some (.boolean false)
  else if text.all Char.isDigit then some (.integer (Nat.ofDigitChars 10 text 0))
  else none

def next : Mode → Char → Mode
  | .start table, c =>
      if c = ' ' ∨ c = '\t' ∨ c = '\n' then .start table
      else if c = '#' then .comment table
      else if c = '[' then .header [] []
      else if isBare c then .key ⟨table, [c]⟩
      else .unclear
  | .comment table, c => if c = '\n' then .start table else .comment table
  | .header path key, c =>
      if isBare c then .header path (key ++ [c])
      else if c = '.' then .header (path ++ [key]) []
      else if c = ']' then .done (path ++ [key])
      else .unclear
  | .done table, c => ended table c
  | .key place, c =>
      if isBare c then .key ⟨place.table, place.key ++ [c]⟩
      else if c = '=' then .value place
      else .unclear
  | .value place, c =>
      if c = '\n' then .rejected
      else if c = '"' then .string place []
      else if isBare c then .token place [c]
      else .unclear
  | .string place text, c =>
      if c = '"' then .closed place text
      else if c = '\\' then .escape place text
      else if c = '\n' then .rejected
      else .string place (text ++ [c])
  | .escape place text, c =>
      match escaped? c, digits? c with
      | some d, _ => .string place (text ++ [d])
      | none, some missing => .unicode place text missing 0
      | none, none => .rejected
  | .unicode place text missing code, c =>
      match hexDigit? c with
      | none => .rejected
      | some digit =>
          if 1 < missing then .unicode place text (missing - 1) (16 * code + digit)
          else if (16 * code + digit).isValidChar then
            .string place (text ++ [Char.ofNat (16 * code + digit)])
          else .rejected
  | .closed place text, c =>
      -- two quotes can be the beginning of a multi-line string
      if c = '"' then if text = [] then .unclear else .rejected
      else ended place.table c
  | .token place text, c =>
      if isBare c then .token place (text ++ [c])
      else if (word? text).isSome then ended place.table c
      else .unclear
  | .unclear, _ => .unclear
  | .rejected, _ => .rejected

/-- The entry that is complete when the character is read. -/
def shown : Mode → Char → Option Entry
  | .closed place text, c =>
      if c = '"' then none else some ⟨place, .string (String.ofList text)⟩
  | .token place text, c =>
      if isEnd c then (word? text).map fun value => ⟨place, value⟩ else none
  | _, _ => none

/-- The mode after a text, and the entries of the text. -/
def scan : Mode → List Char → Mode × List Entry
  | mode, [] => (mode, [])
  | mode, c :: text =>
      let rest := scan (next mode c) text
      (rest.1, (shown mode c).toList ++ rest.2)

theorem scan_append (mode : Mode) (first second : List Char) :
    scan mode (first ++ second) =
      ((scan (scan mode first).1 second).1,
        (scan mode first).2 ++ (scan (scan mode first).1 second).2) := by
  induction first generalizing mode with
  | nil => simp [scan]
  | cons c first ih => simp [scan, ih]

theorem scan_rejected (text : List Char) : scan .rejected text = (.rejected, []) := by
  induction text with
  | nil => rfl
  | cons c text ih =>
      rw [scan, next, ih]
      rfl

/-! ## Readers -/

/-- What every reader of TOML does: a text that it accepts cannot be refused after its
beginning, and the document has the entries of the beginning. -/
structure Reads (parse : String → Option Value) : Prop where
  accepts : ∀ {text root}, parse text = some root →
    (scan (.start []) text.toList).1 ≠ .rejected
  entries : ∀ {text root}, parse text = some root →
    ∀ entry ∈ (scan (.start []) text.toList).2,
      root.scalarAt entry.place.path = some entry.value

/-- The text is simple to its end. -/
def Mode.complete : Mode → Bool
  | start _ => true
  | comment _ => true
  | done _ => true
  | _ => false

/-- The document with the entries. -/
def assemble (entries : List Entry) : Value :=
  entries.foldl (fun root entry => Value.insert (.scalar entry.value) entry.place.path root)
    (.table [])

/-- A reader of simple texts. -/
def read (text : String) : Option Value :=
  let reading := scan (.start []) text.toList
  let root := assemble reading.2
  if reading.1.complete ∧ (reading.2.map Entry.place).Nodup ∧
      ∀ entry ∈ reading.2, root.scalarAt entry.place.path = some entry.value then
    some root
  else none

theorem read_reads : Reads read where
  accepts := by
    intro text root accepted
    unfold read at accepted
    dsimp only at accepted
    split at accepted
    · next simple =>
        intro rejected
        rw [rejected] at simple
        exact absurd simple.1 (by decide)
    · cases accepted
  entries := by
    intro text root accepted
    unfold read at accepted
    dsimp only at accepted
    split at accepted
    · next simple =>
        obtain rfl := Option.some.inj accepted
        exact simple.2.2
    · cases accepted

example : ((read "[a]\nb=\"c\"\n").bind fun root => root.scalarAt ["a", "b"]) =
    some (.string "c") := by
  decide

/-! ## Texts that cannot be read as intended -/

/-- From this mode on the text is refused, or it shows one of the `wrong` entries. -/
def Refutes (wrong : Entry → Prop) (mode : Mode) (text : List Char) : Prop :=
  (scan mode text).1 = .rejected ∨ ∃ entry ∈ (scan mode text).2, wrong entry

section

variable {wrong : Entry → Prop} {mode : Mode} {c : Char} {first text : List Char}

theorem Refutes.of_rejected (text : List Char) : Refutes wrong .rejected text :=
  .inl (by rw [scan_rejected])

theorem Refutes.append (later : Refutes wrong (scan mode first).1 text) :
    Refutes wrong mode (first ++ text) := by
  unfold Refutes
  rw [scan_append]
  rcases later with rejected | ⟨entry, member, now⟩
  · exact .inl rejected
  · exact .inr ⟨entry, List.mem_append_right _ member, now⟩

/-- What follows takes nothing back. -/
theorem Refutes.extend (refutes : Refutes wrong mode first) (text : List Char) :
    Refutes wrong mode (first ++ text) := by
  unfold Refutes
  rw [scan_append]
  rcases refutes with rejected | ⟨entry, member, now⟩
  · rw [rejected, scan_rejected]
    exact .inl rfl
  · exact .inr ⟨entry, List.mem_append_left _ member, now⟩

theorem Refutes.cons (later : Refutes wrong (next mode c) text) :
    Refutes wrong mode (c :: text) := by
  rcases later with rejected | ⟨entry, member, now⟩
  · exact .inl rejected
  · exact .inr ⟨entry, List.mem_append_right _ member, now⟩

theorem Refutes.here {entry : Entry} (complete : shown mode c = some entry) (now : wrong entry) :
    Refutes wrong mode (c :: text) := by
  refine .inr ⟨entry, ?_, now⟩
  rw [scan, complete]
  exact List.mem_append_left _ (List.mem_singleton_self entry)

end

/-- A reader accepts no such text with a document that has none of the wrong entries. -/
theorem Refutes.exists_wrong {parse : String → Option Value} (reads : Reads parse)
    {wrong : Entry → Prop} {text : String} (refutes : Refutes wrong (.start []) text.toList)
    {root : Value} (accepted : parse text = some root) :
    ∃ entry, wrong entry ∧ root.scalarAt entry.place.path = some entry.value := by
  rcases refutes with rejected | ⟨entry, member, now⟩
  · exact absurd rejected (reads.accepts accepted)
  · exact ⟨entry, now, reads.entries accepted entry member⟩

end MqttForwarder.Toml
