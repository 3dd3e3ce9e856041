import MqttForwarder.Toml.Beginning

/-!
# Values on one line

A writer that escapes the quotes of a string, and nothing else, gives a basic
string of TOML that is read back if the string has no backslash and no line
break.  Otherwise the text is refused, or a shorter string is read.  A word or
a numeral is read back, and a key without a value is refused.
-/

namespace MqttForwarder.Toml

open MqttForwarder.Rust

/-- The text with a backslash before each quote. -/
abbrev escapeQuotes (text : List Char) : List Char :=
  replaceChar '"' ['\\', '"'] text

/-- The text that follows the opening quote of the string, to the end of its line. -/
def quoted (text rest : List Char) : List Char :=
  escapeQuotes text ++ '"' :: '\n' :: rest

/-- Quotes are the only characters that must be escaped. -/
def Plain (text : List Char) : Prop :=
  '\\' ∉ text ∧ '\n' ∉ text

theorem plain_cons {c : Char} {text : List Char} :
    Plain (c :: text) ↔ c ≠ '\\' ∧ c ≠ '\n' ∧ Plain text := by
  simp only [Plain, List.mem_cons, not_or]
  constructor
  · rintro ⟨⟨backslash, noBackslash⟩, line, noLine⟩
    exact ⟨Ne.symm backslash, Ne.symm line, noBackslash, noLine⟩
  · rintro ⟨backslash, line, noBackslash, noLine⟩
    exact ⟨⟨Ne.symm backslash, noBackslash⟩, Ne.symm line, noLine⟩

theorem quoted_quote (text rest : List Char) :
    quoted ('"' :: text) rest = '\\' :: '"' :: quoted text rest := by
  rw [quoted, escapeQuotes, replaceChar_cons_self]
  rfl

theorem quoted_cons {c : Char} (other : c ≠ '"') (text rest : List Char) :
    quoted (c :: text) rest = c :: quoted text rest := by
  rw [quoted, escapeQuotes, replaceChar_cons_of_ne other]
  rfl

section

variable {wrong : Entry → Prop} {place : Place}

/-! ## Words -/

theorem ne_of_isBare {c d : Char} (bare : isBare c = true) (other : isBare d = false) : c ≠ d := by
  rintro rfl
  rw [bare] at other
  cases other

theorem Refutes.token {word before rest : List Char} (bare : ∀ c ∈ word, isBare c = true)
    (value : (word? (before ++ word)).isSome = true)
    (later : Refutes wrong (.start place.table) rest) :
    Refutes wrong (.token place before) (word ++ '\n' :: rest) := by
  induction word generalizing before with
  | nil =>
      rw [List.append_nil] at value
      refine .cons ?_
      rw [Toml.next, if_neg (by decide), if_pos value]
      exact later
  | cons c word ih =>
      refine .cons ?_
      rw [Toml.next, if_pos (bare c List.mem_cons_self)]
      refine ih (fun d member => bare d (List.mem_cons_of_mem c member)) ?_
      rwa [List.append_assoc]

/-- A boolean or a numeral is passed over. -/
theorem Refutes.word {word rest : List Char} (nonempty : word ≠ [])
    (bare : ∀ c ∈ word, isBare c = true) (value : (word? word).isSome = true)
    (later : Refutes wrong (.start place.table) rest) :
    Refutes wrong (.value place) (word ++ '\n' :: rest) := by
  cases word with
  | nil => exact absurd rfl nonempty
  | cons c word =>
      have own := bare c List.mem_cons_self
      refine .cons ?_
      rw [Toml.next, if_neg (ne_of_isBare own (by decide)), if_neg (ne_of_isBare own (by decide)),
        if_pos own]
      exact .token (fun d member => bare d (List.mem_cons_of_mem c member)) value later

theorem Refutes.boolean (value : Bool) {rest : List Char}
    (later : Refutes wrong (.start place.table) rest) :
    Refutes wrong (.value place) ((toString value).toList ++ '\n' :: rest) := by
  cases value with
  | false =>
      have word : (toString false).toList = ['f', 'a', 'l', 's', 'e'] := String.toList_ofList
      rw [word]
      exact .word (by decide) (List.all_eq_true.mp rfl) rfl later
  | true =>
      have word : (toString true).toList = ['t', 'r', 'u', 'e'] := String.toList_ofList
      rw [word]
      exact .word (by decide) (List.all_eq_true.mp rfl) rfl later

theorem Refutes.natural (value : Nat) {rest : List Char}
    (later : Refutes wrong (.start place.table) rest) :
    Refutes wrong (.value place) (Nat.toDigits 10 value ++ '\n' :: rest) := by
  have digit : ∀ c ∈ Nat.toDigits 10 value, c.isDigit = true := fun c member =>
    Nat.isDigit_of_mem_toDigits (by decide) (by decide) member
  refine .word Nat.toDigits_ne_nil (fun c member => ?_) ?_ later
  · simp [isBare, Char.isAlphanum, digit c member]
  · unfold word?
    split
    · rfl
    · split
      · rfl
      · rw [if_pos (List.all_eq_true.mpr digit)]
        rfl

/-- A key without a value is refused. -/
theorem Refutes.missing {rest : List Char} : Refutes wrong (.value place) ('\n' :: rest) :=
  .cons (.of_rejected rest)

/-! ## Strings that are read back -/

/-- The string is read back, whatever it is followed by. -/
theorem Refutes.plain {text rest : List Char} (plain : Plain text)
    (later : Refutes wrong (.start place.table) rest) (before : List Char) :
    Refutes wrong (.string place before) (quoted text rest) := by
  induction text generalizing before with
  | nil => exact .cons (.cons later)
  | cons c text ih =>
      obtain ⟨backslash, line, others⟩ := plain_cons.mp plain
      by_cases quote : c = '"'
      · subst quote
        rw [quoted_quote]
        exact .cons (.cons (ih others _))
      · rw [quoted_cons quote]
        refine .cons ?_
        rw [next, if_neg quote, if_neg backslash, if_neg line]
        exact ih others _

/-! ## Strings that are not -/

/-- In the string at the place, with at most so many characters before an escape is complete. -/
inductive Inside (place : Place) (count : Nat) : Mode → Prop where
  | string {text : List Char} (few : text.length ≤ count) : Inside place count (.string place text)
  | escape {text : List Char} (few : text.length ≤ count) : Inside place count (.escape place text)
  | unicode {text : List Char} {missing code : Nat} (few : text.length < count) :
      Inside place count (.unicode place text missing code)

/-- Another character of the string. -/
theorem Inside.snoc {count : Nat} {text : List Char} (few : text.length ≤ count) (c : Char) :
    Inside place (count + 1) (.string place (text ++ [c])) := by
  refine .string ?_
  rw [List.length_append, List.length_singleton]
  exact Nat.succ_le_succ few

/-- A character other than a quote keeps the reading inside the string or makes it fail. -/
theorem Inside.next {count : Nat} {mode : Mode} (inside : Inside place count mode) {c : Char}
    (other : c ≠ '"') : next mode c = .rejected ∨ Inside place (count + 1) (next mode c) := by
  cases inside with
  | @string text few =>
      rw [Toml.next, if_neg other]
      split
      · exact .inr (.escape (Nat.le_succ_of_le few))
      · split
        · exact .inl rfl
        · exact .inr (.snoc few c)
  | @escape text few =>
      rw [Toml.next]
      split
      · exact .inr (.snoc few _)
      · exact .inr (.unicode (Nat.lt_succ_of_le few))
      · exact .inl rfl
  | @unicode text missing code few =>
      rw [Toml.next]
      split
      · exact .inl rfl
      · split
        · exact .inr (.unicode (Nat.lt_succ_of_lt few))
        · split
          · exact .inr (.snoc (Nat.le_of_lt few) _)
          · exact .inl rfl

/-- After a quote that closes a string with some text, the string is shown or the text refused. -/
theorem Refutes.closed {text following : List Char} (begun : text ≠ []) (more : following ≠ [])
    (now : wrong ⟨place, .string (String.ofList text)⟩) :
    Refutes wrong (.closed place text) following := by
  cases following with
  | nil => exact absurd rfl more
  | cons c following =>
      by_cases quote : c = '"'
      · subst quote
        refine .cons ?_
        rw [Toml.next, if_pos rfl, if_neg begun]
        exact .of_rejected following
      · refine .here ?_ now
        rw [shown, if_neg quote]

/-- An escaped quote is either part of the string, or its backslash is escaped itself and the
quote closes the string. -/
theorem Refutes.quote {count bound : Nat} {mode : Mode} (inside : Inside place count mode)
    {following : List Char} (more : following ≠ []) (few : count + 1 < bound)
    (shorter : ∀ read, read.length < bound → wrong ⟨place, .string (String.ofList read)⟩)
    (later : ∀ mode, Inside place (count + 1) mode → Refutes wrong mode following) :
    Refutes wrong mode ('\\' :: '"' :: following) := by
  cases inside with
  | string within => exact .cons (.cons (later _ (.snoc within '"')))
  | @escape text within =>
      refine .cons (.cons (.closed (by simp) more (shorter _ ?_)))
      rw [List.length_append, List.length_singleton]
      exact Nat.lt_of_le_of_lt (Nat.succ_le_succ within) few
  | unicode => exact .cons (.of_rejected _)

/-- Once a backslash of the string has been taken for an escape, what is read is shorter. -/
theorem Refutes.inside {text : List Char} {count bound : Nat} {mode : Mode}
    (inside : Inside place count mode) (few : count + text.length < bound)
    (shorter : ∀ read, read.length < bound → wrong ⟨place, .string (String.ofList read)⟩)
    (rest : List Char) : Refutes wrong mode (quoted text rest) := by
  -- a character that is taken from the text adds at most one to what has been read
  induction text generalizing mode count with
  | nil =>
      cases inside with
      | string within =>
          refine .cons (.here rfl (shorter _ ?_))
          exact Nat.lt_of_le_of_lt within few
      | escape => exact .cons (.cons (.of_rejected rest))
      | unicode => exact .cons (.of_rejected _)
  | cons c text ih =>
      rw [List.length_cons] at few
      by_cases quote : c = '"'
      · subst quote
        rw [quoted_quote]
        refine .quote inside (by simp [quoted]) (by omega) shorter fun mode inside => ?_
        exact ih inside (by omega)
      · rw [quoted_cons quote]
        refine .cons ?_
        rcases inside.next quote with rejected | inside
        · rw [rejected]
          exact .of_rejected _
        · exact ih inside (by omega)

/-- Whatever the string is: it is read back, the text is refused, or a shorter one is read. -/
theorem Refutes.string {text rest : List Char} {bound : Nat} {before : List Char}
    (few : before.length + text.length ≤ bound)
    (shorter : ∀ read, read.length < bound → wrong ⟨place, .string (String.ofList read)⟩)
    (later : Refutes wrong (.start place.table) rest) :
    Refutes wrong (.string place before) (quoted text rest) := by
  induction text generalizing before with
  | nil => exact .cons (.cons later)
  | cons c text ih =>
      rw [List.length_cons] at few
      have more : ∀ d : Char, (before ++ [d]).length + text.length ≤ bound := by
        intro d
        rw [List.length_append, List.length_singleton]
        omega
      by_cases quote : c = '"'
      · subst quote
        rw [quoted_quote]
        exact .cons (.cons (ih (more '"')))
      · rw [quoted_cons quote]
        refine .cons ?_
        rw [Toml.next, if_neg quote]
        split
        · exact .inside (.escape (Nat.le_refl before.length)) (by omega) shorter rest
        · split
          · exact .of_rejected _
          · exact ih (more c)

end

end MqttForwarder.Toml
