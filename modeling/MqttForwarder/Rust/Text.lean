import Mathlib.Data.List.DropRight
import MqttForwarder.Rust.Outcome

/-!
# Decimal numerals and string splitting

The parts of `str` that the data-rate identifiers use, on lists of characters:
`parse::<u32>`, `split` on a two-character separator, and the decimal form
that `format!` writes; `split` on a character, which takes topics apart; and
`replace` of a character; and `lines`, `split_once` and `trim`, which take the
output of a command apart.
-/

namespace MqttForwarder.Rust

/-- The unbounded value of a decimal numeral: an optional `+`, then at least
one ASCII digit. -/
def numeral? (text : List Char) : Option Nat :=
  let digits := match text with
    | '+' :: rest => rest
    | _ => text
  if digits ≠ [] ∧ digits.all Char.isDigit then some (Nat.ofDigitChars 10 digits 0) else none

/-- A numeral is written with digits, after at most one sign. -/
theorem digits_of_numeral {text : List Char} {n : Nat} (numeral : numeral? text = some n) :
    ∃ digits, (text = digits ∨ text = '+' :: digits) ∧ digits.all Char.isDigit = true := by
  unfold numeral? at numeral
  dsimp only at numeral
  split at numeral
  · next rest =>
      split at numeral
      · next both => exact ⟨rest, .inr rfl, both.2⟩
      · cases numeral
  · split at numeral
    · next both => exact ⟨_, .inl rfl, both.2⟩
    · cases numeral

theorem not_mem_of_numeral {text : List Char} {n : Nat} (numeral : numeral? text = some n)
    {c : Char} (noDigit : c.isDigit = false) (noSign : c ≠ '+') : c ∉ text := by
  obtain ⟨digits, form, all⟩ := digits_of_numeral numeral
  have clear : c ∉ digits := by
    intro member
    rw [List.all_eq_true.mp all c member] at noDigit
    cases noDigit
  rcases form with rfl | rfl
  · exact clear
  · rw [List.mem_cons, not_or]
    exact ⟨noSign, clear⟩

/-- `str::parse::<u32>`: a numeral whose value fits 32 bits. -/
def parseU32 (text : List Char) : Option UInt32 :=
  match numeral? text with
  | some value => if value < 2 ^ 32 then some (UInt32.ofNat value) else none
  | none => none

theorem parseU32_eq_some_iff {text : List Char} {value : UInt32} :
    parseU32 text = some value ↔ numeral? text = some value.toNat := by
  unfold parseU32
  cases numeral? text with
  | none => simp
  | some number =>
      by_cases small : number < 2 ^ 32
      · simp only [small, if_true, Option.some.injEq]
        constructor
        · rintro rfl
          exact (UInt32.toNat_ofNat_of_lt' small).symm
        · rintro rfl
          exact UInt32.ofNat_toNat
      · simp only [small, if_false, Option.some.injEq]
        constructor
        · intro impossible
          cases impossible
        · rintro rfl
          exact absurd value.toNat_lt small

def decimal (value : UInt32) : List Char := Nat.toDigits 10 value.toNat

/-- The decimal form of a number is a numeral of that value. -/
theorem numeral?_decimal (value : UInt32) : numeral? (decimal value) = some value.toNat := by
  have digits : (Nat.toDigits 10 value.toNat).all Char.isDigit = true :=
    List.all_eq_true.mpr fun c member =>
      Nat.isDigit_of_mem_toDigits (by decide) (by decide) member
  have unsigned : ∀ rest, Nat.toDigits 10 value.toNat ≠ '+' :: rest := by
    intro rest equal
    rw [equal] at digits
    simp at digits
  simp only [numeral?, decimal]
  rw [if_pos ⟨Nat.toDigits_ne_nil, digits⟩, Nat.ofDigitChars_ten_toDigits]

theorem parseU32_decimal (value : UInt32) : parseU32 (decimal value) = some value :=
  parseU32_eq_some_iff.mpr (numeral?_decimal value)

/-- `str::split` on the separator `[a, b]`. -/
def split2 (a b : Char) : List Char → List (List Char)
  | [] => [[]]
  | [c] => [[c]]
  | c :: d :: tail =>
      if c = a ∧ d = b then [] :: split2 a b tail
      else (split2 a b (d :: tail)).modifyHead (c :: ·)

theorem split2_ne_nil (a b : Char) (text : List Char) : split2 a b text ≠ [] := by
  fun_induction split2 a b text with
  | case1 => simp
  | case2 => simp
  | case3 => simp
  | case4 c d tail other ih =>
      intro empty
      exact ih (List.modifyHead_eq_nil_iff.mp empty)

/-- Joining the pieces with the separator gives the text back. -/
theorem intercalate_split2 (a b : Char) (text : List Char) :
    List.intercalate [a, b] (split2 a b text) = text := by
  fun_induction split2 a b text with
  | case1 => rfl
  | case2 => rfl
  | case3 c d tail same ih =>
      obtain ⟨rfl, rfl⟩ := same
      cases pieces : split2 c d tail with
      | nil => exact absurd pieces (split2_ne_nil c d tail)
      | cons piece rest =>
          rw [pieces] at ih
          simpa [List.intercalate] using ih
  | case4 c d tail other ih =>
      cases pieces : split2 a b (d :: tail) with
      | nil => exact absurd pieces (split2_ne_nil a b (d :: tail))
      | cons piece rest =>
          rw [pieces] at ih
          cases rest with
          | nil => simpa [List.intercalate] using ih
          | cons second more => simpa [List.intercalate] using ih

/-- Two pieces are what stands on both sides of one separator. -/
theorem append_of_split2 {a b : Char} {text left right : List Char}
    (pieces : split2 a b text = [left, right]) : text = left ++ a :: b :: right := by
  have whole := intercalate_split2 a b text
  rw [pieces] at whole
  simpa [List.intercalate] using whole.symm

theorem split2_of_not_mem {a : Char} (b : Char) {text : List Char} (clear : a ∉ text) :
    split2 a b text = [text] := by
  fun_induction split2 a b text with
  | case1 => rfl
  | case2 => rfl
  | case3 c d tail same ih => simp [same.1] at clear
  | case4 c d tail other ih =>
      rw [ih (fun member => clear (List.mem_cons_of_mem c member))]
      rfl

/-- Text without the first separator character on either side splits in two. -/
theorem split2_append {a b : Char} {left right : List Char}
    (clearLeft : a ∉ left) (clearRight : a ∉ right) :
    split2 a b (left ++ a :: b :: right) = [left, right] := by
  induction left with
  | nil => simp [split2, split2_of_not_mem b clearRight]
  | cons c rest ih =>
      have tail := ih (fun member => clearLeft (List.mem_cons_of_mem c member))
      have notA : c ≠ a := fun same => clearLeft (same ▸ List.mem_cons_self)
      cases rest with
      | nil =>
          change split2 a b (c :: a :: b :: right) = [[c], right]
          rw [split2, if_neg fun both => notA both.1]
          exact congrArg (List.modifyHead (c :: ·)) tail
      | cons d more =>
          change split2 a b (c :: d :: (more ++ a :: b :: right)) = [c :: d :: more, right]
          rw [split2, if_neg fun both => notA both.1]
          exact congrArg (List.modifyHead (c :: ·)) tail

/-! ## Splitting at a character -/

def split (a : Char) (text : String) : List String :=
  (text.toList.splitOn a).map String.ofList

theorem split_of_notMem {a : Char} {text : String} (clear : a ∉ text.toList) :
    split a text = [text] := by
  rw [split, List.splitOn_eq_singleton clear, List.map_singleton, String.ofList_toList]

/-- Two texts with the separator between them. -/
theorem split_append (a : Char) (left right : String) :
    split a (left ++ String.singleton a ++ right) = split a left ++ split a right := by
  have whole : (left ++ String.singleton a ++ right).toList =
      left.toList ++ a :: right.toList := by simp
  rw [split, whole, List.splitOn_append_cons_self, List.map_append]
  rfl

/-! ## Replacing a character -/

def replaceChar (a : Char) (new : List Char) (text : List Char) : List Char :=
  text.flatMap fun c => if c = a then new else [c]

theorem replaceChar_cons_self (a : Char) (new text : List Char) :
    replaceChar a new (a :: text) = new ++ replaceChar a new text := by
  simp [replaceChar]

theorem replaceChar_cons_of_ne {a c : Char} (other : c ≠ a) (new text : List Char) :
    replaceChar a new (c :: text) = c :: replaceChar a new text := by
  simp [replaceChar, other]

theorem replaceChar_of_notMem {a : Char} {text : List Char} (clear : a ∉ text)
    (new : List Char) : replaceChar a new text = text := by
  induction text with
  | nil => rfl
  | cons c rest ih =>
      rw [List.mem_cons, not_or] at clear
      rw [replaceChar_cons_of_ne (Ne.symm clear.1), ih clear.2]

/-! ## Lines and keys -/

def stripCr (line : List Char) : List Char :=
  if line.getLast? = some '\r' then line.dropLast else line

/-- `str::lines`.  What follows the last newline is a line if it is not empty. -/
def lines (text : String) : List String :=
  let pieces := text.toList.splitOn '\n'
  let last := pieces.getLast?.getD []
  (pieces.dropLast.map stripCr ++ if last = [] then [] else [last]).map String.ofList

def cutAt (delimiter : List Char) : List Char → Option (List Char × List Char)
  | [] => if delimiter = [] then some ([], []) else none
  | c :: rest =>
      if delimiter.isPrefixOf (c :: rest) then some ([], (c :: rest).drop delimiter.length)
      else (cutAt delimiter rest).map fun parts => (c :: parts.1, parts.2)

def splitOnce (delimiter text : String) : Option (String × String) :=
  (cutAt delimiter.toList text.toList).map fun parts =>
    (String.ofList parts.1, String.ofList parts.2)

def isWhitespace (c : Char) : Bool :=
  let n := c.toNat
  (0x09 ≤ n && n ≤ 0x0D) || n == 0x20 || n == 0x85 || n == 0xA0 || n == 0x1680 ||
    (0x2000 ≤ n && n ≤ 0x200A) || n == 0x2028 || n == 0x2029 || n == 0x202F || n == 0x205F ||
    n == 0x3000

def trim (text : String) : String :=
  String.ofList ((text.toList.dropWhile isWhitespace).rdropWhile isWhitespace)

end MqttForwarder.Rust
