import MqttForwarder.Config.Configuration
import MqttForwarder.Substitution.Exactness
import MqttForwarder.Substitution.Lines

/-!
# The text of the configuration

`Configuration::get` puts the files one after the other, replaces one
environment variable after the other, and hands the result to the TOML parser.
-/

namespace MqttForwarder.Config

open MqttForwarder.Substitution

/-- `str::replace` of a pattern that is not empty. -/
def replaceStr (pattern new text : String) : String :=
  String.ofList (replace pattern.toList new.toList text.toList)

/-- What `env::vars()` yields, in this order. -/
structure Vars where
  entries : List (String × String)
  distinct : (entries.map Prod.fst).Nodup

namespace Configuration

section

variable {ε : Type} (readToString : String → Except ε String)
  (fromStr : String → Except ε Configuration)

/-- The content of the files, as they are. -/
def readFiles (filenames : List String) : Except ε String :=
  filenames.foldlM (fun content fileName => do
    let file ← readToString fileName
    return content ++ file) ""

/-- The text that `get` hands to the parser. -/
def content (vars : Vars) (filenames : List String) : Except ε String := do
  let content ← readFiles readToString filenames
  return vars.entries.foldl (fun content var => replaceStr ("$" ++ var.1) var.2 content) content

def get (vars : Vars) (filenames : List String) : Except ε Configuration := do
  let content ← content readToString vars filenames
  fromStr content

end

end Configuration

/-! ## The text that is meant -/

/-- The text of the files as they are. -/
def charsOf (files : List String) : List Char := (files.map String.toList).flatten

namespace Vars

/-- The variables with the characters of their values. -/
def chars (vars : Vars) : List (String × List Char) :=
  vars.entries.map fun var => (var.1, var.2.toList)

/-- The lines of the files in order, with all variables replaced in one pass. -/
def assemble (vars : Vars) (files : List String) : String :=
  String.ofList (expand '$' String.toList vars.chars (joinLines '\n' (files.map String.toList)))

/-- No line goes on in the next file, and at its turn every variable occurs only where the files
have it and no longer name fits. -/
def Apart (vars : Vars) (files : List String) : Prop :=
  Separate '\n' (files.map String.toList) ∧
    Undisturbed '$' String.toList vars.chars
      (scan '$' String.toList (vars.chars.map Prod.fst) (charsOf files))

theorem chars_names (vars : Vars) : vars.chars.map Prod.fst = vars.entries.map Prod.fst := by
  rw [chars, List.map_map]
  rfl

theorem chars_distinct (vars : Vars) : (vars.chars.map Prod.fst).Nodup := by
  rw [chars_names]
  exact vars.distinct

/-- Variables with the given characters as values. -/
def ofChars (vars : List (String × List Char)) (distinct : (vars.map Prod.fst).Nodup) : Vars where
  entries := vars.map fun var => (var.1, String.ofList var.2)
  distinct := by
    rw [List.map_map]
    exact distinct

theorem chars_ofChars (vars : List (String × List Char))
    (distinct : (vars.map Prod.fst).Nodup) : (ofChars vars distinct).chars = vars := by
  rw [chars, ofChars, List.map_map]
  exact (List.map_congr_left fun var _ => by simp).trans (List.map_id vars)

/-- The order of the variables makes no difference to the text that is meant. -/
theorem assemble_eq_of_perm {vars vars' : Vars} (perm : vars.entries.Perm vars'.entries)
    (files : List String) : vars.assemble files = vars'.assemble files := by
  have permuted : vars.chars.Perm vars'.chars := perm.map _
  have injective : Function.Injective String.toList := fun _ _ => String.toList_inj.mp
  rw [assemble, assemble, expand_eq_of_perm permuted vars.chars_distinct injective]

end Vars

/-! ## The text that is handed on -/

namespace Configuration

variable {ε : Type} {readToString : String → Except ε String} {vars : Vars}
  {filenames files : List String}

theorem toList_replaceStr (name new text : String) :
    (replaceStr ("$" ++ name) new text).toList =
      replace (reference '$' String.toList name) new.toList text.toList := by
  rw [replaceStr, String.toList_ofList, String.toList_append]
  rfl

theorem toList_foldl_replaceStr (entries : List (String × String)) (content : String) :
    (entries.foldl (fun content var => replaceStr ("$" ++ var.1) var.2 content) content).toList =
      replaceAll '$' String.toList (entries.map fun var => (var.1, var.2.toList))
        content.toList := by
  induction entries generalizing content with
  | nil => rfl
  | cons var entries ih =>
      rw [List.foldl_cons, ih, toList_replaceStr]
      rfl

theorem readFiles_eq
    (read : List.Forall₂ (fun fileName file => readToString fileName = .ok file) filenames files) :
    ∃ text, readFiles readToString filenames = .ok text ∧ text.toList = charsOf files := by
  have from_any : ∀ start, ∃ text, filenames.foldlM (fun content fileName => do
      let file ← readToString fileName
      return content ++ file) start = .ok text ∧ text.toList = start.toList ++ charsOf files := by
    induction read with
    | nil => exact fun start => ⟨start, rfl, (List.append_nil _).symm⟩
    | @cons fileName file filenames files one _ ih =>
        intro start
        obtain ⟨text, given, chars⟩ := ih (start ++ file)
        refine ⟨text, ?_, ?_⟩
        · rw [List.foldlM_cons, one]
          exact given
        · rw [chars, String.toList_append, List.append_assoc]
          rfl
  exact from_any ""

theorem content_eq
    (read : List.Forall₂ (fun fileName file => readToString fileName = .ok file) filenames files)
    (vars : Vars) :
    content readToString vars filenames =
      .ok (String.ofList (replaceAll '$' String.toList vars.chars (charsOf files))) := by
  obtain ⟨text, given, chars⟩ := readFiles_eq read
  rw [content, given]
  have replaced := toList_foldl_replaceStr vars.entries text
  rw [chars] at replaced
  rw [← Vars.chars] at replaced
  rw [← replaced, String.ofList_toList]
  rfl

theorem content_eq_assemble
    (read : List.Forall₂ (fun fileName file => readToString fileName = .ok file) filenames files)
    (apart : vars.Apart files) :
    content readToString vars filenames = .ok (vars.assemble files) := by
  rw [content_eq read, replaceAll_eq_expand vars.chars_distinct apart.2, Vars.assemble,
    joinLines_of_separate apart.1, charsOf]

/-- A text that comes out right with values as long as their variables has no joined lines. -/
theorem separate_of_content
    (read : List.Forall₂ (fun fileName file => readToString fileName = .ok file) filenames files)
    {blanks : Char → Prop} {blank : Char} (new : blanks blank)
    (right : ∀ vars', Blanked blanks vars.chars vars'.chars →
      content readToString vars' filenames = .ok (vars'.assemble files)) :
    Separate '\n' (files.map String.toList) := by
  have blanked := blanked_blankAll new String.toList vars.chars
  have distinct : ((blankAll String.toList blank vars.chars).map Prod.fst).Nodup := by
    rw [blanked.names]
    exact vars.chars_distinct
  have same := right (Vars.ofChars _ distinct) (by rwa [Vars.chars_ofChars])
  rw [content_eq read, Vars.assemble, Vars.chars_ofChars] at same
  have lengths := congrArg List.length (String.ofList_injective (Except.ok.inj same))
  rw [length_replaceAll fun var member => length_blankAll '$' member,
    length_expand fun var member => length_blankAll '$' member] at lengths
  exact separate_of_length lengths.symm

theorem apart_of_content
    (read : List.Forall₂ (fun fileName file => readToString fileName = .ok file) filenames files)
    {blank other : Char} (different : blank ≠ other)
    (fresh : Fresh '$' String.toList vars.chars (charsOf files) blank)
    (fresh' : Fresh '$' String.toList vars.chars (charsOf files) other)
    (right : ∀ vars',
      Blanked (Fresh '$' String.toList vars.chars (charsOf files)) vars.chars vars'.chars →
      content readToString vars' filenames = .ok (vars'.assemble files)) :
    vars.Apart files := by
  have separate := separate_of_content read fresh right
  refine ⟨separate, (replaceAll_eq_expand_iff vars.chars_distinct different fresh fresh').mp ?_⟩
  intro vars' blanked
  have distinct : (vars'.map Prod.fst).Nodup := by
    rw [blanked.names]
    exact vars.chars_distinct
  have same := right (Vars.ofChars vars' distinct) (by rwa [Vars.chars_ofChars])
  rw [content_eq read, Vars.assemble, Vars.chars_ofChars, joinLines_of_separate separate] at same
  exact String.ofList_injective (Except.ok.inj same)

/-- What is meant has the lines of the files in order.  The text is what is meant if no line goes
on in the next file and no variable is disturbed, and however values are blanked only then. -/
theorem content_eq_assemble_iff
    (read : List.Forall₂ (fun fileName file => readToString fileName = .ok file) filenames files)
    (vars : Vars) :
    linesOf '\n' (joinLines '\n' (files.map String.toList)) =
        (files.map String.toList).flatMap (linesOf '\n') ∧
    (vars.Apart files → ∀ vars' : Vars, vars.entries.Perm vars'.entries →
      content readToString vars filenames = .ok (vars'.assemble files)) ∧
    ∀ blank other, blank ≠ other →
      Fresh '$' String.toList vars.chars (charsOf files) blank →
      Fresh '$' String.toList vars.chars (charsOf files) other →
      ((∀ vars', Blanked (Fresh '$' String.toList vars.chars (charsOf files))
            vars.chars vars'.chars →
          content readToString vars' filenames = .ok (vars'.assemble files)) ↔
        vars.Apart files) := by
  refine ⟨linesOf_joinLines _, ?_, ?_⟩
  · intro apart vars' perm
    rw [content_eq_assemble read apart, Vars.assemble_eq_of_perm perm]
  · intro blank other different fresh fresh'
    refine ⟨apart_of_content read different fresh fresh', fun apart vars' blanked => ?_⟩
    apply content_eq_assemble read
    refine ⟨apart.1, ?_⟩
    rw [blanked.names]
    exact apart.2.blanked blanked fun var member c own new => new.reference member own

/-- A name comes before its beginning, and a name with the marker can overlap itself. -/
def longerFirst : Vars where
  entries := [("FOOBAR", "b"), ("FOO", "a"), ("A$A", "v")]
  distinct := by decide

/-- Two files, of which the first ends with a newline. -/
def twoFiles : String → Except Unit String
  | "main" => .ok "x=$FOOBAR,$FOO\n"
  | "more" => .ok "y=$A$A$A"
  | _ => .error ()

def twoTexts : List String := ["x=$FOOBAR,$FOO\n", "y=$A$A$A"]

theorem apart_longerFirst : longerFirst.Apart twoTexts := by
  constructor
  · exact separate_of_length (by decide)
  · rintro before name value after split
    rcases before with _ | ⟨first, _ | ⟨second, _ | ⟨third, before⟩⟩⟩
    · cases split
      decide
    · cases split
      decide
    · cases split
      decide
    · cases before <;> cases split

theorem content_eq_assemble_iff_longerFirst :
    content twoFiles longerFirst ["main", "more"] = .ok "x=b,a\ny=v$A" ∧
    ∀ vars', Blanked (Fresh '$' String.toList longerFirst.chars (charsOf twoTexts))
        longerFirst.chars vars'.chars →
      content twoFiles vars' ["main", "more"] = .ok (vars'.assemble twoTexts) := by
  have read : List.Forall₂ (fun fileName file => twoFiles fileName = .ok file)
      ["main", "more"] twoTexts := .cons rfl (.cons rfl .nil)
  obtain ⟨_, enough, exactly⟩ := content_eq_assemble_iff read longerFirst
  constructor
  · have meant : longerFirst.assemble twoTexts = "x=b,a\ny=v$A" := by decide
    rw [enough apart_longerFirst longerFirst (.refl _), meant]
  · have underscore : Fresh '$' String.toList longerFirst.chars (charsOf twoTexts) '_' :=
      ⟨by decide, by decide, by decide, by decide⟩
    have hash : Fresh '$' String.toList longerFirst.chars (charsOf twoTexts) '#' :=
      ⟨by decide, by decide, by decide, by decide⟩
    exact (exactly '_' '#' (by decide) underscore hash).mpr apart_longerFirst

/-- Two variables, one with the beginning of the other's name. -/
def nested : Vars where
  entries := [("FOO", "a"), ("FOOBAR", "b")]
  distinct := by decide

/-- The same variables in the other order. -/
def nestedReversed : Vars where
  entries := [("FOOBAR", "b"), ("FOO", "a")]
  distinct := by decide

theorem content_of_nested :
    content (fun _ => (.ok "$FOOBAR" : Except Unit String)) nested ["main"] = .ok "aBAR" ∧
      content (fun _ => (.ok "$FOOBAR" : Except Unit String)) nestedReversed ["main"] = .ok "b" ∧
      nested.assemble ["$FOOBAR"] = "b" := by
  decide

end Configuration

end MqttForwarder.Config
