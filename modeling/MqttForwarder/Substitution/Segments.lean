import Mathlib.Data.List.Lemmas
import Mathlib.Data.List.MinMax
import Mathlib.Data.List.Induction
import Mathlib.Logic.Function.Basic
import MqttForwarder.Substitution.Replace

/-!
# Variables in a text

A variable is written as a marker and its name.  `expand` replaces all
variables of a text in one pass, and takes the longest name where several fit;
`replaceAll` replaces one variable after the other.  The two agree as long as
every occurrence that is replaced is one that the text had from the beginning.
-/

namespace MqttForwarder.Substitution

variable {α κ : Type} [DecidableEq α] [DecidableEq κ]

inductive Segment (α κ : Type) where
  | literal (c : α)
  | named (name : κ)
  deriving DecidableEq

abbrev Values (α κ : Type) := κ → Option (List α)

def valuesOf (vars : List (κ × List α)) : Values α κ :=
  vars.foldl (fun values var => Function.update values var.1 (some var.2)) fun _ => none

section

variable (marker : α) (spell : κ → List α)

def reference (name : κ) : List α := marker :: spell name

omit [DecidableEq α] [DecidableEq κ] in
theorem reference_ne_nil (name : κ) : reference marker spell name ≠ [] :=
  List.cons_ne_nil _ _

def Segment.render (values : Values α κ) : Segment α κ → List α
  | literal c => [c]
  | named name => (values name).getD (reference marker spell name)

def render (values : Values α κ) (segments : List (Segment α κ)) : List α :=
  segments.flatMap (Segment.render marker spell values)

/-- The longest of the names with which the text begins. -/
def longest (names : List κ) (text : List α) : Option κ :=
  (names.filter fun name => (spell name).isPrefixOf text).argmax fun name => (spell name).length

/-- `scan` after `skip` more characters of a name. -/
def scanFrom (names : List κ) : Nat → List α → List (Segment α κ)
  | _, [] => []
  | skip + 1, _ :: rest => scanFrom names skip rest
  | 0, c :: rest =>
      match if c = marker then longest spell names rest else none with
      | some name => .named name :: scanFrom names (spell name).length rest
      | none => .literal c :: scanFrom names 0 rest

def scan (names : List κ) (text : List α) : List (Segment α κ) :=
  scanFrom marker spell names 0 text

/-- All variables replaced in one pass. -/
def expand (vars : List (κ × List α)) (text : List α) : List α :=
  render marker spell (valuesOf vars) (scan marker spell (vars.map Prod.fst) text)

def replaceAll (vars : List (κ × List α)) (text : List α) : List α :=
  vars.foldl (fun text var => replace (reference marker spell var.1) var.2 text) text

/-- A pass for the variable meets it at its segments only. -/
def Genuine (values : Values α κ) (name : κ) : List (Segment α κ) → Prop
  | [] => True
  | segment :: rest =>
      (segment = .named name ∨ ∀ i < (segment.render marker spell values).length,
        ¬ reference marker spell name <+:
          (segment.render marker spell values).drop i ++ render marker spell values rest) ∧
      Genuine values name rest

instance decidableGenuine (values : Values α κ) (name : κ) (segments : List (Segment α κ)) :
    Decidable (Genuine marker spell values name segments) :=
  match segments with
  | [] => isTrue trivial
  | _ :: rest =>
      haveI := decidableGenuine values name rest
      inferInstanceAs (Decidable ((_ ∨ _) ∧ _))

/-- At its turn, every variable occurs only where the text has had it from the beginning. -/
def Undisturbed (vars : List (κ × List α)) (segments : List (Segment α κ)) : Prop :=
  ∀ before name value after, vars = before ++ (name, value) :: after →
    Genuine marker spell (valuesOf before) name segments

end

variable {marker : α} {spell : κ → List α} {values : Values α κ} {names : List κ} {name : κ}
  {value : List α} {segments : List (Segment α κ)} {vars : List (κ × List α)}

/-! ## Scanning -/

omit [DecidableEq κ] in
theorem prefix_of_longest {text : List α} (found : longest spell names text = some name) :
    spell name <+: text := by
  have member := List.mem_of_mem_filter (List.argmax_mem found)
  have kept := List.of_mem_filter (List.argmax_mem found)
  exact List.isPrefixOf_iff_prefix.mp kept

omit [DecidableEq κ] in
/-- A name that fits is no longer than the longest. -/
theorem exists_longest {text : List α} (member : name ∈ names) (fits : spell name <+: text) :
    ∃ best, longest spell names text = some best ∧ best ∈ names ∧
      (spell name).length ≤ (spell best).length := by
  have kept : name ∈ names.filter fun name => (spell name).isPrefixOf text :=
    List.mem_filter.mpr ⟨member, List.isPrefixOf_iff_prefix.mpr fits⟩
  cases found : longest spell names text with
  | none =>
      rw [longest, List.argmax_eq_none] at found
      rw [found] at kept
      cases kept
  | some best =>
      refine ⟨best, rfl, List.mem_of_mem_filter (List.argmax_mem found), ?_⟩
      exact List.le_of_mem_argmax (f := fun name => (spell name).length) kept found

omit [DecidableEq κ] in
/-- The longest name does not depend on the order of the names. -/
theorem longest_eq_of_perm {names' : List κ} (perm : names.Perm names')
    (injective : Function.Injective spell) (text : List α) :
    longest spell names text = longest spell names' text := by
  cases found : longest spell names text with
  | none =>
      cases found' : longest spell names' text with
      | none => rfl
      | some other =>
          have member := List.mem_of_mem_filter (List.argmax_mem found')
          obtain ⟨best, given, _⟩ :=
            exists_longest (perm.symm.subset member) (prefix_of_longest found')
          rw [found] at given
          cases given
  | some best =>
      have member := List.mem_of_mem_filter (List.argmax_mem found)
      obtain ⟨other, given, member', le⟩ :=
        exists_longest (perm.subset member) (prefix_of_longest found)
      obtain ⟨again, same, _, ge⟩ :=
        exists_longest (perm.symm.subset member') (prefix_of_longest given)
      obtain rfl : again = best := Option.some.inj (same.symm.trans found)
      have begins : spell again <+: spell other :=
        List.prefix_of_prefix_length_le (prefix_of_longest found) (prefix_of_longest given) le
      rw [given, injective (begins.eq_of_length (Nat.le_antisymm le ge))]

omit [DecidableEq κ] in
theorem scanFrom_eq_of_perm {names' : List κ} (perm : names.Perm names')
    (injective : Function.Injective spell) (skip : Nat) (text : List α) :
    scanFrom marker spell names skip text = scanFrom marker spell names' skip text := by
  induction text generalizing skip with
  | nil => cases skip <;> rfl
  | cons c rest ih =>
      cases skip with
      | succ skip => exact ih skip
      | zero =>
          rw [scanFrom, scanFrom, longest_eq_of_perm perm injective]
          split
          · rw [ih]
          · rw [ih]

omit [DecidableEq κ] in
theorem render_scanFrom (skip : Nat) (text : List α) :
    render marker spell (fun _ => none) (scanFrom marker spell names skip text) =
      text.drop skip := by
  induction text generalizing skip with
  | nil => cases skip <;> rfl
  | cons c rest ih =>
      cases skip with
      | succ skip => exact ih skip
      | zero =>
          rw [scanFrom]
          split
          · next name found =>
              split at found
              · next here =>
                  obtain ⟨after, split⟩ := prefix_of_longest found
                  subst here
                  change (reference c spell name) ++ render _ _ _ _ = c :: rest
                  rw [ih, ← split, List.drop_left]
                  rfl
              · cases found
          · change [c] ++ render _ _ _ _ = c :: rest
            rw [ih]
            rfl

omit [DecidableEq κ] in
/-- The segments are the whole text. -/
theorem render_scan (text : List α) :
    render marker spell (fun _ => none) (scan marker spell names text) = text :=
  render_scanFrom 0 text

/-! ## One variable -/

omit [DecidableEq α] in
theorem valuesOf_snoc (vars : List (κ × List α)) (name : κ) (value : List α) :
    valuesOf (vars ++ [(name, value)]) =
      Function.update (valuesOf vars) name (some value) := by
  rw [valuesOf, List.foldl_append]
  rfl

omit [DecidableEq α] in
theorem valuesOf_of_notMem (absent : name ∉ vars.map Prod.fst) : valuesOf vars name = none := by
  induction vars using List.reverseRecOn with
  | nil => rfl
  | append_singleton vars var ih =>
      obtain ⟨own, value⟩ := var
      rw [List.map_append, List.mem_append, not_or] at absent
      have other : name ≠ own := fun same => absent.2 (by simp [same])
      rw [valuesOf_snoc, Function.update_of_ne other]
      exact ih absent.1

omit [DecidableEq α] in
theorem mem_of_valuesOf (found : valuesOf vars name = some value) : (name, value) ∈ vars := by
  induction vars using List.reverseRecOn with
  | nil => cases found
  | append_singleton vars var ih =>
      obtain ⟨own, last⟩ := var
      rw [valuesOf_snoc] at found
      by_cases same : name = own
      · subst same
        rw [Function.update_self] at found
        exact List.mem_append_right vars (List.mem_singleton.mpr (by rw [Option.some.inj found]))
      · rw [Function.update_of_ne same] at found
        exact List.mem_append_left _ (ih found)

omit [DecidableEq α] in
theorem valuesOf_append_cons {before after : List (κ × List α)}
    (absent : name ∉ after.map Prod.fst) :
    valuesOf (before ++ (name, value) :: after) name = some value := by
  induction after using List.reverseRecOn with
  | nil => rw [valuesOf_snoc, Function.update_self]
  | append_singleton after var ih =>
      obtain ⟨own, last⟩ := var
      rw [List.map_append, List.mem_append, not_or] at absent
      have other : name ≠ own := fun same => absent.2 (by simp [same])
      rw [← List.cons_append, ← List.append_assoc, valuesOf_snoc, Function.update_of_ne other]
      exact ih absent.1

omit [DecidableEq α] in
theorem valuesOf_eq_some_iff (distinct : (vars.map Prod.fst).Nodup) :
    valuesOf vars name = some value ↔ (name, value) ∈ vars := by
  refine ⟨mem_of_valuesOf, fun member => ?_⟩
  obtain ⟨before, after, rfl⟩ := List.append_of_mem member
  rw [List.map_append, List.map_cons, List.nodup_append] at distinct
  exact valuesOf_append_cons (List.nodup_cons.mp distinct.2.1).1

omit [DecidableEq α] in
theorem valuesOf_eq_of_perm {vars' : List (κ × List α)} (perm : vars.Perm vars')
    (distinct : (vars.map Prod.fst).Nodup) : valuesOf vars = valuesOf vars' := by
  have distinct' := (perm.map Prod.fst).nodup_iff.mp distinct
  funext name
  apply Option.ext
  intro value
  rw [valuesOf_eq_some_iff distinct, valuesOf_eq_some_iff distinct', perm.mem_iff]

/-- The order of the variables makes no difference to one pass. -/
theorem expand_eq_of_perm {vars' : List (κ × List α)} (perm : vars.Perm vars')
    (distinct : (vars.map Prod.fst).Nodup) (injective : Function.Injective spell)
    (text : List α) : expand marker spell vars text = expand marker spell vars' text := by
  rw [expand, expand, valuesOf_eq_of_perm perm distinct, scan, scan,
    scanFrom_eq_of_perm (perm.map Prod.fst) injective]

omit [DecidableEq α] in
theorem render_update_of_ne {segment : Segment α κ} (other : segment ≠ .named name) :
    segment.render marker spell (Function.update values name (some value)) =
      segment.render marker spell values := by
  cases segment with
  | literal c => rfl
  | named own =>
      have different : own ≠ name := fun same => other (by rw [same])
      rw [Segment.render, Segment.render, Function.update_of_ne different]

omit [DecidableEq α] [DecidableEq κ] in
theorem render_named (absent : values name = none) :
    (Segment.named name : Segment α κ).render marker spell values =
      reference marker spell name := by
  rw [Segment.render, absent, Option.getD_none]

/-- Replacing a variable that is met at its segments only replaces these segments. -/
theorem replace_render (absent : values name = none)
    (genuine : Genuine marker spell values name segments) (value : List α) :
    replace (reference marker spell name) value (render marker spell values segments) =
      render marker spell (Function.update values name (some value)) segments := by
  induction segments with
  | nil => rfl
  | cons segment rest ih =>
      obtain ⟨here, later⟩ := genuine
      change replace _ value (segment.render marker spell values ++ render marker spell values rest)
        = segment.render marker spell _ ++ render marker spell _ rest
      by_cases own : segment = .named name
      · subst own
        have new : Segment.render marker spell (Function.update values name (some value))
            (.named name) = value := by
          rw [Segment.render, Function.update_self, Option.getD_some]
        rw [render_named absent, new, replace_hit (reference_ne_nil marker spell name), ih later]
      · rw [render_update_of_ne own, replace_append (here.resolve_left own), ih later]

/-! ## All variables -/

omit [DecidableEq α] in
theorem Undisturbed.init {var : κ × List α}
    (undisturbed : Undisturbed marker spell (vars ++ [var]) segments) :
    Undisturbed marker spell vars segments := by
  intro before name value after split
  exact undisturbed before name value (after ++ [var]) (by rw [split, List.append_assoc]; rfl)

omit [DecidableEq κ] in
theorem replaceAll_append (vars vars' : List (κ × List α)) (text : List α) :
    replaceAll marker spell (vars ++ vars') text =
      replaceAll marker spell vars' (replaceAll marker spell vars text) :=
  List.foldl_append

/-- Undisturbed variables can be replaced one after the other. -/
theorem replaceAll_render (distinct : (vars.map Prod.fst).Nodup)
    (undisturbed : Undisturbed marker spell vars segments) :
    replaceAll marker spell vars (render marker spell (fun _ => none) segments) =
      render marker spell (valuesOf vars) segments := by
  induction vars using List.reverseRecOn with
  | nil => rfl
  | append_singleton vars var ih =>
      obtain ⟨name, value⟩ := var
      rw [List.map_append, List.nodup_append] at distinct
      obtain ⟨earlier, _, apart⟩ := distinct
      have absent : name ∉ vars.map Prod.fst := fun member =>
        apart name member name List.mem_cons_self rfl
      rw [replaceAll_append, ih earlier undisturbed.init, valuesOf_snoc]
      exact replace_render (valuesOf_of_notMem absent)
        (undisturbed vars name value [] rfl) value

/-- Undisturbed variables are replaced as in one pass. -/
theorem replaceAll_eq_expand {text : List α} (distinct : (vars.map Prod.fst).Nodup)
    (undisturbed : Undisturbed marker spell vars (scan marker spell (vars.map Prod.fst) text)) :
    replaceAll marker spell vars text = expand marker spell vars text := by
  have pass := replaceAll_render distinct undisturbed
  rw [render_scan] at pass
  exact pass

end MqttForwarder.Substitution
