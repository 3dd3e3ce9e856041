import Mathlib.Data.List.Basic

/-!
# Replacing a text

`replace` goes through a text once, from the left, and puts a new text for
every occurrence of a pattern that it meets.  It does not look at what it has
put in, nor into an occurrence.
-/

namespace MqttForwarder.Substitution

variable {α : Type} [DecidableEq α]

def replaceFrom (pattern new : List α) : Nat → List α → List α
  | _, [] => []
  | skip + 1, _ :: rest => replaceFrom pattern new skip rest
  | 0, c :: rest =>
      if pattern.isPrefixOf (c :: rest) then
        new ++ replaceFrom pattern new (pattern.length - 1) rest
      else c :: replaceFrom pattern new 0 rest

/-- The text with `new` for every occurrence of a pattern that is not empty. -/
def replace (pattern new text : List α) : List α := replaceFrom pattern new 0 text

/-- One pass over a text, and its result. -/
inductive Replaced (pattern new : List α) : List α → List α → Prop where
  | nil : Replaced pattern new [] []
  | hit {rest result : List α} (later : Replaced pattern new rest result) :
      Replaced pattern new (pattern ++ rest) (new ++ result)
  | pass {c : α} {rest result : List α} (other : ¬ pattern <+: c :: rest)
      (later : Replaced pattern new rest result) :
      Replaced pattern new (c :: rest) (c :: result)

variable {pattern new : List α}

theorem replaceFrom_skip (skip : Nat) (text : List α) :
    replaceFrom pattern new skip text = replaceFrom pattern new 0 (text.drop skip) := by
  induction skip generalizing text with
  | zero => rfl
  | succ skip ih =>
      cases text with
      | nil => rfl
      | cons c rest => exact ih rest

theorem replace_hit (some : pattern ≠ []) (rest : List α) :
    replace pattern new (pattern ++ rest) = new ++ replace pattern new rest := by
  cases pattern with
  | nil => exact absurd rfl some
  | cons c tail =>
      have here : (c :: tail).isPrefixOf (c :: (tail ++ rest)) = true :=
        List.isPrefixOf_iff_prefix.mpr (List.prefix_append (c :: tail) rest)
      change (if (c :: tail).isPrefixOf (c :: (tail ++ rest)) then _ else _) = _
      rw [if_pos here, replaceFrom_skip, List.length_cons, Nat.add_sub_cancel]
      exact congrArg (new ++ replace (c :: tail) new ·) (List.drop_left)

theorem replace_pass {c : α} {rest : List α} (other : ¬ pattern <+: c :: rest) :
    replace pattern new (c :: rest) = c :: replace pattern new rest := by
  change (if pattern.isPrefixOf (c :: rest) then _ else _) = _
  rw [if_neg fun here => other (List.isPrefixOf_iff_prefix.mp here)]
  rfl

/-- Nothing is replaced where no occurrence begins. -/
theorem replace_append {clear rest : List α}
    (none : ∀ i < clear.length, ¬ pattern <+: clear.drop i ++ rest) :
    replace pattern new (clear ++ rest) = clear ++ replace pattern new rest := by
  induction clear with
  | nil => rfl
  | cons c clear ih =>
      have here : ¬ pattern <+: c :: (clear ++ rest) := none 0 (Nat.succ_pos _)
      rw [List.cons_append, replace_pass here, ih, List.cons_append]
      intro i bound
      exact none (i + 1) (Nat.succ_lt_succ bound)

theorem replaced_replace (some : pattern ≠ []) (new text : List α) :
    Replaced pattern new text (replace pattern new text) := by
  induction length : text.length using Nat.strongRecOn generalizing text with
  | ind n ih =>
      cases text with
      | nil => exact .nil
      | cons c rest =>
          by_cases here : pattern <+: c :: rest
          · obtain ⟨after, split⟩ := here
            rw [← split, replace_hit some]
            refine .hit (ih after.length ?_ after rfl)
            have shorter := congrArg List.length split
            have positive := List.length_pos_of_ne_nil some
            rw [List.length_append] at shorter
            omega
          · rw [replace_pass here]
            refine .pass here (ih rest.length ?_ rest rfl)
            rw [← length]
            exact Nat.lt_succ_self _

/-! ## What a pass keeps -/

omit [DecidableEq α] in
theorem Replaced.length {text result : List α} (replaced : Replaced pattern new text result)
    (same : new.length = pattern.length) : result.length = text.length := by
  induction replaced with
  | nil => rfl
  | hit _ ih => rw [List.length_append, List.length_append, same, ih]
  | pass _ _ ih => rw [List.length_cons, List.length_cons, ih]

end MqttForwarder.Substitution
