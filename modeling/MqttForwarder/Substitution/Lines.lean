import Mathlib.Data.List.Basic

/-!
# The lines of several texts

Texts that are put one after the other as they are share a line where a text
does not end with a newline.  `joinLines` adds the newlines that keep their
lines apart.
-/

namespace MqttForwarder.Substitution

variable {α : Type} [DecidableEq α] (newline : α)

/-- The lines of a text.  What follows the last newline is one if it is not empty. -/
def linesOf : List α → List (List α)
  | [] => []
  | c :: rest =>
      if c = newline then [] :: linesOf rest
      else match linesOf rest with
        | [] => [[c]]
        | line :: more => (c :: line) :: more

def Unended (text : List α) : Prop := text ≠ [] ∧ text.getLast? ≠ some newline

instance (text : List α) : Decidable (Unended newline text) :=
  inferInstanceAs (Decidable (_ ∧ _))

/-- The texts in order, with a newline after an unended line that more text follows. -/
def joinLines : List (List α) → List α
  | [] => []
  | text :: texts =>
      if Unended newline text ∧ joinLines texts ≠ [] then
        text ++ newline :: joinLines texts
      else text ++ joinLines texts

def Separate (texts : List (List α)) : Prop :=
  ∀ before text after, texts = before ++ text :: after →
    Unended newline text → after.flatten = []

variable {newline} {text back : List α} {texts : List (List α)}

theorem linesOf_eq_nil_iff : linesOf newline text = [] ↔ text = [] := by
  cases text with
  | nil => exact ⟨fun _ => rfl, fun _ => rfl⟩
  | cons c rest =>
      refine ⟨fun none => ?_, fun none => nomatch none⟩
      rw [linesOf] at none
      split at none
      · cases none
      · split at none <;> cases none

omit [DecidableEq α] in
theorem unended_cons {c d : α} :
    Unended newline (c :: d :: text) ↔ Unended newline (d :: text) := by
  rw [Unended, Unended, List.getLast?_cons_cons]
  exact and_congr_left fun _ => ⟨fun _ => List.cons_ne_nil _ _, fun _ => List.cons_ne_nil _ _⟩

/-- A newline at the end gives an unended line no other meaning. -/
theorem linesOf_snoc (unended : Unended newline text) :
    linesOf newline (text ++ [newline]) = linesOf newline text := by
  induction text with
  | nil => exact absurd rfl unended.1
  | cons c rest ih =>
      cases rest with
      | nil =>
          have other : c ≠ newline := fun same => unended.2 (by rw [same]; rfl)
          have ending : linesOf newline [newline] = [[]] := by rw [linesOf, if_pos rfl, linesOf]
          rw [List.cons_append, List.nil_append, linesOf, if_neg other, ending, linesOf,
            if_neg other]
          rfl
      | cons d rest =>
          rw [List.cons_append, linesOf, linesOf.eq_def newline (c :: d :: rest)]
          dsimp only
          rw [ih (unended_cons.mp unended)]

/-- A text without an unended line has its lines before those of what follows. -/
theorem linesOf_append (ended : ¬ Unended newline text) (back : List α) :
    linesOf newline (text ++ back) = linesOf newline text ++ linesOf newline back := by
  induction text with
  | nil => rfl
  | cons c rest ih =>
      cases rest with
      | nil =>
          have same : c = newline := by
            by_contra other
            exact ended ⟨List.cons_ne_nil _ _, fun last => other (Option.some.inj last)⟩
          subst same
          rw [List.cons_append, List.nil_append, linesOf, if_pos rfl, linesOf, if_pos rfl]
          rfl
      | cons d rest =>
          have later := ih (mt unended_cons.mpr ended)
          rw [List.cons_append, linesOf, linesOf.eq_def newline (c :: d :: rest)]
          dsimp only
          rw [later]
          split
          · rfl
          · cases lines : linesOf newline (d :: rest) with
            | nil => cases linesOf_eq_nil_iff.mp lines
            | cons line more => rfl

omit [DecidableEq α] in
theorem not_unended_snoc : ¬ Unended newline (text ++ [newline]) := by
  rintro ⟨_, last⟩
  exact last List.getLast?_concat

/-- The lines of the joined text are the lines of the texts, in order. -/
theorem linesOf_joinLines (texts : List (List α)) :
    linesOf newline (joinLines newline texts) = texts.flatMap (linesOf newline) := by
  induction texts with
  | nil => rfl
  | cons text texts ih =>
      rw [joinLines, List.flatMap_cons, ← ih]
      split
      · next added =>
          rw [← List.singleton_append, ← List.append_assoc, linesOf_append not_unended_snoc,
            linesOf_snoc added.1]
      · next closed =>
          by_cases unended : Unended newline text
          · have none : joinLines newline texts = [] := by
              by_contra more
              exact closed ⟨unended, more⟩
            rw [none, List.append_nil, linesOf, List.append_nil]
          · exact linesOf_append unended _

theorem joinLines_eq_nil_iff : joinLines newline texts = [] ↔ texts.flatten = [] := by
  induction texts with
  | nil => exact Iff.rfl
  | cons text texts ih =>
      rw [joinLines, List.flatten_cons]
      split
      · next added =>
          rw [List.append_eq_nil_iff, List.append_eq_nil_iff]
          exact ⟨fun none => absurd none.1 added.1.1, fun none => absurd none.1 added.1.1⟩
      · rw [List.append_eq_nil_iff, List.append_eq_nil_iff, ih]

omit [DecidableEq α] in
theorem separate_cons :
    Separate newline (text :: texts) ↔
      (Unended newline text → texts.flatten = []) ∧ Separate newline texts := by
  constructor
  · intro separate
    refine ⟨separate [] text texts rfl, fun before own after split => ?_⟩
    exact separate (text :: before) own after (by rw [split]; rfl)
  · rintro ⟨here, later⟩ before own after split
    cases before with
    | nil =>
        obtain ⟨rfl, rfl⟩ := List.cons.inj split
        exact here
    | cons first before => exact later before own after (List.cons.inj split).2

theorem length_flatten_le_joinLines (newline : α) (texts : List (List α)) :
    texts.flatten.length ≤ (joinLines newline texts).length := by
  induction texts with
  | nil => exact Nat.le_refl 0
  | cons text texts ih =>
      rw [joinLines, List.flatten_cons, List.length_append]
      split
      · rw [List.length_append, List.length_cons]
        omega
      · rw [List.length_append]
        omega

/-- The texts as they are have their lines apart if they are as long as with newlines added. -/
theorem separate_of_length (same : (joinLines newline texts).length = texts.flatten.length) :
    Separate newline texts := by
  induction texts with
  | nil =>
      intro before text after split
      cases before <;> cases split
  | cons text texts ih =>
      have least := length_flatten_le_joinLines newline texts
      rw [joinLines, List.flatten_cons, List.length_append] at same
      split at same
      · rw [List.length_append, List.length_cons] at same
        omega
      · next closed =>
          rw [List.length_append, Nat.add_left_cancel_iff] at same
          refine separate_cons.mpr ⟨fun unended => ?_, ih same⟩
          apply joinLines_eq_nil_iff.mp
          by_contra more
          exact closed ⟨unended, more⟩

theorem joinLines_of_separate (separate : Separate newline texts) :
    joinLines newline texts = texts.flatten := by
  induction texts with
  | nil => rfl
  | cons text texts ih =>
      obtain ⟨here, later⟩ := separate_cons.mp separate
      rw [joinLines, ih later, if_neg fun added => added.2 (here added.1), List.flatten_cons]

end MqttForwarder.Substitution
