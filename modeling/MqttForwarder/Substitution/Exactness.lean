import Mathlib.Data.List.Forall2
import MqttForwarder.Substitution.Segments

/-!
# When replacing one after the other is exact

A result can be right by coincidence, when a wrong replacement puts the same
characters.  With values that are told apart from the rest of the text, it is
not: if some variable of the list is disturbed, then some values can be blanked
so that `replaceAll` and `expand` differ.
-/

namespace MqttForwarder.Substitution

variable {α κ : Type} [DecidableEq α] [DecidableEq κ]

/-- A value, or blanks in its place. -/
def BlankedValue (blanks : α → Prop) (value value' : List α) : Prop :=
  value' = value ∨ value' ≠ [] ∧ ∀ c ∈ value', blanks c

def Blanked (blanks : α → Prop) (vars vars' : List (κ × List α)) : Prop :=
  List.Forall₂ (fun var var' => var'.1 = var.1 ∧ BlankedValue blanks var.2 var'.2) vars vars'

/-- A character that neither a text nor its variables have. -/
structure Fresh (marker : α) (spell : κ → List α) (vars : List (κ × List α)) (text : List α)
    (blank : α) : Prop where
  marker : blank ≠ marker
  text : blank ∉ text
  names : ∀ var ∈ vars, blank ∉ spell var.1
  values : ∀ var ∈ vars, blank ∉ var.2

variable {marker blank other : α} {blanks : α → Prop} {spell : κ → List α}
  {values values' : Values α κ} {name : κ} {value text : List α} {segments : List (Segment α κ)}
  {vars vars' : List (κ × List α)}

/-! ## Blanking -/

omit [DecidableEq α] [DecidableEq κ] in
theorem blankedValue_replicate (new : blanks blank) (value : List α) (more : Nat) :
    BlankedValue blanks value (List.replicate (more + 1) blank) :=
  .inr ⟨List.cons_ne_nil _ _, fun _ member => List.eq_of_mem_replicate member ▸ new⟩

omit [DecidableEq α] [DecidableEq κ] in
theorem Blanked.refl (blanks : α → Prop) (vars : List (κ × List α)) : Blanked blanks vars vars :=
  List.forall₂_same.mpr fun _ _ => ⟨rfl, .inl rfl⟩

omit [DecidableEq α] [DecidableEq κ] in
theorem Blanked.names (blanked : Blanked blanks vars vars') :
    vars'.map Prod.fst = vars.map Prod.fst := by
  induction blanked with
  | nil => rfl
  | cons one _ ih => rw [List.map_cons, List.map_cons, one.1, ih]

def BlankedValues (blanks : α → Prop) (values values' : Values α κ) : Prop :=
  ∀ name, values' name = values name ∨
    ∃ value', values' name = some value' ∧ value' ≠ [] ∧ ∀ c ∈ value', blanks c

omit [DecidableEq α] in
theorem BlankedValues.update (related : BlankedValues blanks values values') (own : κ)
    {value value' : List α} (one : BlankedValue blanks value value') :
    BlankedValues blanks (Function.update values own (some value))
      (Function.update values' own (some value')) := by
  intro name
  by_cases same : name = own
  · subst same
    rw [Function.update_self, Function.update_self]
    obtain kept | new := one
    · exact .inl (by rw [kept])
    · exact .inr ⟨value', rfl, new⟩
  · rw [Function.update_of_ne same, Function.update_of_ne same]
    exact related name

omit [DecidableEq α] in
theorem Blanked.valuesOf (blanked : Blanked blanks vars vars') :
    BlankedValues blanks (valuesOf vars) (valuesOf vars') := by
  have from_any : ∀ values values' : Values α κ, BlankedValues blanks values values' →
      BlankedValues blanks
        (vars.foldl (fun values var => Function.update values var.1 (some var.2)) values)
        (vars'.foldl (fun values var => Function.update values var.1 (some var.2)) values') := by
    induction blanked with
    | nil => exact fun _ _ related => related
    | @cons var var' _ _ one _ ih =>
        intro values values' related
        rw [List.foldl_cons, List.foldl_cons, one.1]
        exact ih _ _ (related.update var.1 one.2)
  exact from_any _ _ fun _ => .inl rfl

omit [DecidableEq α] [DecidableEq κ] in
/-- A segment is as before, or blank. -/
theorem BlankedValues.segment (related : BlankedValues blanks values values') (marker : α)
    (spell : κ → List α) (segment : Segment α κ) :
    segment.render marker spell values' = segment.render marker spell values ∨
      segment.render marker spell values' ≠ [] ∧
        ∀ c ∈ segment.render marker spell values', blanks c := by
  cases segment with
  | literal c => exact .inl rfl
  | named name =>
      obtain same | ⟨value', found, new⟩ := related name
      · exact .inl (by rw [Segment.render, Segment.render, same])
      · exact .inr (by rw [Segment.render, found, Option.getD_some]; exact new)

omit [DecidableEq α] [DecidableEq κ] in
/-- What begins a text without blanks begins it before blanking as well. -/
theorem BlankedValues.prefix_of_prefix (related : BlankedValues blanks values values')
    {pattern front : List α} (clear : ∀ c ∈ pattern, ¬ blanks c)
    (begins : pattern <+: front ++ render marker spell values' segments) :
    pattern <+: front ++ render marker spell values segments := by
  induction segments generalizing front with
  | nil => exact begins
  | cons segment rest ih =>
      change pattern <+: front ++ (segment.render marker spell values' ++
        render marker spell values' rest) at begins
      change pattern <+: front ++ (segment.render marker spell values ++
        render marker spell values rest)
      obtain same | ⟨some, new⟩ := related.segment marker spell segment
      · rw [same, ← List.append_assoc] at begins
        rw [← List.append_assoc]
        exact ih begins
      · -- the pattern ends before the first blank
        have inside : pattern <+: front := by
          obtain ⟨first, more, blank⟩ := List.exists_cons_of_ne_nil some
          rw [blank, List.cons_append] at begins
          apply List.prefix_of_prefix_length_le begins (List.prefix_append _ _)
          by_contra longer
          rw [Nat.not_le] at longer
          have here := begins.getElem longer
          rw [List.getElem_append_right (Nat.le_refl _)] at here
          simp only [Nat.sub_self, List.getElem_cons_zero] at here
          refine clear first (here ▸ List.getElem_mem longer) (new first ?_)
          rw [blank]
          exact List.mem_cons_self
        exact inside.trans (List.prefix_append _ _)

omit [DecidableEq α] [DecidableEq κ] in
theorem Genuine.blanked (related : BlankedValues blanks values values')
    (clear : ∀ c ∈ reference marker spell name, ¬ blanks c)
    (genuine : Genuine marker spell values name segments) :
    Genuine marker spell values' name segments := by
  induction segments with
  | nil => trivial
  | cons segment rest ih =>
      refine ⟨genuine.1.imp_right fun none i bound begins => ?_, ih genuine.2⟩
      obtain same | ⟨_, new⟩ := related.segment marker spell segment
      · rw [same] at bound begins
        exact none i bound (related.prefix_of_prefix clear begins)
      · rw [List.drop_eq_getElem_cons bound, reference, List.cons_append,
          List.cons_prefix_cons] at begins
        refine clear marker List.mem_cons_self ?_
        rw [begins.1]
        exact new _ (List.getElem_mem bound)

omit [DecidableEq α] in
/-- Blanking does not disturb. -/
theorem Undisturbed.blanked (blanked : Blanked blanks vars vars')
    (clear : ∀ var ∈ vars, ∀ c ∈ reference marker spell var.1, ¬ blanks c)
    (undisturbed : Undisturbed marker spell vars segments) :
    Undisturbed marker spell vars' segments := by
  rintro before' name value' after' rfl
  have earlier := List.forall₂_take_append _ _ _ blanked
  have later := List.forall₂_drop_append _ _ _ blanked
  have split := List.take_append_drop before'.length vars
  generalize vars.take before'.length = before at earlier split
  generalize vars.drop before'.length = rest at later split
  subst split
  cases later with
  | @cons var _ after _ one _ =>
      obtain ⟨own, value⟩ := var
      obtain rfl : name = own := one.1
      have genuine := undisturbed before name value after rfl
      refine genuine.blanked (Blanked.valuesOf earlier) ?_
      exact clear (name, value) (List.mem_append_right before List.mem_cons_self)

/-! ## The places of a character -/

/-- The texts have the character at the same places. -/
def SamePlaces (blank : α) : List α → List α → Prop :=
  List.Forall₂ fun x y => x = blank ↔ y = blank

section

variable {a b c : List α}

omit [DecidableEq α] in
theorem SamePlaces.refl (blank : α) (text : List α) : SamePlaces blank text text :=
  List.forall₂_same.mpr fun _ _ => Iff.rfl

omit [DecidableEq α] in
theorem SamePlaces.symm (same : SamePlaces blank a b) : SamePlaces blank b a :=
  List.Forall₂.flip (same.imp fun _ _ => Iff.symm)

omit [DecidableEq α] in
theorem SamePlaces.trans (first : SamePlaces blank a b) (second : SamePlaces blank b c) :
    SamePlaces blank a c := by
  induction first generalizing c with
  | nil => exact second
  | cons here _ ih =>
      cases second with
      | cons there later => exact .cons (here.trans there) (ih later)

omit [DecidableEq α] in
theorem samePlaces_of_clear (length : a.length = b.length) (clear : blank ∉ a)
    (clear' : blank ∉ b) : SamePlaces blank a b := by
  induction a generalizing b with
  | nil =>
      rw [List.eq_nil_of_length_eq_zero length.symm]
      exact .nil
  | cons x a ih =>
      cases b with
      | nil => cases length
      | cons y b =>
          rw [List.mem_cons, not_or] at clear clear'
          exact .cons (iff_of_false (Ne.symm clear.1) (Ne.symm clear'.1))
            (ih (Nat.succ.inj length) clear.2 clear'.2)

omit [DecidableEq α] in
theorem Replaced.samePlaces {pattern new text result : List α}
    (replaced : Replaced pattern new text result) (length : pattern.length = new.length)
    (clear : blank ∉ pattern) (clear' : blank ∉ new) : SamePlaces blank text result := by
  induction replaced with
  | nil => exact .nil
  | hit _ ih => exact List.rel_append (samePlaces_of_clear length clear clear') ih
  | pass _ _ ih => exact .cons Iff.rfl ih

end

omit [DecidableEq κ] in
theorem replaceAll_samePlaces
    (length : ∀ var ∈ vars, (reference marker spell var.1).length = var.2.length)
    (names : ∀ var ∈ vars, blank ∉ reference marker spell var.1)
    (clear : ∀ var ∈ vars, blank ∉ var.2) (text : List α) :
    SamePlaces blank text (replaceAll marker spell vars text) := by
  refine List.foldlRecOn (motive := fun current : List α => SamePlaces blank text current)
    vars _ (.refl blank text) ?_
  intro current same var member
  have turn := replaced_replace (reference_ne_nil marker spell var.1) var.2 current
  exact same.trans (turn.samePlaces (length var member) (names var member) (clear var member))

omit [DecidableEq α] [DecidableEq κ] in
/-- Values in the place of variables that have none move no other character. -/
theorem render_samePlaces (absent : blank ∉ render marker spell (fun _ => none) segments)
    (filled : ∀ name, values' name = values name ∨ values name = none ∧ ∃ value,
      values' name = some value ∧ blank ∉ value ∧
        (reference marker spell name).length = value.length) :
    SamePlaces blank (render marker spell values segments)
      (render marker spell values' segments) := by
  induction segments with
  | nil => exact .nil
  | cons segment rest ih =>
      change blank ∉ segment.render marker spell (fun _ => none) ++ render _ _ _ rest at absent
      rw [List.mem_append, not_or] at absent
      refine List.rel_append ?_ (ih absent.2)
      cases segment with
      | literal c => exact SamePlaces.refl blank [c]
      | named name =>
          obtain same | ⟨none, value, found, clear, length⟩ := filled name
          · rw [Segment.render, Segment.render, same]
            exact SamePlaces.refl blank _
          · rw [render_named none, Segment.render, found, Option.getD_some]
            exact samePlaces_of_clear length absent.1 clear

/-- Up to the end of a text without blanks, nothing is replaced by a blank where it stays. -/
theorem clear_of_samePlaces {pattern front back result : List α} (some : pattern ≠ [])
    (clear : blank ∉ front)
    (same : SamePlaces blank (replace pattern [blank] (front ++ back)) (front ++ result)) :
    (∀ i < front.length, ¬ pattern <+: front.drop i ++ back) ∧
      SamePlaces blank (replace pattern [blank] back) result := by
  induction front with
  | nil => exact ⟨fun _ bound => absurd bound (Nat.not_lt_zero _), same⟩
  | cons c front ih =>
      rw [List.mem_cons, not_or] at clear
      have here : ¬ pattern <+: c :: (front ++ back) := by
        rintro ⟨after, split⟩
        rw [List.cons_append, ← split, replace_hit some, List.singleton_append,
          List.cons_append] at same
        cases same with
        | cons first _ => exact clear.1 (first.mp rfl).symm
      rw [List.cons_append, replace_pass here, List.cons_append] at same
      cases same with
      | cons _ later =>
          obtain ⟨none, back⟩ := ih clear.2 later
          refine ⟨fun i bound => ?_, back⟩
          cases i with
          | zero => exact here
          | succ i => exact none i (Nat.lt_of_succ_lt_succ bound)

/-- If a pass puts its blanks where the segments of the variable are, it is met only there. -/
theorem genuine_of_samePlaces (absent : values name = none)
    (clear : blank ∉ render marker spell values segments)
    (same : SamePlaces blank
      (replace (reference marker spell name) [blank] (render marker spell values segments))
      (render marker spell (Function.update values name (some [blank])) segments)) :
    Genuine marker spell values name segments := by
  induction segments with
  | nil => trivial
  | cons segment rest ih =>
      change blank ∉ segment.render marker spell values ++ render _ _ _ rest at clear
      rw [List.mem_append, not_or] at clear
      change SamePlaces blank
        (replace _ _ (segment.render marker spell values ++ render marker spell values rest))
        (segment.render marker spell _ ++ render marker spell _ rest) at same
      by_cases own : segment = .named name
      · subst own
        have new : (Segment.named name : Segment α κ).render marker spell
            (Function.update values name (some [blank])) = [blank] := by
          rw [Segment.render, Function.update_self, Option.getD_some]
        rw [render_named absent, new, replace_hit (reference_ne_nil marker spell name)] at same
        cases same with
        | cons _ later => exact ⟨.inl rfl, ih clear.2 later⟩
      · rw [render_update_of_ne own] at same
        obtain ⟨none, later⟩ :=
          clear_of_samePlaces (reference_ne_nil marker spell name) clear.1 same
        exact ⟨.inr none, ih clear.2 later⟩

/-! ## Values as long as their variables -/

def blankAll (spell : κ → List α) (blank : α) (vars : List (κ × List α)) : List (κ × List α) :=
  vars.map fun var => (var.1, List.replicate ((spell var.1).length + 1) blank)

omit [DecidableEq α] [DecidableEq κ] in
theorem blanked_blankAll (new : blanks blank) (spell : κ → List α) (vars : List (κ × List α)) :
    Blanked blanks vars (blankAll spell blank vars) := by
  induction vars with
  | nil => exact .nil
  | cons var vars ih => exact .cons ⟨rfl, blankedValue_replicate new _ _⟩ ih

omit [DecidableEq α] [DecidableEq κ] in
theorem length_blankAll (marker : α) {var : κ × List α} (member : var ∈ blankAll spell blank vars) :
    (reference marker spell var.1).length = var.2.length := by
  obtain ⟨own, _, rfl⟩ := List.mem_map.mp member
  rw [List.length_replicate]
  rfl

omit [DecidableEq α] [DecidableEq κ] in
theorem notMem_blankAll (different : blank ≠ other) {var : κ × List α}
    (member : var ∈ blankAll spell other vars) : blank ∉ var.2 := by
  obtain ⟨own, _, rfl⟩ := List.mem_map.mp member
  exact fun impossible => different (List.eq_of_mem_replicate impossible)

omit [DecidableEq α] in
/-- The variables of the end that are blanked had no value before. -/
theorem valuesOf_append_blankAll (distinct : ∀ var ∈ vars', valuesOf vars var.1 = none)
    (marker : α) (different : blank ≠ other) (name : κ) :
    valuesOf (vars ++ blankAll spell other vars') name = valuesOf vars name ∨
      valuesOf vars name = none ∧ ∃ value,
        valuesOf (vars ++ blankAll spell other vars') name = some value ∧ blank ∉ value ∧
          (reference marker spell name).length = value.length := by
  induction vars' using List.reverseRecOn with
  | nil =>
      left
      rw [blankAll, List.map_nil, List.append_nil]
  | append_singleton earlier var ih =>
      rw [blankAll, List.map_append, List.map_singleton, ← blankAll, ← List.append_assoc,
        valuesOf_snoc]
      by_cases same : name = var.1
      · subst same
        rw [Function.update_self]
        refine .inr ⟨distinct var (List.mem_append_right _ List.mem_cons_self), _, rfl, ?_, ?_⟩
        · exact fun impossible => different (List.eq_of_mem_replicate impossible)
        · rw [List.length_replicate]
          rfl
      · rw [Function.update_of_ne same]
        exact ih fun var member => distinct var (List.mem_append_left _ member)

omit [DecidableEq κ] in
theorem length_replaceAll
    (same : ∀ var ∈ vars, (reference marker spell var.1).length = var.2.length)
    (text : List α) : (replaceAll marker spell vars text).length = text.length := by
  refine List.foldlRecOn (motive := fun current : List α => current.length = text.length)
    vars _ rfl ?_
  intro current kept var member
  have turn := replaced_replace (reference_ne_nil marker spell var.1) var.2 current
  exact (turn.length (same var member).symm).trans kept

theorem length_expand (same : ∀ var ∈ vars, (reference marker spell var.1).length = var.2.length)
    (text : List α) : (expand marker spell vars text).length = text.length := by
  have each : ∀ segment : Segment α κ, (segment.render marker spell (valuesOf vars)).length =
      (segment.render marker spell fun _ => none).length := by
    intro segment
    cases segment with
    | literal c => rfl
    | named name =>
        cases found : valuesOf vars name with
        | none => rw [Segment.render, found, Segment.render]
        | some value =>
            rw [Segment.render, found, Option.getD_some]
            exact (same (name, value) (mem_of_valuesOf found)).symm
  have whole : (render marker spell (fun _ => none)
      (scan marker spell (vars.map Prod.fst) text)).length = text.length :=
    congrArg List.length (render_scan text)
  rw [expand, render, List.length_flatMap, List.map_congr_left fun segment _ => each segment,
    ← List.length_flatMap]
  exact whole

/-! ## The first disturbed variable -/

omit [DecidableEq α] in
theorem exists_disturbed (disturbed : ¬ Undisturbed marker spell vars segments) :
    ∃ before name value after, vars = before ++ (name, value) :: after ∧
      Undisturbed marker spell before segments ∧
      ¬ Genuine marker spell (valuesOf before) name segments := by
  induction vars using List.reverseRecOn with
  | nil =>
      exfalso
      apply disturbed
      intro before name value after split
      cases before <;> cases split
  | append_singleton vars var ih =>
      by_cases earlier : Undisturbed marker spell vars segments
      · obtain ⟨own, value⟩ := var
        refine ⟨vars, own, value, [], rfl, earlier, fun genuine => disturbed ?_⟩
        intro before name value' after split
        obtain rfl | ⟨init, last, rfl⟩ := List.eq_nil_or_concat after
        · obtain ⟨rfl, same⟩ := List.append_inj' split rfl
          obtain ⟨rfl, rfl⟩ := Prod.mk.inj (List.cons.inj same).1
          exact genuine
        · rw [List.concat_eq_append, ← List.cons_append, ← List.append_assoc] at split
          exact earlier before name value' init (List.append_inj' split rfl).1
      · obtain ⟨before, name, value, after, split, least, fails⟩ := ih earlier
        exact ⟨before, name, value, after ++ [var], by rw [split, List.append_assoc]; rfl,
          least, fails⟩

omit [DecidableEq α] [DecidableEq κ] in
theorem Fresh.reference (fresh : Fresh marker spell vars text blank) {var : κ × List α}
    (member : var ∈ vars) : blank ∉ reference marker spell var.1 := by
  rw [Substitution.reference, List.mem_cons, not_or]
  exact ⟨fresh.marker, fresh.names var member⟩

omit [DecidableEq α] [DecidableEq κ] in
theorem notMem_render (absent : blank ∉ render marker spell (fun _ => none) segments)
    (clear : ∀ name value, values name = some value → blank ∉ value) :
    blank ∉ render marker spell values segments := by
  induction segments with
  | nil => exact List.not_mem_nil
  | cons segment rest ih =>
      change blank ∉ segment.render marker spell (fun _ => none) ++ render _ _ _ rest at absent
      change blank ∉ segment.render marker spell values ++ render marker spell values rest
      rw [List.mem_append, not_or] at absent ⊢
      refine ⟨?_, ih absent.2⟩
      cases segment with
      | literal c => exact absent.1
      | named name =>
          cases found : values name with
          | none =>
              rw [render_named found]
              exact absent.1
          | some value =>
              rw [Segment.render, found, Option.getD_some]
              exact clear name value found

/-- If all ways of blanking come out right, no variable is disturbed. -/
theorem undisturbed_of_exact (distinct : (vars.map Prod.fst).Nodup) (different : blank ≠ other)
    (fresh : Fresh marker spell vars text blank) (fresh' : Fresh marker spell vars text other)
    (right : ∀ vars', Blanked (Fresh marker spell vars text) vars vars' →
      replaceAll marker spell vars' text = expand marker spell vars' text) :
    Undisturbed marker spell vars (scan marker spell (vars.map Prod.fst) text) := by
  by_contra disturbed
  obtain ⟨before, name, value, after, split, earlier, fails⟩ := exists_disturbed disturbed
  apply fails
  -- the variable has a blank of its own, and the later ones are as long as they are written
  have blanked : Blanked (Fresh marker spell vars text) vars
      (before ++ [(name, [blank])] ++ blankAll spell other after) := by
    rw [split, List.append_assoc]
    rw [split] at fresh fresh'
    exact List.rel_append (Blanked.refl _ before)
      (.cons ⟨rfl, blankedValue_replicate fresh _ 0⟩ (blanked_blankAll fresh' spell after))
  have result := right _ blanked
  rw [expand, blanked.names] at result
  have whole : render marker spell (fun _ => none)
      (scan marker spell (vars.map Prod.fst) text) = text := render_scan text
  generalize scan marker spell (vars.map Prod.fst) text = segments at earlier whole result ⊢
  subst split whole
  rw [List.map_append, List.map_cons, List.nodup_append] at distinct
  obtain ⟨firsts, others, apart⟩ := distinct
  have absent : valuesOf before name = none :=
    valuesOf_of_notMem fun member => apart name member name List.mem_cons_self rfl
  have clear : blank ∉ render marker spell (valuesOf before) segments :=
    notMem_render fresh.text fun own value found =>
      fresh.values (own, value) (List.mem_append_left _ (mem_of_valuesOf found))
  apply genuine_of_samePlaces absent clear
  have pass : SamePlaces blank
      (replace (reference marker spell name) [blank]
        (render marker spell (valuesOf before) segments))
      (replaceAll marker spell (blankAll spell other after) (replace (reference marker spell name)
        [blank] (render marker spell (valuesOf before) segments))) := by
    refine replaceAll_samePlaces (fun var => length_blankAll marker) ?_
      (fun var => notMem_blankAll different) _
    intro var member
    obtain ⟨own, later, rfl⟩ := List.mem_map.mp member
    have clear := fresh.reference (List.mem_append_right before (List.mem_cons_of_mem _ later))
    exact clear
  have filled : SamePlaces blank
      (render marker spell (valuesOf (before ++ [(name, [blank])])) segments)
      (render marker spell
        (valuesOf (before ++ [(name, [blank])] ++ blankAll spell other after)) segments) := by
    refine render_samePlaces fresh.text (valuesOf_append_blankAll ?_ marker different)
    intro var member
    apply valuesOf_of_notMem
    rw [List.map_append, List.map_singleton, List.mem_append, List.mem_singleton]
    rintro (early | same)
    · exact apart _ early _ (List.mem_cons_of_mem _ (List.mem_map_of_mem member)) rfl
    · exact (List.nodup_cons.mp others).1 (same ▸ List.mem_map_of_mem member)
  rw [replaceAll_append, replaceAll_append, replaceAll_render firsts earlier] at result
  rw [valuesOf_snoc] at filled
  exact pass.trans (result ▸ filled.symm)

/-- Variables are replaced as in one pass, however blanked, exactly if none is disturbed. -/
theorem replaceAll_eq_expand_iff (distinct : (vars.map Prod.fst).Nodup) (different : blank ≠ other)
    (fresh : Fresh marker spell vars text blank) (fresh' : Fresh marker spell vars text other) :
    (∀ vars', Blanked (Fresh marker spell vars text) vars vars' →
      replaceAll marker spell vars' text = expand marker spell vars' text) ↔
      Undisturbed marker spell vars (scan marker spell (vars.map Prod.fst) text) := by
  constructor
  · exact undisturbed_of_exact distinct different fresh fresh'
  · intro undisturbed vars' blanked
    apply replaceAll_eq_expand
    · rw [blanked.names]
      exact distinct
    · rw [blanked.names]
      exact undisturbed.blanked blanked fun var member c own new => new.reference member own

end MqttForwarder.Substitution
