import MqttForwarder.Serde.Json

/-!
# Panics of visitors

A visitor of a container or of a struct panics only where the visitor of one
of its parts does, and every visitor of a scalar is calm.
-/

namespace MqttForwarder.Serde.Json

open MqttForwarder.Rust

variable {α β γ δ : Type}

/-! ## Scalars -/

theorem unsigned_calm (bound : Nat) (value : Json) : (value.unsigned bound).Calm := by
  unfold unsigned
  split
  · split
    · exact Outcome.calm_ok _
    · exact Outcome.calm_err _
  · exact Outcome.calm_err _

theorem signed_calm (bound : Nat) (value : Json) : (value.signed bound).Calm := by
  unfold signed
  split
  · split
    · exact Outcome.calm_ok _
    · exact Outcome.calm_err _
  · split
    · exact Outcome.calm_ok _
    · exact Outcome.calm_err _
  · exact Outcome.calm_err _

theorem map_calm {f : α → β} {x : Outcome α} : (f <$> x).Calm ↔ x.Calm := by
  cases x with
  | ok value => simp
  | err message => exact ⟨fun _ => Outcome.calm_err _, fun _ => Outcome.calm_err _⟩
  | panic cause =>
      exact ⟨fun calm => absurd rfl (calm cause), fun calm => absurd rfl (calm cause)⟩

theorem u8_calm (value : Json) : value.u8.Calm := map_calm.mpr (unsigned_calm _ _)

theorem u32_calm (value : Json) : value.u32.Calm := map_calm.mpr (unsigned_calm _ _)

theorem u64_calm (value : Json) : value.u64.Calm := map_calm.mpr (unsigned_calm _ _)

theorem i16_calm (value : Json) : value.i16.Calm := map_calm.mpr (signed_calm _ _)

theorem i32_calm (value : Json) : value.i32.Calm := map_calm.mpr (signed_calm _ _)

theorem f64_calm (value : Json) : value.f64.Calm := by
  unfold f64
  split <;> simp

theorem f32_calm (value : Json) : value.f32.Calm := by
  unfold f32
  split <;> simp

theorem text_calm (value : Json) : value.text.Calm := by
  unfold text
  split <;> simp

theorem str_calm (value : Json) : value.str.Calm := by
  unfold str
  split <;> simp

theorem ignored_calm (value : Json) (result : α) : (value.ignored result).Calm := by
  unfold ignored
  split <;> simp

/-! ## Loops -/

/-- A loop panics at the first element whose turn panics. -/
theorem foldlM_eq_panic {visit : β → γ → Outcome β} {fields : List γ} {start : β}
    {cause : Panic} :
    fields.foldlM visit start = .panic cause ↔
      ∃ before field after slots, fields = before ++ field :: after ∧
        before.foldlM visit start = .ok slots ∧ visit slots field = .panic cause := by
  induction fields generalizing start with
  | nil => simp
  | cons field rest ih =>
      rw [List.foldlM_cons, Outcome.bind_eq_panic]
      constructor
      · rintro (now | ⟨slots, passed, later⟩)
        · exact ⟨[], field, rest, start, rfl, rfl, now⟩
        · obtain ⟨before, other, after, slots', rfl, reached, panics⟩ := ih.mp later
          refine ⟨field :: before, other, after, slots', rfl, ?_, panics⟩
          rw [List.foldlM_cons, passed]
          exact reached
      · rintro ⟨before, other, after, slots, split, reached, panics⟩
        cases before with
        | nil =>
            obtain ⟨rfl, rfl⟩ := List.cons.inj split
            cases reached
            exact .inl panics
        | cons first before =>
            obtain ⟨rfl, rfl⟩ := List.cons.inj split
            rw [List.foldlM_cons, Outcome.bind_eq_ok] at reached
            obtain ⟨slots', passed, reached⟩ := reached
            exact .inr ⟨slots', passed, ih.mpr ⟨before, other, after, slots, rfl, reached, panics⟩⟩

theorem foldlM_calm {visit : β → γ → Outcome β} {fields : List γ}
    (calm : ∀ slots, ∀ field ∈ fields, (visit slots field).Calm) (start : β) :
    (fields.foldlM visit start).Calm := by
  intro cause panics
  obtain ⟨before, field, after, slots, rfl, _, now⟩ := foldlM_eq_panic.mp panics
  exact calm slots field (by simp) cause now

/-- The visitor of a list comes to the item: those before it have been accepted. -/
def Reaches (visit : Json → Outcome α) (items : List Json) (item : Json) : Prop :=
  ∃ before after values, items = before ++ item :: after ∧ visitAll visit before = .ok values

theorem Reaches.member {visit : Json → Outcome α} {items : List Json} {item : Json}
    (reaches : Reaches visit items item) : item ∈ items := by
  obtain ⟨before, after, _, rfl, _⟩ := reaches
  exact List.mem_append_right _ List.mem_cons_self

/-- Visiting a list panics at the first element whose visitor panics. -/
theorem visitAll_eq_panic {visit : Json → Outcome α} {items : List Json} {cause : Panic} :
    visitAll visit items = .panic cause ↔
      ∃ item, Reaches visit items item ∧ visit item = .panic cause := by
  induction items with
  | nil => simp [visitAll, Reaches]
  | cons item rest ih =>
      rw [visitAll, Outcome.bind_eq_panic]
      constructor
      · rintro (now | ⟨value, passed, later⟩)
        · exact ⟨item, ⟨[], rest, [], rfl, rfl⟩, now⟩
        · rcases Outcome.bind_eq_panic.mp later with later | ⟨_, _, impossible⟩
          · obtain ⟨other, ⟨before, after, values, rfl, reached⟩, panics⟩ := ih.mp later
            refine ⟨other, ⟨item :: before, after, value :: values, rfl, ?_⟩, panics⟩
            rw [visitAll, passed]
            simp [reached]
          · cases impossible
      · rintro ⟨other, ⟨before, after, values, split, reached⟩, panics⟩
        cases before with
        | nil =>
            obtain ⟨rfl, rfl⟩ := List.cons.inj split
            exact .inl panics
        | cons first before =>
            obtain ⟨rfl, rfl⟩ := List.cons.inj split
            rw [visitAll, Outcome.bind_eq_ok] at reached
            obtain ⟨value, passed, reached⟩ := reached
            obtain ⟨values', reached, _⟩ := Outcome.bind_eq_ok.mp reached
            refine .inr ⟨value, passed, Outcome.bind_eq_panic.mpr (.inl ?_)⟩
            exact ih.mpr ⟨other, ⟨before, after, values', rfl, reached⟩, panics⟩

theorem vec_eq_panic {visit : Json → Outcome α} {value : Json} {cause : Panic} :
    value.vec visit = .panic cause ↔
      ∃ items item, value = .array items ∧ Reaches visit items item ∧
        visit item = .panic cause := by
  cases value with
  | array items =>
      rw [vec, visitAll_eq_panic]
      simp
  | _ => simp [vec]

/-! ## Structs -/

theorem once_calm {slot : Option γ} {name : String} {value : Outcome γ} {put : γ → α}
    (calm : value.Calm) : (once slot name value put).Calm := by
  unfold once
  split
  · exact Outcome.calm_err _
  · exact map_calm.mpr calm

theorem once_eq_panic {slot : Option γ} {name : String} {value : Outcome γ} {put : γ → α}
    {cause : Panic} :
    once slot name value put = .panic cause ↔ slot = none ∧ value = .panic cause := by
  cases slot with
  | some _ => simp [once]
  | none => cases value <;> simp [once, Functor.map, Outcome.bind]

theorem option_calm {visit : Json → Outcome α} {value : Json} (calm : (visit value).Calm) :
    (value.option visit).Calm := by
  unfold option
  split
  · exact Outcome.calm_ok _
  · exact map_calm.mpr calm

theorem vec_calm {visit : Json → Outcome α} (calm : ∀ item, (visit item).Calm) (value : Json) :
    (value.vec visit).Calm := by
  intro cause panics
  obtain ⟨_, item, _, _, now⟩ := vec_eq_panic.mp panics
  exact calm item cause now

theorem stringMap_calm (value : Json) : value.stringMap.Calm := by
  unfold stringMap
  split
  · refine foldlM_calm (fun map field _ => ?_) _
    exact Outcome.calm_bind.mpr ⟨text_calm _, fun _ _ => Outcome.calm_ok _⟩
  · exact Outcome.calm_err _

theorem required_calm (slot : Option γ) (name : String) : (required slot name).Calm :=
  Outcome.calm_okOr _ _

theorem optionalField_calm (isArray : Bool) (slot : Option (Option γ)) (name : String) :
    (optionalField isArray slot name).Calm := by
  unfold optionalField
  split
  · exact Outcome.calm_ok _
  · split
    · exact Outcome.calm_err _
    · exact Outcome.calm_ok _

/-- The fields that a struct visitor is given: those of an object, or the elements of an
array under the declared names. -/
def fieldsFor (names : List String) : Json → List (String × Json)
  | object fields => fields
  | array items => names.zip items
  | _ => []

/-- The visitor of a struct comes to a field: those before it have filled these slots. -/
def Comes (names : List String) (visit : β → String → Json → Outcome β) (start : β)
    (root : Json) (slots : β) (key : String) (value : Json) : Prop :=
  ∃ before after, fieldsFor names root = before ++ (key, value) :: after ∧
    before.foldlM (fun slots field => visit slots field.1 field.2) start = .ok slots

theorem Comes.member {names : List String} {visit : β → String → Json → Outcome β} {start slots : β}
    {root value : Json} {key : String} (comes : Comes names visit start root slots key value) :
    (key, value) ∈ fieldsFor names root := by
  obtain ⟨before, after, fields, _⟩ := comes
  rw [fields]
  exact List.mem_append_right _ List.mem_cons_self

/-- A struct visitor whose last part is calm panics exactly where the visitor of a field does. -/
theorem struct_eq_panic {names : List String} {visit : β → String → Json → Outcome β} {start : β}
    {finish : Bool → β → Outcome α} (calm : ∀ isArray slots, (finish isArray slots).Calm)
    {root : Json} {cause : Panic} :
    struct names visit start finish root = .panic cause ↔
      ∃ slots key value, Comes names visit start root slots key value ∧
        visit slots key value = .panic cause := by
  have loop : struct names visit start finish root = .panic cause ↔
      (fieldsFor names root).foldlM (fun slots field => visit slots field.1 field.2) start =
        .panic cause := by
    unfold struct fieldsFor
    split
    · rw [Outcome.bind_eq_panic]
      exact or_iff_left fun ⟨slots, _, panics⟩ => calm _ _ _ panics
    · rw [Outcome.bind_eq_panic]
      refine or_iff_left fun ⟨slots, _, panics⟩ => ?_
      rcases Outcome.bind_eq_panic.mp panics with panics | ⟨_, _, panics⟩
      · exact calm _ _ _ panics
      · split at panics <;> cases panics
    · simp
  rw [loop, foldlM_eq_panic]
  constructor
  · rintro ⟨before, field, after, slots, split, reached, panics⟩
    exact ⟨slots, field.1, field.2, ⟨before, after, split, reached⟩, panics⟩
  · rintro ⟨slots, key, value, ⟨before, after, split, reached⟩, panics⟩
    exact ⟨before, (key, value), after, slots, split, reached, panics⟩

theorem struct_calm {names : List String} {visit : β → String → Json → Outcome β} {start : β}
    {finish : Bool → β → Outcome α} (calm : ∀ slots key value, (visit slots key value).Calm)
    (calmFinish : ∀ isArray slots, (finish isArray slots).Calm) (value : Json) :
    (struct names visit start finish value).Calm := by
  intro cause panics
  obtain ⟨slots, key, field, _, now⟩ := (struct_eq_panic calmFinish).mp panics
  exact calm slots key field cause now

end MqttForwarder.Serde.Json
