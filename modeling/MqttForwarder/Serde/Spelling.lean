import MqttForwarder.Serde.Visitors

/-!
# What a text denotes

Two texts denote the same value if they differ only in the escapes of their
strings and in the order of members with different names.  A reader respects
the value if it makes the same of both texts, as far as the second one is
written in a way that suits the reader.
-/

namespace MqttForwarder.Serde

open MqttForwarder.Rust

/-! ## Values -/

/-- The value of a text.  A number is what the reader represents it by; an object has the values
of each name in their order, since names need not be unique. -/
inductive Value where
  | null
  | bool (value : Bool)
  | number (value : Number)
  | string (text : String)
  | array (items : List Value)
  | object (members : String → List Value)
  | malformed

/-- The items of a list, if it is one. -/
def Value.items : Value → List Value
  | array items => items
  | _ => []

namespace Json

mutual

/-- The value that the tree denotes. -/
def denote : Json → Value
  | null => .null
  | bool value => .bool value
  | number value => .number value
  | string text _ => .string text
  | array items => .array (denoteItems items)
  | object fields => .object (denoteFields fields)
  | malformed => .malformed

def denoteItems : List Json → List Value
  | [] => []
  | item :: rest => item.denote :: denoteItems rest

def denoteFields : List (String × Json) → String → List Value
  | [], _ => []
  | field :: rest, name =>
      if field.1 = name then field.2.denote :: denoteFields rest name
      else denoteFields rest name

end

/-- The values under a name. -/
def valuesAt : List (String × Json) → String → List Json
  | [], _ => []
  | field :: rest, name =>
      if field.1 = name then field.2 :: valuesAt rest name else valuesAt rest name

theorem valuesAt_cons (field : String × Json) (rest : List (String × Json)) (name : String) :
    valuesAt (field :: rest) name =
      if field.1 = name then field.2 :: valuesAt rest name else valuesAt rest name :=
  rfl

theorem denoteItems_eq (items : List Json) : denoteItems items = items.map denote := by
  induction items with
  | nil => rfl
  | cons item rest ih => rw [denoteItems, ih, List.map_cons]

theorem denoteFields_eq (fields : List (String × Json)) (name : String) :
    denoteFields fields name = (valuesAt fields name).map denote := by
  induction fields with
  | nil => rfl
  | cons field rest ih =>
      rw [denoteFields, valuesAt_cons]
      split
      · rw [ih, List.map_cons]
      · exact ih

theorem mem_valuesAt {fields : List (String × Json)} {name : String} {value : Json} :
    value ∈ valuesAt fields name ↔ (name, value) ∈ fields := by
  induction fields with
  | nil => exact iff_of_false List.not_mem_nil List.not_mem_nil
  | cons field rest ih =>
      obtain ⟨own, first⟩ := field
      rw [valuesAt_cons, List.mem_cons, Prod.mk.injEq]
      split
      · next same => rw [List.mem_cons, ih, and_iff_right same.symm]
      · next other => rw [ih, or_iff_right fun both => other both.1.symm]

/-- The objects have the same members. -/
def SameMembers (xs ys : List (String × Json)) : Prop :=
  ∀ name, (valuesAt xs name).map denote = (valuesAt ys name).map denote

/-- How two texts with the same value can differ. -/
inductive Respelled : Json → Json → Prop where
  | refl (value : Json) : Respelled value value
  | string (text : String) (escaped escaped' : Bool) :
      Respelled (string text escaped) (string text escaped')
  | array {xs ys : List Json} (same : xs.map denote = ys.map denote) :
      Respelled (array xs) (array ys)
  | object {xs ys : List (String × Json)} (same : SameMembers xs ys) :
      Respelled (object xs) (object ys)

theorem respelled_of_denote {a b : Json} (same : a.denote = b.denote) : Respelled a b := by
  cases a with
  | null => cases b <;> first | exact .refl _ | cases same
  | bool value => cases b <;> cases same; exact .refl _
  | number value => cases b <;> cases same; exact .refl _
  | string text escaped => cases b <;> cases same; exact .string _ _ _
  | malformed => cases b <;> first | exact .refl _ | cases same
  | array xs =>
      cases b with
      | array ys =>
          have items := Value.array.inj same
          rw [denoteItems_eq, denoteItems_eq] at items
          exact .array items
      | _ => cases same
  | object xs =>
      cases b with
      | object ys =>
          have members := Value.object.inj same
          refine .object fun name => ?_
          rw [← denoteFields_eq, ← denoteFields_eq, members]
      | _ => cases same

/-! ## Parts of readable values -/

theorem wellFormed_of_mem_items {items : List Json} (readable : (array items).wellFormed = true)
    {item : Json} (member : item ∈ items) : item.wellFormed = true := by
  rw [wellFormed] at readable
  induction items with
  | nil => cases member
  | cons first rest ih =>
      rw [wellFormedItems, Bool.and_eq_true] at readable
      rcases List.mem_cons.mp member with rfl | later
      · exact readable.1
      · exact ih readable.2 later

theorem wellFormed_of_mem_fields {fields : List (String × Json)}
    (readable : (object fields).wellFormed = true) {field : String × Json}
    (member : field ∈ fields) : field.2.wellFormed = true := by
  rw [wellFormed] at readable
  induction fields with
  | nil => cases member
  | cons first rest ih =>
      rw [wellFormedFields, Bool.and_eq_true] at readable
      rcases List.mem_cons.mp member with rfl | later
      · exact readable.1
      · exact ih readable.2 later

/-- The fields of a struct are readable. -/
theorem wellFormed_of_mem_fieldsFor {names : List String} {value : Json}
    (readable : value.wellFormed = true) {field : String × Json}
    (member : field ∈ fieldsFor names value) : field.2.wellFormed = true := by
  cases value with
  | object fields => exact wellFormed_of_mem_fields readable member
  | array items => exact wellFormed_of_mem_items readable (List.of_mem_zip member).2
  | _ => cases member

/-! ## Readers -/

section

variable {α β γ δ : Type} {P Q : Json → Prop} {R : α → α → Prop} {read : Json → Outcome α}

/-- What the reader makes of a text, it makes of every other text with the same value for which
`P` holds, up to `R`. -/
def Respects (P : Json → Prop) (R : α → α → Prop) (read : Json → Outcome α) : Prop :=
  ∀ a b x, a.denote = b.denote → b.wellFormed = true → P b → read a = .ok x →
    ∃ y, read b = .ok y ∧ R x y

/-- The reader has no use for the escapes and the order. -/
abbrev Ignores (read : Json → Outcome α) : Prop := Respects (fun _ => True) (· = ·) read

theorem Respects.mono (respects : Respects P R read) (stronger : ∀ value, Q value → P value) :
    Respects Q R read :=
  fun a b x same readable holds => respects a b x same readable (stronger b holds)

theorem ignores_of_respelled (equal : ∀ a b x, Respelled a b → read a = .ok x → read b = .ok x) :
    Ignores read :=
  fun a b x same _ _ accepted => ⟨x, equal a b x (respelled_of_denote same) accepted, rfl⟩

theorem Respects.bind (respects : Respects P (· = ·) read) (next : α → Outcome β) :
    Respects P (· = ·) fun value => read value >>= next := by
  intro a b x same readable holds accepted
  obtain ⟨first, now, later⟩ := Outcome.bind_eq_ok.mp accepted
  obtain ⟨_, again, rfl⟩ := respects a b first same readable holds now
  exact ⟨x, Outcome.bind_eq_ok.mpr ⟨first, again, later⟩, rfl⟩

theorem map_eq_ok {f : α → β} {first : Outcome α} {x : β} :
    f <$> first = .ok x ↔ ∃ value, first = .ok value ∧ f value = x := by
  cases first <;> simp [Functor.map, Outcome.bind]

theorem Respects.map (respects : Respects P (· = ·) read) (f : α → β) :
    Respects P (· = ·) fun value => f <$> read value := by
  intro a b x same readable holds accepted
  obtain ⟨first, now, later⟩ := map_eq_ok.mp accepted
  obtain ⟨_, again, rfl⟩ := respects a b first same readable holds now
  exact ⟨x, map_eq_ok.mpr ⟨first, again, later⟩, rfl⟩

theorem unsigned_ignores (bound : Nat) : Ignores (unsigned bound) :=
  ignores_of_respelled fun a b x respelled accepted => by
    cases respelled with
    | refl => exact accepted
    | _ => cases accepted

theorem signed_ignores (bound : Nat) : Ignores (signed bound) :=
  ignores_of_respelled fun a b x respelled accepted => by
    cases respelled with
    | refl => exact accepted
    | _ => cases accepted

theorem u8_ignores : Ignores u8 := (unsigned_ignores _).map _

theorem u32_ignores : Ignores u32 := (unsigned_ignores _).map _

theorem u64_ignores : Ignores u64 := (unsigned_ignores _).map _

theorem i16_ignores : Ignores i16 := (signed_ignores _).map _

theorem i32_ignores : Ignores i32 := (signed_ignores _).map _

theorem f64_ignores : Ignores f64 :=
  ignores_of_respelled fun a b x respelled accepted => by
    cases respelled with
    | refl => exact accepted
    | _ => cases accepted

theorem f32_ignores : Ignores f32 :=
  ignores_of_respelled fun a b x respelled accepted => by
    cases respelled with
    | refl => exact accepted
    | _ => cases accepted

theorem text_ignores : Ignores text :=
  ignores_of_respelled fun a b x respelled accepted => by
    cases respelled with
    | refl => exact accepted
    | string => exact accepted
    | _ => cases accepted

/-- The text of the string can be borrowed. -/
def Borrowable (value : Json) : Prop := ∀ text, value ≠ string text true

theorem str_respects : Respects Borrowable (· = ·) str := by
  intro a b x same _ borrowable accepted
  cases respelled_of_denote same with
  | refl => exact ⟨x, accepted, rfl⟩
  | string text escaped escaped' =>
      cases escaped with
      | true => cases accepted
      | false =>
          cases escaped' with
          | true => exact absurd rfl (borrowable text)
          | false => exact ⟨x, accepted, rfl⟩
  | _ => cases accepted

theorem Respects.option (respects : Respects P R read) :
    Respects P (Option.Rel R) fun value => value.option read := by
  intro a b x same readable holds accepted
  by_cases null : a = .null
  · subst null
    cases accepted
    cases b <;> cases same
    exact ⟨none, rfl, .none⟩
  · have visited : ∀ {value : Json}, value ≠ .null → value.option read = some <$> read value := by
      intro value other
      cases value <;> first | rfl | exact absurd rfl other
    have null' : b ≠ .null := by
      rintro rfl
      cases a <;> first | exact null rfl | cases same
    obtain ⟨first, now, rfl⟩ := map_eq_ok.mp ((visited null).symm.trans accepted)
    obtain ⟨y, again, related⟩ := respects a b first same readable holds now
    exact ⟨some y, (visited null').trans (map_eq_ok.mpr ⟨y, again, rfl⟩), .some related⟩

@[simp] theorem rel_eq_iff {x y : Option α} : Option.Rel (· = ·) x y ↔ x = y := by
  constructor
  · rintro (same | _)
    · rw [same]
    · rfl
  · rintro rfl
    cases x with
    | none => exact .none
    | some value => exact .some rfl

theorem Respects.optionEq (respects : Respects P (· = ·) read) :
    Respects P (· = ·) fun value => value.option read := by
  intro a b x same readable holds accepted
  obtain ⟨y, again, related⟩ := respects.option a b x same readable holds accepted
  exact ⟨y, again, rel_eq_iff.mp related⟩

theorem visitAll_respects (respects : Respects P R read) {xs ys : List Json}
    (same : xs.map denote = ys.map denote)
    (holds : ∀ item ∈ ys, item.wellFormed = true ∧ P item) {values : List α}
    (accepted : visitAll read xs = .ok values) :
    ∃ values', visitAll read ys = .ok values' ∧ List.Forall₂ R values values' := by
  induction xs generalizing ys values with
  | nil =>
      obtain rfl := List.map_eq_nil_iff.mp same.symm
      cases accepted
      exact ⟨[], rfl, .nil⟩
  | cons x xs ih =>
      cases ys with
      | nil => cases same
      | cons y ys =>
          obtain ⟨head, tail⟩ := List.cons.inj same
          obtain ⟨first, now, accepted⟩ := Outcome.bind_eq_ok.mp accepted
          obtain ⟨others, later, accepted⟩ := Outcome.bind_eq_ok.mp accepted
          cases accepted
          obtain ⟨readable, plain⟩ := holds y List.mem_cons_self
          obtain ⟨first', now', related⟩ := respects x y first head readable plain now
          obtain ⟨others', later', relatedAll⟩ :=
            ih tail (fun item member => holds item (List.mem_cons_of_mem _ member)) later
          exact ⟨first' :: others', by rw [visitAll, now', Outcome.ok_bind, later']; rfl,
            .cons related relatedAll⟩

/-- The items of a list, if it is one. -/
def itemsOf : Json → List Json
  | array items => items
  | _ => []

theorem Respects.vec (respects : Respects P R read) :
    Respects (fun value => ∀ item ∈ value.itemsOf, P item) (List.Forall₂ R)
      fun value => value.vec read := by
  intro a b values same readable holds accepted
  cases a with
  | array xs =>
      cases b with
      | array ys =>
          have items := Value.array.inj same
          rw [denoteItems_eq, denoteItems_eq] at items
          exact visitAll_respects respects items
            (fun item member => ⟨wellFormed_of_mem_items readable member, holds item member⟩)
            accepted
      | _ => cases same
  | _ => cases accepted

theorem Respects.vecEq (ignores : Ignores read) : Ignores fun value => value.vec read := by
  intro a b values same readable _ accepted
  obtain ⟨values', again, related⟩ :=
    ignores.vec a b values same readable (fun _ _ => trivial) accepted
  exact ⟨values', again, List.forall₂_eq_eq_eq ▸ related⟩

end

/-! ## Fields of structs -/

section

variable {α β γ : Type} {P : Json → Prop} {R : γ → γ → Prop} {read : Json → Outcome γ}
  {name : String} {xs ys fields : List (String × Json)} {slot slot' : Option γ}

/-- The fields of the name, of which there is at most one, fill the slot. -/
def Fills (read : Json → Outcome γ) (name : String) :
    List (String × Json) → Option γ → Option γ → Prop
  | [], slot, slot' => slot' = slot
  | field :: rest, slot, slot' =>
      if field.1 = name then
        slot = none ∧ ∃ x, read field.2 = .ok x ∧ Fills read name rest (some x) slot'
      else Fills read name rest slot slot'

@[simp] theorem fills_single {key : String} {value : Json} :
    Fills read name [(key, value)] slot slot' ↔
      if key = name then slot = none ∧ ∃ x, read value = .ok x ∧ slot' = some x
      else slot' = slot := Iff.rfl

theorem fills_cons {field : String × Json} {rest : List (String × Json)} :
    Fills read name (field :: rest) slot slot' ↔
      ∃ middle, Fills read name [field] slot middle ∧ Fills read name rest middle slot' := by
  obtain ⟨key, value⟩ := field
  rw [Fills]
  simp only [fills_single]
  by_cases same : key = name
  · simp only [same, if_true]
    constructor
    · rintro ⟨free, x, now, later⟩
      exact ⟨some x, ⟨free, x, now, rfl⟩, later⟩
    · rintro ⟨_, ⟨free, x, now, rfl⟩, later⟩
      exact ⟨free, x, now, later⟩
  · simp [same]

/-- A slot that is filled is not filled again. -/
theorem fills_some {x : γ} :
    Fills read name fields (some x) slot' ↔ valuesAt fields name = [] ∧ slot' = some x := by
  induction fields with
  | nil => exact (and_iff_right rfl).symm
  | cons field rest ih =>
      rw [Fills, valuesAt_cons]
      split
      · exact iff_of_false (fun both => by cases both.1) fun both => by cases both.1
      · exact ih

/-- An empty slot stays empty, or is filled with the one value. -/
theorem fills_none :
    Fills read name fields none slot' ↔
      (valuesAt fields name = [] ∧ slot' = none) ∨
        ∃ value x, valuesAt fields name = [value] ∧ read value = .ok x ∧ slot' = some x := by
  induction fields with
  | nil => simp [Fills, valuesAt]
  | cons field rest ih =>
      rw [Fills, valuesAt_cons]
      split
      · simp only [fills_some, true_and]
        constructor
        · rintro ⟨x, now, none, rfl⟩
          exact .inr ⟨field.2, x, by rw [none], now, rfl⟩
        · rintro (⟨impossible, _⟩ | ⟨value, x, one, now, rfl⟩)
          · cases impossible
          · obtain ⟨rfl, none⟩ := List.cons.inj one
            exact ⟨x, now, none, rfl⟩
      · exact ih

/-- Objects with the same members fill a slot alike. -/
theorem Fills.transfer (respects : Respects P R read) (same : SameMembers xs ys)
    (holds : ∀ value, (name, value) ∈ ys → value.wellFormed = true ∧ P value)
    (fills : Fills read name xs none slot) :
    ∃ slot', Fills read name ys none slot' ∧ Option.Rel R slot slot' := by
  have members := same name
  rcases fills_none.mp fills with ⟨none, rfl⟩ | ⟨value, x, one, now, rfl⟩
  · rw [none] at members
    exact ⟨.none, fills_none.mpr (.inl ⟨List.map_eq_nil_iff.mp members.symm, rfl⟩), .none⟩
  · rw [one] at members
    obtain ⟨value', others, one', denotes, none⟩ := List.map_eq_cons_iff.mp members.symm
    obtain rfl := List.map_eq_nil_iff.mp none
    obtain ⟨readable, plain⟩ := holds value' (mem_valuesAt.mp (one' ▸ List.mem_cons_self))
    obtain ⟨y, now', related⟩ := respects value value' x denotes.symm readable plain now
    exact ⟨some y, fills_none.mpr (.inr ⟨value', y, one', now', rfl⟩), .some related⟩

/-- The first field leaves the slot for the others. -/
theorem Fills.rest {field : String × Json} {rest : List (String × Json)} {middle : Option γ}
    (fills : Fills read name (field :: rest) slot slot')
    (first : Fills read name [field] slot middle) : Fills read name rest middle slot' := by
  obtain ⟨key, value⟩ := field
  rw [Fills] at fills
  rw [fills_single] at first
  by_cases same : key = name
  · rw [if_pos same] at fills first
    obtain ⟨_, x, now, later⟩ := fills
    obtain ⟨_, y, now', rfl⟩ := first
    obtain rfl := Outcome.ok.inj (now.symm.trans now')
    exact later
  · rw [if_neg same] at fills first
    exact first ▸ fills

theorem Fills.unique {slot'' : Option γ} (fills : Fills read name fields slot slot')
    (again : Fills read name fields slot slot'') : slot' = slot'' := by
  induction fields generalizing slot with
  | nil => exact Eq.trans fills again.symm
  | cons field rest ih =>
      obtain ⟨middle, first, later⟩ := fills_cons.mp fills
      exact ih later (again.rest first)

theorem once_eq_ok {value : Outcome γ} {put : γ → β} {result : β} :
    once slot name value put = .ok result ↔
      slot = none ∧ ∃ x, value = .ok x ∧ put x = result := by
  cases slot with
  | some _ => simp [once]
  | none => cases value <;> simp [once, Functor.map, Outcome.bind]

theorem ignored_eq_ok {value : Json} {x y : β} :
    value.ignored x = .ok y ↔ value.wellFormed = true ∧ x = y := by
  unfold ignored
  split
  · next readable => simp [readable]
  · next unreadable => simp [unreadable]

end

/-! ## Maps -/

/-- The text of a value that is one. -/
def asText : Value → Option String
  | .string text => some text
  | _ => none

/-- The text of the last of the values. -/
def lastText : List Value → Option String
  | [] => none
  | value :: rest => (lastText rest).or (asText value)

theorem text_eq_ok {value : Json} {text : String} :
    value.text = .ok text ↔ asText value.denote = some text := by
  cases value <;> simp [Json.text, asText, denote]

section

variable {fields xs ys : List (String × Json)} {map start : HashMap String String}

/-- The turn of `HashMap<String, String>` for one member. -/
abbrev insertText (map : HashMap String String) (field : String × Json) :
    Outcome (HashMap String String) := do
  let value ← field.2.text
  pure (map.insert field.1 value)

/-- A map has the last text of each name. -/
theorem lookup_insertText (accepted : fields.foldlM insertText start = .ok map) (key : String) :
    map.lookup key =
      (lastText ((valuesAt fields key).map denote)).or (start.lookup key) := by
  induction fields generalizing start with
  | nil =>
      cases accepted
      rfl
  | cons field rest ih =>
      rw [List.foldlM_cons] at accepted
      obtain ⟨middle, now, later⟩ := Outcome.bind_eq_ok.mp accepted
      obtain ⟨text, read, now⟩ := Outcome.bind_eq_ok.mp now
      obtain rfl := Outcome.ok.inj now
      rw [ih later, valuesAt]
      split
      · next same =>
          rw [same, AList.lookup_insert, List.map_cons, lastText, text_eq_ok.mp read]
          cases lastText ((valuesAt rest key).map denote) <;> rfl
      · next other => rw [AList.lookup_insert_ne (Ne.symm other)]

/-- A map is read exactly if all members are texts. -/
theorem insertText_accepted :
    (∃ map, fields.foldlM insertText start = .ok map) ↔
      ∀ name, ∀ value ∈ (valuesAt fields name).map denote, asText value ≠ none := by
  induction fields generalizing start with
  | nil => exact iff_of_true ⟨start, rfl⟩ fun _ _ impossible => by cases impossible
  | cons field rest ih =>
      simp only [List.foldlM_cons, Outcome.bind_eq_ok, Outcome.pure_eq, Outcome.ok.injEq,
        text_eq_ok]
      constructor
      · rintro ⟨map, middle, ⟨text, read, rfl⟩, later⟩ name value member
        rw [valuesAt_cons] at member
        split at member
        · rcases List.mem_cons.mp member with rfl | member
          · rw [read]
            exact Option.some_ne_none text
          · exact ih.mp ⟨map, later⟩ name value member
        · exact ih.mp ⟨map, later⟩ name value member
      · intro texts
        obtain ⟨text, read⟩ := Option.ne_none_iff_exists'.mp (texts field.1 field.2.denote
          (by rw [valuesAt_cons, if_pos rfl]; exact List.mem_cons_self))
        obtain ⟨map, later⟩ := (@ih (start.insert field.1 text)).mpr fun name value member =>
          texts name value (by
            rw [valuesAt_cons]
            split
            · exact List.mem_cons_of_mem _ member
            · exact member)
        exact ⟨map, start.insert field.1 text, ⟨text, read, rfl⟩, later⟩

/-- The maps have the same entries. -/
def SameEntries (map map' : HashMap String String) : Prop :=
  ∀ key, map.lookup key = map'.lookup key

theorem stringMap_respects : Respects (fun _ => True) SameEntries stringMap := by
  intro a b map same _ _ accepted
  cases a with
  | object xs =>
      cases b with
      | object ys =>
          have members : ∀ name, (valuesAt xs name).map denote = (valuesAt ys name).map denote := by
            intro name
            rw [← denoteFields_eq, ← denoteFields_eq, Value.object.inj same]
          have texts := insertText_accepted.mp ⟨map, accepted⟩
          obtain ⟨map', again⟩ : ∃ map', ys.foldlM insertText ∅ = .ok map' :=
            insertText_accepted.mpr fun name value member =>
              texts name value (members name ▸ member)
          refine ⟨map', again, fun key => ?_⟩
          rw [lookup_insertText accepted, lookup_insertText again, members]
      | _ => cases same
  | _ => cases accepted

end

/-! ## Structs -/

section

variable {α β : Type} {names : List String} {visit : β → String → Json → Outcome β} {start : β}
  {finish : Bool → β → Outcome α} {root : Json} {result : α}

/-- The loop of a struct visitor. -/
abbrev visitFields (visit : β → String → Json → Outcome β) (fields : List (String × Json))
    (start : β) : Outcome β :=
  fields.foldlM (fun slots field => visit slots field.1 field.2) start

/-- A struct is read from an object, or from an array that is not too long. -/
theorem struct_eq_ok :
    struct names visit start finish root = .ok result ↔
      ∃ isArray slots, visitFields visit (fieldsFor names root) start = .ok slots ∧
        finish isArray slots = .ok result ∧
        ((∃ fields, root = .object fields) ∧ isArray = false ∨
          (∃ items, root = .array items ∧ items.length ≤ names.length) ∧ isArray = true) := by
  cases root with
  | object fields =>
      rw [struct, Outcome.bind_eq_ok]
      constructor
      · rintro ⟨slots, visited, finished⟩
        exact ⟨false, slots, visited, finished, .inl ⟨⟨fields, rfl⟩, rfl⟩⟩
      · rintro ⟨_, slots, visited, finished, ⟨_, rfl⟩ | ⟨⟨_, impossible, _⟩, _⟩⟩
        · exact ⟨slots, visited, finished⟩
        · cases impossible
  | array items =>
      simp only [struct, Outcome.bind_eq_ok]
      constructor
      · rintro ⟨slots, visited, value, finished, ends⟩
        by_cases long : names.length < items.length
        · rw [if_pos long] at ends
          cases ends
        · rw [if_neg long] at ends
          cases ends
          exact ⟨true, slots, visited, finished, .inr ⟨⟨items, rfl, by omega⟩, rfl⟩⟩
      · rintro ⟨_, slots, visited, finished, ⟨⟨_, impossible⟩, _⟩ | ⟨⟨_, same, short⟩, rfl⟩⟩
        · cases impossible
        · cases same
          exact ⟨slots, visited, result, finished, if_neg (by omega)⟩
  | _ =>
      refine iff_of_false (by simp [struct]) ?_
      rintro ⟨_, _, _, _, ⟨⟨_, impossible⟩, _⟩ | ⟨⟨_, impossible, _⟩, _⟩⟩ <;> cases impossible

theorem sameMembers_zip {xs ys : List Json} (same : xs.map denote = ys.map denote) :
    SameMembers (names.zip xs) (names.zip ys) := by
  intro name
  induction names generalizing xs ys with
  | nil => rfl
  | cons own names ih =>
      cases xs with
      | nil =>
          obtain rfl := List.map_eq_nil_iff.mp same.symm
          rfl
      | cons x xs =>
          cases ys with
          | nil => cases same
          | cons y ys =>
              obtain ⟨head, tail⟩ := List.cons.inj same
              rw [List.zip_cons_cons, List.zip_cons_cons, valuesAt, valuesAt]
              split
              · rw [List.map_cons, List.map_cons, ih tail]
                exact congrArg (· :: _) head
              · exact ih tail

/-- A slot of a struct visitor: the name of its field, its reader, which texts suit the reader,
and which contents are alike. -/
structure Slot (β : Type) where
  Content : Type
  name : String
  get : β → Option Content
  read : Json → Outcome Content
  Suits : Json → Prop
  Alike : Content → Content → Prop
  respects : Respects Suits Alike read

/-- A slot whose reader has no use for the spelling. -/
abbrev Slot.plain {γ : Type} (name : String) (get : β → Option γ) {read : Json → Outcome γ}
    (ignores : Ignores read) : Slot β :=
  ⟨γ, name, get, read, fun _ => True, (· = ·), ignores⟩

/-- The text suits the readers of the name. -/
def SuitsSlots (slots : List (Slot β)) (name : String) (value : Json) : Prop :=
  ∀ slot ∈ slots, slot.name = name → slot.Suits value

/-- The states of the visitor have contents that are alike in all slots. -/
def AlikeSlots (slots : List (Slot β)) (state state' : β) : Prop :=
  ∀ slot ∈ slots, Option.Rel slot.Alike (slot.get state) (slot.get state')

/-- The visitor fills the slots: an accepted field fills its slot and leaves the others, and a
field is accepted if its slot is free and its reader accepts it. -/
structure FillsSlots (visit : β → String → Json → Outcome β) (slots : List (Slot β)) : Prop where
  fills : ∀ {state state' : β} {name : String} {value : Json},
    visit state name value = .ok state' → ∀ slot ∈ slots,
      Fills slot.read slot.name [(name, value)] (slot.get state) (slot.get state')
  accepts : ∀ {state : β} {name : String} {value : Json}, value.wellFormed = true →
    (∀ slot ∈ slots, slot.name = name →
      slot.get state = none ∧ ∃ x, slot.read value = .ok x) →
    ∃ state', visit state name value = .ok state'

section

variable {slots : List (Slot β)} {state state' : β} {fields xs ys : List (String × Json)}

theorem FillsSlots.loop (visitor : FillsSlots visit slots)
    (visited : visitFields visit fields state = .ok state') {slot : Slot β}
    (member : slot ∈ slots) :
    Fills slot.read slot.name fields (slot.get state) (slot.get state') := by
  induction fields generalizing state with
  | nil =>
      cases visited
      rfl
  | cons field rest ih =>
      rw [visitFields, List.foldlM_cons] at visited
      obtain ⟨middle, now, later⟩ := Outcome.bind_eq_ok.mp visited
      exact fills_cons.mpr ⟨_, visitor.fills now slot member, ih later⟩

/-- Fields that can fill all slots are accepted. -/
theorem FillsSlots.accepted (visitor : FillsSlots visit slots)
    (readable : ∀ field ∈ fields, field.2.wellFormed = true)
    (fills : ∀ slot ∈ slots, ∃ content,
      Fills slot.read slot.name fields (slot.get state) content) :
    ∃ state', visitFields visit fields state = .ok state' := by
  induction fields generalizing state with
  | nil => exact ⟨state, rfl⟩
  | cons field rest ih =>
      obtain ⟨middle, now⟩ := visitor.accepts (readable field List.mem_cons_self)
        fun slot member own => by
          obtain ⟨content, all⟩ := fills slot member
          rw [Fills, if_pos own.symm] at all
          obtain ⟨free, x, read, _⟩ := all
          exact ⟨free, x, read⟩
      obtain ⟨state', later⟩ := @ih middle
        (fun field member => readable field (List.mem_cons_of_mem _ member))
        fun slot member => by
          obtain ⟨content, all⟩ := fills slot member
          exact ⟨content, all.rest (visitor.fills now slot member)⟩
      exact ⟨state', by rw [visitFields, List.foldlM_cons, now]; exact later⟩

/-- Objects with the same members fill all slots alike. -/
theorem FillsSlots.transfer (visitor : FillsSlots visit slots)
    (empty : ∀ slot ∈ slots, slot.get start = none) (same : SameMembers xs ys)
    (holds : ∀ name value, (name, value) ∈ ys →
      value.wellFormed = true ∧ SuitsSlots slots name value)
    (visited : visitFields visit xs start = .ok state) :
    ∃ state', visitFields visit ys start = .ok state' ∧ AlikeSlots slots state state' := by
  have each : ∀ slot ∈ slots, ∃ content,
      Fills slot.read slot.name ys none content ∧
        Option.Rel slot.Alike (slot.get state) content := by
    intro slot member
    have fills := visitor.loop visited member
    rw [empty slot member] at fills
    exact fills.transfer slot.respects same fun value field =>
      ⟨(holds _ value field).1, (holds _ value field).2 slot member rfl⟩
  obtain ⟨state', again⟩ : ∃ state', visitFields visit ys start = .ok state' := visitor.accepted
    (fun field member => (holds field.1 field.2 member).1) fun slot member => by
      obtain ⟨content, fills, _⟩ := each slot member
      exact ⟨content, (empty slot member).symm ▸ fills⟩
  refine ⟨state', again, fun slot member => ?_⟩
  obtain ⟨content, fills, related⟩ := each slot member
  have fills' := visitor.loop again member
  rw [empty slot member] at fills'
  exact fills.unique fills' ▸ related

end

/-- A visitor that fills slots respects the value if its last part makes the same of slots that
are alike. -/
theorem struct_respects {slots : List (Slot β)} {R : α → α → Prop}
    (visitor : FillsSlots visit slots) (empty : ∀ slot ∈ slots, slot.get start = none)
    (last : ∀ isArray state state' result, AlikeSlots slots state state' →
      finish isArray state = .ok result →
      ∃ result', finish isArray state' = .ok result' ∧ R result result') :
    Respects (fun value => ∀ name field, (name, field) ∈ fieldsFor names value →
      SuitsSlots slots name field) R (struct names visit start finish) := by
  intro a b result same readable holds accepted
  obtain ⟨isArray, state, visited, finished, shape⟩ := struct_eq_ok.mp accepted
  have alike : SameMembers (fieldsFor names a) (fieldsFor names b) ∧
      ((∃ fields, b = .object fields) ∧ isArray = false ∨
        (∃ items, b = .array items ∧ items.length ≤ names.length) ∧ isArray = true) := by
    rcases shape with ⟨⟨xs, rfl⟩, rfl⟩ | ⟨⟨xs, rfl, short⟩, rfl⟩
    · cases respelled_of_denote same with
      | refl => exact ⟨fun _ => rfl, .inl ⟨⟨_, rfl⟩, rfl⟩⟩
      | object members => exact ⟨members, .inl ⟨⟨_, rfl⟩, rfl⟩⟩
    · cases respelled_of_denote same with
      | refl => exact ⟨fun _ => rfl, .inr ⟨⟨_, rfl, short⟩, rfl⟩⟩
      | @array _ ys items =>
          have length : xs.length = ys.length := by
            rw [← List.length_map, items, List.length_map]
          exact ⟨sameMembers_zip items, .inr ⟨⟨_, rfl, length ▸ short⟩, rfl⟩⟩
  obtain ⟨state', visited', related⟩ := visitor.transfer empty alike.1
    (fun name value member =>
      ⟨wellFormed_of_mem_fieldsFor readable member, holds name value member⟩) visited
  obtain ⟨result', finished', same'⟩ := last isArray state state' result related finished
  exact ⟨result', struct_eq_ok.mpr ⟨isArray, state', visited', finished', alike.2⟩, same'⟩

end

end Json

end MqttForwarder.Serde
