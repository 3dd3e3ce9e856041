import MqttForwarder.SemtechUdp.Fields

/-!
# Data rates

What the value of a `datr` field denotes, in unbounded numbers, and when the
visitor gives exactly that.  It does not where a number is not an unsigned
integer of 32 bits, and where a bandwidth in kHz fits 32 bits but the one in Hz
does not.
-/

namespace MqttForwarder.SemtechUdp

open MqttForwarder.Rust MqttForwarder.Serde

/-! ## What a value denotes -/

/-- A data rate whose numbers are not bounded. -/
inductive Rate where
  | lora (sf bw : Nat)
  | fsk (bitrate : Nat)
  | lrFhss (ocw : Nat)

def DataRate.rate : DataRate → Rate
  | lora sf bw => .lora sf.toNat bw.toNat
  | fsk bitrate => .fsk bitrate.toNat
  | lrFhss ocw => .lrFhss ocw.toNat

/-- The data rate that a text denotes. -/
inductive DenotesText (text : List Char) : Rate → Prop where
  | lora {sf khz : List Char} {m n : Nat}
      (form : text = "SF".toList ++ sf ++ "BW".toList ++ khz)
      (spreading : numeral? sf = some m) (bandwidth : numeral? khz = some n) :
      DenotesText text (.lora m (n * 1000))
  | lrFhss {khz : List Char} {n : Nat} (form : text = "M0CW".toList ++ khz)
      (width : numeral? khz = some n) : DenotesText text (.lrFhss (n * 1000))

/-- The data rate that a JSON value denotes. -/
inductive Denotes : Json → Rate → Prop where
  | text {text : String} {escaped : Bool} {rate : Rate}
      (denotes : DenotesText text.toList rate) : Denotes (.string text escaped) rate
  | fsk (value : UInt64) : Denotes (.number (.posInt value)) (.fsk value.toNat)

/-- The visitor does not panic, and gives a data rate exactly if the value denotes it. -/
structure Exact (profile : Profile) (value : Json) : Prop where
  calm : (DataRate.deserialize profile value).Calm
  ok_iff : ∀ rate, DataRate.deserialize profile value = .ok rate ↔ Denotes value rate.rate

/-! ## When the visitor is exact -/

/-- A LoRa data rate whose numbers each fit 32 bits. -/
structure LoraForm (text sf khz : List Char) (m n : UInt32) : Prop where
  form : text = "SF".toList ++ sf ++ "BW".toList ++ khz
  spreading : parseU32 sf = some m
  bandwidth : parseU32 khz = some n

/-- An LR-FHSS data rate whose number fits 32 bits. -/
structure LrFhssForm (text khz : List Char) (n : UInt32) : Prop where
  form : text = "M0CW".toList ++ khz
  width : parseU32 khz = some n

/-- A width in kHz that fits 32 bits does so in Hz. -/
structure FitsText (text : List Char) : Prop where
  lora : ∀ sf khz m n, LoraForm text sf khz m n → n.toNat * 1000 < 2 ^ 32
  lrFhss : ∀ khz n, LrFhssForm text khz n → n.toNat * 1000 < 2 ^ 32

/-- A number is an unsigned integer of 32 bits, and the widths of a text fit. -/
def Fits : Json → Prop
  | .number number => ∃ value, number = .posInt value ∧ value.toNat < 2 ^ 32
  | .string text _ => FitsText text.toList
  | _ => True

/-- A number is an unsigned integer, and in a debug build the widths of a text fit. -/
def Harmless (profile : Profile) : Json → Prop
  | .number number => ∃ value, number = .posInt value
  | .string text _ => profile = .debug → FitsText text.toList
  | _ => True

/-! ## Texts -/

/-- Numerals on both sides of the separator determine where a text is split. -/
theorem split2_of_numerals {text sf khz : List Char} {m n : Nat}
    (form : text = "SF".toList ++ sf ++ "BW".toList ++ khz) (spreading : numeral? sf = some m)
    (bandwidth : numeral? khz = some n) :
    split2 'B' 'W' text = ["SF".toList ++ sf, khz] := by
  have left : 'B' ∉ sf := not_mem_of_numeral spreading (by decide) (by decide)
  have right : 'B' ∉ khz := not_mem_of_numeral bandwidth (by decide) (by decide)
  have clear : 'B' ∉ "SF".toList ++ sf := by
    rw [List.mem_append]
    rintro (letter | letter)
    · revert letter
      decide
    · exact left letter
  rw [form, List.append_assoc]
  exact split2_append clear right

theorem DataRate.deserialize_lora {profile : Profile} {text : String} {escaped : Bool}
    {sf khz : List Char} {m n : UInt32} (form : LoraForm text.toList sf khz m n) :
    DataRate.deserialize profile (.string text escaped) =
      (mulU32 profile n 1000 >>= fun bw => .ok (.lora m bw)) := by
  have begins : "SF".toList.isPrefixOf text.toList = true := by
    rw [List.isPrefixOf_iff_prefix, form.form, List.append_assoc]
    exact List.prefix_append ..
  rw [DataRate.deserialize, if_pos begins, DataRate.deserializeLora,
    split2_of_numerals form.form (parseU32_eq_some_iff.mp form.spreading)
      (parseU32_eq_some_iff.mp form.bandwidth)]
  have stripped : "SF".toList.isPrefixOf? ("SF".toList ++ sf) = some sf :=
    List.isPrefixOf?_eq_some_iff_append_eq.mpr rfl
  simp only [stripped, form.spreading, form.bandwidth, Outcome.okOr_some, Outcome.ok_bind,
    Outcome.pure_eq]

theorem DataRate.deserialize_lrFhss {profile : Profile} {text : String} {escaped : Bool}
    {khz : List Char} {n : UInt32} (form : LrFhssForm text.toList khz n) :
    DataRate.deserialize profile (.string text escaped) =
      (mulU32 profile n 1000 >>= fun cw => .ok (.lrFhss cw)) := by
  have other : ¬ "SF".toList.isPrefixOf text.toList = true := by
    rw [form.form]
    simp
  have begins : "M0CW".toList.isPrefixOf text.toList = true := by
    rw [List.isPrefixOf_iff_prefix, form.form]
    exact List.prefix_append ..
  have stripped : "M0CW".toList.isPrefixOf? text.toList = some khz :=
    List.isPrefixOf?_eq_some_iff_append_eq.mpr form.form.symm
  rw [DataRate.deserialize, if_neg other, if_pos begins, DataRate.deserializeLrFhss, stripped]
  simp only [form.width, Outcome.okOr_some, Outcome.ok_bind, Outcome.pure_eq]

/-- Any other text is refused. -/
theorem DataRate.deserialize_refused {profile : Profile} {text : String} {escaped : Bool}
    (noLora : ∀ sf khz m n, ¬ LoraForm text.toList sf khz m n)
    (noLrFhss : ∀ khz n, ¬ LrFhssForm text.toList khz n) :
    ∃ message, DataRate.deserialize profile (.string text escaped) = .err message := by
  rw [DataRate.deserialize]
  split
  · unfold DataRate.deserializeLora
    split
    · next first second pieces =>
        have whole := append_of_split2 pieces
        cases stripped : "SF".toList.isPrefixOf? first with
        | none => exact ⟨_, rfl⟩
        | some sf =>
            cases spreading : parseU32 sf with
            | none => exact ⟨_, by simp only [Outcome.okOr_some, Outcome.ok_bind, spreading]; rfl⟩
            | some m =>
                cases bandwidth : parseU32 second with
                | none =>
                    exact ⟨_, by simp only [Outcome.okOr_some, Outcome.ok_bind, spreading]; rfl⟩
                | some n =>
                    have form : text.toList = "SF".toList ++ sf ++ "BW".toList ++ second := by
                      rw [whole, ← List.append_eq_of_isPrefixOf?_eq_some stripped,
                        List.append_assoc _ "BW".toList]
                      rfl
                    exact absurd ⟨form, spreading, bandwidth⟩ (noLora sf second m n)
    · exact ⟨_, rfl⟩
  · split
    · unfold DataRate.deserializeLrFhss
      cases stripped : "M0CW".toList.isPrefixOf? text.toList with
      | none => exact ⟨_, rfl⟩
      | some khz =>
          cases width : parseU32 khz with
          | none => exact ⟨_, by simp only [Outcome.okOr_some, Outcome.ok_bind, width]; rfl⟩
          | some n =>
              have form := (List.append_eq_of_isPrefixOf?_eq_some stripped).symm
              exact absurd ⟨form, width⟩ (noLrFhss khz n)
    · exact ⟨_, rfl⟩

/-! ## Exactness -/

/-- A text that denotes a data rate of 32-bit numbers has one of the two forms. -/
theorem form_of_denotes {text : List Char} {rate : DataRate}
    (denotes : DenotesText text rate.rate) :
    (∃ sf khz m n, LoraForm text sf khz m n) ∨ ∃ khz n, LrFhssForm text khz n := by
  have parses : ∀ {digits : List Char} {n : Nat}, numeral? digits = some n → n < 2 ^ 32 →
      parseU32 digits = some (UInt32.ofNat n) := by
    intro digits n numeral small
    rw [parseU32_eq_some_iff, numeral, UInt32.toNat_ofNat_of_lt' small]
  generalize same : rate.rate = unbounded at denotes
  cases denotes with
  | @lora sf khz m n form spreading bandwidth =>
      cases rate with
      | lora sf' bw =>
          obtain ⟨rfl, product⟩ := Rate.lora.inj same
          have bound := bw.toNat_lt
          exact .inl ⟨sf, khz, _, _, form, parses spreading sf'.toNat_lt,
            parses bandwidth (by omega)⟩
      | fsk bitrate => cases same
      | lrFhss ocw => cases same
  | @lrFhss khz n form width =>
      cases rate with
      | lora sf' bw => cases same
      | fsk bitrate => cases same
      | lrFhss ocw =>
          have product := Rate.lrFhss.inj same
          have bound := ocw.toNat_lt
          exact .inr ⟨khz, _, form, parses width (by omega)⟩

theorem mulU32_eq (profile : Profile) {n : UInt32} (fits : n.toNat * 1000 < 2 ^ 32) :
    ∃ product : UInt32, mulU32 profile n 1000 = .ok product ∧ product.toNat = n.toNat * 1000 := by
  refine ⟨n * 1000, ?_, ?_⟩
  · have small : ¬ (profile = .debug ∧ 2 ^ 32 ≤ n.toNat * (1000 : UInt32).toNat) :=
      fun overflows => absurd overflows.2 (Nat.not_le.mpr fits)
    rw [mulU32, if_neg small]
  · rw [UInt32.toNat_mul]
    exact Nat.mod_eq_of_lt fits

theorem DataRate.rate_injective : Function.Injective DataRate.rate := by
  intro first second same
  cases first <;> cases second <;>
    simp_all [DataRate.rate, UInt32.toNat_inj]

/-- A text of the LoRa form denotes one data rate. -/
theorem LoraForm.denotes_iff {text sf khz : List Char} {m n : UInt32}
    (form : LoraForm text sf khz m n) {rate : Rate} :
    DenotesText text rate ↔ rate = .lora m.toNat (n.toNat * 1000) := by
  have spreading := parseU32_eq_some_iff.mp form.spreading
  have bandwidth := parseU32_eq_some_iff.mp form.bandwidth
  constructor
  · intro denotes
    cases denotes with
    | @lora sf' khz' m' n' form' spreading' bandwidth' =>
        have pieces := split2_of_numerals form' spreading' bandwidth'
        rw [split2_of_numerals form.form spreading bandwidth] at pieces
        simp only [List.cons.injEq, List.append_cancel_left_eq, and_true] at pieces
        obtain ⟨rfl, rfl⟩ := pieces
        rw [spreading, Option.some.injEq] at spreading'
        rw [bandwidth, Option.some.injEq] at bandwidth'
        rw [spreading', bandwidth']
    | lrFhss form' width' =>
        rw [form.form] at form'
        simp at form'
  · rintro rfl
    exact .lora form.form spreading bandwidth

/-- A text of the LR-FHSS form denotes one data rate. -/
theorem LrFhssForm.denotes_iff {text khz : List Char} {n : UInt32}
    (form : LrFhssForm text khz n) {rate : Rate} :
    DenotesText text rate ↔ rate = .lrFhss (n.toNat * 1000) := by
  have width := parseU32_eq_some_iff.mp form.width
  constructor
  · intro denotes
    cases denotes with
    | lora form' spreading' bandwidth' =>
        rw [form.form] at form'
        simp at form'
    | lrFhss form' width' =>
        rw [form.form] at form'
        obtain rfl := List.append_cancel_left form'
        rw [width, Option.some.injEq] at width'
        rw [width']
  · rintro rfl
    exact .lrFhss form.form width

theorem LoraForm.fits_iff {text sf khz : List Char} {m n : UInt32}
    (form : LoraForm text sf khz m n) : FitsText text ↔ n.toNat * 1000 < 2 ^ 32 := by
  constructor
  · intro fits
    exact fits.lora sf khz m n form
  · intro small
    constructor
    · intro sf' khz' m' n' form'
      have same := form.denotes_iff.mp (form'.denotes_iff.mpr rfl)
      rw [(Rate.lora.inj same).2]
      exact small
    · intro khz' n' form'
      have same := form.denotes_iff.mp (form'.denotes_iff.mpr rfl)
      cases same

theorem LrFhssForm.fits_iff {text khz : List Char} {n : UInt32}
    (form : LrFhssForm text khz n) : FitsText text ↔ n.toNat * 1000 < 2 ^ 32 := by
  constructor
  · intro fits
    exact fits.lrFhss khz n form
  · intro small
    constructor
    · intro sf' khz' m' n' form'
      have same := form.denotes_iff.mp (form'.denotes_iff.mpr rfl)
      cases same
    · intro khz' n' form'
      have same := form.denotes_iff.mp (form'.denotes_iff.mpr rfl)
      rw [Rate.lrFhss.inj same]
      exact small

theorem mulU32_cases (profile : Profile) (n : UInt32) :
    mulU32 profile n 1000 = .ok (n * 1000) ∨
      profile = .debug ∧ 2 ^ 32 ≤ n.toNat * 1000 ∧ mulU32 profile n 1000 = .panic .mulOverflow := by
  unfold mulU32
  split
  · next overflows => exact .inr ⟨overflows.1, overflows.2, rfl⟩
  · exact .inl rfl

/-- A data rate with a width in kHz is read exactly if the width in Hz fits. -/
theorem exact_of_width (unbounded : Nat → Rate) {profile : Profile} {value : Json} {n : UInt32}
    {make : UInt32 → DataRate}
    (read : DataRate.deserialize profile value = (mulU32 profile n 1000 >>= fun w => .ok (make w)))
    (denotes : ∀ rate : Rate, Denotes value rate ↔ rate = unbounded (n.toNat * 1000))
    (made : ∀ w, (make w).rate = unbounded w.toNat) (injective : Function.Injective unbounded) :
    Exact profile value ↔ n.toNat * 1000 < 2 ^ 32 := by
  constructor
  · intro exact'
    have calm := exact'.calm
    have product : DataRate.deserialize profile value = .ok (make (n * 1000)) := by
      rcases mulU32_cases profile n with multiplied | ⟨_, _, panics⟩
      · rw [read, multiplied]
        rfl
      · rw [read, panics] at calm
        exact absurd rfl (calm .mulOverflow)
    have rate := (denotes _).mp ((exact'.ok_iff _).mp product)
    rw [made] at rate
    rw [← injective rate]
    exact (n * 1000).toNat_lt
  · intro small
    obtain ⟨product, multiplied, same⟩ := mulU32_eq profile small
    rw [multiplied, Outcome.ok_bind] at read
    constructor
    · rw [read]
      exact Outcome.calm_ok _
    · intro rate
      rw [read, denotes, Outcome.ok.injEq, ← same, ← made]
      exact ⟨fun equal => equal ▸ rfl, fun equal => (DataRate.rate_injective equal).symm⟩

/-- A text has one of the two forms, or it is refused and denotes nothing of 32 bits. -/
theorem text_cases (profile : Profile) (text : String) (escaped : Bool) :
    (∃ sf khz m n, LoraForm text.toList sf khz m n) ∨ (∃ khz n, LrFhssForm text.toList khz n) ∨
      FitsText text.toList ∧ (∀ rate : DataRate, ¬ DenotesText text.toList rate.rate) ∧
        ∃ message, DataRate.deserialize profile (.string text escaped) = .err message := by
  by_cases lora : ∃ sf khz m n, LoraForm text.toList sf khz m n
  · exact .inl lora
  · by_cases lrFhss : ∃ khz n, LrFhssForm text.toList khz n
    · exact .inr (.inl lrFhss)
    · have noLora : ∀ sf khz m n, ¬ LoraForm text.toList sf khz m n :=
        fun sf khz m n form => lora ⟨sf, khz, m, n, form⟩
      have noLrFhss : ∀ khz n, ¬ LrFhssForm text.toList khz n :=
        fun khz n form => lrFhss ⟨khz, n, form⟩
      refine .inr (.inr ⟨⟨?_, ?_⟩, fun rate denotes => ?_,
        DataRate.deserialize_refused noLora noLrFhss⟩)
      · exact fun sf khz m n form => absurd form (noLora sf khz m n)
      · exact fun khz n form => absurd form (noLrFhss khz n)
      · exact (form_of_denotes denotes).elim lora lrFhss

/-- A value that is refused and denotes nothing of 32 bits is read exactly. -/
theorem exact_of_refused {profile : Profile} {value : Json}
    (none : ∀ rate : DataRate, ¬ Denotes value rate.rate)
    (refused : ∃ message, DataRate.deserialize profile value = .err message) :
    Exact profile value := by
  obtain ⟨message, refused⟩ := refused
  constructor
  · rw [refused]
    exact Outcome.calm_err _
  · intro rate
    rw [refused]
    exact iff_of_false (fun impossible => by cases impossible) (none rate)

theorem exact_posInt_iff (profile : Profile) (value : UInt64) :
    Exact profile (.number (.posInt value)) ↔ value.toNat < 2 ^ 32 := by
  have read : DataRate.deserialize profile (.number (.posInt value)) =
      .ok (.fsk value.toUInt32) := rfl
  have denotes_iff : ∀ rate : Rate, Denotes (.number (.posInt value)) rate ↔
      rate = .fsk value.toNat := by
    intro rate
    constructor
    · intro denotes
      cases denotes
      rfl
    · rintro rfl
      exact .fsk value
  constructor
  · intro exact'
    have denotes := (denotes_iff _).mp ((exact'.ok_iff _).mp read)
    rw [← Rate.fsk.inj denotes]
    exact value.toUInt32.toNat_lt
  · intro small
    have kept : value.toUInt32.toNat = value.toNat := by
      rw [UInt64.toNat_toUInt32]
      exact Nat.mod_eq_of_lt small
    constructor
    · rw [read]
      exact Outcome.calm_ok _
    · intro rate
      rw [read, denotes_iff, Outcome.ok.injEq, ← kept]
      exact ⟨fun same => same ▸ rfl, fun same => (DataRate.rate_injective same).symm⟩

theorem exact_number_iff (profile : Profile) (number : Number) :
    Exact profile (.number number) ↔ Fits (.number number) := by
  cases number with
  | negInt value =>
      refine iff_of_false (fun exact' => exact'.calm .unwrapNone rfl) ?_
      rintro ⟨_, impossible, _⟩
      cases impossible
  | float value =>
      refine iff_of_false (fun exact' => exact'.calm .unwrapNone rfl) ?_
      rintro ⟨_, impossible, _⟩
      cases impossible
  | posInt value =>
      rw [exact_posInt_iff]
      constructor
      · intro small
        exact ⟨value, rfl, small⟩
      · rintro ⟨_, same, small⟩
        obtain rfl := Number.posInt.inj same
        exact small

theorem denotes_string_iff {text : String} {escaped : Bool} {rate : Rate} :
    Denotes (.string text escaped) rate ↔ DenotesText text.toList rate := by
  constructor
  · rintro ⟨denotes⟩
    exact denotes
  · exact .text

theorem exact_string_iff (profile : Profile) (text : String) (escaped : Bool) :
    Exact profile (.string text escaped) ↔ FitsText text.toList := by
  rcases text_cases profile text escaped with ⟨sf, khz, m, n, form⟩ | ⟨khz, n, form⟩ |
    ⟨fits, none, refused⟩
  · rw [form.fits_iff]
    refine exact_of_width (Rate.lora m.toNat) (DataRate.deserialize_lora form)
      (fun rate => denotes_string_iff.trans form.denotes_iff) (fun w => rfl) ?_
    exact fun _ _ same => (Rate.lora.inj same).2
  · rw [form.fits_iff]
    refine exact_of_width Rate.lrFhss (DataRate.deserialize_lrFhss form)
      (fun rate => denotes_string_iff.trans form.denotes_iff) (fun w => rfl) ?_
    exact fun _ _ same => Rate.lrFhss.inj same
  · refine iff_of_true (exact_of_refused (fun rate denotes => ?_) refused) fits
    exact none rate (denotes_string_iff.mp denotes)

/-- The visitor is exact on the values that fit, and on no others. -/
theorem exact_iff (profile : Profile) (value : Json) : Exact profile value ↔ Fits value := by
  have other : (∀ rate, ¬ Denotes value rate) →
      (∃ message, DataRate.deserialize profile value = .err message) → Exact profile value :=
    fun none refused => exact_of_refused (fun rate => none rate.rate) refused
  cases value with
  | null => exact iff_of_true (other (fun _ denotes => by cases denotes) ⟨_, rfl⟩) trivial
  | bool value => exact iff_of_true (other (fun _ denotes => by cases denotes) ⟨_, rfl⟩) trivial
  | array items => exact iff_of_true (other (fun _ denotes => by cases denotes) ⟨_, rfl⟩) trivial
  | object fields => exact iff_of_true (other (fun _ denotes => by cases denotes) ⟨_, rfl⟩) trivial
  | malformed => exact iff_of_true (other (fun _ denotes => by cases denotes) ⟨_, rfl⟩) trivial
  | number number => exact exact_number_iff profile number
  | string text escaped => exact exact_string_iff profile text escaped

theorem width_calm_iff {profile : Profile} {n : UInt32} {make : UInt32 → DataRate} :
    (mulU32 profile n 1000 >>= fun w => .ok (make w)).Calm ↔
      (profile = .debug → n.toNat * 1000 < 2 ^ 32) := by
  rcases mulU32_cases profile n with multiplied | ⟨debug, large, panics⟩
  · rw [multiplied]
    refine iff_of_true (Outcome.calm_ok _) fun debug => ?_
    by_contra large
    have overflows : mulU32 profile n 1000 = .panic .mulOverflow :=
      if_pos ⟨debug, Nat.le_of_not_lt large⟩
    rw [multiplied] at overflows
    cases overflows
  · rw [panics]
    exact iff_of_false (Outcome.not_calm_panic _) fun small => absurd (small debug) large.not_gt

/-- The visitor does not panic on the harmless values, and panics on all others. -/
theorem DataRate.deserialize_calm_iff (profile : Profile) (value : Json) :
    (DataRate.deserialize profile value).Calm ↔ Harmless profile value := by
  cases value with
  | null => exact iff_of_true (Outcome.calm_err _) trivial
  | bool value => exact iff_of_true (Outcome.calm_err _) trivial
  | array items => exact iff_of_true (Outcome.calm_err _) trivial
  | object fields => exact iff_of_true (Outcome.calm_err _) trivial
  | malformed => exact iff_of_true (Outcome.calm_err _) trivial
  | number number =>
      cases number with
      | posInt value => exact iff_of_true (Outcome.calm_ok _) ⟨value, rfl⟩
      | negInt value =>
          refine iff_of_false (Outcome.not_calm_panic _) ?_
          rintro ⟨_, impossible⟩
          cases impossible
      | float value =>
          refine iff_of_false (Outcome.not_calm_panic _) ?_
          rintro ⟨_, impossible⟩
          cases impossible
  | string text escaped =>
      rcases text_cases profile text escaped with ⟨sf, khz, m, n, form⟩ | ⟨khz, n, form⟩ |
        ⟨fits, _, message, refused⟩
      · rw [DataRate.deserialize_lora form, Harmless, form.fits_iff]
        exact width_calm_iff
      · rw [DataRate.deserialize_lrFhss form, Harmless, form.fits_iff]
        exact width_calm_iff
      · rw [refused]
        exact iff_of_true (Outcome.calm_err _) fun _ => fits

end MqttForwarder.SemtechUdp
