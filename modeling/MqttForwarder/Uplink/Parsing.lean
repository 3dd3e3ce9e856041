import MqttForwarder.SemtechUdp.PushData
import MqttForwarder.Serde.Visitors
import MqttForwarder.Uplink.DataRates

/-!
# Parsing of PUSH_DATA

A datagram is read without a panic unless its visitors come to a `datr` field
whose value the data-rate visitor panics on.
-/

namespace MqttForwarder.SemtechUdp

open MqttForwarder.Rust MqttForwarder.Serde

/-! ## Objects without data rate -/

theorem RSigSlots.visit_calm (slots : RSigSlots) (key : String) (value : Json) :
    (slots.visit key value).Calm := by
  unfold RSigSlots.visit
  split
  · exact Json.once_calm (Json.u8_calm _)
  · exact Json.once_calm (Json.u8_calm _)
  · exact Json.once_calm (Json.i16_calm _)
  · exact Json.once_calm (Json.option_calm (Json.f32_calm _))
  · exact Json.ignored_calm _ _

theorem RSigSlots.finish_calm (isArray : Bool) (slots : RSigSlots) :
    (RSigSlots.finish isArray slots).Calm := by
  unfold RSigSlots.finish
  simp only [Outcome.calm_bind, Outcome.pure_eq, Outcome.calm_ok, Json.required_calm,
    Json.optionalField_calm, implies_true, and_self]

theorem RSig.deserialize_calm (value : Json) : (RSig.deserialize value).Calm :=
  Json.struct_calm RSigSlots.visit_calm RSigSlots.finish_calm value

theorem compactTime_calm (crates : Crates) (value : Json) : (compactTime crates value).Calm := by
  apply Outcome.calm_bind.mpr
  constructor
  · exact Json.option_calm (Json.str_calm _)
  · intro o _
    cases o with
    | none => exact Outcome.calm_ok _
    | some v => exact Json.map_calm.mpr (Outcome.calm_okOr _ _)

theorem expandedTime_calm (crates : Crates) (value : Json) : (expandedTime crates value).Calm :=
  Outcome.calm_bind.mpr ⟨Json.str_calm _, fun _ _ => Outcome.calm_okOr _ _⟩

theorem base64Bytes_calm (crates : Crates) (value : Json) : (base64Bytes crates value).Calm :=
  Outcome.calm_bind.mpr ⟨Json.str_calm _, fun _ _ => Outcome.calm_okOr _ _⟩

theorem StatSlots.visit_calm (crates : Crates) (slots : StatSlots) (key : String) (value : Json) :
    (slots.visit crates key value).Calm := by
  unfold StatSlots.visit
  split
  · exact Json.once_calm (expandedTime_calm crates value)
  · exact Json.once_calm (Json.f64_calm _)
  · exact Json.once_calm (Json.f64_calm _)
  · exact Json.once_calm (Json.f64_calm _)
  · exact Json.once_calm (Json.u32_calm _)
  · exact Json.once_calm (Json.u32_calm _)
  · exact Json.once_calm (Json.u32_calm _)
  · exact Json.once_calm (Json.f32_calm _)
  · exact Json.once_calm (Json.u32_calm _)
  · exact Json.once_calm (Json.u32_calm _)
  · exact Json.once_calm (Json.option_calm (Json.stringMap_calm _))
  · exact Json.ignored_calm _ _

theorem StatSlots.finish_calm (isArray : Bool) (slots : StatSlots) :
    (StatSlots.finish isArray slots).Calm := by
  unfold StatSlots.finish
  simp only [Outcome.calm_bind, Outcome.pure_eq, Outcome.calm_ok, Json.required_calm,
    Json.optionalField_calm, implies_true, and_self]

theorem Stat.deserialize_calm (crates : Crates) (value : Json) :
    (Stat.deserialize crates value).Calm :=
  Json.struct_calm (StatSlots.visit_calm crates) StatSlots.finish_calm value

/-! ## Data rates that the visitors come to -/

theorem Crc.deserialize_calm (value : Json) : (Crc.deserialize value).Calm :=
  Outcome.calm_bind.mpr ⟨Json.i32_calm _, fun _ _ => Outcome.calm_ok _⟩

theorem Modulation.deserialize_calm (value : Json) : (Modulation.deserialize value).Calm := by
  refine Outcome.calm_bind.mpr ⟨Json.text_calm _, fun s _ => ?_⟩
  split
  · exact Outcome.calm_ok _
  · exact Outcome.calm_ok _
  · exact Outcome.calm_ok _
  · exact Outcome.calm_err _

theorem CodeRate.deserialize_calm (value : Json) : (CodeRate.deserialize value).Calm :=
  Json.map_calm.mpr (Json.text_calm _)

/-- The visitor of an `rxpk` object panics only in its data rate. -/
theorem RxPkSlots.visit_eq_panic {crates : Crates} {profile : Profile} {slots : RxPkSlots}
    {key : String} {value : Json} {cause : Panic} :
    slots.visit crates profile key value = .panic cause ↔
      key = "datr" ∧ slots.datr = none ∧ DataRate.deserialize profile value = .panic cause := by
  have other : ∀ {x : Outcome RxPkSlots}, x.Calm → key ≠ "datr" → (x = .panic cause ↔
      key = "datr" ∧ slots.datr = none ∧ DataRate.deserialize profile value = .panic cause) :=
    fun calm different => iff_of_false (calm cause) fun panics => different panics.1
  unfold RxPkSlots.visit
  split
  · exact other (Json.once_calm (compactTime_calm crates value)) (by decide)
  · exact other (Json.once_calm (Json.option_calm (Json.u64_calm _))) (by decide)
  · exact other (Json.once_calm (Json.u32_calm _)) (by decide)
  · exact other (Json.once_calm (Json.option_calm (Json.u32_calm _))) (by decide)
  · exact other (Json.once_calm (Json.f64_calm _)) (by decide)
  · exact other (Json.once_calm (Json.u32_calm _)) (by decide)
  · exact other (Json.once_calm (Json.u32_calm _)) (by decide)
  · exact other (Json.once_calm (Json.u32_calm _)) (by decide)
  · exact other (Json.once_calm (Json.u8_calm _)) (by decide)
  · exact other (Json.once_calm (Crc.deserialize_calm value)) (by decide)
  · exact other (Json.once_calm (Modulation.deserialize_calm value)) (by decide)
  · rw [Json.once_eq_panic]
    exact (and_iff_right rfl).symm
  · exact other (Json.once_calm (Json.option_calm (CodeRate.deserialize_calm value))) (by decide)
  · exact other (Json.once_calm (Json.i32_calm _)) (by decide)
  · exact other (Json.once_calm (Json.option_calm (Json.f32_calm _))) (by decide)
  · exact other (Json.once_calm (Json.option_calm (Json.u8_calm _))) (by decide)
  · exact other (Json.once_calm (Json.u8_calm _)) (by decide)
  · exact other (Json.once_calm (base64Bytes_calm crates value)) (by decide)
  · exact other (Json.once_calm (Json.vec_calm RSig.deserialize_calm value)) (by decide)
  · exact other (Json.once_calm (Json.option_calm (Json.stringMap_calm _))) (by decide)
  · exact other (Json.ignored_calm _ _) ‹key = "datr" → False›

theorem RxPkSlots.finish_calm (isArray : Bool) (slots : RxPkSlots) :
    (RxPkSlots.finish isArray slots).Calm := by
  unfold RxPkSlots.finish
  simp only [Outcome.calm_bind, Outcome.pure_eq, Outcome.calm_ok, Json.required_calm,
    Json.optionalField_calm, implies_true, and_self]

theorem RxPk.deserialize_eq_panic {crates : Crates} {profile : Profile} {item : Json}
    {cause : Panic} :
    RxPk.deserialize crates profile item = .panic cause ↔
      ∃ slots value,
        Json.Comes rxPkFields (RxPkSlots.visit crates profile) {} item slots "datr" value ∧
          slots.datr = none ∧ DataRate.deserialize profile value = .panic cause := by
  rw [RxPk.deserialize, Json.struct_eq_panic RxPkSlots.finish_calm]
  constructor
  · rintro ⟨slots, key, value, comes, panics⟩
    obtain ⟨rfl, empty, now⟩ := RxPkSlots.visit_eq_panic.mp panics
    exact ⟨slots, value, comes, empty, now⟩
  · rintro ⟨slots, value, comes, empty, now⟩
    exact ⟨slots, "datr", value, comes, RxPkSlots.visit_eq_panic.mpr ⟨rfl, empty, now⟩⟩

theorem PushDataPayloadSlots.visit_eq_panic {crates : Crates} {profile : Profile}
    {slots : PushDataPayloadSlots} {key : String} {value : Json} {cause : Panic} :
    slots.visit crates profile key value = .panic cause ↔
      key = "rxpk" ∧ slots.rxpk = none ∧
        value.vec (RxPk.deserialize crates profile) = .panic cause := by
  unfold PushDataPayloadSlots.visit
  split
  · rw [Json.once_eq_panic]
    exact (and_iff_right rfl).symm
  · refine iff_of_false (Json.once_calm (Json.option_calm ?_) cause) fun panics => ?_
    · exact Stat.deserialize_calm crates value
    · exact absurd panics.1 (by decide)
  · refine iff_of_false (Json.ignored_calm _ _ cause) fun panics => ?_
    exact absurd panics.1 ‹key = "rxpk" → False›

theorem PushDataPayloadSlots.finish_calm (isArray : Bool) (slots : PushDataPayloadSlots) :
    (PushDataPayloadSlots.finish isArray slots).Calm :=
  Outcome.calm_bind.mpr ⟨Json.optionalField_calm _ _ _, fun _ _ => Outcome.calm_ok _⟩

/-- The visitors of a payload come to the value of a `datr` field: it is the first of its
object, the objects before that one are accepted, and so are the fields before the list. -/
def DatrOf (crates : Crates) (profile : Profile) (root value : Json) : Prop :=
  ∃ slots items item rxSlots,
    Json.Comes ["rxpk", "stat"] (PushDataPayloadSlots.visit crates profile) {} root slots "rxpk"
        (.array items) ∧
      slots.rxpk = none ∧ Json.Reaches (RxPk.deserialize crates profile) items item ∧
      Json.Comes rxPkFields (RxPkSlots.visit crates profile) {} item rxSlots "datr" value ∧
      rxSlots.datr = none

theorem PushDataPayload.deserialize_eq_panic {crates : Crates} {profile : Profile} {root : Json}
    {cause : Panic} :
    PushDataPayload.deserialize crates profile root = .panic cause ↔
      ∃ value, DatrOf crates profile root value ∧
        DataRate.deserialize profile value = .panic cause := by
  rw [PushDataPayload.deserialize, Json.struct_eq_panic PushDataPayloadSlots.finish_calm]
  constructor
  · rintro ⟨slots, key, list, comes, panics⟩
    obtain ⟨rfl, empty, within⟩ := PushDataPayloadSlots.visit_eq_panic.mp panics
    obtain ⟨items, item, rfl, reaches, inside⟩ := Json.vec_eq_panic.mp within
    obtain ⟨rxSlots, value, comes', empty', now⟩ := RxPk.deserialize_eq_panic.mp inside
    exact ⟨value, ⟨slots, items, item, rxSlots, comes, empty, reaches, comes', empty'⟩, now⟩
  · rintro ⟨value, ⟨slots, items, item, rxSlots, comes, empty, reaches, comes', empty'⟩, now⟩
    refine ⟨slots, "rxpk", .array items, comes, ?_⟩
    refine PushDataPayloadSlots.visit_eq_panic.mpr ⟨rfl, empty, ?_⟩
    refine Json.vec_eq_panic.mpr ⟨items, item, rfl, reaches, ?_⟩
    exact RxPk.deserialize_eq_panic.mpr ⟨rxSlots, value, comes', empty', now⟩

/-! ## Datagrams -/

/-- The visitors of a datagram come to the value of a `datr` field. -/
structure DatrRead (crates : Crates) (profile : Profile) (b : List UInt8) (value : Json) :
    Prop where
  long : 14 ≤ b.length
  accepted : ∃ fields, header b 0x00 = .ok fields
  read : DatrOf crates profile (crates.readJson (b.drop 12)).root value

theorem fromJson_eq_panic {α : Type} {visit : Json → Outcome α} {document : Document}
    {cause : Panic} :
    fromJson visit document = .panic cause ↔ visit document.root = .panic cause := by
  rw [fromJson, Outcome.bind_eq_panic]
  apply or_iff_left
  rintro ⟨value, _, panics⟩
  split at panics <;> cases panics

/-- Reading a datagram panics exactly where the visitor of a data rate does. -/
theorem PushData.fromSlice_eq_panic {crates : Crates} {profile : Profile} {b : List UInt8}
    {cause : Panic} :
    PushData.fromSlice crates profile b = .panic cause ↔
      ∃ value, DatrRead crates profile b value ∧
        DataRate.deserialize profile value = .panic cause := by
  unfold PushData.fromSlice
  split
  · next short =>
      refine iff_of_false (fun impossible => by cases impossible) ?_
      rintro ⟨value, read, _⟩
      exact absurd read.long (Nat.not_le.mpr short)
  · next long =>
      have enough : 14 ≤ b.length := Nat.le_of_not_lt long
      have text : slice b 12 b.length = .ok (b.drop 12) := by
        rw [slice_of_le (by omega) (by omega), List.take_of_length_le (by simp)]
      have calm := header_calm (show 12 ≤ b.length by omega) 0x00
      rw [Outcome.bind_eq_panic, or_iff_right (calm cause)]
      simp only [text, Outcome.ok_bind]
      constructor
      · rintro ⟨fields, accepted, panics⟩
        rcases Outcome.bind_eq_panic.mp panics with panics | ⟨_, _, impossible⟩
        · rw [fromJson_eq_panic, PushDataPayload.deserialize_eq_panic] at panics
          obtain ⟨value, read, now⟩ := panics
          exact ⟨value, ⟨enough, ⟨fields, accepted⟩, read⟩, now⟩
        · cases impossible
      · rintro ⟨value, ⟨_, ⟨fields, accepted⟩, read⟩, now⟩
        refine ⟨fields, accepted, Outcome.bind_eq_panic.mpr (.inl ?_)⟩
        rw [fromJson_eq_panic, PushDataPayload.deserialize_eq_panic]
        exact ⟨value, read, now⟩

theorem PushData.fromSlice_calm_iff {crates : Crates} {profile : Profile} {b : List UInt8} :
    (PushData.fromSlice crates profile b).Calm ↔
      ∀ value, DatrRead crates profile b value → Harmless profile value := by
  constructor
  · intro calm value read
    rw [← DataRate.deserialize_calm_iff]
    intro cause panics
    exact calm cause (PushData.fromSlice_eq_panic.mpr ⟨value, read, panics⟩)
  · intro harmless cause panics
    obtain ⟨value, read, now⟩ := PushData.fromSlice_eq_panic.mp panics
    exact (DataRate.deserialize_calm_iff profile value).mpr (harmless value read) cause now

/-- Reading the datagram panics in no build; an integer overflow is a panic in a debug build. -/
def ReadSafely (crates : Crates) (b : List UInt8) : Prop :=
  ∀ profile, (PushData.fromSlice crates profile b).Calm

/-- A datagram is read without panic and overflow exactly if every data rate that is read is
harmless, and a data rate is read exactly if and only if its value fits. -/
theorem pushData_parsing_iff (crates : Crates) :
    (∀ b, ReadSafely crates b ↔
      ∀ profile value, DatrRead crates profile b value → Harmless profile value) ∧
    ∀ profile value, Exact profile value ↔ Fits value := by
  constructor
  · intro b
    constructor
    · intro safe profile
      exact PushData.fromSlice_calm_iff.mp (safe profile)
    · intro harmless profile
      exact PushData.fromSlice_calm_iff.mpr (harmless profile)
  · exact exact_iff

/-- The reader of the text `{"rxpk":[{"datr":-1}]}`. -/
def negativeRate : Crates :=
  { Crates.plain with
    readJson := fun text =>
      if text = ascii "\x7b\"rxpk\":[\x7b\"datr\":-1\x7d]\x7d" then
        ⟨.object [("rxpk", .array [.object [("datr", .number (.negInt (-1)))]])], false⟩
      else ⟨.malformed, false⟩ }

/-- A PUSH_DATA with a negative data rate. -/
def negativeRateDatagram : List UInt8 :=
  [2, 0, 0, 0, 0, 0, 0, 0, 0, 0, 0, 0] ++ ascii "\x7b\"rxpk\":[\x7b\"datr\":-1\x7d]\x7d"

/-- A negative data rate panics, and a data rate of `2 ^ 32` is read as zero. -/
theorem pushData_parsing_unsafe :
    (¬ ∀ (crates : Crates) (b : List UInt8), ReadSafely crates b) ∧
      ¬ ∀ (profile : Profile) (value : Json), Exact profile value := by
  constructor
  · intro safe
    have calm := safe negativeRate negativeRateDatagram .release .unwrapNone
    apply calm
    rfl
  · intro exact'
    have read := (exact' .release (.number (.posInt 4294967296))).ok_iff (.fsk 0)
    have denotes := read.mp rfl
    generalize same : (DataRate.fsk 0).rate = rate at denotes
    cases denotes
    exact absurd (Rate.fsk.inj same) (by decide)

end MqttForwarder.SemtechUdp
