import MqttForwarder.Serde.Spelling
import MqttForwarder.Uplink.Parsing

/-!
# PUSH_DATA texts with the same value

The readers of times and of binary data borrow their string from the text, and
so refuse one that is written with escapes.  All other readers of a PUSH_DATA
accept by the value of the text only.  Whether a text that is not accepted is
refused or panics can depend on the order of its members, if a data rate of it
is one that the visitor panics on.
-/

namespace MqttForwarder.SemtechUdp

open MqttForwarder.Rust MqttForwarder.Serde MqttForwarder.Serde.Json

/-! ## Fields -/

section

variable {crates : Crates} {profile : Profile}

theorem Crc.deserialize_ignores : Ignores Crc.deserialize := i32_ignores.bind _

theorem CodeRate.deserialize_ignores : Ignores CodeRate.deserialize := text_ignores.map _

theorem Modulation.deserialize_ignores : Ignores Modulation.deserialize := text_ignores.bind _

theorem DataRate.deserialize_ignores : Ignores (DataRate.deserialize profile) :=
  ignores_of_respelled fun a b x respelled accepted => by
    cases respelled with
    | refl => exact accepted
    | string => exact accepted
    | _ => cases accepted

theorem compactTime_respects : Respects Borrowable (· = ·) (compactTime crates) :=
  str_respects.optionEq.bind _

theorem expandedTime_respects : Respects Borrowable (· = ·) (expandedTime crates) :=
  str_respects.bind _

theorem base64Bytes_respects : Respects Borrowable (· = ·) (base64Bytes crates) :=
  str_respects.bind _

end

/-! ## `rsig` objects -/

def RSigSlots.slots : List (Slot RSigSlots) :=
  [.plain "ant" ant u8_ignores, .plain "chan" chan u8_ignores, .plain "rssic" rssic i16_ignores,
    .plain "lsnr" lsnr f32_ignores.optionEq]

theorem RSigSlots.visit_fills : FillsSlots RSigSlots.visit RSigSlots.slots where
  fills := by
    intro state state' name value visited
    unfold visit at visited
    split at visited
    case h_5 =>
      obtain ⟨readable, rfl⟩ := ignored_eq_ok.mp visited
      simp only [slots, List.forall_mem_cons, fills_single]
      simp_all
    all_goals
      obtain ⟨free, x, read, rfl⟩ := once_eq_ok.mp visited
      simp only [slots, List.forall_mem_cons, fills_single, String.reduceEq, if_true, if_false,
        free, read]
      simp
  accepts := by
    intro state name value readable fits
    simp only [slots, List.forall_mem_cons] at fits
    unfold visit
    split
    case h_5 => exact ⟨state, ignored_eq_ok.mpr ⟨readable, rfl⟩⟩
    all_goals
      simp at fits
      obtain ⟨free, x, read⟩ := fits
      exact ⟨_, once_eq_ok.mpr ⟨free, x, read, rfl⟩⟩

theorem RSigSlots.finish_alike {isArray : Bool} {state state' : RSigSlots} {result : RSig}
    (alike : AlikeSlots RSigSlots.slots state state')
    (finished : RSigSlots.finish isArray state = .ok result) :
    ∃ result', RSigSlots.finish isArray state' = .ok result' ∧ result = result' := by
  simp only [AlikeSlots, slots, List.forall_mem_cons, rel_eq_iff] at alike
  obtain ⟨ant, chan, rssic, lsnr, _⟩ := alike
  cases state
  cases state'
  simp_all

theorem RSig.deserialize_ignores : Ignores RSig.deserialize := by
  have empty : ∀ slot ∈ RSigSlots.slots, slot.get {} = none := by simp [RSigSlots.slots]
  have respects : Respects _ (· = ·) RSig.deserialize :=
    struct_respects RSigSlots.visit_fills empty fun _ _ _ _ => RSigSlots.finish_alike
  exact respects.mono fun _ _ _ _ _ => by simp [SuitsSlots, RSigSlots.slots]

/-! ## `rxpk` objects -/

section

variable (crates : Crates) (profile : Profile)

def RxPkSlots.slots : List (Slot RxPkSlots) :=
  [⟨_, "time", time, _, _, _, @compactTime_respects crates⟩,
    .plain "tmms" tmms u64_ignores.optionEq, .plain "tmst" tmst u32_ignores,
    .plain "ftime" ftime u32_ignores.optionEq, .plain "freq" freq f64_ignores,
    .plain "chan" chan u32_ignores, .plain "rfch" rfch u32_ignores, .plain "brd" brd u32_ignores,
    .plain "ant" ant u8_ignores, .plain "stat" stat Crc.deserialize_ignores,
    .plain "modu" modu Modulation.deserialize_ignores,
    .plain "datr" datr (@DataRate.deserialize_ignores profile),
    .plain "codr" codr CodeRate.deserialize_ignores.optionEq, .plain "rssi" rssi i32_ignores,
    .plain "lsnr" lsnr f32_ignores.optionEq, .plain "hpw" hpw u8_ignores.optionEq,
    .plain "size" size u8_ignores,
    ⟨_, "data", data, _, _, _, @base64Bytes_respects crates⟩,
    .plain "rsig" rsig RSig.deserialize_ignores.vecEq,
    ⟨_, "meta", RxPkSlots.meta, _, _, _, stringMap_respects.option⟩]

end

section

variable {crates : Crates} {profile : Profile}

theorem RxPkSlots.visit_fills :
    FillsSlots (RxPkSlots.visit crates profile) (RxPkSlots.slots crates profile) where
  fills := by
    intro state state' name value visited
    unfold visit at visited
    split at visited
    case h_21 =>
      obtain ⟨readable, rfl⟩ := ignored_eq_ok.mp visited
      simp only [slots, List.forall_mem_cons, fills_single]
      simp_all
    all_goals
      obtain ⟨free, x, read, rfl⟩ := once_eq_ok.mp visited
      simp only [slots, List.forall_mem_cons, fills_single, String.reduceEq, if_true, if_false,
        free, read]
      simp
  accepts := by
    intro state name value readable fits
    simp only [slots, List.forall_mem_cons] at fits
    unfold visit
    split
    case h_21 => exact ⟨state, ignored_eq_ok.mpr ⟨readable, rfl⟩⟩
    all_goals
      simp at fits
      obtain ⟨free, x, read⟩ := fits
      exact ⟨_, once_eq_ok.mpr ⟨free, x, read, rfl⟩⟩

/-- Objects that differ in the order of their metadata only. -/
def RxPk.Alike (rx rx' : RxPk) : Prop :=
  ∃ «meta», rx' = { rx with «meta» } ∧ Option.Rel SameEntries rx.meta «meta»

theorem optionalField_alike {γ : Type} {R : γ → γ → Prop} {slot slot' : Option (Option γ)}
    (alike : Option.Rel (Option.Rel R) slot slot') {isArray : Bool} {name : String}
    {content : Option γ} (accepted : Json.optionalField isArray slot name = .ok content) :
    ∃ content', Json.optionalField isArray slot' name = .ok content' ∧
      Option.Rel R content content' := by
  cases alike with
  | none =>
      refine ⟨content, accepted, ?_⟩
      cases isArray <;> cases accepted
      exact .none
  | some same =>
      cases accepted
      exact ⟨_, rfl, same⟩

theorem RxPkSlots.eq_of_alike {state state' : RxPkSlots}
    (alike : AlikeSlots (RxPkSlots.slots crates profile) state state') :
    ∃ «meta», state' = { state with «meta» } ∧
      Option.Rel (Option.Rel SameEntries) state.meta «meta» := by
  simp only [AlikeSlots, slots, List.forall_mem_cons, rel_eq_iff] at alike
  cases state
  cases state'
  simp_all

theorem RxPkSlots.finish_alike {isArray : Bool} {state state' : RxPkSlots} {result : RxPk}
    (alike : AlikeSlots (RxPkSlots.slots crates profile) state state')
    (finished : RxPkSlots.finish isArray state = .ok result) :
    ∃ result', RxPkSlots.finish isArray state' = .ok result' ∧ result.Alike result' := by
  obtain ⟨metadata, rfl, entriesAlike⟩ := RxPkSlots.eq_of_alike alike
  unfold finish at finished ⊢
  simp only [Outcome.bind_eq_ok, Outcome.pure_eq, Outcome.ok.injEq] at finished ⊢
  obtain ⟨tmms, tmmsRead, tmst, tmstRead, ftime, ftimeRead, freq, freqRead, stat, statRead,
    modu, moduRead, datr, datrRead, codr, codrRead, lsnr, lsnrRead, hpw, hpwRead, size, sizeRead,
    data, dataRead, entries, entriesRead, rfl⟩ := finished
  obtain ⟨entries', entriesRead', related⟩ := optionalField_alike entriesAlike entriesRead
  exact ⟨_, ⟨tmms, tmmsRead, tmst, tmstRead, ftime, ftimeRead, freq, freqRead, stat, statRead,
    modu, moduRead, datr, datrRead, codr, codrRead, lsnr, lsnrRead, hpw, hpwRead, size, sizeRead,
    data, dataRead, entries', entriesRead', rfl⟩, entries', rfl, related⟩

/-- The strings that are borrowed are written without escapes. -/
def RxPkPlain (value : Json) : Prop :=
  ∀ name field, (name, field) ∈ Json.fieldsFor rxPkFields value →
    name = "time" ∨ name = "data" → field.Borrowable

theorem RxPk.deserialize_respects :
    Respects RxPkPlain RxPk.Alike (RxPk.deserialize crates profile) := by
  have empty : ∀ slot ∈ RxPkSlots.slots crates profile, slot.get {} = none := by
    simp [RxPkSlots.slots]
  have respects : Respects _ RxPk.Alike (RxPk.deserialize crates profile) :=
    struct_respects RxPkSlots.visit_fills empty fun _ _ _ _ => RxPkSlots.finish_alike
  refine respects.mono fun value plain name field member => ?_
  simp only [SuitsSlots, RxPkSlots.slots, List.forall_mem_cons]
  simp
  exact ⟨fun own => plain name field member (.inl own.symm),
    fun own => plain name field member (.inr own.symm)⟩

end

/-! ## The `stat` object -/

def StatSlots.slots (crates : Crates) : List (Slot StatSlots) :=
  [⟨_, "time", time, _, _, _, @expandedTime_respects crates⟩,
    .plain "lati" lati f64_ignores, .plain "long" long f64_ignores, .plain "alti" alti f64_ignores,
    .plain "rxnb" rxnb u32_ignores, .plain "rxok" rxok u32_ignores, .plain "rxfw" rxfw u32_ignores,
    .plain "ackr" ackr f32_ignores, .plain "dwnb" dwnb u32_ignores, .plain "txnb" txnb u32_ignores,
    ⟨_, "meta", StatSlots.meta, _, _, _, stringMap_respects.option⟩]

section

variable {crates : Crates}

theorem StatSlots.visit_fills :
    FillsSlots (StatSlots.visit crates) (StatSlots.slots crates) where
  fills := by
    intro state state' name value visited
    unfold visit at visited
    split at visited
    case h_12 =>
      obtain ⟨readable, rfl⟩ := ignored_eq_ok.mp visited
      simp only [slots, List.forall_mem_cons, fills_single]
      simp_all
    all_goals
      obtain ⟨free, x, read, rfl⟩ := once_eq_ok.mp visited
      simp only [slots, List.forall_mem_cons, fills_single, String.reduceEq, if_true, if_false,
        free, read]
      simp
  accepts := by
    intro state name value readable fits
    simp only [slots, List.forall_mem_cons] at fits
    unfold visit
    split
    case h_12 => exact ⟨state, ignored_eq_ok.mpr ⟨readable, rfl⟩⟩
    all_goals
      simp at fits
      obtain ⟨free, x, read⟩ := fits
      exact ⟨_, once_eq_ok.mpr ⟨free, x, read, rfl⟩⟩

/-- Statistics that differ in the order of their metadata only. -/
def Stat.Alike (stat stat' : Stat) : Prop :=
  ∃ «meta», stat' = { stat with «meta» } ∧ Option.Rel SameEntries stat.meta «meta»

theorem StatSlots.eq_of_alike {state state' : StatSlots}
    (alike : AlikeSlots (StatSlots.slots crates) state state') :
    ∃ «meta», state' = { state with «meta» } ∧
      Option.Rel (Option.Rel SameEntries) state.meta «meta» := by
  simp only [AlikeSlots, slots, List.forall_mem_cons, rel_eq_iff] at alike
  cases state
  cases state'
  simp_all

theorem StatSlots.finish_alike {isArray : Bool} {state state' : StatSlots} {result : Stat}
    (alike : AlikeSlots (StatSlots.slots crates) state state')
    (finished : StatSlots.finish isArray state = .ok result) :
    ∃ result', StatSlots.finish isArray state' = .ok result' ∧ result.Alike result' := by
  obtain ⟨metadata, rfl, entriesAlike⟩ := StatSlots.eq_of_alike alike
  unfold finish at finished ⊢
  simp only [Outcome.bind_eq_ok, Outcome.pure_eq, Outcome.ok.injEq] at finished ⊢
  obtain ⟨time, timeRead, rxnb, rxnbRead, rxok, rxokRead, rxfw, rxfwRead, ackr, ackrRead,
    dwnb, dwnbRead, txnb, txnbRead, entries, entriesRead, rfl⟩ := finished
  obtain ⟨entries', entriesRead', related⟩ := optionalField_alike entriesAlike entriesRead
  exact ⟨_, ⟨time, timeRead, rxnb, rxnbRead, rxok, rxokRead, rxfw, rxfwRead, ackr, ackrRead,
    dwnb, dwnbRead, txnb, txnbRead, entries', entriesRead', rfl⟩, entries', rfl, related⟩

/-- The time is written without escapes. -/
def StatPlain (value : Json) : Prop :=
  ∀ field, ("time", field) ∈ Json.fieldsFor statFields value → field.Borrowable

theorem Stat.deserialize_respects :
    Respects StatPlain Stat.Alike (Stat.deserialize crates) := by
  have empty : ∀ slot ∈ StatSlots.slots crates, slot.get {} = none := by simp [StatSlots.slots]
  have respects : Respects _ Stat.Alike (Stat.deserialize crates) :=
    struct_respects StatSlots.visit_fills empty fun _ _ _ _ => StatSlots.finish_alike
  refine respects.mono fun value plain name field member => ?_
  simp only [SuitsSlots, StatSlots.slots, List.forall_mem_cons]
  simp
  rintro rfl
  exact plain field member

end

/-! ## The payload -/

section

variable (crates : Crates) (profile : Profile)

def PushDataPayloadSlots.slots : List (Slot PushDataPayloadSlots) :=
  [⟨_, "rxpk", rxpk, _, _, _, (@RxPk.deserialize_respects crates profile).vec⟩,
    ⟨_, "stat", stat, _, _, _, (@Stat.deserialize_respects crates).option⟩]

end

section

variable {crates : Crates} {profile : Profile}

theorem PushDataPayloadSlots.visit_fills :
    FillsSlots (PushDataPayloadSlots.visit crates profile)
      (PushDataPayloadSlots.slots crates profile) where
  fills := by
    intro state state' name value visited
    unfold visit at visited
    split at visited
    case h_3 =>
      obtain ⟨readable, rfl⟩ := ignored_eq_ok.mp visited
      simp only [slots, List.forall_mem_cons, fills_single]
      simp_all
    all_goals
      obtain ⟨free, x, read, rfl⟩ := once_eq_ok.mp visited
      simp only [slots, List.forall_mem_cons, fills_single, String.reduceEq, if_true, if_false,
        free, read]
      simp
  accepts := by
    intro state name value readable fits
    simp only [slots, List.forall_mem_cons] at fits
    unfold visit
    split
    case h_3 => exact ⟨state, ignored_eq_ok.mpr ⟨readable, rfl⟩⟩
    all_goals
      simp at fits
      obtain ⟨free, x, read⟩ := fits
      exact ⟨_, once_eq_ok.mpr ⟨free, x, read, rfl⟩⟩

/-- Payloads that differ in the order of metadata only. -/
structure PushDataPayload.Alike (payload payload' : PushDataPayload) : Prop where
  rxpk : List.Forall₂ RxPk.Alike payload.rxpk payload'.rxpk
  stat : Option.Rel Stat.Alike payload.stat payload'.stat

theorem PushDataPayloadSlots.finish_alike {isArray : Bool} {state state' : PushDataPayloadSlots}
    {result : PushDataPayload}
    (alike : AlikeSlots (PushDataPayloadSlots.slots crates profile) state state')
    (finished : PushDataPayloadSlots.finish isArray state = .ok result) :
    ∃ result', PushDataPayloadSlots.finish isArray state' = .ok result' ∧
      result.Alike result' := by
  obtain ⟨objects, report⟩ := state
  obtain ⟨objects', report'⟩ := state'
  simp only [AlikeSlots, slots, List.forall_mem_cons] at alike
  obtain ⟨rxpk, stat, _⟩ := alike
  obtain ⟨first, statRead, finished⟩ := Outcome.bind_eq_ok.mp finished
  obtain rfl := Outcome.ok.inj finished
  obtain ⟨first', statRead', related⟩ := optionalField_alike stat statRead
  refine ⟨⟨objects'.getD [], first'⟩,
    Outcome.bind_eq_ok.mpr ⟨first', statRead', rfl⟩, ?_, related⟩
  cases rxpk with
  | some all => exact all
  | none => exact .nil

/-- All strings of the payload that are borrowed are written without escapes. -/
structure Plain (root : Json) : Prop where
  rxpk : ∀ field, ("rxpk", field) ∈ Json.fieldsFor ["rxpk", "stat"] root →
    ∀ item ∈ field.itemsOf, RxPkPlain item
  stat : ∀ field, ("stat", field) ∈ Json.fieldsFor ["rxpk", "stat"] root → StatPlain field

theorem PushDataPayload.deserialize_respects :
    Respects Plain PushDataPayload.Alike (PushDataPayload.deserialize crates profile) := by
  have empty : ∀ slot ∈ PushDataPayloadSlots.slots crates profile, slot.get {} = none := by
    simp [PushDataPayloadSlots.slots]
  have respects : Respects _ PushDataPayload.Alike (PushDataPayload.deserialize crates profile) :=
    struct_respects PushDataPayloadSlots.visit_fills empty
      fun _ _ _ _ => PushDataPayloadSlots.finish_alike
  refine respects.mono fun value plain name field member => ?_
  simp only [SuitsSlots, PushDataPayloadSlots.slots, List.forall_mem_cons]
  refine ⟨?_, ?_, nofun⟩
  · rintro rfl
    exact plain.rxpk field member
  · rintro rfl
    exact plain.stat field member

end

/-! ## Texts with the same value -/

section

variable {crates : Crates} {profile : Profile} {low high : UInt8}
  {gatewayId text text' : List UInt8}

end

/-- A size that does not fit is refused, and a data rate that the visitor panics on is not
reached; in the other order it is. -/
example : ∃ message,
    PushDataPayload.deserialize Crates.plain .release (.object [("rxpk", .array [.object
        [("size", .number (.posInt 300)), ("datr", .number (.negInt (-1)))]])]) = .err message ∧
    PushDataPayload.deserialize Crates.plain .release (.object [("rxpk", .array [.object
        [("datr", .number (.negInt (-1))), ("size", .number (.posInt 300))]])]) =
      .panic .unwrapNone :=
  ⟨_, rfl, rfl⟩

/-! ## A slash in the data -/

end MqttForwarder.SemtechUdp
