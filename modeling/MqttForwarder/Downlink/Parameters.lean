import MqttForwarder.Downlink.Acceptance
import MqttForwarder.Downlink.Readback

/-!
# What a PULL_RESP says about its item

The object for the packet forwarder has narrower numbers than the item, and a
width in kilohertz.  The numbers that do not fit are cut without an error.
The identifiers of the modulation and of the data rate are those that the
packet forwarder documents, except for FSK.
-/

namespace MqttForwarder.SemtechUdp

open MqttForwarder.Rust MqttForwarder.Serde

/-! ## Numbers -/

/-- The whole number that is written. -/
def wholeOf : Number → Option Int
  | .posInt value => some value.toNat
  | .negInt value => some value.toInt
  | .float _ => none

/-- The object shows a whole number under the name. -/
def ShowsNumber (fields : List (String × Json)) (name : String) (n : Int) : Prop :=
  ∃ number, fields.lookup name = some (.number number) ∧ wholeOf number = some n

section

variable {fields : List (String × Json)} {name : String} {m : Nat} {n : Int}

theorem showsNumber_iff (found : fields.lookup name = some (jsonNat m)) (word : m < 2 ^ 64) :
    ShowsNumber fields name n ↔ (m : Int) = n := by
  have number : (UInt64.ofNat m).toNat = m := UInt64.toNat_ofNat_of_lt' word
  constructor
  · rintro ⟨number', found', shown⟩
    cases found.symm.trans found'
    rw [wholeOf, number] at shown
    exact Option.some.inj shown
  · rintro rfl
    exact ⟨_, found, by rw [wholeOf, number]⟩

/-- A byte keeps a power that is not negative and fits. -/
theorem toUInt8_power (power : Int32) :
    (power.toUInt32.toUInt8.toNat : Int) = power.toInt ↔
      0 ≤ power.toInt ∧ power.toInt < 256 := by
  have bits : power.toInt = if 2 * power.toUInt32.toNat < 2 ^ 32 then
      (power.toUInt32.toNat : Int) else (power.toUInt32.toNat : Int) - (2 ^ 32 : Nat) :=
    BitVec.toInt_eq_toNat_cond power.toBitVec
  have bound := power.toUInt32.toNat_lt
  rw [UInt32.toNat_toUInt8, bits]
  split <;> omega

theorem toUInt8_word (value : UInt32) :
    (value.toUInt8.toNat : Int) = value.toNat ↔ value.toNat < 2 ^ 8 := by
  rw [UInt32.toNat_toUInt8]
  omega

theorem toUInt16_word (value : UInt32) :
    (value.toUInt16.toNat : Int) = value.toNat ↔ value.toNat < 2 ^ 16 := by
  rw [UInt32.toNat_toUInt16]
  omega

theorem ofNat_length (length : Nat) :
    ((UInt16.ofNat length).toNat : Int) = length ↔ length < 2 ^ 16 := by
  rw [UInt16.toNat_ofNat']
  omega

end

/-! ## Identifiers of data rates -/

/-- `SF<n>BW<kHz>`. -/
def loraIdentifier (sf : UInt32) (kHz : Nat) : String :=
  String.ofList ("SF".toList ++ decimal sf ++ "BW".toList ++ Nat.toDigits 10 kHz)

/-- `M0CW<kHz>`. -/
def lrFhssIdentifier (kHz : Nat) : String :=
  String.ofList ("M0CW".toList ++ Nat.toDigits 10 kHz)

/-- The identifier shows a width exactly if that is a whole number of kilohertz. -/
theorem kilohertz_iff (width : UInt32) (identifier : Nat → String) :
    (∃ kHz : Nat, some (jsonStr (identifier (width / 1000).toNat)) =
        some (jsonStr (identifier kHz)) ∧ kHz * 1000 = width.toNat) ↔
      width.toNat % 1000 = 0 := by
  have khz : (width / 1000).toNat = width.toNat / 1000 := UInt32.toNat_div ..
  constructor
  · rintro ⟨kHz, _, thousands⟩
    omega
  · intro whole
    exact ⟨_, rfl, by omega⟩

/-! ## Objects with the requested values -/

/-- The fields of the modulation have the requested values. -/
def ModulationAsRequested (fields : List (String × Json)) : Gw.ModulationParameters → Prop
  | .lora info =>
      (∃ kHz : Nat, fields.lookup "datr" =
          some (jsonStr (loraIdentifier info.spreadingFactor kHz)) ∧
        kHz * 1000 = info.bandwidth.toNat) ∧
      (ShowsNumber fields "prea" info.preamble.toNat ∨
        fields.lookup "prea" = none ∧ info.preamble.toNat = 0)
  | .fsk info =>
      ShowsNumber fields "datr" info.datarate.toNat ∧
      ShowsNumber fields "fdev" info.frequencyDeviation.toNat
  | .lrFhss info =>
      ∃ kHz : Nat, fields.lookup "datr" = some (jsonStr (lrFhssIdentifier kHz)) ∧
        kHz * 1000 = info.operatingChannelWidth.toNat

/-- The fields have the numbers that the item requests. -/
structure AsRequested (fields : List (String × Json)) (item : Gw.DownlinkFrameItem)
    (txInfo : Gw.DownlinkTxInfo) (timing : Gw.TimingParameters)
    (parameters : Gw.ModulationParameters) : Prop where
  powe : ShowsNumber fields "powe" txInfo.power.toInt
  ant : ShowsNumber fields "ant" txInfo.antenna.toNat
  brd : ShowsNumber fields "brd" txInfo.board.toNat
  size : ShowsNumber fields "size" item.phyPayload.length
  tmms : ∀ time, timing = .gpsEpoch ⟨some time⟩ →
    ∃ millis : Nat, ShowsNumber fields "tmms" millis ∧ millis * 1000000 = nanosOf time
  modulation : ModulationAsRequested fields parameters

/-- The values of the modulation fit the fields. -/
def ModulationFits : Gw.ModulationParameters → Prop
  | .lora info => info.bandwidth.toNat % 1000 = 0 ∧ info.preamble.toNat < 2 ^ 16
  | .fsk info => info.frequencyDeviation.toNat < 2 ^ 16
  | .lrFhss info => info.operatingChannelWidth.toNat % 1000 = 0

/-- The values of the item fit the fields: bytes, 16-bit lengths, and times and widths without
a fraction. -/
structure ItemFits (item : Gw.DownlinkFrameItem) (txInfo : Gw.DownlinkTxInfo)
    (timing : Gw.TimingParameters) (parameters : Gw.ModulationParameters) : Prop where
  power : 0 ≤ txInfo.power.toInt ∧ txInfo.power.toInt < 256
  antenna : txInfo.antenna.toNat < 2 ^ 8
  board : txInfo.board.toNat < 2 ^ 8
  payload : item.phyPayload.length < 2 ^ 16
  time : ∀ time, timing = .gpsEpoch ⟨some time⟩ →
    nanosOf time % 1000000 = 0 ∧ nanosOf time / 1000000 < 2 ^ 64
  modulation : ModulationFits parameters

section

variable {crates : Crates} {profile : Profile} {dl : Gw.DownlinkFrame} {i : Nat} {token : UInt16}
  {item : Gw.DownlinkFrameItem} {txInfo : Gw.DownlinkTxInfo} {timing : Gw.TimingParameters}
  {parameters : Gw.ModulationParameters} {tmst : Option UInt32} {tmms : Option UInt64}
  {fields : List (String × Json)}

theorem byte_word (byte : UInt8) : byte.toNat < 2 ^ 64 :=
  Nat.lt_trans byte.toNat_lt (by decide)

theorem short_word (short : UInt16) : short.toNat < 2 ^ 64 :=
  Nat.lt_trans short.toNat_lt (by decide)

theorem word_word (word : UInt32) : word.toNat < 2 ^ 64 :=
  Nat.lt_trans word.toNat_lt (by decide)

/-- The fields that the reader has no use for. -/
theorem TxPk.serialize_settings (crates : Crates) (txpk : TxPk) :
    ∃ fields, txpk.serialize crates = .object fields ∧ Carries crates txpk fields ∧
      fields.lookup "powe" = some (jsonNat txpk.powe.toNat) ∧
      fields.lookup "ant" = some (jsonNat txpk.ant.toNat) ∧
      fields.lookup "brd" = some (jsonNat txpk.brd.toNat) := by
  obtain ⟨fields, serialized, carries⟩ := txpk.serialize_carries crates
  refine ⟨fields, serialized, carries, ?_⟩
  obtain rfl := Json.object.inj serialized
  refine ⟨?_, ?_, ?_⟩ <;> simp [List.lookup_cons]

/-- The modulation is shown as requested exactly if its values fit. -/
theorem modulationAsRequested_iff
    (carries : Carries crates (TxPk.ofItem item txInfo timing parameters tmst tmms) fields) :
    ModulationAsRequested fields parameters ↔ ModulationFits parameters := by
  cases parameters with
  | lora info =>
      refine and_congr ?_ ?_
      · rw [carries.datr]
        exact kilohertz_iff info.bandwidth (loraIdentifier info.spreadingFactor)
      · have prea := carries.prea
        simp only [TxPk.ofItem, preaOf] at prea
        by_cases none : info.preamble.toNat = 0
        · exact iff_of_true (.inr ⟨by
            rw [prea, if_neg (by rw [gt_iff_lt, UInt32.lt_iff_toNat_lt]; simp [none])]
            rfl, none⟩) (by omega)
        · rw [if_pos (by rw [gt_iff_lt, UInt32.lt_iff_toNat_lt]; simp; omega)] at prea
          rw [showsNumber_iff prea (short_word _), toUInt16_word]
          exact or_iff_left fun both => none both.2
  | fsk info =>
      refine Iff.trans (and_iff_right ?_) ?_
      · exact (showsNumber_iff carries.datr (word_word _)).mpr rfl
      · rw [showsNumber_iff carries.fdev (short_word _)]
        exact toUInt16_word info.frequencyDeviation
  | lrFhss info =>
      rw [ModulationAsRequested, carries.datr]
      exact kilohertz_iff info.operatingChannelWidth lrFhssIdentifier

/-- The GPS time is shown as requested exactly if it is a whole number of milliseconds that fits
64 bits. -/
theorem gpsTime_iff (carries : Carries crates (TxPk.ofItem item txInfo timing parameters tmst tmms)
    fields) (computed : tmmsOf timing = .ok tmms) {time : Gw.Duration}
    (known : timing = .gpsEpoch ⟨some time⟩) :
    (∃ millis : Nat, ShowsNumber fields "tmms" millis ∧ millis * 1000000 = nanosOf time) ↔
      nanosOf time % 1000000 = 0 ∧ nanosOf time / 1000000 < 2 ^ 64 := by
  subst known
  obtain ⟨time', same, computed⟩ := Outcome.bind_eq_ok.mp computed
  obtain ⟨nanos, converted, computed⟩ := Outcome.bind_eq_ok.mp computed
  obtain rfl : time = time' := Option.some.inj (Outcome.okOr_eq_ok.mp same)
  obtain rfl := (tryInto_eq_ok.mp converted).2
  obtain rfl : some _ = tmms := Outcome.ok.inj computed
  have shown := carries.tmms
  have word : (UInt64.ofNat (nanosOf time / 1000000)).toNat =
      nanosOf time / 1000000 % 2 ^ 64 := UInt64.toNat_ofNat'
  simp only [showsNumber_iff shown (UInt64.toNat_lt _), word]
  constructor
  · rintro ⟨millis, same, whole⟩
    omega
  · rintro ⟨whole, bounded⟩
    exact ⟨nanosOf time / 1000000, by omega, by omega⟩

/-- An object shows its item as requested exactly if the values of the item fit. -/
theorem asRequested_iff (serialized :
      (TxPk.ofItem item txInfo timing parameters tmst tmms).serialize crates = .object fields)
    (computed : tmmsOf timing = .ok tmms) :
    AsRequested fields item txInfo timing parameters ↔ ItemFits item txInfo timing parameters := by
  obtain ⟨fields', serialized', carries, powe, ant, brd⟩ :=
    (TxPk.ofItem item txInfo timing parameters tmst tmms).serialize_settings crates
  obtain rfl := Json.object.inj (serialized.symm.trans serialized')
  have power := (showsNumber_iff powe (byte_word _)).trans (toUInt8_power txInfo.power)
  have antenna := (showsNumber_iff ant (byte_word _)).trans (toUInt8_word txInfo.antenna)
  have board := (showsNumber_iff brd (byte_word _)).trans (toUInt8_word txInfo.board)
  have payload := (showsNumber_iff carries.size (short_word _)).trans
    (ofNat_length item.phyPayload.length)
  have modulation := modulationAsRequested_iff carries
  constructor
  · intro requested
    exact ⟨power.mp requested.powe, antenna.mp requested.ant, board.mp requested.brd,
      payload.mp requested.size,
      fun time known => (gpsTime_iff carries computed known).mp (requested.tmms time known),
      modulation.mp requested.modulation⟩
  · intro fits
    exact ⟨power.mpr fits.power, antenna.mpr fits.antenna, board.mpr fits.board,
      payload.mpr fits.payload,
      fun time known => (gpsTime_iff carries computed known).mpr (fits.time time known),
      modulation.mpr fits.modulation⟩

end

/-! ## Items that are shown as requested -/

/-- The datagram has an object with the fields. -/
def Emits (crates : Crates) (resp : PullResp) (fields : List (String × Json)) : Prop :=
  ∃ b, resp.toVec crates = .ok b ∧
    b.drop 4 = crates.writeJson (.object [("txpk", .object fields)])

/-- The item is refused, or its datagram has the numbers that it requests. -/
def RefusedOrAsRequested (crates : Crates) (profile : Profile) (dl : Gw.DownlinkFrame) (i : Nat)
    (token : UInt16) : Prop :=
  (∃ message, PullResp.fromProto profile dl i token = .err message) ∨
    ∃ resp item txInfo timing parameters fields,
      PullResp.fromProto profile dl i token = .ok resp ∧
      Requested dl i item txInfo timing parameters ∧
      resp.payload.txpk.serialize crates = .object fields ∧ Emits crates resp fields ∧
      AsRequested fields item txInfo timing parameters

section

variable {crates : Crates} {profile : Profile} {dl : Gw.DownlinkFrame} {i : Nat} {token : UInt16}
  {item : Gw.DownlinkFrameItem} {txInfo : Gw.DownlinkTxInfo} {timing : Gw.TimingParameters}
  {parameters : Gw.ModulationParameters} {tmst : Option UInt32} {tmms : Option UInt64}
  {fields : List (String × Json)}

theorem PullResp.emits {resp : PullResp}
    (serialized : resp.payload.txpk.serialize crates = .object fields) :
    Emits crates resp fields :=
  ⟨_, rfl, by rw [PullRespPayload.serialize, serialized]; rfl⟩

/-- Exactly the items whose values fit are shown as requested; for the others a number is cut, or
a checked sum panics. -/
theorem PullResp.refusedOrAsRequested_iff (crates : Crates) (profile : Profile)
    (dl : Gw.DownlinkFrame) (i : Nat) (token : UInt16) :
    RefusedOrAsRequested crates profile dl i token ↔
      ∀ item txInfo timing parameters, Requested dl i item txInfo timing parameters →
        Timed txInfo.context timing →
        Unchecked profile txInfo.context timing ∧ ItemFits item txInfo timing parameters := by
  constructor
  · rintro (refused | ⟨resp, item, txInfo, timing, parameters, fields, accepted, requested,
      serialized, _, asRequested⟩) item' txInfo' timing' parameters' again timed
    · exact absurd ⟨item', txInfo', timing', parameters', again, timed⟩
        (PullResp.fromProto_refused_iff.mp refused)
    · obtain ⟨rfl, rfl, rfl, rfl⟩ := requested.unique again
      refine ⟨(requested.accepted_iff.mp ⟨resp, accepted⟩).2, ?_⟩
      obtain ⟨_, _, _, _, tmst, tmms, again, _, computed, rfl⟩ :=
        PullResp.fromProto_eq_ok.mp accepted
      obtain ⟨rfl, rfl, rfl, rfl⟩ := requested.unique again
      exact (asRequested_iff serialized computed).mp asRequested
  · intro fits
    by_cases acceptable : Acceptable dl i
    · obtain ⟨item, txInfo, timing, parameters, requested, timed⟩ := acceptable
      obtain ⟨unchecked, itemFits⟩ := fits item txInfo timing parameters requested timed
      obtain ⟨tmst, tmms, computed, computed'⟩ :=
        (times_exist_iff profile timing).mpr ⟨timed, unchecked⟩
      obtain ⟨fields, serialized, _⟩ :=
        (TxPk.ofItem item txInfo timing parameters tmst tmms).serialize_settings crates
      exact .inr ⟨_, item, txInfo, timing, parameters, fields,
        PullResp.fromProto_eq_ok.mpr
          ⟨item, txInfo, timing, parameters, tmst, tmms, requested, computed, computed', rfl⟩,
        requested, serialized, PullResp.emits serialized,
        (asRequested_iff serialized computed').mpr itemFits⟩
    · exact .inl (PullResp.fromProto_refused_iff.mpr acceptable)

/-! ## The documented vocabulary -/

/-- The identifiers that are documented at `TxPk`, which says nothing about LR-FHSS. -/
def Conforms (fields : List (String × Json)) : Gw.ModulationParameters → Prop
  | .lora info =>
      fields.lookup "modu" = some (jsonStr "LORA") ∧
      fields.lookup "datr" =
        some (jsonStr (loraIdentifier info.spreadingFactor (info.bandwidth.toNat / 1000)))
  | .fsk info =>
      fields.lookup "modu" = some (jsonStr "FSK") ∧ ShowsNumber fields "datr" info.datarate.toNat
  | .lrFhss _ => True

/-- The objects of all modulations but FSK conform. -/
theorem ofItem_conforms_iff
    (carries : Carries crates (TxPk.ofItem item txInfo timing parameters tmst tmms) fields) :
    Conforms fields parameters ↔ ∀ info, parameters ≠ .fsk info := by
  cases parameters with
  | lora info =>
      have khz : (info.bandwidth / 1000).toNat = info.bandwidth.toNat / 1000 :=
        UInt32.toNat_div ..
      refine iff_of_true ⟨carries.modu, ?_⟩ fun _ impossible => by cases impossible
      rw [carries.datr, ← khz]
      rfl
  | fsk info =>
      refine iff_of_false ?_ fun different => different info rfl
      rintro ⟨modu, _⟩
      have written : jsonStr "Fsk" = jsonStr "FSK" :=
        Option.some.inj (carries.modu.symm.trans modu)
      simp [jsonStr] at written
  | lrFhss info => exact iff_of_true trivial fun _ impossible => by cases impossible

/-- The datagram of an accepted item has the documented identifiers exactly if its modulation is
not FSK. -/
theorem PullResp.conforms_iff {resp : PullResp}
    (accepted : PullResp.fromProto profile dl i token = .ok resp)
    (requested : Requested dl i item txInfo timing parameters) (crates : Crates) :
    (∃ fields, resp.payload.txpk.serialize crates = .object fields ∧ Emits crates resp fields ∧
        Conforms fields parameters) ↔ ∀ info, parameters ≠ .fsk info := by
  obtain ⟨_, _, _, _, tmst, tmms, again, _, _, rfl⟩ := PullResp.fromProto_eq_ok.mp accepted
  obtain ⟨rfl, rfl, rfl, rfl⟩ := again.unique requested
  obtain ⟨fields, serialized, carries⟩ :=
    (TxPk.ofItem item txInfo timing parameters tmst tmms).serialize_carries crates
  constructor
  · rintro ⟨fields', serialized', _, conforms⟩
    obtain rfl := Json.object.inj (serialized.symm.trans serialized')
    exact (ofItem_conforms_iff carries).mp conforms
  · intro different
    exact ⟨fields, serialized, PullResp.emits serialized,
      (ofItem_conforms_iff carries).mpr different⟩

end

/-! ## A negative power and an FSK downlink -/

def immediateTxInfo (power : Int32) (parameters : Gw.ModulationParameters) :
    Gw.DownlinkTxInfo where
  frequency := 868100000
  power
  modulation := some ⟨some parameters⟩
  board := 0
  antenna := 0
  timing := some ⟨some .immediately⟩
  context := []

def immediateFrame (power : Int32) (parameters : Gw.ModulationParameters) :
    Gw.DownlinkFrame where
  downlinkId := 1
  items := [{ phyPayload := [1], txInfo := some (immediateTxInfo power parameters) }]
  gatewayId := "0000000000000001"

def fskParameters : Gw.ModulationParameters :=
  .fsk { frequencyDeviation := 25000, datarate := 50000 }

theorem immediateFrame_requested (power : Int32) (parameters : Gw.ModulationParameters) :
    Requested (immediateFrame power parameters) 0
      ⟨[1], some (immediateTxInfo power parameters)⟩ (immediateTxInfo power parameters)
      .immediately parameters :=
  ⟨rfl, rfl, rfl, rfl⟩

/-- A power of -1 dBm becomes one of 255 dBm. -/
theorem power_changes_sign :
    ¬ ∀ (crates : Crates) (profile : Profile) (dl : Gw.DownlinkFrame) (i : Nat)
      (token : UInt16), RefusedOrAsRequested crates profile dl i token := by
  intro faithful
  have requested := immediateFrame_requested (-1) fskParameters
  rcases faithful .plain .release (immediateFrame (-1) fskParameters) 0 1 with
    ⟨message, refused⟩ | ⟨resp, item, txInfo, timing, parameters, fields, accepted, again,
      serialized, _, asRequested⟩
  · cases refused
  · obtain ⟨rfl, rfl, rfl, rfl⟩ := requested.unique again
    obtain ⟨number, found, whole⟩ := asRequested.powe
    cases accepted
    cases serialized
    cases found
    exact absurd whole (by decide)

theorem PullResp.conforms_iff_fsk :
    ∃ resp, PullResp.fromProto .release (immediateFrame 14 fskParameters) 0 1 = .ok resp ∧
      ((∃ fields, resp.payload.txpk.serialize .plain = .object fields ∧
        Emits .plain resp fields ∧ Conforms fields fskParameters) ↔
      ∀ info, fskParameters ≠ .fsk info) :=
  ⟨_, rfl, PullResp.conforms_iff (show PullResp.fromProto .release _ 0 1 = .ok _ from rfl)
    (immediateFrame_requested 14 fskParameters) .plain⟩

/-- The identifier of an FSK downlink is not the documented one. -/
theorem fsk_misspelled :
    ¬ ∀ (crates : Crates) (profile : Profile) (dl : Gw.DownlinkFrame) (i : Nat)
      (token : UInt16) (resp : PullResp) (item : Gw.DownlinkFrameItem)
      (txInfo : Gw.DownlinkTxInfo) (timing : Gw.TimingParameters)
      (parameters : Gw.ModulationParameters),
      PullResp.fromProto profile dl i token = .ok resp →
      Requested dl i item txInfo timing parameters →
      ∃ fields, resp.payload.txpk.serialize crates = .object fields ∧
        Emits crates resp fields ∧ Conforms fields parameters := by
  intro conforming
  obtain ⟨fields, serialized, _, conforms⟩ := conforming .plain .release
    (immediateFrame 14 fskParameters) 0 1 _ _ _ _ _ rfl (immediateFrame_requested 14 fskParameters)
  obtain ⟨fields', serialized', carries⟩ := TxPk.serialize_carries .plain
    (TxPk.ofItem ⟨[1], some (immediateTxInfo 14 fskParameters)⟩ (immediateTxInfo 14 fskParameters)
      .immediately fskParameters none none)
  obtain rfl := Json.object.inj (serialized'.symm.trans serialized)
  exact (ofItem_conforms_iff carries).mp conforms _ rfl

end MqttForwarder.SemtechUdp
