import MqttForwarder.SemtechUdp.PushData
import MqttForwarder.Serde.Visitors

/-!
# PULL_RESP and TX_ACK

How an item of a downlink frame becomes the `txpk` object of a PULL_RESP, and
how the answer of the packet forwarder is read.
-/

namespace MqttForwarder.SemtechUdp

open MqttForwarder.Rust MqttForwarder.Serde

/-! ## PULL_RESP -/

structure TxPk where
  imme : Bool
  rfch : UInt8
  powe : UInt8
  ant : UInt8
  brd : UInt8
  tmst : Option UInt32
  tmms : Option UInt64
  freq : Float
  modu : Modulation
  datr : DataRate
  codr : Option CodeRate
  fdev : Option UInt16
  ncrc : Option Bool
  ipol : Option Bool
  prea : Option UInt16
  size : UInt16
  data : List UInt8
  deriving DecidableEq

structure PullRespPayload where
  txpk : TxPk
  deriving DecidableEq

structure PullResp where
  randomToken : UInt16
  payload : PullRespPayload
  deriving DecidableEq

/-- The concentrator timestamp of a delayed downlink. -/
def tmstOf (profile : Profile) (txInfo : Gw.DownlinkTxInfo) :
    Gw.TimingParameters → Outcome (Option UInt32)
  | .delay v =>
      if txInfo.context.length < 4 then .err "context must contain at least 4 bytes"
      else do
        let timestamp ← slice txInfo.context 0 4
        let delay ← Outcome.okOr v.delay "delay is missing"
        let delay ← delay.tryInto
        let timestamp ← addU32 profile (u32FromBe timestamp) (UInt32.ofNat (delay / 1000))
        pure (some timestamp)
  | _ => pure none

/-- The GPS time in milliseconds of a downlink on GPS time. -/
def tmmsOf : Gw.TimingParameters → Outcome (Option UInt64)
  | .gpsEpoch v => do
      let gpsTime ← Outcome.okOr v.timeSinceGpsEpoch "time_since_gps_epoch is missing"
      let gpsTime ← gpsTime.tryInto
      pure (some (UInt64.ofNat (gpsTime / 1000000)))
  | _ => pure none

def moduOf : Gw.ModulationParameters → Modulation
  | .lora _ => .lora
  | .fsk _ => .fsk
  | .lrFhss _ => .lrFhss

def datrOf : Gw.ModulationParameters → DataRate
  | .lora v => .lora v.spreadingFactor v.bandwidth
  | .fsk v => .fsk v.datarate
  | .lrFhss v => .lrFhss v.operatingChannelWidth

def codrOf : Gw.ModulationParameters → Option CodeRate
  | .lora v => some (CodeRate.fromProto v.getCodeRate)
  | _ => none

def fdevOf : Gw.ModulationParameters → Option UInt16
  | .fsk v => some v.frequencyDeviation.toUInt16
  | _ => none

def ncrcOf : Gw.ModulationParameters → Option Bool
  | .lora v => if v.noCrc then some v.noCrc else none
  | _ => none

def ipolOf : Gw.ModulationParameters → Option Bool
  | .lora v => some v.polarizationInversion
  | _ => none

def preaOf : Gw.ModulationParameters → Option UInt16
  | .lora v => if v.preamble > 0 then some v.preamble.toUInt16 else none
  | _ => none

def PullResp.fromProto (profile : Profile) (pl : Gw.DownlinkFrame) (i : Nat)
    (randomToken : UInt16) : Outcome PullResp := do
  let item ← Outcome.okOr pl.items[i]? "Invalid index"
  let txInfo ← Outcome.okOr item.txInfo "tx_info is missing"
  let timing ← Outcome.okOr txInfo.timing "tx_info.timing is missing"
  let timingParams ← Outcome.okOr timing.parameters "tx_info.timing.parameters is missing"
  let modulation ← Outcome.okOr txInfo.modulation "tx_info.modulation is missing"
  let modulationParams ← Outcome.okOr modulation.parameters
    "tx_info.modulation.parameters is missing"
  let tmst ← tmstOf profile txInfo timingParams
  let tmms ← tmmsOf timingParams
  pure {
    randomToken
    payload := {
      txpk := {
        imme := timing.parameters = some .immediately
        rfch := 0
        powe := txInfo.power.toUInt32.toUInt8
        ant := txInfo.antenna.toUInt8
        brd := txInfo.board.toUInt8
        tmst
        tmms
        freq := txInfo.frequency.toFloat / 1000000
        modu := moduOf modulationParams
        datr := datrOf modulationParams
        codr := codrOf modulationParams
        fdev := fdevOf modulationParams
        ncrc := ncrcOf modulationParams
        ipol := ipolOf modulationParams
        prea := preaOf modulationParams
        size := UInt16.ofNat item.phyPayload.length
        data := item.phyPayload } } }

/-- An accepted item exists and names its transmit parameters and its modulation. -/
theorem PullResp.fromProto_item {profile : Profile} {pl : Gw.DownlinkFrame} {i : Nat}
    {randomToken : UInt16} {resp : PullResp}
    (accepted : PullResp.fromProto profile pl i randomToken = .ok resp) :
    ∃ item txInfo modulation, pl.items[i]? = some item ∧ item.txInfo = some txInfo ∧
      txInfo.modulation = some modulation := by
  simp only [PullResp.fromProto, Outcome.bind_eq_ok, Outcome.okOr_eq_ok] at accepted
  obtain ⟨item, hitem, txInfo, htxInfo, _, _, _, _, modulation, hmodulation, _⟩ := accepted
  exact ⟨item, txInfo, modulation, hitem, htxInfo, hmodulation⟩

theorem PullResp.fromProto_lt {profile : Profile} {pl : Gw.DownlinkFrame} {i : Nat}
    {randomToken : UInt16} {resp : PullResp}
    (accepted : PullResp.fromProto profile pl i randomToken = .ok resp) :
    i < pl.items.length := by
  obtain ⟨item, _, _, hitem, _⟩ := PullResp.fromProto_item accepted
  exact (List.getElem?_eq_some_iff.mp hitem).1

theorem PullResp.fromProto_token {profile : Profile} {pl : Gw.DownlinkFrame} {i : Nat}
    {randomToken : UInt16} {resp : PullResp}
    (accepted : PullResp.fromProto profile pl i randomToken = .ok resp) :
    resp.randomToken = randomToken := by
  simp only [PullResp.fromProto, Outcome.bind_eq_ok, Outcome.pure_eq, Outcome.ok.injEq]
    at accepted
  obtain ⟨_, _, _, _, _, _, _, _, _, _, _, _, _, _, _, _, rfl⟩ := accepted
  rfl

theorem tryInto_calm (duration : Gw.Duration) : duration.tryInto.Calm := by
  unfold Gw.Duration.tryInto
  split
  · exact Outcome.calm_ok _
  · exact Outcome.calm_err _

theorem addU32_eq_panic {profile : Profile} {a b : UInt32} {cause : Panic}
    (panics : addU32 profile a b = .panic cause) : profile = .debug ∧ cause = .addOverflow := by
  unfold addU32 at panics
  split at panics
  · next overflows => exact ⟨overflows.1, (Outcome.panic.inj panics).symm⟩
  · cases panics

theorem tmstOf_eq_panic {profile : Profile} {txInfo : Gw.DownlinkTxInfo}
    {parameters : Gw.TimingParameters} {cause : Panic}
    (panics : tmstOf profile txInfo parameters = .panic cause) :
    profile = .debug ∧ cause = .addOverflow := by
  cases parameters with
  | immediately => cases panics
  | gpsEpoch info => cases panics
  | delay v =>
      simp only [tmstOf] at panics
      split at panics
      · cases panics
      · next long =>
          rw [slice_of_le (by omega) (by omega), Outcome.ok_bind, Outcome.bind_eq_panic] at panics
          rcases panics with missing | ⟨delay, _, panics⟩
          · exact absurd missing (Outcome.calm_okOr _ _ cause)
          · rcases Outcome.bind_eq_panic.mp panics with negative | ⟨micros, _, panics⟩
            · exact absurd negative (tryInto_calm delay cause)
            · rcases Outcome.bind_eq_panic.mp panics with overflows | ⟨_, _, impossible⟩
              · exact addU32_eq_panic overflows
              · cases impossible

theorem tmmsOf_calm (parameters : Gw.TimingParameters) : (tmmsOf parameters).Calm := by
  cases parameters with
  | immediately => exact Outcome.calm_ok _
  | delay info => exact Outcome.calm_ok _
  | gpsEpoch v =>
      refine Outcome.calm_bind.mpr ⟨Outcome.calm_okOr _ _, fun gpsTime _ => ?_⟩
      exact Outcome.calm_bind.mpr ⟨tryInto_calm _, fun _ _ => Outcome.calm_ok _⟩

/-- The conversion of an item panics only where a debug build checks the sum of the
concentrator timestamp and the delay. -/
theorem PullResp.fromProto_eq_panic {profile : Profile} {pl : Gw.DownlinkFrame} {i : Nat}
    {randomToken : UInt16} {cause : Panic}
    (panics : PullResp.fromProto profile pl i randomToken = .panic cause) :
    profile = .debug ∧ cause = .addOverflow := by
  simp only [PullResp.fromProto, Outcome.bind_eq_panic] at panics
  have calm : ∀ {α : Type} (x : Option α) (message : String),
      Outcome.okOr x message ≠ .panic cause := fun x message => Outcome.calm_okOr x message cause
  rcases panics with missing | ⟨item, _, missing | ⟨txInfo, _, missing | ⟨timing, _, missing |
    ⟨timingParams, _, missing | ⟨modulation, _, missing | ⟨modulationParams, _, overflows |
    ⟨tmst, _, negative | ⟨tmms, _, impossible⟩⟩⟩⟩⟩⟩⟩⟩
  · exact absurd missing (calm _ _)
  · exact absurd missing (calm _ _)
  · exact absurd missing (calm _ _)
  · exact absurd missing (calm _ _)
  · exact absurd missing (calm _ _)
  · exact absurd missing (calm _ _)
  · exact tmstOf_eq_panic overflows
  · exact absurd negative (tmmsOf_calm _ cause)
  · cases impossible

/-! ### The written object -/

/-- A field with `skip_serializing_if = "Option::is_none"`. -/
def unlessNone {α : Type} (name : String) (write : α → Json) : Option α → List (String × Json)
  | some value => [(name, write value)]
  | none => []

def TxPk.serialize (crates : Crates) (txpk : TxPk) : Json :=
  .object (
    [("imme", .bool txpk.imme), ("rfch", jsonNat txpk.rfch.toNat),
      ("powe", jsonNat txpk.powe.toNat), ("ant", jsonNat txpk.ant.toNat),
      ("brd", jsonNat txpk.brd.toNat)] ++
    unlessNone "tmst" (fun x => jsonNat x.toNat) txpk.tmst ++
    unlessNone "tmms" (fun x => jsonNat x.toNat) txpk.tmms ++
    [("freq", .number (.float txpk.freq)), ("modu", txpk.modu.serialize),
      ("datr", txpk.datr.serialize)] ++
    unlessNone "codr" CodeRate.serialize txpk.codr ++
    unlessNone "fdev" (fun x => jsonNat x.toNat) txpk.fdev ++
    unlessNone "ncrc" Json.bool txpk.ncrc ++
    unlessNone "ipol" Json.bool txpk.ipol ++
    unlessNone "prea" (fun x => jsonNat x.toNat) txpk.prea ++
    [("size", jsonNat txpk.size.toNat), ("data", jsonStr (crates.base64Encode txpk.data))])

def PullRespPayload.serialize (crates : Crates) (payload : PullRespPayload) : Json :=
  .object [("txpk", payload.txpk.serialize crates)]

def PullResp.toVec (crates : Crates) (resp : PullResp) : Outcome (List UInt8) :=
  .ok ([protocolVersion] ++ u16ToLe resp.randomToken ++ [0x03] ++
    crates.writeJson (resp.payload.serialize crates))

/-- The token in the second and third byte of a datagram. -/
def tokenOf (b : List UInt8) : UInt16 := u16FromLe ((b.drop 1).take 2)

theorem PullResp.tokenOf_toVec (crates : Crates) {resp : PullResp} {b : List UInt8}
    (written : resp.toVec crates = .ok b) : tokenOf b = resp.randomToken := by
  cases written
  exact u16FromLe_u16ToLe resp.randomToken

/-! ## TX_ACK -/

structure TxPkAck where
  error : String := ""
  deriving DecidableEq, Repr

structure TxAckPayload where
  txpkAck : TxPkAck
  deriving DecidableEq, Repr

structure TxAck where
  randomToken : UInt16
  gatewayId : List UInt8
  payload : Option TxAckPayload
  deriving DecidableEq, Repr

def TxPkAck.visit (slots : Option String) (key : String) (value : Json) :
    Outcome (Option String) :=
  match key with
  | "error" => Json.once slots key value.text some
  | _ => value.ignored slots

def TxPkAck.deserialize : Json → Outcome TxPkAck :=
  Json.struct ["error"] TxPkAck.visit none fun _ slots => .ok ⟨slots.getD ""⟩

def TxAckPayload.visit (slots : Option TxPkAck) (key : String) (value : Json) :
    Outcome (Option TxPkAck) :=
  match key with
  | "txpk_ack" => Json.once slots key (TxPkAck.deserialize value) some
  | _ => value.ignored slots

def TxAckPayload.deserialize : Json → Outcome TxAckPayload :=
  Json.struct ["txpk_ack"] TxAckPayload.visit none fun _ slots =>
    TxAckPayload.mk <$> Json.required slots "txpk_ack"

def TxAck.fromSlice (crates : Crates) (b : List UInt8) : Outcome TxAck :=
  if b.length < 12 then
    .err ("Expected at least 12 bytes, got: " ++ toString b.length)
  else do
    let (randomToken, gatewayId) ← header b 0x05
    if 14 ≤ b.length then do
      let text ← slice b 12 b.length
      let payload ← fromJson TxAckPayload.deserialize (crates.readJson text)
      pure { randomToken, gatewayId, payload := some payload }
    else pure { randomToken, gatewayId, payload := none }

theorem TxPkAck.deserialize_calm (value : Json) : (TxPkAck.deserialize value).Calm := by
  refine Json.struct_calm (fun slots key value => ?_) (fun _ _ => Outcome.calm_ok _) value
  unfold TxPkAck.visit
  split
  · exact Json.once_calm (Json.text_calm _)
  · exact Json.ignored_calm _ _

theorem TxAckPayload.deserialize_calm (value : Json) :
    (TxAckPayload.deserialize value).Calm := by
  refine Json.struct_calm (fun slots key value => ?_) (fun _ _ => ?_) value
  · unfold TxAckPayload.visit
    split
    · exact Json.once_calm (TxPkAck.deserialize_calm _)
    · exact Json.ignored_calm _ _
  · exact Json.map_calm.mpr (Json.required_calm _ _)

theorem fromJson_calm {α : Type} {visit : Json → Outcome α} {document : Document}
    (calm : (visit document.root).Calm) : (fromJson visit document).Calm := by
  refine Outcome.calm_bind.mpr ⟨calm, fun _ _ => ?_⟩
  split
  · exact Outcome.calm_err _
  · exact Outcome.calm_ok _

/-- No datagram makes the reader of TX_ACKs panic. -/
theorem TxAck.fromSlice_calm (crates : Crates) (b : List UInt8) :
    (TxAck.fromSlice crates b).Calm := by
  unfold TxAck.fromSlice
  split
  · exact Outcome.calm_err _
  · next long =>
      refine Outcome.calm_bind.mpr ⟨header_calm (by omega) _, fun fields _ => ?_⟩
      obtain ⟨randomToken, gatewayId⟩ := fields
      by_cases payload : 14 ≤ b.length
      · simp only [payload, if_true]
        rw [slice_of_le (by omega) le_rfl, Outcome.ok_bind]
        exact Outcome.calm_bind.mpr
          ⟨fromJson_calm (TxAckPayload.deserialize_calm _), fun _ _ => Outcome.calm_ok _⟩
      · simp only [payload, if_false]
        exact Outcome.calm_ok _

def TxAck.statusOf : String → Gw.TxAckStatus
  | "" => .ok
  | "NONE" => .ok
  | "TOO_LATE" => .tooLate
  | "TOO_EARLY" => .tooEarly
  | "COLLISION_PACKET" => .collisionPacket
  | "COLLISION_BEACON" => .collisionBeacon
  | "TX_FREQ" => .txFreq
  | "TX_POWER" => .txPower
  | "GPS_UNLOCKED" => .gpsUnlocked
  | _ => .internalError

def TxAck.toProtoTxAckStatus (ack : TxAck) : Gw.TxAckStatus :=
  match ack.payload with
  | some pl => TxAck.statusOf pl.txpkAck.error
  | none => .ok

/-- A TX_ACK never reports `Ignored`. -/
theorem TxAck.toProtoTxAckStatus_ne_ignored (ack : TxAck) :
    ack.toProtoTxAckStatus ≠ .ignored := by
  unfold TxAck.toProtoTxAckStatus
  split
  · unfold TxAck.statusOf
    split <;> decide
  · decide

end MqttForwarder.SemtechUdp
