import MqttForwarder.SemtechUdp.Datagram
import MqttForwarder.SemtechUdp.Fields

/-!
# PUSH_DATA

The `rxpk` and `stat` objects, how they are read from a datagram, and how they
become uplink frames and gateway statistics.
-/

namespace MqttForwarder.SemtechUdp

open MqttForwarder.Rust MqttForwarder.Serde

/-! ## Objects -/

structure RSig where
  ant : UInt8
  chan : UInt8
  rssic : Int16
  lsnr : Option Float32
  deriving DecidableEq

structure RxPk where
  time : Option Gw.Timestamp := none
  tmms : Option UInt64 := none
  tmst : UInt32
  ftime : Option UInt32 := none
  freq : Float
  chan : UInt32 := 0
  rfch : UInt32 := 0
  brd : UInt32 := 0
  ant : UInt8 := 0
  stat : Crc
  modu : Modulation
  datr : DataRate
  codr : Option CodeRate := none
  rssi : Int32 := 0
  lsnr : Option Float32 := none
  hpw : Option UInt8 := none
  size : UInt8
  data : List UInt8
  rsig : List RSig := []
  «meta» : Option (HashMap String String) := none

structure Stat where
  time : Gw.Timestamp
  lati : Float := 0
  long : Float := 0
  alti : Float := 0
  rxnb : UInt32
  rxok : UInt32
  rxfw : UInt32
  ackr : Float32
  dwnb : UInt32
  txnb : UInt32
  «meta» : Option (HashMap String String) := none

structure PushDataPayload where
  rxpk : List RxPk
  stat : Option Stat

structure PushData where
  randomToken : UInt16
  gatewayId : List UInt8
  payload : PushDataPayload

/-! ## Time and binary fields -/

/-- `compact_time_format::deserialize`. -/
def compactTime (crates : Crates) (value : Json) : Outcome (Option Gw.Timestamp) := do
  let o ← value.option Json.str
  match o with
  | some v => some <$> Outcome.okOr (crates.parseCompactTime v) "input contains invalid characters"
  | none => pure none

/-- `expanded_time_format::deserialize`. -/
def expandedTime (crates : Crates) (value : Json) : Outcome Gw.Timestamp := do
  let s ← value.str
  Outcome.okOr (crates.parseExpandedTime s) "input contains invalid characters"

/-- `base64_bytes::deserialize`. -/
def base64Bytes (crates : Crates) (value : Json) : Outcome (List UInt8) := do
  let s ← value.str
  Outcome.okOr (crates.base64Decode s) "Invalid symbol"

/-! ## Deserialization of `rsig` -/

structure RSigSlots where
  ant : Option UInt8 := none
  chan : Option UInt8 := none
  rssic : Option Int16 := none
  lsnr : Option (Option Float32) := none

def RSigSlots.visit (slots : RSigSlots) (key : String) (value : Json) : Outcome RSigSlots :=
  match key with
  | "ant" => Json.once slots.ant key value.u8 fun x => { slots with ant := some x }
  | "chan" => Json.once slots.chan key value.u8 fun x => { slots with chan := some x }
  | "rssic" => Json.once slots.rssic key value.i16 fun x => { slots with rssic := some x }
  | "lsnr" => Json.once slots.lsnr key (value.option Json.f32)
      fun x => { slots with lsnr := some x }
  | _ => value.ignored slots

def RSigSlots.finish (isArray : Bool) (slots : RSigSlots) : Outcome RSig := do
  let ant ← Json.required slots.ant "ant"
  let chan ← Json.required slots.chan "chan"
  let rssic ← Json.required slots.rssic "rssic"
  let lsnr ← Json.optionalField isArray slots.lsnr "lsnr"
  pure { ant, chan, rssic, lsnr }

def RSig.deserialize : Json → Outcome RSig :=
  Json.struct ["ant", "chan", "rssic", "lsnr"] RSigSlots.visit {} RSigSlots.finish

/-! ## Deserialization of `rxpk` -/

structure RxPkSlots where
  time : Option (Option Gw.Timestamp) := none
  tmms : Option (Option UInt64) := none
  tmst : Option UInt32 := none
  ftime : Option (Option UInt32) := none
  freq : Option Float := none
  chan : Option UInt32 := none
  rfch : Option UInt32 := none
  brd : Option UInt32 := none
  ant : Option UInt8 := none
  stat : Option Crc := none
  modu : Option Modulation := none
  datr : Option DataRate := none
  codr : Option (Option CodeRate) := none
  rssi : Option Int32 := none
  lsnr : Option (Option Float32) := none
  hpw : Option (Option UInt8) := none
  size : Option UInt8 := none
  data : Option (List UInt8) := none
  rsig : Option (List RSig) := none
  «meta» : Option (Option (HashMap String String)) := none

def rxPkFields : List String :=
  ["time", "tmms", "tmst", "ftime", "freq", "chan", "rfch", "brd", "ant", "stat", "modu",
    "datr", "codr", "rssi", "lsnr", "hpw", "size", "data", "rsig", "meta"]

def RxPkSlots.visit (crates : Crates) (profile : Profile) (slots : RxPkSlots) (key : String)
    (value : Json) : Outcome RxPkSlots :=
  match key with
  | "time" => Json.once slots.time key (compactTime crates value)
      fun x => { slots with time := some x }
  | "tmms" => Json.once slots.tmms key (value.option Json.u64)
      fun x => { slots with tmms := some x }
  | "tmst" => Json.once slots.tmst key value.u32 fun x => { slots with tmst := some x }
  | "ftime" => Json.once slots.ftime key (value.option Json.u32)
      fun x => { slots with ftime := some x }
  | "freq" => Json.once slots.freq key value.f64 fun x => { slots with freq := some x }
  | "chan" => Json.once slots.chan key value.u32 fun x => { slots with chan := some x }
  | "rfch" => Json.once slots.rfch key value.u32 fun x => { slots with rfch := some x }
  | "brd" => Json.once slots.brd key value.u32 fun x => { slots with brd := some x }
  | "ant" => Json.once slots.ant key value.u8 fun x => { slots with ant := some x }
  | "stat" => Json.once slots.stat key (Crc.deserialize value)
      fun x => { slots with stat := some x }
  | "modu" => Json.once slots.modu key (Modulation.deserialize value)
      fun x => { slots with modu := some x }
  | "datr" => Json.once slots.datr key (DataRate.deserialize profile value)
      fun x => { slots with datr := some x }
  | "codr" => Json.once slots.codr key (value.option CodeRate.deserialize)
      fun x => { slots with codr := some x }
  | "rssi" => Json.once slots.rssi key value.i32 fun x => { slots with rssi := some x }
  | "lsnr" => Json.once slots.lsnr key (value.option Json.f32)
      fun x => { slots with lsnr := some x }
  | "hpw" => Json.once slots.hpw key (value.option Json.u8)
      fun x => { slots with hpw := some x }
  | "size" => Json.once slots.size key value.u8 fun x => { slots with size := some x }
  | "data" => Json.once slots.data key (base64Bytes crates value)
      fun x => { slots with data := some x }
  | "rsig" => Json.once slots.rsig key (value.vec RSig.deserialize)
      fun x => { slots with rsig := some x }
  | "meta" => Json.once slots.meta key (value.option Json.stringMap)
      fun x => { slots with «meta» := some x }
  | _ => value.ignored slots

def RxPkSlots.finish (isArray : Bool) (slots : RxPkSlots) : Outcome RxPk := do
  let tmms ← Json.optionalField isArray slots.tmms "tmms"
  let tmst ← Json.required slots.tmst "tmst"
  let ftime ← Json.optionalField isArray slots.ftime "ftime"
  let freq ← Json.required slots.freq "freq"
  let stat ← Json.required slots.stat "stat"
  let modu ← Json.required slots.modu "modu"
  let datr ← Json.required slots.datr "datr"
  let codr ← Json.optionalField isArray slots.codr "codr"
  let lsnr ← Json.optionalField isArray slots.lsnr "lsnr"
  let hpw ← Json.optionalField isArray slots.hpw "hpw"
  let size ← Json.required slots.size "size"
  let data ← Json.required slots.data "data"
  let metadata ← Json.optionalField isArray slots.meta "meta"
  pure {
    time := slots.time.getD none, tmms, tmst, ftime, freq, chan := slots.chan.getD 0,
    rfch := slots.rfch.getD 0, brd := slots.brd.getD 0, ant := slots.ant.getD 0, stat, modu,
    datr, codr, rssi := slots.rssi.getD 0, lsnr, hpw, size, data,
    rsig := slots.rsig.getD [], «meta» := metadata }

def RxPk.deserialize (crates : Crates) (profile : Profile) : Json → Outcome RxPk :=
  Json.struct rxPkFields (RxPkSlots.visit crates profile) {} RxPkSlots.finish

/-! ## Deserialization of `stat` -/

structure StatSlots where
  time : Option Gw.Timestamp := none
  lati : Option Float := none
  long : Option Float := none
  alti : Option Float := none
  rxnb : Option UInt32 := none
  rxok : Option UInt32 := none
  rxfw : Option UInt32 := none
  ackr : Option Float32 := none
  dwnb : Option UInt32 := none
  txnb : Option UInt32 := none
  «meta» : Option (Option (HashMap String String)) := none

def statFields : List String :=
  ["time", "lati", "long", "alti", "rxnb", "rxok", "rxfw", "ackr", "dwnb", "txnb", "meta"]

def StatSlots.visit (crates : Crates) (slots : StatSlots) (key : String) (value : Json) :
    Outcome StatSlots :=
  match key with
  | "time" => Json.once slots.time key (expandedTime crates value)
      fun x => { slots with time := some x }
  | "lati" => Json.once slots.lati key value.f64 fun x => { slots with lati := some x }
  | "long" => Json.once slots.long key value.f64 fun x => { slots with long := some x }
  | "alti" => Json.once slots.alti key value.f64 fun x => { slots with alti := some x }
  | "rxnb" => Json.once slots.rxnb key value.u32 fun x => { slots with rxnb := some x }
  | "rxok" => Json.once slots.rxok key value.u32 fun x => { slots with rxok := some x }
  | "rxfw" => Json.once slots.rxfw key value.u32 fun x => { slots with rxfw := some x }
  | "ackr" => Json.once slots.ackr key value.f32 fun x => { slots with ackr := some x }
  | "dwnb" => Json.once slots.dwnb key value.u32 fun x => { slots with dwnb := some x }
  | "txnb" => Json.once slots.txnb key value.u32 fun x => { slots with txnb := some x }
  | "meta" => Json.once slots.meta key (value.option Json.stringMap)
      fun x => { slots with «meta» := some x }
  | _ => value.ignored slots

def StatSlots.finish (isArray : Bool) (slots : StatSlots) : Outcome Stat := do
  let time ← Json.required slots.time "time"
  let rxnb ← Json.required slots.rxnb "rxnb"
  let rxok ← Json.required slots.rxok "rxok"
  let rxfw ← Json.required slots.rxfw "rxfw"
  let ackr ← Json.required slots.ackr "ackr"
  let dwnb ← Json.required slots.dwnb "dwnb"
  let txnb ← Json.required slots.txnb "txnb"
  let metadata ← Json.optionalField isArray slots.meta "meta"
  pure {
    time, lati := slots.lati.getD 0, long := slots.long.getD 0, alti := slots.alti.getD 0,
    rxnb, rxok, rxfw, ackr, dwnb, txnb, «meta» := metadata }

def Stat.deserialize (crates : Crates) : Json → Outcome Stat :=
  Json.struct statFields (StatSlots.visit crates) {} StatSlots.finish

/-! ## Deserialization of the payload -/

structure PushDataPayloadSlots where
  rxpk : Option (List RxPk) := none
  stat : Option (Option Stat) := none

def PushDataPayloadSlots.visit (crates : Crates) (profile : Profile)
    (slots : PushDataPayloadSlots) (key : String) (value : Json) :
    Outcome PushDataPayloadSlots :=
  match key with
  | "rxpk" => Json.once slots.rxpk key (value.vec (RxPk.deserialize crates profile))
      fun x => { slots with rxpk := some x }
  | "stat" => Json.once slots.stat key (value.option (Stat.deserialize crates))
      fun x => { slots with stat := some x }
  | _ => value.ignored slots

def PushDataPayloadSlots.finish (isArray : Bool) (slots : PushDataPayloadSlots) :
    Outcome PushDataPayload := do
  let stat ← Json.optionalField isArray slots.stat "stat"
  pure { rxpk := slots.rxpk.getD [], stat }

def PushDataPayload.deserialize (crates : Crates) (profile : Profile) :
    Json → Outcome PushDataPayload :=
  Json.struct ["rxpk", "stat"] (PushDataPayloadSlots.visit crates profile) {}
    PushDataPayloadSlots.finish

/-- `serde_json::from_slice`: nothing but whitespace may follow the value. -/
def fromJson {α : Type} (visit : Json → Outcome α) (document : Document) : Outcome α := do
  let value ← visit document.root
  if document.trailing then Outcome.err "trailing characters" else pure value

def PushData.fromSlice (crates : Crates) (profile : Profile) (b : List UInt8) :
    Outcome PushData :=
  if b.length < 14 then
    .err ("Expected at least 14 bytes, got: " ++ toString b.length)
  else do
    let (randomToken, gatewayId) ← header b 0x00
    let text ← slice b 12 b.length
    let payload ← fromJson (PushDataPayload.deserialize crates profile) (crates.readJson text)
    pure { randomToken, gatewayId, payload }

/-- The layout of a PUSH_DATA: version, token, identifier, gateway id, and the JSON text. -/
theorem PushData.fromSlice_layout {crates : Crates} {profile : Profile} {low high : UInt8}
    {gatewayId text : List UInt8} (eight : gatewayId.length = 8) (long : 2 ≤ text.length) :
    PushData.fromSlice crates profile
        ([protocolVersion, low, high, 0x00] ++ gatewayId ++ text) =
      (fromJson (PushDataPayload.deserialize crates profile) (crates.readJson text) >>=
        fun payload => .ok { randomToken := u16FromLe [low, high], gatewayId, payload }) := by
  have length : ([protocolVersion, low, high, 0x00] ++ gatewayId ++ text).length =
      12 + text.length := by
    simp only [List.length_append, List.length_cons, List.length_nil, eight]
  have parts : header ([protocolVersion, low, high, 0x00] ++ gatewayId ++ text) 0x00 =
      .ok (u16FromLe [low, high], gatewayId) := by
    rw [header_eq (by omega)]
    simp only [List.cons_append, List.nil_append, List.getElem_cons_zero, List.getElem_cons_succ,
      ne_eq, not_true_eq_false, if_false, List.drop_succ_cons, List.drop_zero, List.take_succ_cons,
      List.take_zero, List.take_left' eight]
  have rest : slice ([protocolVersion, low, high, 0x00] ++ gatewayId ++ text) 12
      ([protocolVersion, low, high, 0x00] ++ gatewayId ++ text).length = .ok text := by
    rw [slice_of_le (by omega) (by omega), List.drop_left' (by simp [eight])]
    exact congrArg Outcome.ok (List.take_of_length_le (by omega))
  rw [PushData.fromSlice, if_neg (by omega), parts, Outcome.ok_bind, rest]
  rfl
/-! ## Uplink frames -/

/-- The modulation parameters of a frame; the errors of `RxPk::to_proto` arise here. -/
def RxPk.modulationParameters (rx : RxPk) : Outcome Gw.ModulationParameters :=
  match rx.datr with
  | .lora sf bw => do
      let codr ← Outcome.okOr rx.codr "codr is missing"
      pure (.lora { bandwidth := bw, spreadingFactor := sf, codeRate := codr.toProto.toI32 })
  | .fsk bitrate => pure (.fsk { datarate := bitrate })
  | .lrFhss ocw => do
      let codr ← Outcome.okOr rx.codr "codr is missing"
      let hpw ← Outcome.okOr rx.hpw "hpw is missing"
      pure (.lrFhss {
        operatingChannelWidth := ocw, codeRate := codr.toProto.toI32,
        gridSteps := hpw.toUInt32 })

/-- The gateway time: the time of the object, or the clock if the fallback is enabled. -/
def RxPk.gwTime {σ ο : Type} (rx : RxPk) (timeFallbackEnabled : Bool) :
    Prog Env σ ο (Option Gw.Timestamp) :=
  match rx.time with
  | some v => pure (some v)
  | none =>
      if timeFallbackEnabled then do
        let now ← Prog.ask Env.utcNow
        pure (some now)
      else pure none

/-- `Duration::from_millis`. -/
def fromMillis (millis : UInt64) : Gw.StdDuration := millis.toNat * 1000000

/-- GPS time truncated to seconds, plus the fine timestamp. -/
def RxPk.fineTime (rx : RxPk) : Option Gw.Duration :=
  match rx.ftime, rx.tmms with
  | some ftime, some tmms =>
      some (Gw.Duration.ofStd (fromMillis tmms / 1000000000 * 1000000000 + ftime.toNat))
  | _, _ => none

def Crc.toProto : Crc → Gw.CrcStatus
  | ok => .crcOk
  | invalid => .badCrc
  | missing => .noCrc

/-- The frame of an object without antenna entries. -/
def RxPk.frame (rx : RxPk) (gatewayId : List UInt8) (uplinkId : UInt32)
    (parameters : Gw.ModulationParameters) (gwTime : Option Gw.Timestamp) : Gw.UplinkFrame where
  phyPayload := rx.data
  txInfo := some {
    frequency := (rx.freq * 1000000).toUInt32
    modulation := some { parameters := some parameters } }
  rxInfo := some {
    gatewayId := hexEncode gatewayId
    uplinkId
    gwTime
    timeSinceGpsEpoch := rx.tmms.map fun t => Gw.Duration.ofStd (fromMillis t)
    fineTimeSinceGpsEpoch := rx.fineTime
    rssi := rx.rssi
    snr := rx.lsnr.getD 0
    channel := rx.chan
    rfChain := rx.rfch
    board := rx.brd
    antenna := rx.ant.toUInt32
    context := u32ToBe rx.tmst
    metadata := rx.meta.getD ∅
    crcStatus := rx.stat.toProto.toI32 }

/-- The copy of a frame for one antenna entry. -/
def RSig.apply (rs : RSig) (uplinkId : UInt32) (pl : Gw.UplinkFrame) : Outcome Gw.UplinkFrame := do
  let rxInfo ← Outcome.unwrap pl.rxInfo
  pure { pl with
    rxInfo := some { rxInfo with
      uplinkId
      antenna := rs.ant.toUInt32
      channel := rs.chan.toUInt32
      rssi := rs.rssic.toInt32
      snr := rs.lsnr.getD 0 } }

section

variable {σ ο : Type}

/-- The loop over the antenna entries. -/
def rsigFrames (pl : Gw.UplinkFrame) : List RSig → Prog Env σ ο (List Gw.UplinkFrame)
  | [] => pure []
  | rs :: rest => do
      let uplinkId ← getrandom
      let frame ← rs.apply uplinkId pl
      let out ← rsigFrames pl rest
      pure (frame :: out)

def RxPk.toProto (rx : RxPk) (gatewayId : List UInt8) (timeFallbackEnabled : Bool) :
    Prog Env σ ο (List Gw.UplinkFrame) := do
  let uplinkId ← getrandom
  let parameters ← rx.modulationParameters
  let gwTime ← rx.gwTime timeFallbackEnabled
  let pl := rx.frame gatewayId uplinkId parameters gwTime
  if rx.rsig = [] then pure [pl] else rsigFrames pl rx.rsig

/-- The loop over the `rxpk` objects. -/
def toProtoFrames (gatewayId : List UInt8) (timeFallbackEnabled : Bool) :
    List RxPk → Prog Env σ ο (List Gw.UplinkFrame)
  | [] => pure []
  | rx :: rest => do
      let frames ← rx.toProto gatewayId timeFallbackEnabled
      let out ← toProtoFrames gatewayId timeFallbackEnabled rest
      pure (frames ++ out)

def PushData.toProtoUplinkFrames (pl : PushData) (timeFallbackEnabled : Bool) :
    Prog Env σ ο (List Gw.UplinkFrame) :=
  toProtoFrames pl.gatewayId timeFallbackEnabled pl.payload.rxpk

end

/-! ## Gateway statistics -/

def Stat.toProto (stat : Stat) (gatewayId : List UInt8) : Outcome Gw.GatewayStats :=
  .ok {
    gatewayId := hexEncode gatewayId
    time := some stat.time
    location :=
      if stat.lati != 0 || stat.long != 0 || stat.alti != 0 then
        some {
          latitude := stat.lati, longitude := stat.long, altitude := stat.alti, source := .gps }
      else none
    rxPacketsReceived := stat.rxnb
    rxPacketsReceivedOk := stat.rxok
    txPacketsReceived := stat.dwnb
    txPacketsEmitted := stat.txnb
    metadata := stat.meta.getD ∅ }

def PushData.toProtoGatewayStats (pl : PushData) : Outcome (Option Gw.GatewayStats) :=
  match pl.payload.stat with
  | some s => some <$> s.toProto pl.gatewayId
  | none => pure none

end MqttForwarder.SemtechUdp
