import MqttForwarder.Rust.HashMap
import MqttForwarder.Rust.Outcome

/-!
# Gateway API messages

The protobuf messages of the gateway API, restricted to the fields that the
forwarder reads or writes.  An enumeration field of a message is an open
`i32`; its accessor maps an unknown number to the first variant.
-/

namespace MqttForwarder.Gw

open MqttForwarder.Rust

/-! ## Enumerations -/

inductive TxAckStatus where
  | ignored
  | ok
  | tooLate
  | tooEarly
  | collisionPacket
  | collisionBeacon
  | txFreq
  | txPower
  | gpsUnlocked
  | queueFull
  | internalError
  | dutyCycleOverflow
  deriving DecidableEq, Repr

namespace TxAckStatus

def toI32 : TxAckStatus → Int32
  | ignored => 0
  | ok => 1
  | tooLate => 2
  | tooEarly => 3
  | collisionPacket => 4
  | collisionBeacon => 5
  | txFreq => 6
  | txPower => 7
  | gpsUnlocked => 8
  | queueFull => 9
  | internalError => 10
  | dutyCycleOverflow => 11

def all : List TxAckStatus :=
  [ignored, ok, tooLate, tooEarly, collisionPacket, collisionBeacon, txFreq, txPower,
    gpsUnlocked, queueFull, internalError, dutyCycleOverflow]

def ofI32 (number : Int32) : TxAckStatus :=
  (all.find? fun status => status.toI32 == number).getD ignored

def asStrName : TxAckStatus → String
  | ignored => "IGNORED"
  | ok => "OK"
  | tooLate => "TOO_LATE"
  | tooEarly => "TOO_EARLY"
  | collisionPacket => "COLLISION_PACKET"
  | collisionBeacon => "COLLISION_BEACON"
  | txFreq => "TX_FREQ"
  | txPower => "TX_POWER"
  | gpsUnlocked => "GPS_UNLOCKED"
  | queueFull => "QUEUE_FULL"
  | internalError => "INTERNAL_ERROR"
  | dutyCycleOverflow => "DUTY_CYCLE_OVERFLOW"

@[simp] theorem ofI32_toI32 (status : TxAckStatus) : ofI32 status.toI32 = status := by
  cases status <;> decide

end TxAckStatus

inductive CrcStatus where
  | noCrc
  | badCrc
  | crcOk
  deriving DecidableEq, Repr

namespace CrcStatus

def toI32 : CrcStatus → Int32
  | noCrc => 0
  | badCrc => 1
  | crcOk => 2

def ofI32 (number : Int32) : CrcStatus :=
  ([noCrc, badCrc, crcOk].find? fun status => status.toI32 == number).getD noCrc

@[simp] theorem ofI32_toI32 (status : CrcStatus) : ofI32 status.toI32 = status := by
  cases status <;> decide

end CrcStatus

inductive CodeRate where
  | crUndefined
  | cr45
  | cr46
  | cr47
  | cr48
  | cr38
  | cr26
  | cr14
  | cr16
  | cr56
  | crLi45
  | crLi46
  | crLi48
  deriving DecidableEq, Repr

namespace CodeRate

def toI32 : CodeRate → Int32
  | crUndefined => 0
  | cr45 => 1
  | cr46 => 2
  | cr47 => 3
  | cr48 => 4
  | cr38 => 5
  | cr26 => 6
  | cr14 => 7
  | cr16 => 8
  | cr56 => 9
  | crLi45 => 10
  | crLi46 => 11
  | crLi48 => 12

def all : List CodeRate :=
  [crUndefined, cr45, cr46, cr47, cr48, cr38, cr26, cr14, cr16, cr56, crLi45, crLi46, crLi48]

def ofI32 (number : Int32) : CodeRate :=
  (all.find? fun rate => rate.toI32 == number).getD crUndefined

@[simp] theorem ofI32_toI32 (rate : CodeRate) : ofI32 rate.toI32 = rate := by
  cases rate <;> decide

end CodeRate

/-! ## Times -/

/-- The well-known protobuf timestamp. -/
structure Timestamp where
  seconds : Int64
  nanos : Int32
  deriving DecidableEq, Repr

/-- The well-known protobuf duration. -/
structure Duration where
  seconds : Int64
  nanos : Int32
  deriving DecidableEq, Repr

/-- A non-negative `std::time::Duration`, in nanoseconds. -/
abbrev StdDuration := Nat

def Duration.ofStd (duration : StdDuration) : Duration where
  seconds := Int64.ofNat (duration / 1000000000)
  nanos := Int32.ofNat (duration % 1000000000)

/-- `TryInto<std::time::Duration>`: both parts must be non-negative. -/
def Duration.tryInto (duration : Duration) : Outcome StdDuration :=
  if 0 ≤ duration.seconds ∧ 0 ≤ duration.nanos then
    .ok (duration.seconds.toInt.toNat * 1000000000 + duration.nanos.toInt.toNat)
  else .err "out of range integral type conversion attempted"

/-! ## Modulation -/

structure LoraModulationInfo where
  bandwidth : UInt32
  spreadingFactor : UInt32
  codeRate : Int32
  polarizationInversion : Bool := false
  preamble : UInt32 := 0
  noCrc : Bool := false
  deriving DecidableEq, Repr

def LoraModulationInfo.getCodeRate (info : LoraModulationInfo) : CodeRate :=
  CodeRate.ofI32 info.codeRate

structure FskModulationInfo where
  frequencyDeviation : UInt32 := 0
  datarate : UInt32
  deriving DecidableEq, Repr

structure LrFhssModulationInfo where
  operatingChannelWidth : UInt32
  codeRate : Int32
  gridSteps : UInt32
  deriving DecidableEq, Repr

inductive ModulationParameters where
  | lora (info : LoraModulationInfo)
  | fsk (info : FskModulationInfo)
  | lrFhss (info : LrFhssModulationInfo)
  deriving DecidableEq, Repr

structure Modulation where
  parameters : Option ModulationParameters
  deriving DecidableEq, Repr

/-! ## Uplinks -/

structure UplinkTxInfo where
  frequency : UInt32
  modulation : Option Modulation
  deriving DecidableEq

structure UplinkRxInfo where
  gatewayId : String
  uplinkId : UInt32
  gwTime : Option Timestamp
  timeSinceGpsEpoch : Option Duration
  fineTimeSinceGpsEpoch : Option Duration
  rssi : Int32
  snr : Float32
  channel : UInt32
  rfChain : UInt32
  board : UInt32
  antenna : UInt32
  context : List UInt8
  metadata : HashMap String String
  crcStatus : Int32
  deriving DecidableEq

def UplinkRxInfo.getCrcStatus (info : UplinkRxInfo) : CrcStatus :=
  CrcStatus.ofI32 info.crcStatus

structure UplinkFrame where
  phyPayload : List UInt8
  txInfo : Option UplinkTxInfo
  rxInfo : Option UplinkRxInfo
  deriving DecidableEq

/-! ## Downlinks -/

structure DelayTimingInfo where
  delay : Option Duration
  deriving DecidableEq, Repr

structure GpsEpochTimingInfo where
  timeSinceGpsEpoch : Option Duration
  deriving DecidableEq, Repr

inductive TimingParameters where
  | immediately
  | delay (info : DelayTimingInfo)
  | gpsEpoch (info : GpsEpochTimingInfo)
  deriving DecidableEq, Repr

structure Timing where
  parameters : Option TimingParameters
  deriving DecidableEq, Repr

structure DownlinkTxInfo where
  frequency : UInt32
  power : Int32
  modulation : Option Modulation
  board : UInt32
  antenna : UInt32
  timing : Option Timing
  context : List UInt8
  deriving DecidableEq, Repr

structure DownlinkFrameItem where
  phyPayload : List UInt8
  txInfo : Option DownlinkTxInfo
  deriving DecidableEq, Repr

structure DownlinkFrame where
  downlinkId : UInt32
  items : List DownlinkFrameItem
  gatewayId : String
  deriving DecidableEq, Repr

structure DownlinkTxAckItem where
  status : Int32
  deriving DecidableEq, Repr

def DownlinkTxAckItem.getStatus (item : DownlinkTxAckItem) : TxAckStatus :=
  TxAckStatus.ofI32 item.status

/-- The ack item that carries a status. -/
def DownlinkTxAckItem.ofStatus (status : TxAckStatus) : DownlinkTxAckItem :=
  ⟨status.toI32⟩

@[simp] theorem DownlinkTxAckItem.getStatus_ofStatus (status : TxAckStatus) :
    (ofStatus status).getStatus = status :=
  TxAckStatus.ofI32_toI32 status

structure DownlinkTxAck where
  gatewayId : String
  downlinkId : UInt32
  items : List DownlinkTxAckItem
  deriving DecidableEq, Repr

/-! ## Statistics -/

inductive LocationSource where
  | unknown
  | gps
  deriving DecidableEq, Repr

structure Location where
  latitude : Float
  longitude : Float
  altitude : Float
  source : LocationSource
  deriving DecidableEq

structure PerModulationCount where
  count : UInt32
  modulation : Option Modulation
  deriving DecidableEq, Repr

structure GatewayStats where
  gatewayId : String := ""
  time : Option Timestamp := none
  location : Option Location := none
  rxPacketsReceived : UInt32 := 0
  rxPacketsReceivedOk : UInt32 := 0
  txPacketsReceived : UInt32 := 0
  txPacketsEmitted : UInt32 := 0
  metadata : HashMap String String := ∅
  rxPacketsPerFrequency : HashMap UInt32 UInt32 := ∅
  txPacketsPerFrequency : HashMap UInt32 UInt32 := ∅
  rxPacketsPerModulation : List PerModulationCount := []
  txPacketsPerModulation : List PerModulationCount := []
  txPacketsPerStatus : HashMap String UInt32 := ∅
  deriving DecidableEq

structure MeshEvent where
  gatewayId : String
  deriving DecidableEq

/-- `conn_state::State`. -/
inductive ConnState.State where
  | offline
  | online
  deriving DecidableEq, Repr

structure ConnState where
  gatewayId : String
  state : ConnState.State := .offline
  deriving DecidableEq

/-! ## Commands -/

structure GatewayConfiguration where
  gatewayId : String
  version : String
  deriving DecidableEq

structure GatewayCommandExecRequest where
  gatewayId : String
  command : String
  execId : UInt32
  stdin : List UInt8
  environment : HashMap String String
  deriving DecidableEq

structure GatewayCommandExecResponse where
  gatewayId : String
  execId : UInt32
  stdout : List UInt8 := []
  stderr : List UInt8 := []
  error : String := ""
  deriving DecidableEq

structure MeshCommand where
  gatewayId : String
  deriving DecidableEq

end MqttForwarder.Gw
