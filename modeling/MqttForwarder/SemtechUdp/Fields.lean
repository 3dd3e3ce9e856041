import MqttForwarder.Api.Environment
import MqttForwarder.Rust.Text

/-!
# Field types of the packet-forwarder objects

The CRC status, coding rate, data rate and modulation identifiers of `rxpk`
and `txpk`, with the JSON forms they are read from and written to.
-/

namespace MqttForwarder.SemtechUdp

open MqttForwarder.Rust MqttForwarder.Serde

/-- The JSON form of an unsigned number. -/
def jsonNat (value : Nat) : Json := .number (.posInt (UInt64.ofNat value))

/-- The JSON form of a string, written without escapes. -/
def jsonStr (text : String) : Json := .string text false

/-! ## CRC status -/

inductive Crc where
  | ok
  | invalid
  | missing
  deriving DecidableEq, Repr

def Crc.deserialize (value : Json) : Outcome Crc := do
  let crc ← value.i32
  pure (if crc = 1 then .ok else if crc = -1 then .invalid else .missing)

/-! ## Coding rate -/

inductive CodeRate where
  | undefined
  | cr45
  | cr46
  | cr47
  | cr48
  | cr38
  | cr26
  | cr14
  | cr16
  | cr56
  | crLi45
  | crLi46
  | crLi48
  deriving DecidableEq, Repr

namespace CodeRate

def toProto : CodeRate → Gw.CodeRate
  | undefined => .crUndefined
  | cr45 => .cr45
  | cr46 => .cr46
  | cr47 => .cr47
  | cr48 => .cr48
  | cr38 => .cr38
  | cr26 => .cr26
  | cr14 => .cr14
  | cr16 => .cr16
  | cr56 => .cr45
  | crLi45 => .crLi45
  | crLi46 => .crLi46
  | crLi48 => .crLi48

def fromProto : Gw.CodeRate → CodeRate
  | .crUndefined => undefined
  | .cr45 => cr45
  | .cr46 => cr46
  | .cr47 => cr47
  | .cr48 => cr48
  | .cr38 => cr38
  | .cr26 => cr26
  | .cr14 => cr14
  | .cr16 => cr16
  | .cr56 => cr56
  | .crLi45 => crLi45
  | .crLi46 => crLi46
  | .crLi48 => crLi48

def serialize : CodeRate → Json
  | cr45 => jsonStr "4/5"
  | cr46 => jsonStr "4/6"
  | cr47 => jsonStr "4/7"
  | cr48 => jsonStr "4/8"
  | cr38 => jsonStr "3/8"
  | cr26 => jsonStr "2/6"
  | cr14 => jsonStr "1/4"
  | cr16 => jsonStr "1/6"
  | cr56 => jsonStr "5/6"
  | crLi45 => jsonStr "4/5LI"
  | crLi46 => jsonStr "4/6LI"
  | crLi48 => jsonStr "4/5LI"
  | undefined => .null

def ofText : String → CodeRate
  | "4/5" => cr45
  | "4/6" => cr46
  | "2/3" => cr46
  | "4/7" => cr47
  | "4/8" => cr48
  | "2/4" => cr48
  | "1/2" => cr48
  | "3/8" => cr38
  | "2/6" => cr26
  | "1/3" => cr26
  | "1/4" => cr14
  | "1/6" => cr16
  | "5/6" => cr56
  | "4/5LI" => crLi45
  | "4/6LI" => crLi46
  | "4/8LI" => crLi48
  | _ => undefined

def deserialize (value : Json) : Outcome CodeRate := ofText <$> value.text

end CodeRate

/-! ## Data rate -/

/-- LoRa with spreading factor and bandwidth (Hz), FSK with bit rate, LR-FHSS
with operating channel width (Hz). -/
inductive DataRate where
  | lora (sf bw : UInt32)
  | fsk (bitrate : UInt32)
  | lrFhss (ocw : UInt32)
  deriving DecidableEq, Repr

namespace DataRate

def serialize : DataRate → Json
  | lora sf bw => jsonStr (String.ofList
      ("SF".toList ++ decimal sf ++ "BW".toList ++ decimal (bw / 1000)))
  | fsk bitrate => jsonNat bitrate.toNat
  | lrFhss ocw => jsonStr (String.ofList ("M0CW".toList ++ decimal (ocw / 1000)))

/-- The branch for strings that start with `SF`. -/
def deserializeLora (profile : Profile) (text : List Char) : Outcome DataRate :=
  match split2 'B' 'W' text with
  | [first, second] => do
      let sf ← Outcome.okOr ("SF".toList.isPrefixOf? first) "Invalid LoRa data-rate"
      let sf ← Outcome.okOr (parseU32 sf) "Invalid LoRa data-rate"
      let bw ← Outcome.okOr (parseU32 second) "Invalid LoRa data-rate"
      let bw ← mulU32 profile bw 1000
      pure (lora sf bw)
  | _ => .err "unexpected string"

/-- The branch for strings that start with `M0CW`. -/
def deserializeLrFhss (profile : Profile) (text : List Char) : Outcome DataRate := do
  let cw ← Outcome.okOr ("M0CW".toList.isPrefixOf? text) "Invalid LR-FHSS data-rate"
  let cw ← Outcome.okOr (parseU32 cw) "Invalid LR-FHSS data-rate"
  let cw ← mulU32 profile cw 1000
  pure (lrFhss cw)

def deserialize (profile : Profile) : Json → Outcome DataRate
  | .string text _ =>
      if "SF".toList.isPrefixOf text.toList then deserializeLora profile text.toList
      else if "M0CW".toList.isPrefixOf text.toList then deserializeLrFhss profile text.toList
      else .err "unexpected string"
  | .number value => do
      let br ← Outcome.unwrap value.asU64
      pure (fsk br.toUInt32)
  | _ => .err "unexpected type"

end DataRate

/-! ## Modulation -/

inductive Modulation where
  | lora
  | fsk
  | lrFhss
  deriving DecidableEq, Repr

namespace Modulation

def serialize : Modulation → Json
  | lora => jsonStr "LORA"
  | fsk => jsonStr "Fsk"
  | lrFhss => jsonStr "LR-FHSS"

def deserialize (value : Json) : Outcome Modulation := do
  let s ← value.text
  match s with
  | "LORA" => pure lora
  | "Fsk" => pure fsk
  | "LR-FHSS" => pure lrFhss
  | _ => .err "unexpected value"

end Modulation

end MqttForwarder.SemtechUdp
