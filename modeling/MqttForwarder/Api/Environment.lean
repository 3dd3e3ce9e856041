import MqttForwarder.Api.Gw
import MqttForwarder.Rust.Prog
import MqttForwarder.Serde.Json

/-!
# The environment of the forwarder

`Crates` are the pure functions of third-party crates that the forwarder calls.
`Env` is one answer of the outside world to one atomic action: the clocks, the
random source, whether the socket takes a datagram, whether the publish
channel takes a message, and what the metadata commands gave.
-/

namespace MqttForwarder

open MqttForwarder.Rust MqttForwarder.Serde

/-- A DevAddr prefix of the uplink filters. -/
structure DevAddrPrefix where
  devAddr : UInt32
  size : UInt32
  deriving DecidableEq, Repr

/-- A JoinEUI prefix of the uplink filters. -/
structure EuiPrefix where
  eui : UInt64
  size : UInt32
  deriving DecidableEq, Repr

/-- `lrwn_filters::Filters`. -/
structure Filters where
  devAddrPrefixes : List DevAddrPrefix := []
  joinEuiPrefixes : List EuiPrefix := []
  lorawanOnly : Bool := false
  deriving DecidableEq, Repr

/-- Pure functions of third-party crates. -/
structure Crates where
  /-- The reader of `serde_json::from_slice`. -/
  readJson : List UInt8 → Document
  /-- `serde_json::to_vec`. -/
  writeJson : Json → List UInt8
  /-- `DateTime::parse_from_str` with `%+`, in UTC. -/
  parseCompactTime : String → Option Gw.Timestamp
  /-- `NaiveDateTime::parse_from_str` with `%Y-%m-%d %H:%M:%S %Z`, in UTC. -/
  parseExpandedTime : String → Option Gw.Timestamp
  /-- `general_purpose::STANDARD.decode`. -/
  base64Decode : String → Option (List UInt8)
  /-- `general_purpose::STANDARD.encode`. -/
  base64Encode : List UInt8 → String
  /-- `lrwn_filters::matches`. -/
  filterMatches : List UInt8 → Filters → Bool
  /-- `gw::Modulation::encode_to_vec`. -/
  encodeModulation : Gw.Modulation → List UInt8
  /-- `gw::Modulation::decode`. -/
  decodeModulation : List UInt8 → Option Gw.Modulation

/-- The bytes of a text of ASCII characters. -/
def ascii (text : String) : List UInt8 :=
  text.toList.map fun c => UInt8.ofNat c.toNat

/-- Crates for runs that use none of them but accept every payload. -/
def Crates.plain : Crates where
  readJson := fun _ => ⟨.malformed, false⟩
  writeJson := fun _ => []
  parseCompactTime := fun _ => none
  parseExpandedTime := fun _ => none
  base64Decode := fun _ => none
  base64Encode := fun _ => ""
  filterMatches := fun _ _ => true
  encodeModulation := fun _ => []
  decodeModulation := fun _ => none

/-- What `PUB_CHANNEL_TX` answers to `try_send`. -/
inductive Channel where
  | unset
  | full
  | room
  deriving DecidableEq, Repr

/-- One answer of the outside world. -/
structure Env where
  /-- `SystemTime::now()`, in nanoseconds. -/
  now : Nat
  /-- `Utc::now()`. -/
  utcNow : Gw.Timestamp
  /-- `getrandom::u32()`. -/
  random : Option UInt32
  /-- Whether `socket.send_to` succeeds. -/
  socketSends : Bool
  channel : Channel
  /-- `metadata::get()`. -/
  metadata : Outcome (HashMap String String)

/-- The clocks at zero, random zeros, and a socket and a channel that take everything. -/
def Env.plain : Env where
  now := 0
  utcNow := ⟨0, 0⟩
  random := some 0
  socketSends := true
  channel := .room
  metadata := .ok ∅

/-- `getrandom::u32()?`. -/
def getrandom {σ ο : Type} : Prog Env σ ο UInt32 := do
  let answer ← Prog.ask Env.random
  Outcome.okOr answer "getrandom failed"

/-- `hex::encode`. -/
def hexEncode (bytes : List UInt8) : String :=
  String.ofList (bytes.flatMap fun b =>
    [Nat.digitChar (b.toNat / 16), Nat.digitChar (b.toNat % 16)])

/-! ## Byte orders -/

def u16FromLe : List UInt8 → UInt16
  | [low, high] => UInt16.ofNat (low.toNat + 256 * high.toNat)
  | _ => 0

def u16ToLe (value : UInt16) : List UInt8 :=
  [UInt8.ofNat (value.toNat % 256), UInt8.ofNat (value.toNat / 256)]

def u32FromBe : List UInt8 → UInt32
  | [a, b, c, d] =>
      UInt32.ofNat (((a.toNat * 256 + b.toNat) * 256 + c.toNat) * 256 + d.toNat)
  | _ => 0

def u32ToBe (value : UInt32) : List UInt8 :=
  [UInt8.ofNat (value.toNat / 2 ^ 24), UInt8.ofNat (value.toNat / 2 ^ 16 % 256),
    UInt8.ofNat (value.toNat / 2 ^ 8 % 256), UInt8.ofNat (value.toNat % 256)]

/-- The two bytes of a token decode to that token. -/
theorem u16FromLe_u16ToLe (value : UInt16) : u16FromLe (u16ToLe value) = value := by
  have high : value.toNat / 256 < 256 := by
    have bound := value.toNat_lt
    omega
  apply UInt16.toNat_inj.mp
  simp only [u16FromLe, u16ToLe, UInt8.toNat_ofNat', UInt16.toNat_ofNat']
  have bound := value.toNat_lt
  omega

/-- The four bytes of a timestamp decode to that timestamp. -/
theorem u32FromBe_u32ToBe (value : UInt32) : u32FromBe (u32ToBe value) = value := by
  apply UInt32.toNat_inj.mp
  have bound := value.toNat_lt
  simp only [u32FromBe, u32ToBe, UInt8.toNat_ofNat', UInt32.toNat_ofNat']
  omega

end MqttForwarder
