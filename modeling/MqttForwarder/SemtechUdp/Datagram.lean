import MqttForwarder.Api.Environment

/-!
# Datagram headers and acknowledgements

Every datagram starts with the protocol version, a two-byte token and the
command identifier; the datagrams of a gateway carry its id in the next eight
bytes.
-/

namespace MqttForwarder.SemtechUdp

open MqttForwarder.Rust

def protocolVersion : UInt8 := 0x02

/-- The checks and fields that the three `from_slice` functions share, after
each has checked the length. -/
def header (b : List UInt8) (identifier : UInt8) : Outcome (UInt16 × List UInt8) := do
  let version ← index b 0
  if version ≠ protocolVersion then
    Outcome.err ("Expected protocol version: " ++ toString protocolVersion ++ ", got: " ++
      toString version)
  else
    let cid ← index b 3
    if cid ≠ identifier then Outcome.err ("Invalid identifier: " ++ toString cid)
    else
      let randomToken ← slice b 1 3
      let gatewayId ← slice b 4 12
      pure (u16FromLe randomToken, gatewayId)

/-- On at least twelve bytes the header checks read inside the datagram. -/
theorem header_eq {b : List UInt8} (long : 12 ≤ b.length) (identifier : UInt8) :
    header b identifier =
      if b[0] ≠ protocolVersion then
        .err ("Expected protocol version: " ++ toString protocolVersion ++ ", got: " ++
          toString b[0])
      else if b[3] ≠ identifier then .err ("Invalid identifier: " ++ toString b[3])
      else .ok (u16FromLe ((b.drop 1).take 2), (b.drop 4).take 8) := by
  unfold header
  rw [index_of_lt (by omega), index_of_lt (by omega), slice_of_le (by omega) (by omega),
    slice_of_le (by omega) (by omega)]
  rfl

theorem header_calm {b : List UInt8} (long : 12 ≤ b.length) (identifier : UInt8) :
    (header b identifier).Calm := by
  rw [header_eq long]
  split
  · exact Outcome.calm_err _
  · split
    · exact Outcome.calm_err _
    · exact Outcome.calm_ok _

/-- An accepted header gives the eight bytes after the identifier as the gateway id. -/
theorem gatewayId_of_header {b : List UInt8} (long : 12 ≤ b.length) {identifier : UInt8}
    {fields : UInt16 × List UInt8} (accepted : header b identifier = .ok fields) :
    fields.2 = (b.drop 4).take 8 := by
  rw [header_eq long] at accepted
  split at accepted
  · cases accepted
  · split at accepted
    · cases accepted
    · cases accepted
      rfl

/-! ## Acknowledgements -/

structure PushAck where
  randomToken : UInt16
  deriving DecidableEq, Repr

def PushAck.toVec (ack : PushAck) : List UInt8 :=
  [protocolVersion] ++ u16ToLe ack.randomToken ++ [0x01]

structure PullAck where
  randomToken : UInt16
  deriving DecidableEq, Repr

def PullAck.toVec (ack : PullAck) : List UInt8 :=
  [protocolVersion] ++ u16ToLe ack.randomToken ++ [0x04]

/-! ## PULL_DATA -/

structure PullData where
  randomToken : UInt16
  gatewayId : List UInt8
  deriving DecidableEq, Repr

def PullData.fromSlice (b : List UInt8) : Outcome PullData :=
  if b.length ≠ 12 then
    .err ("Expected exactly 12 bytes, got: " ++ toString b.length)
  else do
    let (randomToken, gatewayId) ← header b 0x02
    pure ⟨randomToken, gatewayId⟩

end MqttForwarder.SemtechUdp
