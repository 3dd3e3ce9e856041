import MqttForwarder.Api.Environment
import MqttForwarder.Config.Configuration

/-!
# Events of the Concentratord

The Concentratord publishes its events on a SUB socket.  The event loop hands
each of them to `handle_event_msg`, which filters uplinks, adds the metadata to
gateway statistics, and passes the rest on to the publish channel.
-/

namespace MqttForwarder

open MqttForwarder.Rust

/-- The filters of the configuration as the uplink filters take them. -/
def Config.Filters.lrwn (filters : Config.Filters) : MqttForwarder.Filters where
  devAddrPrefixes := filters.devAddrPrefixes
  joinEuiPrefixes := filters.joinEuiPrefixes
  lorawanOnly := filters.lorawanOnly

namespace Concentratord

/-- `gw::event::Event`. -/
inductive EventBody where
  | uplinkFrame (v : Gw.UplinkFrame)
  | gatewayStats (v : Gw.GatewayStats)
  | mesh (v : Gw.MeshEvent)

/-- `gw::Event`. -/
structure Event where
  event : Option EventBody

/-- A message on the publish channel, before it is encoded. -/
inductive MqttMessage where
  | up (pl : Gw.UplinkFrame)
  | stats (pl : Gw.GatewayStats)
  | mesh (pl : Gw.MeshEvent)

inductive Effect where
  /-- `metadata::get()` has given this. -/
  | asked (answer : Outcome (HashMap String String))
  /-- The publish channel has taken the message. -/
  | event (message : MqttMessage)

def Effect.message? : Effect → Option MqttMessage
  | asked _ => none
  | event message => some message

/-- A program of the event loop, which shares no state. -/
abbrev Task := Prog Env Unit Effect

/-- `metadata::get()`. -/
def getMetadata : Task (HashMap String String) :=
  Prog.attempt fun e s => ⟨e.metadata, s, [.asked e.metadata]⟩

/-- `PUB_CHANNEL_TX.get()` and `try_send`. -/
def trySend (message : MqttMessage) : Task Unit :=
  Prog.attempt fun e s =>
    match e.channel with
    | .unset => ⟨.err "PUB_CHANNEL_TX is None", s, []⟩
    | .full => ⟨.err "no available capacity", s, []⟩
    | .room => ⟨.ok (), s, [.event message]⟩

def sendUplinkFrame (pl : Gw.UplinkFrame) : Task Unit := trySend (.up pl)

def sendGatewayStats (pl : Gw.GatewayStats) : Task Unit := trySend (.stats pl)

def sendMeshEvent (pl : Gw.MeshEvent) : Task Unit := trySend (.mesh pl)

section

variable (crates : Crates) (filters : MqttForwarder.Filters)
  (forwardCrcOk forwardCrcInvalid forwardCrcMissing : Bool)

/-- The test at the head of the uplink branch of `handle_event_msg`. -/
def crcIgnored (v : Gw.UplinkFrame) : Bool :=
  match v.rxInfo with
  | some rxInfo =>
      !((rxInfo.getCrcStatus == .crcOk && forwardCrcOk) ||
        (rxInfo.getCrcStatus == .badCrc && forwardCrcInvalid) ||
        (rxInfo.getCrcStatus == .noCrc && forwardCrcMissing))
  | none => false

def handleEventMsg (event : Event) : Task Unit :=
  match event.event with
  | some (.uplinkFrame v) =>
      if crcIgnored forwardCrcOk forwardCrcInvalid forwardCrcMissing v then pure ()
      else if crates.filterMatches v.phyPayload filters then sendUplinkFrame v
      else pure ()
  | some (.gatewayStats v) => do
      let metadata ← getMetadata
      sendGatewayStats { v with metadata := v.metadata.extend metadata }
  | some (.mesh v) => sendMeshEvent v
  | none => pure ()

end

/-- `handle_event_msg` with the arguments that `Backend::setup` takes from the configuration. -/
def onEvent (crates : Crates) (conf : Config.Configuration) (event : Event) : Task Unit :=
  handleEventMsg crates conf.backend.filters.lrwn conf.backend.filters.forwardCrcOk
    conf.backend.filters.forwardCrcInvalid conf.backend.filters.forwardCrcMissing event

end Concentratord

end MqttForwarder
