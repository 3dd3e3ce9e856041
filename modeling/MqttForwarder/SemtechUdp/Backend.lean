import Mathlib.Logic.Function.Basic
import MqttForwarder.SemtechUdp.Downlink
import MqttForwarder.SemtechUdp.Stats

/-!
# The Semtech UDP backend

The shared state of the backend and its handlers, as programs of atomic
actions: each section under a lock, each datagram sent and each message put on
the publish channel is one action.  What an action shows to the outside, or
what it did to the cache and to the counters, is its effect.
-/

namespace MqttForwarder.SemtechUdp

open MqttForwarder.Rust

/-! ## State -/

/-- The settings of the backend, fixed when it is set up. -/
structure Conf where
  gatewayId : String := ""
  timeFallbackEnabled : Bool := false
  forwardCrcOk : Bool := true
  forwardCrcInvalid : Bool := false
  forwardCrcMissing : Bool := false
  filters : Filters := {}

structure SocketAddr where
  ip : List UInt8
  port : UInt16
  deriving DecidableEq, Repr

structure DownlinkCache where
  /-- `SystemTime`, in nanoseconds. -/
  expire : Nat
  frame : Gw.DownlinkFrame
  ackItems : List Gw.DownlinkTxAckItem
  index : Nat
  deriving DecidableEq, Repr

/-- The state that the tasks share. -/
structure State where
  gatewayId : String
  downlinkCache : UInt16 → Option DownlinkCache
  pullAddr : Option SocketAddr
  stats : Stats

def State.init (conf : Conf) : State where
  gatewayId := conf.gatewayId
  downlinkCache := fun _ => none
  pullAddr := none
  stats := {}

/-- A message on the publish channel, before it is encoded. -/
inductive MqttMessage where
  | up (pl : Gw.UplinkFrame)
  | stats (pl : Gw.GatewayStats)
  | ack (pl : Gw.DownlinkTxAck)
  deriving DecidableEq

/-- What the actions of the backend do, as far as it can be observed later. -/
inductive Effect where
  | pushAck (bytes : List UInt8) (remote : SocketAddr)
  | pullAck (bytes : List UInt8) (remote : SocketAddr)
  /-- The PULL_RESP of item `index` of `frame` has been sent. -/
  | pullResp (frame : Gw.DownlinkFrame) (index : Nat) (bytes : List UInt8) (remote : SocketAddr)
  /-- A message is on the publish channel. -/
  | event (message : MqttMessage)
  | cached (token : UInt16) (entry : DownlinkCache)
  | looked (token : UInt16) (entry : Option DownlinkCache)
  | countedUplink (pl : Gw.UplinkFrame)
  | countedDownlink (pl : Gw.DownlinkFrame) (ack : Gw.DownlinkTxAck)
  | exported
  deriving DecidableEq

/-- A program of the backend. -/
abbrev Task := Prog Env State Effect

namespace State

def setGatewayId (gatewayId : List UInt8) : Task Unit :=
  Prog.atomically fun _ s => ⟨(), { s with gatewayId := hexEncode gatewayId }, []⟩

def setDownlinkCache (token : UInt16) (dc : DownlinkCache) : Task Unit :=
  Prog.atomically fun _ s =>
    ⟨(), { s with downlinkCache := Function.update s.downlinkCache token (some dc) },
      [.cached token dc]⟩

/-- `cache.retain(…)`: entries that have expired are dropped. -/
def retain (now : Nat) (cache : UInt16 → Option DownlinkCache) : UInt16 → Option DownlinkCache :=
  fun token => (cache token).filter fun v => !decide (v.expire < now)

def cleanDownlinkCache : Task Unit :=
  Prog.atomically fun e s => ⟨(), { s with downlinkCache := retain e.now s.downlinkCache }, []⟩

/-- `cache.get(&token).cloned()` under the read lock. -/
def readDownlinkCache (token : UInt16) : Task (Option DownlinkCache) :=
  Prog.atomically fun _ s =>
    ⟨s.downlinkCache token, s, [.looked token (s.downlinkCache token)]⟩

def getDownlinkCache (token : UInt16) : Task (Option DownlinkCache) := do
  cleanDownlinkCache
  readDownlinkCache token

def setPullAddr (addr : SocketAddr) : Task Unit :=
  Prog.atomically fun _ s => ⟨(), { s with pullAddr := some addr }, []⟩

def getPullAddr : Task SocketAddr :=
  Prog.attempt fun _ s => ⟨Outcome.okOr s.pullAddr "No pull_addr", s, []⟩

def exportStats (crates : Crates) : Task Gw.GatewayStats :=
  Prog.attempt fun _ s =>
    let (result, stats) := s.stats.exportStats crates
    ⟨result, { s with stats }, [.exported]⟩

def countUplink (crates : Crates) (pl : Gw.UplinkFrame) : Task Unit :=
  Prog.attempt fun _ s =>
    let (result, stats) := s.stats.countUplink crates pl
    ⟨result, { s with stats }, [.countedUplink pl]⟩

def countDownlink (crates : Crates) (pl : Gw.DownlinkFrame) (ack : Gw.DownlinkTxAck) :
    Task Unit :=
  Prog.attempt fun _ s =>
    let (result, stats) := s.stats.countDownlink crates pl ack
    ⟨result, { s with stats }, [.countedDownlink pl ack]⟩

end State

/-! ## Output -/

/-- `socket.send_to(…).await?` for the datagram that the effect names. -/
def sendTo (datagram : Effect) : Task Unit :=
  Prog.attempt fun e s =>
    if e.socketSends then ⟨.ok (), s, [datagram]⟩ else ⟨.err "send_to failed", s, []⟩

/-- `PUB_CHANNEL_TX.get()` and `try_send`. -/
def trySend (message : MqttMessage) : Task Unit :=
  Prog.attempt fun e s =>
    match e.channel with
    | .unset => ⟨.err "PUB_CHANNEL_TX is None", s, []⟩
    | .full => ⟨.err "no available capacity", s, []⟩
    | .room => ⟨.ok (), s, [.event message]⟩

def sendUplinkFrame (pl : Gw.UplinkFrame) : Task Unit := trySend (.up pl)

def sendGatewayStats (pl : Gw.GatewayStats) : Task Unit := trySend (.stats pl)

def sendTxAck (pl : Gw.DownlinkTxAck) : Task Unit := trySend (.ack pl)

/-! ## Downlinks -/

/-- `pl.downlink_id as u16`. -/
def tokenFor (pl : Gw.DownlinkFrame) : UInt16 := pl.downlinkId.toUInt16

/-- Sixty seconds. -/
def lifetime : Nat := 60000000000

section

variable (crates : Crates) (profile : Profile)

/-- The part of `send_downlink_frame` after the cache has been set. -/
def sendPullResp (pl : Gw.DownlinkFrame) (i : Nat) : Task Unit := do
  let pullResp ← PullResp.fromProto profile pl i (tokenFor pl)
  let pullAddr ← State.getPullAddr
  let bytes ← pullResp.toVec crates
  sendTo (.pullResp pl i bytes pullAddr)

def sendDownlinkFrame (pl : Gw.DownlinkFrame) (acks : List Gw.DownlinkTxAckItem) (i : Nat) :
    Task Unit := do
  let now ← Prog.ask Env.now
  State.setDownlinkCache (tokenFor pl)
    { expire := now + lifetime, frame := pl, ackItems := acks, index := i }
  sendPullResp crates profile pl i

/-- `send_downlink_frame` of the `Backend` trait. -/
def Backend.sendDownlinkFrame (pl : Gw.DownlinkFrame) : Task Unit :=
  SemtechUdp.sendDownlinkFrame crates profile pl
    (pl.items.map fun _ => Gw.DownlinkTxAckItem.ofStatus .ignored) 0

/-! ## Handlers -/

/-- The part of `handle_tx_ack` after the cache entry has been found. -/
def acknowledge (pl : TxAck) (dc : DownlinkCache) : Task Unit := do
  let ackStatus := pl.toProtoTxAckStatus
  let _ ← index dc.ackItems dc.index
  let ackItems := dc.ackItems.set dc.index (.ofStatus ackStatus)
  let final ←
    if ackStatus = .ok then pure true
    else do
      let last ← subUsize profile ackItems.length 1
      pure (decide (last ≤ dc.index))
  if final then do
    let pl : Gw.DownlinkTxAck := {
      gatewayId := hexEncode pl.gatewayId
      downlinkId := dc.frame.downlinkId
      items := ackItems }
    State.countDownlink crates dc.frame pl
    sendTxAck pl
  else sendDownlinkFrame crates profile dc.frame ackItems (dc.index + 1)

/-- The part of `handle_tx_ack` after the cache has been read. -/
def answerFound (pl : TxAck) (downlinkCache : Option DownlinkCache) : Task Unit := do
  let dc ← Outcome.okOr downlinkCache
    ("No cache item for token, random_token: " ++ toString pl.randomToken.toNat)
  acknowledge crates profile pl dc

/-- The part of `handle_tx_ack` after the datagram has been read. -/
def answerTxAck (pl : TxAck) : Task Unit := do
  let downlinkCache ← State.getDownlinkCache pl.randomToken
  answerFound crates profile pl downlinkCache

def handleTxAck (data : List UInt8) : Task Unit := do
  let pl ← TxAck.fromSlice crates data
  answerTxAck crates profile pl

def handlePullData (data : List UInt8) (remote : SocketAddr) : Task Unit := do
  let pl ← PullData.fromSlice data
  sendTo (.pullAck ({ randomToken := pl.randomToken : PullAck }.toVec) remote)
  State.setGatewayId pl.gatewayId
  State.setPullAddr remote

/-- Whether the CRC status of a frame is enabled by its `forward_crc_` flag. -/
def crcForwarded (conf : Conf) (rxInfo : Gw.UplinkRxInfo) : Bool :=
  (rxInfo.getCrcStatus == .crcOk && conf.forwardCrcOk) ||
  (rxInfo.getCrcStatus == .badCrc && conf.forwardCrcInvalid) ||
  (rxInfo.getCrcStatus == .noCrc && conf.forwardCrcMissing)

/-- The test at the head of the loop of `handle_push_data`. -/
def crcIgnored (conf : Conf) (uf : Gw.UplinkFrame) : Bool :=
  match uf.rxInfo with
  | some rxInfo => !crcForwarded conf rxInfo
  | none => false

/-- The loop of `handle_push_data`. -/
def forwardFrames (conf : Conf) : List Gw.UplinkFrame → Task Unit
  | [] => pure ()
  | uf :: rest =>
      if crcIgnored conf uf then forwardFrames conf rest
      else if crates.filterMatches uf.phyPayload conf.filters then do
        State.countUplink crates uf
        sendUplinkFrame uf
        forwardFrames conf rest
      else forwardFrames conf rest

/-- The part of `handle_push_data` after the loop. -/
def forwardStats : Option Gw.GatewayStats → Task Unit
  | some stats => do
      let s ← State.exportStats crates
      let answer ← Prog.ask Env.metadata
      let metadata ← answer
      sendGatewayStats {
        stats with
        rxPacketsReceivedOk := s.rxPacketsReceivedOk
        txPacketsEmitted := s.txPacketsEmitted
        rxPacketsPerFrequency := s.rxPacketsPerFrequency
        txPacketsPerFrequency := s.txPacketsPerFrequency
        rxPacketsPerModulation := s.rxPacketsPerModulation
        txPacketsPerModulation := s.txPacketsPerModulation
        txPacketsPerStatus := s.txPacketsPerStatus
        metadata := stats.metadata.extend metadata }
  | none => pure ()

/-- The part of `handle_push_data` after the datagram has been read and acknowledged. -/
def forwardPushData (conf : Conf) (pl : PushData) : Task Unit := do
  let uplinkFrames ← pl.toProtoUplinkFrames conf.timeFallbackEnabled
  let gatewayStats ← pl.toProtoGatewayStats
  forwardFrames crates conf uplinkFrames
  forwardStats crates gatewayStats

def handlePushData (conf : Conf) (data : List UInt8) (remote : SocketAddr) : Task Unit := do
  let pl ← PushData.fromSlice crates profile data
  sendTo (.pushAck ({ randomToken := pl.randomToken : PushAck }.toVec) remote)
  forwardPushData crates conf pl

/-- The ack items of an entry with one more status. -/
def DownlinkCache.answered (dc : DownlinkCache) (status : Gw.TxAckStatus) :
    List Gw.DownlinkTxAckItem :=
  dc.ackItems.set dc.index (.ofStatus status)

/-- No other item of the frame is tried after this answer. -/
def DownlinkCache.Final (dc : DownlinkCache) (status : Gw.TxAckStatus) : Prop :=
  status = .ok ∨ dc.ackItems.length ≤ dc.index + 1

instance (dc : DownlinkCache) (status : Gw.TxAckStatus) : Decidable (dc.Final status) :=
  inferInstanceAs (Decidable (_ ∨ _))

/-- The ack that is published after a final answer. -/
def DownlinkCache.ack (dc : DownlinkCache) (pl : TxAck) : Gw.DownlinkTxAck where
  gatewayId := hexEncode pl.gatewayId
  downlinkId := dc.frame.downlinkId
  items := dc.answered pl.toProtoTxAckStatus

/-- An entry whose index is within its ack items is acknowledged to the network server after
a final answer; otherwise the next item is tried. -/
theorem acknowledge_eq {pl : TxAck} {dc : DownlinkCache} (bound : dc.index < dc.ackItems.length) :
    acknowledge crates profile pl dc =
      if dc.Final pl.toProtoTxAckStatus then do
        State.countDownlink crates dc.frame (dc.ack pl)
        sendTxAck (dc.ack pl)
      else
        SemtechUdp.sendDownlinkFrame crates profile dc.frame (dc.answered pl.toProtoTxAckStatus)
          (dc.index + 1) := by
  unfold acknowledge DownlinkCache.Final
  rw [index_of_lt bound]
  simp only [Prog.lift_eq, Prog.done_ok_bind, List.length_set]
  by_cases sent : pl.toProtoTxAckStatus = .ok
  · simp only [sent, if_true, Prog.pure_eq, Prog.done_ok_bind, true_or]
    rw [DownlinkCache.ack, DownlinkCache.answered, sent]
  · rw [subUsize_of_le (by omega)]
    simp only [sent, if_false, Prog.done_ok_bind, Prog.pure_eq, false_or,
      decide_eq_true_eq, Nat.sub_le_iff_le_add]
    rfl

/-- An entry without ack items panics. -/
theorem acknowledge_of_le {pl : TxAck} {dc : DownlinkCache}
    (beyond : dc.ackItems.length ≤ dc.index) :
    acknowledge crates profile pl dc = .done (.panic .indexOutOfBounds) := by
  unfold acknowledge
  rw [index_of_le beyond]
  rfl

/-- One turn of the loop `udp_receive_loop`, for a datagram that has been received. -/
def receive (conf : Conf) (data : List UInt8) (remote : SocketAddr) : Task Unit :=
  match (data[3]? : Option UInt8) with
  | none => pure ()
  | some 0x00 => handlePushData crates profile conf data remote
  | some 0x02 => handlePullData data remote
  | some 0x05 => handleTxAck crates profile data
  | some _ => pure ()

end

end MqttForwarder.SemtechUdp
