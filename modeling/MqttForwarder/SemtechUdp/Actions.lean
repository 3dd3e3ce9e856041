import MqttForwarder.Rust.Pool
import MqttForwarder.SemtechUdp.Backend

/-!
# The actions of the handlers

What all actions of a handler guarantee follows from what its elementary
actions guarantee.  Each handler is walked through once, for any guarantee.
-/

namespace MqttForwarder.SemtechUdp

open MqttForwarder.Rust

/-- The elementary actions that the handling of a PUSH_DATA consists of. -/
structure PushDataActions (crates : Crates) (G : Env → State → State → List Effect → Prop) :
    Prop where
  idle : ∀ e s, G e s s []
  pushAck : ∀ bytes remote, (sendTo (.pushAck bytes remote)).Guarantees G
  countUplink : ∀ pl, (State.countUplink crates pl).Guarantees G
  up : ∀ pl, (sendUplinkFrame pl).Guarantees G
  exportStats : (State.exportStats crates).Guarantees G
  stats : ∀ pl, (sendGatewayStats pl).Guarantees G

structure PullDataActions (G : Env → State → State → List Effect → Prop) : Prop where
  pullAck : ∀ bytes remote, (sendTo (.pullAck bytes remote)).Guarantees G
  setGatewayId : ∀ gatewayId, (State.setGatewayId gatewayId).Guarantees G
  setPullAddr : ∀ addr, (State.setPullAddr addr).Guarantees G

structure DownlinkActions (G : Env → State → State → List Effect → Prop) : Prop where
  idle : ∀ e s, G e s s []
  setDownlinkCache : ∀ token dc, (State.setDownlinkCache token dc).Guarantees G
  pullResp : ∀ pl i bytes remote, (sendTo (.pullResp pl i bytes remote)).Guarantees G

structure TxAckActions (crates : Crates) (G : Env → State → State → List Effect → Prop) : Prop
    extends DownlinkActions G where
  cleanDownlinkCache : State.cleanDownlinkCache.Guarantees G
  readDownlinkCache : ∀ token, (State.readDownlinkCache token).Guarantees G
  countDownlink : ∀ pl ack, (State.countDownlink crates pl ack).Guarantees G
  ack : ∀ pl, (sendTxAck pl).Guarantees G

section

variable {G : Env → State → State → List Effect → Prop} {crates : Crates} {profile : Profile}
  {conf : Conf}

/-! ## Elementary actions -/

theorem sendTo_guarantees {datagram : Effect} (idle : ∀ e s, G e s s [])
    (sent : ∀ e s, G e s s [datagram]) : (sendTo datagram).Guarantees G := by
  apply Prog.guarantees_attempt
  intro e s
  split
  · exact sent e s
  · exact idle e s

theorem trySend_guarantees {message : MqttMessage} (idle : ∀ e s, G e s s [])
    (sent : ∀ e s, e.channel = .room → G e s s [.event message]) :
    (trySend message).Guarantees G := by
  apply Prog.guarantees_attempt
  intro e s
  cases answer : e.channel with
  | unset => exact idle e s
  | full => exact idle e s
  | room => exact sent e s answer

theorem ask_guarantees (idle : ∀ e s, G e s s []) {α : Type} (read : Env → α) :
    (Prog.ask read : Task α).Guarantees G :=
  Prog.guarantees_atomically fun e s => idle e s

theorem getrandom_guarantees (idle : ∀ e s, G e s s []) :
    (getrandom : Task UInt32).Guarantees G :=
  Prog.guarantees_bind (ask_guarantees idle _) fun _ => Prog.guarantees_done _

/-! ## Conversion -/

theorem rsigFrames_guarantees (idle : ∀ e s, G e s s []) (pl : Gw.UplinkFrame)
    (entries : List RSig) : (rsigFrames pl entries : Task _).Guarantees G := by
  induction entries with
  | nil => trivial
  | cons rs rest ih =>
      apply Prog.guarantees_bind (getrandom_guarantees idle)
      intro uplinkId
      apply Prog.guarantees_bind (Prog.guarantees_done _)
      intro frame
      exact Prog.guarantees_bind ih fun out => Prog.guarantees_done _

theorem RxPk.toProto_guarantees (idle : ∀ e s, G e s s []) (rx : RxPk) (gatewayId : List UInt8)
    (fallback : Bool) : (rx.toProto gatewayId fallback : Task _).Guarantees G := by
  apply Prog.guarantees_bind (getrandom_guarantees idle)
  intro uplinkId
  apply Prog.guarantees_bind (Prog.guarantees_done _)
  intro parameters
  apply Prog.guarantees_bind
  · unfold RxPk.gwTime
    split
    · trivial
    · split
      · exact Prog.guarantees_bind (ask_guarantees idle _) fun _ => Prog.guarantees_done _
      · trivial
  · intro gwTime
    split
    · trivial
    · exact rsigFrames_guarantees idle _ _

theorem toProtoFrames_guarantees (idle : ∀ e s, G e s s []) (gatewayId : List UInt8)
    (fallback : Bool) (rxpk : List RxPk) :
    (toProtoFrames gatewayId fallback rxpk : Task _).Guarantees G := by
  induction rxpk with
  | nil => trivial
  | cons rx rest ih =>
      apply Prog.guarantees_bind (rx.toProto_guarantees idle gatewayId fallback)
      intro frames
      exact Prog.guarantees_bind ih fun out => Prog.guarantees_done _

/-! ## Handlers -/

theorem forwardFrames_guarantees {frames : List Gw.UplinkFrame}
    (each : ∀ pl ∈ frames, crcIgnored conf pl = false →
      crates.filterMatches pl.phyPayload conf.filters = true →
        (State.countUplink crates pl).Guarantees G ∧ (sendUplinkFrame pl).Guarantees G) :
    (forwardFrames crates conf frames).Guarantees G := by
  induction frames with
  | nil => trivial
  | cons pl rest ih =>
      have later := ih fun other member => each other (List.mem_cons_of_mem _ member)
      unfold forwardFrames
      split
      · exact later
      · next forwarded =>
          split
          · next passes =>
              obtain ⟨counted, sent⟩ :=
                each pl List.mem_cons_self (Bool.eq_false_iff.mpr forwarded) passes
              exact Prog.guarantees_bind counted fun _ =>
                Prog.guarantees_bind sent fun _ => later
          · exact later

theorem forwardStats_guarantees (idle : ∀ e s, G e s s [])
    (exported : (State.exportStats crates).Guarantees G) {gatewayStats : Option Gw.GatewayStats}
    (reports : ∀ stats pl, gatewayStats = some stats → pl.gatewayId = stats.gatewayId →
      (sendGatewayStats pl).Guarantees G) :
    (forwardStats crates gatewayStats).Guarantees G := by
  cases gatewayStats with
  | none => trivial
  | some stats =>
      apply Prog.guarantees_bind exported
      intro s
      apply Prog.guarantees_bind (ask_guarantees idle _)
      intro answer
      apply Prog.guarantees_bind (Prog.guarantees_done _)
      intro metadata
      exact reports stats _ rfl rfl

theorem handlePushData_guarantees (actions : PushDataActions crates G) (data : List UInt8)
    (remote : SocketAddr) : (handlePushData crates profile conf data remote).Guarantees G := by
  apply Prog.guarantees_bind (Prog.guarantees_done _)
  intro pl
  apply Prog.guarantees_bind (actions.pushAck _ _)
  intro _
  apply Prog.guarantees_bind (toProtoFrames_guarantees actions.idle _ _ _)
  intro frames
  apply Prog.guarantees_bind (Prog.guarantees_done _)
  intro stats
  apply Prog.guarantees_bind
  · exact forwardFrames_guarantees fun pl _ _ _ => ⟨actions.countUplink pl, actions.up pl⟩
  · intro _
    exact forwardStats_guarantees actions.idle actions.exportStats fun _ pl _ _ =>
      actions.stats pl

theorem handlePullData_guarantees (actions : PullDataActions G) (data : List UInt8)
    (remote : SocketAddr) : (handlePullData data remote).Guarantees G := by
  apply Prog.guarantees_bind (Prog.guarantees_done _)
  intro pl
  apply Prog.guarantees_bind (actions.pullAck _ _)
  intro _
  exact Prog.guarantees_bind (actions.setGatewayId _) fun _ => actions.setPullAddr _

theorem sendDownlinkFrame_guarantees (actions : DownlinkActions G) (pl : Gw.DownlinkFrame)
    (acks : List Gw.DownlinkTxAckItem) (i : Nat) :
    (sendDownlinkFrame crates profile pl acks i).Guarantees G := by
  apply Prog.guarantees_bind (ask_guarantees actions.idle _)
  intro now
  apply Prog.guarantees_bind (actions.setDownlinkCache _ _)
  intro _
  apply Prog.guarantees_bind (Prog.guarantees_done _)
  intro resp
  apply Prog.guarantees_bind (Prog.guarantees_attempt fun e s => actions.idle e s)
  intro addr
  exact Prog.guarantees_bind (Prog.guarantees_done _) fun bytes => actions.pullResp _ _ _ _

theorem getDownlinkCache_guarantees (clean : State.cleanDownlinkCache.Guarantees G)
    {token : UInt16} (read : (State.readDownlinkCache token).Guarantees G) :
    (State.getDownlinkCache token).Guarantees G :=
  Prog.guarantees_bind clean fun _ => read

theorem acknowledge_guarantees (actions : TxAckActions crates G) (pl : TxAck)
    (dc : DownlinkCache) : (acknowledge crates profile pl dc).Guarantees G := by
  rcases Nat.lt_or_ge dc.index dc.ackItems.length with bound | beyond
  · rw [acknowledge_eq crates profile bound]
    split
    · exact Prog.guarantees_bind (actions.countDownlink _ _) fun _ => actions.ack _
    · exact sendDownlinkFrame_guarantees actions.toDownlinkActions _ _ _
  · rw [acknowledge_of_le crates profile beyond]
    trivial

theorem handleTxAck_guarantees (actions : TxAckActions crates G) (data : List UInt8) :
    (handleTxAck crates profile data).Guarantees G := by
  apply Prog.guarantees_bind (Prog.guarantees_done _)
  intro pl
  apply Prog.guarantees_bind
  · exact getDownlinkCache_guarantees actions.cleanDownlinkCache (actions.readDownlinkCache _)
  · intro found
    apply Prog.guarantees_bind (Prog.guarantees_done _)
    intro dc
    exact acknowledge_guarantees actions pl dc

end

end MqttForwarder.SemtechUdp
