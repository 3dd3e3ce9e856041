import MqttForwarder.Downlink.Safety
import MqttForwarder.Mqtt.Sessions
import MqttForwarder.Uplink.Batching

/-!
# One gateway per session

A session whose backend hears of one gateway only publishes the events of that
gateway under its topics, and sends the downlinks of the gateway where its
PULL_DATA comes from.  Nothing in the backend compares the id in a PUSH_DATA or
in a TX_ACK with the id of the session.
-/

namespace MqttForwarder.Mqtt.Sessions

open MqttForwarder.Rust
open MqttForwarder.SemtechUdp

/-! ## The gateways that datagrams come from -/

/-- An object of the PUSH_DATA passes the filters, or it has statistics. -/
def Publishes (crates : Crates) (conf : SemtechUdp.Conf) (pl : PushData) : Prop :=
  (∃ rx ∈ pl.payload.rxpk, rx.Wanted crates conf) ∨ pl.payload.stat ≠ none

/-- If the datagram is accepted, and is no PUSH_DATA with nothing to publish, its header has the
id `g`. -/
structure Carries (crates : Crates) (profile : Profile) (conf : SemtechUdp.Conf) (g : String)
    (data : List UInt8) : Prop where
  pushData : ∀ pl, PushData.fromSlice crates profile data = .ok pl → Publishes crates conf pl →
    hexEncode pl.gatewayId = g
  pullData : ∀ pl, PullData.fromSlice data = .ok pl → hexEncode pl.gatewayId = g
  txAck : ∀ pl, TxAck.fromSlice crates data = .ok pl → hexEncode pl.gatewayId = g

/-- The gateway id of an accepted PULL_DATA. -/
def pullDataId (data : List UInt8) : Option String :=
  match PullData.fromSlice data with
  | .ok pl => some (hexEncode pl.gatewayId)
  | _ => none

/-- The gateway id of an accepted PULL_DATA from `addr`. -/
def Occurrence.pullDataFrom (addr : SocketAddr) : Occurrence → Option String
  | took _ (.datagram data remote) => if remote = addr then pullDataId data else none
  | _ => none

/-- The gateway id of the latest accepted PULL_DATA from `addr`. -/
def latestPullData (labels : List Occurrence) (addr : SocketAddr) : Option String :=
  (labels.filterMap (Occurrence.pullDataFrom addr)).getLast?

/-- In `after`, an event that is published under the topics of `g` carries `g`, and a PULL_RESP
for a downlink of `g` goes to an address whose latest PULL_DATA carried `g`. -/
structure OneGateway (mqtt : Conf) (g : String) (before after : List Occurrence) : Prop where
  events : ∀ msg, .published (eventTopic mqtt g msg.typ) msg ∈ after → msg.gatewayId? = some g
  downlinks : ∀ first i os rest, after = first ++ .acted i os :: rest →
    ∀ frame index bytes addr, .pullResp frame index bytes addr ∈ os → frame.gatewayId = g →
      latestPullData (before ++ first) addr = some g

/-- No task of the backend is busy, the events that wait carry `g`, and so did the latest
PULL_DATA from the address that downlinks are sent to. -/
structure Settled (g : String) (before : List Occurrence) (s : Forwarder) : Prop where
  idle : ∀ i, ∃ result, s.backend.threads i = .done result
  pending : ∀ msg ∈ s.pending, msg.gatewayId? = some g
  addr : ∀ addr, s.backend.state.pullAddr = some addr → latestPullData before addr = some g

/-- The request is a command, or a datagram that carries `g`. -/
def Occurrence.Carries (crates : Crates) (profile : Profile) (conf : SemtechUdp.Conf)
    (g : String) : Occurrence → Prop
  | took _ (.datagram data _) => Sessions.Carries crates profile conf g data
  | _ => True

section

variable {crates : Crates} {profile : Profile} {conf : SemtechUdp.Conf} {g : String}

/-- All parsers take the id from the same eight bytes. -/
theorem carries_of_bytes {data : List UInt8} (same : hexEncode ((data.drop 4).take 8) = g) :
    Carries crates profile conf g data := by
  constructor
  · intro pl accepted _
    unfold PushData.fromSlice at accepted
    split at accepted
    · cases accepted
    · obtain ⟨fields, read, accepted⟩ := Outcome.bind_eq_ok.mp accepted
      obtain ⟨text, _, accepted⟩ := Outcome.bind_eq_ok.mp accepted
      obtain ⟨payload, _, accepted⟩ := Outcome.bind_eq_ok.mp accepted
      cases accepted
      rw [← same, ← gatewayId_of_header (by omega) read]
  · intro pl accepted
    unfold PullData.fromSlice at accepted
    split at accepted
    · cases accepted
    · obtain ⟨fields, read, accepted⟩ := Outcome.bind_eq_ok.mp accepted
      cases accepted
      rw [← same, ← gatewayId_of_header (by omega) read]
  · intro pl accepted
    unfold TxAck.fromSlice at accepted
    split at accepted
    · cases accepted
    · obtain ⟨⟨randomToken, gatewayId⟩, read, accepted⟩ := Outcome.bind_eq_ok.mp accepted
      rw [← same, ← gatewayId_of_header (by omega) read]
      dsimp only at accepted
      split at accepted
      · obtain ⟨text, _, accepted⟩ := Outcome.bind_eq_ok.mp accepted
        obtain ⟨payload, _, accepted⟩ := Outcome.bind_eq_ok.mp accepted
        cases accepted
        rfl
      · cases accepted
        rfl

/-- When every datagram carries `g`, so does the latest PULL_DATA from any address that has
sent one. -/
theorem latestPullData_append {before after : List Occurrence} {addr : SocketAddr}
    (one : ∀ o ∈ after, o.Carries crates profile conf g)
    (known : latestPullData before addr = some g ∨
      ∃ o ∈ after, o.pullDataFrom addr ≠ none) :
    latestPullData (before ++ after) addr = some g := by
  have each : ∀ id ∈ after.filterMap (Occurrence.pullDataFrom addr), id = g := by
    intro id member
    obtain ⟨o, member, found⟩ := List.mem_filterMap.mp member
    have carries := one o member
    unfold Occurrence.pullDataFrom at found
    split at found
    · split at found
      · unfold pullDataId at found
        split at found
        · next accepted =>
            cases found
            exact carries.pullData _ accepted
        · cases found
      · cases found
    · cases found
  rw [latestPullData, List.filterMap_append, List.getLast?_append]
  cases last : (after.filterMap (Occurrence.pullDataFrom addr)).getLast? with
  | some id =>
      rw [each id (List.mem_of_getLast? last)]
      rfl
  | none =>
      rcases known with before | ⟨o, member, found⟩
      · exact before
      · rw [List.getLast?_eq_none_iff, List.filterMap_eq_nil_iff] at last
        exact absurd (last o member) found

theorem latestPullData_acted (labels : List Occurrence) (i : Thread) (os : List Effect)
    (addr : SocketAddr) :
    latestPullData (labels ++ [.acted i os]) addr = latestPullData labels addr := by
  rw [latestPullData, filterMap_snoc]
  exact congrArg List.getLast? (List.append_nil _)

end

/-! ## What the handlers do -/

/-- An event carries `g`, and a PULL_RESP goes to an address in `K`. -/
def About (g : String) (K : SocketAddr → Prop) : Effect → Prop
  | .event msg => msg.gatewayId? = some g
  | .pullResp _ _ _ addr => K addr
  | _ => True

/-- Downlinks are sent to an address in `K`. -/
def Addressed (K : SocketAddr → Prop) (_ : List Effect) (s : State) : Prop :=
  ∀ addr, s.pullAddr = some addr → K addr

/-- The action leaves the address alone, and its effects are about `g`. -/
structure Local (g : String) (K : SocketAddr → Prop) (_ : Env) (s s' : State)
    (os : List Effect) : Prop where
  addr : s'.pullAddr = s.pullAddr
  effects : ∀ o ∈ os, About g K o

/-- While downlinks are sent to addresses in `K`, the program is about `g`. -/
def Keeps (g : String) (K : SocketAddr → Prop) (p : SemtechUdp.Task Unit) : Prop :=
  ∀ before, p.Upholds (fun _ => True) (Addressed K) (fun _ _ _ os => ∀ o ∈ os, About g K o)
    (fun _ _ => True) before

section

variable {g : String} {K : SocketAddr → Prop} {α : Type}

theorem Local.unchanged {e : Env} {s : State} : Local g K e s s [] := ⟨rfl, by simp⟩

theorem keeps_bind {p : SemtechUdp.Task α} {rest : α → SemtechUdp.Task Unit}
    (first : p.Guarantees (Local g K)) (later : ∀ value, Keeps g K (rest value)) :
    Keeps g K (p >>= rest) := by
  intro before
  have keeps : p.Upholds (fun _ => True) (Addressed K) (fun _ _ _ os => ∀ o ∈ os, About g K o)
      (fun _ _ => True) before :=
    first.upholds (fun e s s' os log _ action addressed =>
      ⟨fun addr same => addressed addr (action.addr ▸ same), action.effects⟩) before
  refine Prog.upholds_bind.mpr (keeps.mono fun os result _ => ?_)
  cases result with
  | ok value => exact later value os
  | err message => trivial
  | panic cause => trivial

theorem keeps_of_local {p : SemtechUdp.Task Unit} (guarantees : p.Guarantees (Local g K)) :
    Keeps g K p := by
  intro before
  apply guarantees.upholds
  intro e s s' os log _ action addressed
  exact ⟨fun addr same => addressed addr (action.addr ▸ same), action.effects⟩

theorem keeps_lift {result : Outcome α} {rest : α → SemtechUdp.Task Unit}
    (later : ∀ value, result = .ok value → Keeps g K (rest value)) :
    Keeps g K (Prog.done result >>= rest) := by
  intro before
  cases result with
  | ok value => exact later value rfl before
  | err message => trivial
  | panic cause => trivial

theorem sendTo_local {datagram : Effect} (about : About g K datagram) :
    (sendTo datagram).Guarantees (Local g K) :=
  sendTo_guarantees (fun _ _ => Local.unchanged) fun _ _ => ⟨rfl, by simpa using about⟩

theorem trySend_local {msg : MqttMessage} (about : msg.gatewayId? = some g) :
    (trySend msg).Guarantees (Local g K) :=
  trySend_guarantees (fun _ _ => Local.unchanged) fun _ _ _ => ⟨rfl, by simpa [About] using about⟩

theorem ask_local (read : Env → α) : (Prog.ask read : SemtechUdp.Task α).Guarantees (Local g K) :=
  ask_guarantees (fun _ _ => Local.unchanged) read

theorem getDownlinkCache_local (token : UInt16) :
    (State.getDownlinkCache token).Guarantees (Local g K) := by
  apply getDownlinkCache_guarantees
  · exact Prog.guarantees_atomically fun _ _ => ⟨rfl, by simp⟩
  · exact Prog.guarantees_atomically fun _ _ => ⟨rfl, by simp [About]⟩

variable {crates : Crates} {profile : Profile} {conf : SemtechUdp.Conf}

theorem forwardFrames_local {frames : List Gw.UplinkFrame}
    (each : ∀ pl ∈ frames, Wanted crates conf pl = true →
      (MqttMessage.up pl).gatewayId? = some g) :
    (forwardFrames crates conf frames).Guarantees (Local g K) := by
  apply forwardFrames_guarantees
  intro pl member forwarded passes
  have wanted : Wanted crates conf pl = true := by
    rw [crcIgnored_eq, Bool.not_eq_false'] at forwarded
    rw [Wanted, forwarded, passes]
    rfl
  constructor
  · exact Prog.guarantees_attempt fun _ _ => ⟨rfl, by simp [About]⟩
  · exact trySend_local (each pl member wanted)

theorem forwardStats_local {stats : Option Gw.GatewayStats}
    (same : ∀ pl, stats = some pl → pl.gatewayId = g) :
    (forwardStats crates stats).Guarantees (Local g K) := by
  apply forwardStats_guarantees
  · exact fun _ _ => Local.unchanged
  · exact Prog.guarantees_attempt fun _ _ => ⟨rfl, by simp [About]⟩
  · intro pl report found own
    exact trySend_local (congrArg some (own.trans (same pl found)))

/-- The uplinks and the statistics carry the id of their datagram. -/
theorem forwardPushData_keeps {pl : PushData}
    (same : Publishes crates conf pl → hexEncode pl.gatewayId = g) :
    Keeps g K (forwardPushData crates conf pl) := by
  intro before
  have nothing : ∀ (e : Env) (s : State), ∀ o ∈ ([] : List Effect), About g K o := by simp
  apply Prog.upholds_bind.mpr
  refine ((toProtoFrames_expands pl.gatewayId _ _).upholds nothing before).mono ?_
  rintro _ _ ⟨rfl, ⟨frames, rfl, expands⟩ | ⟨message, rfl⟩⟩
  · have each : ∀ uf ∈ frames, Wanted crates conf uf = true →
        (MqttMessage.up uf).gatewayId? = some g := by
      intro uf member wanted
      obtain ⟨rx, inside, signal, uplinkId, parameters, gwTime, _, rfl⟩ := expands.frame member
      have own := (rx.wanted_frame signal uplinkId parameters gwTime).mp wanted
      exact congrArg some (same (.inl ⟨rx, inside, own⟩))
    have reports : ∀ stats, pl.toProtoGatewayStats = .ok stats →
        ∀ report, stats = some report → report.gatewayId = g := by
      rintro _ computed report rfl
      unfold PushData.toProtoGatewayStats at computed
      split at computed
      · next stat reported =>
          cases computed
          exact same (.inr (by simp [reported]))
      · cases computed
    have rest := @keeps_lift g K _ pl.toProtoGatewayStats
      (fun stats => do
        forwardFrames crates conf frames
        forwardStats crates stats) fun stats computed =>
      keeps_bind (forwardFrames_local each) fun _ =>
        keeps_of_local (forwardStats_local (reports stats computed))
    exact rest _
  · trivial

theorem handlePushData_keeps {data : List UInt8} (carries : Carries crates profile conf g data)
    (remote : SocketAddr) : Keeps g K (handlePushData crates profile conf data remote) := by
  apply keeps_lift
  intro pl parsed
  apply keeps_bind
  · apply sendTo_local
    exact trivial
  · intro _
    exact forwardPushData_keeps (carries.pushData pl parsed)

theorem handlePullData_keeps {data : List UInt8} {remote : SocketAddr}
    (known : pullDataId data ≠ none → K remote) : Keeps g K (handlePullData data remote) := by
  apply keeps_lift
  intro pl (parsed : PullData.fromSlice data = .ok pl)
  have accepted : pullDataId data = some (hexEncode pl.gatewayId) := by rw [pullDataId, parsed]
  apply keeps_bind
  · apply sendTo_local
    exact trivial
  · intro _
    apply keeps_bind
    · exact Prog.guarantees_atomically fun _ _ => ⟨rfl, by simp⟩
    · intro _ before e log s _ _
      refine ⟨?_, by simp, trivial⟩
      rintro addr ⟨⟩
      apply known
      simp [accepted]

theorem sendPullResp_keeps (pl : Gw.DownlinkFrame) (i : Nat) :
    Keeps g K (sendPullResp crates profile pl i) := by
  apply keeps_lift
  intro resp _ before e log s _ addressed
  refine ⟨addressed, by simp, ?_⟩
  dsimp only
  cases known : s.pullAddr with
  | none => trivial
  | some addr =>
      have later : Keeps g K (Prog.done (resp.toVec crates) >>= fun bytes =>
          sendTo (.pullResp pl i bytes addr)) :=
        keeps_lift fun bytes _ => keeps_of_local (sendTo_local (addressed addr known))
      exact later _

theorem sendDownlinkFrame_keeps (pl : Gw.DownlinkFrame) (acks : List Gw.DownlinkTxAckItem)
    (i : Nat) : Keeps g K (sendDownlinkFrame crates profile pl acks i) := by
  apply keeps_bind (ask_local _)
  intro now
  apply keeps_bind
  · exact Prog.guarantees_atomically fun _ _ => ⟨rfl, by simp [About]⟩
  · intro _
    exact sendPullResp_keeps pl i

theorem acknowledge_keeps {pl : TxAck} (same : hexEncode pl.gatewayId = g) (dc : DownlinkCache) :
    Keeps g K (acknowledge crates profile pl dc) := by
  rcases Nat.lt_or_ge dc.index dc.ackItems.length with bound | beyond
  · rw [acknowledge_eq crates profile bound]
    split
    · apply keeps_bind
      · exact Prog.guarantees_attempt fun _ _ => ⟨rfl, by simp [About]⟩
      · intro _
        exact keeps_of_local (trySend_local (congrArg some same))
    · exact sendDownlinkFrame_keeps _ _ _
  · rw [acknowledge_of_le crates profile beyond]
    exact fun _ => trivial

theorem handleTxAck_keeps {data : List UInt8} (carries : Carries crates profile conf g data) :
    Keeps g K (handleTxAck crates profile data) := by
  apply keeps_lift
  intro pl parsed
  apply keeps_bind (getDownlinkCache_local _)
  intro found
  apply keeps_lift
  intro dc _
  exact acknowledge_keeps (carries.txAck pl parsed) dc

/-- The request is a command, or a datagram that carries `g`, and comes from an address in `K` if
it is a PULL_DATA. -/
def Requested (crates : Crates) (profile : Profile) (conf : SemtechUdp.Conf) (g : String)
    (K : SocketAddr → Prop) : Request → Prop
  | .command _ => True
  | .datagram data remote =>
      Carries crates profile conf g data ∧ (pullDataId data ≠ none → K remote)

theorem program_keeps {r : Request} (requested : Requested crates profile conf g K r) (i : Thread) :
    Keeps g K (program crates profile conf i r) := by
  cases r with
  | command pl => exact sendDownlinkFrame_keeps _ _ _
  | datagram data remote =>
      obtain ⟨carries, known⟩ := requested
      have handled : Keeps g K (receive crates profile conf data remote) := by
        unfold receive
        split
        · exact fun _ => trivial
        · exact handlePushData_keeps carries remote
        · exact handlePullData_keeps known
        · exact handleTxAck_keeps carries
        · exact fun _ => trivial
      exact handled

end

/-! ## Runs -/

/-- The tasks do what is about `g`, and so are the events that wait. -/
structure Dedicated (g : String) (K : SocketAddr → Prop) (s : Forwarder) : Prop where
  sound : Pool.Sound (fun _ => True) (Addressed K) (fun _ _ _ _ os => ∀ o ∈ os, About g K o)
    (fun _ (_ : Request) _ _ => True) s.backend
  pending : ∀ msg ∈ s.pending, msg.gatewayId? = some g

def Occurrence.Requested (crates : Crates) (profile : Profile) (conf : SemtechUdp.Conf)
    (g : String) (K : SocketAddr → Prop) : Occurrence → Prop
  | took _ r => Sessions.Requested crates profile conf g K r
  | _ => True

def Occurrence.About (g : String) (K : SocketAddr → Prop) : Occurrence → Prop
  | acted _ os => ∀ o ∈ os, Sessions.About g K o
  | published _ msg => msg.gatewayId? = some g
  | _ => True

section

variable {crates : Crates} {profile : Profile} {conf : SemtechUdp.Conf} {mqtt : Conf}
  {g : String} {K : SocketAddr → Prop} {s s' s₀ : Forwarder} {o : Occurrence}
  {before since after labels : List Occurrence}

/-- A step of the session takes events away, if anything. -/
theorem Dedicated.fewer (dedicated : Dedicated g K s) (same : s'.backend = s.backend)
    (fewer : ∀ msg ∈ s'.pending, msg ∈ s.pending) : Dedicated g K s' :=
  ⟨same ▸ dedicated.sound, fun msg member => dedicated.pending msg (fewer msg member)⟩

theorem Dedicated.step (dedicated : Dedicated g K s) (taken : Step crates profile conf mqtt s o s')
    (requested : o.Requested crates profile conf g K) : Dedicated g K s' ∧ o.About g K := by
  cases taken with
  | opened unset positive =>
      exact ⟨dedicated.fewer rfl (by simp [Forwarder.pending, unset]), trivial⟩
  | started stopped set known =>
      exact ⟨dedicated.fewer rfl (by simp [Forwarder.pending, stopped]), trivial⟩
  | took i r free admitted =>
      exact ⟨⟨dedicated.sound.start i (program_keeps requested i []), dedicated.pending⟩, trivial⟩
  | acted i action next e current answered =>
      have about := dedicated.sound.guarantee (e := e) current trivial
      refine ⟨⟨dedicated.sound.exec current trivial, fun msg member => ?_⟩, about⟩
      rcases List.mem_append.mp member with publishing | queued
      · exact dedicated.pending msg (List.mem_append_left _ publishing)
      · cases channel : s.channel with
        | none => simp [channel] at queued
        | some queue =>
            rw [channel, Option.map_some, Option.getD_some, List.mem_append] at queued
            rcases queued with old | new
            · apply dedicated.pending msg
              rw [Forwarder.pending, channel]
              exact List.mem_append_right _ old
            · obtain ⟨o, member, event⟩ := List.mem_filterMap.mp new
              have own := about o member
              unfold Effect.event? at event
              split at event
              · cases event
                exact own
              · cases event
  | received receiving front =>
      exact ⟨dedicated.fewer rfl (by simp [Forwarder.pending, receiving, front]), trivial⟩
  | @published gatewayId msg publishing =>
      refine ⟨dedicated.fewer rfl fun msg member => List.mem_append_right _ member, ?_⟩
      exact dedicated.pending msg (by simp [Forwarder.pending, publishing])
  | failed publishing =>
      exact ⟨dedicated.fewer rfl fun msg member => List.mem_append_right _ member, trivial⟩
  | terminated running =>
      exact ⟨dedicated.fewer rfl fun msg member => List.mem_append_right _ member, trivial⟩

theorem Dedicated.run (dedicated : Dedicated g K s₀)
    (run : Trace (Step crates profile conf mqtt) s₀ labels s)
    (requested : ∀ o ∈ labels, o.Requested crates profile conf g K) :
    Dedicated g K s ∧ ∀ o ∈ labels, o.About g K := by
  induction run with
  | nil => exact ⟨dedicated, by simp⟩
  | @snoc before s s' o _ taken ih =>
      obtain ⟨dedicated, earlier⟩ := ih fun o member => requested o (List.mem_append_left _ member)
      obtain ⟨dedicated, now⟩ := dedicated.step taken (requested o (by simp))
      refine ⟨dedicated, fun other member => ?_⟩
      rcases List.mem_append.mp member with old | new
      · exact earlier other old
      · rw [List.mem_singleton.mp new]
        exact now

theorem Settled.dedicated (settled : Settled g before s)
    (run : Run crates profile conf mqtt before s)
    (known : ∀ addr, latestPullData before addr = some g → K addr) : Dedicated g K s := by
  refine ⟨⟨fun addr same => known addr (settled.addr addr same), ?_, fun i r _ => ?_⟩,
    settled.pending⟩
  · exact (reachable_sound run.reachable).jobless
  · obtain ⟨result, returned⟩ := settled.idle i
    rw [returned]
    trivial

/-- A settled forwarder that hears of one gateway only is about that gateway, and knows where its
PULL_DATA come from. -/
theorem Settled.about (settled : Settled g before s₀)
    (start : Run crates profile conf mqtt before s₀)
    (run : Trace (Step crates profile conf mqtt) s₀ labels s)
    (one : ∀ o ∈ labels, o.Carries crates profile conf g) :
    ∀ o ∈ labels, o.About g fun addr => latestPullData (before ++ labels) addr = some g := by
  refine ((settled.dedicated start fun addr known => ?_).run run fun o member => ?_).2
  · exact latestPullData_append one (.inl known)
  · have carries := one o member
    cases o with
    | took i r =>
        cases r with
        | command pl => trivial
        | datagram data remote =>
            refine ⟨carries, fun accepted => latestPullData_append one (.inr ⟨_, member, ?_⟩)⟩
            rwa [Occurrence.pullDataFrom, if_pos rfl]
    | _ => trivial

/-- If, from a moment on at which the forwarder was settled and before which the session had not
started, the datagrams that are accepted all carry the id of the session, then so do its events,
and its downlinks go to addresses whose latest PULL_DATA carried it. -/
theorem one_gateway (start : Run crates profile conf mqtt before s₀) (settled : Settled g before s₀)
    (run : Trace (Step crates profile conf mqtt) s₀ (since ++ .started g :: after) s)
    (one : ∀ o ∈ since ++ .started g :: after, o.Carries crates profile conf g) :
    OneGateway mqtt g (before ++ since ++ [.started g]) after := by
  constructor
  · intro msg member
    exact settled.about start run one _
      (List.mem_append_right _ (List.mem_cons_of_mem _ member))
  · rintro first i os rest rfl frame index bytes addr sent _
    have split : since ++ .started g :: (first ++ .acted i os :: rest) =
        (since ++ .started g :: first ++ [.acted i os]) ++ rest := by simp
    rw [split] at run one
    obtain ⟨_, run, _⟩ := run.split
    have known : latestPullData (before ++ (since ++ .started g :: first ++ [.acted i os])) addr =
        some g :=
      settled.about start run (fun o member => one o (List.mem_append_left _ member))
        (.acted i os) (by simp) _ sent
    rw [← List.append_assoc, latestPullData_acted] at known
    simpa using known

end

/-! ## A session with two frames -/

/-- A PULL_DATA of the gateway whose id ends in `last`. -/
def pullDatagram (last : UInt8) : List UInt8 :=
  [protocolVersion, 0, 0, 0x02, 0, 0, 0, 0, 0, 0, 0, last]

def shortId (last : UInt8) : String := hexEncode [0, 0, 0, 0, 0, 0, 0, last]

def packetForwarder : SocketAddr := ⟨[127, 0, 0, 1], 1700⟩

/-- The state of the backend after that PULL_DATA. -/
def pulled (last : UInt8) : State :=
  { State.init {} with gatewayId := shortId last, pullAddr := some packetForwarder }

theorem pullDatagram_exec (last : UInt8) :
    (program twoAntennas .release {} .udp (.datagram (pullDatagram last) packetForwarder)).Exec
      (· = Env.plain) (State.init {}) [.pullAck [2, 0, 0, 4] packetForwarder] (pulled last)
      (.ok ()) := by
  have handled : program twoAntennas .release {} .udp
      (.datagram (pullDatagram last) packetForwarder) =
      handlePullData (pullDatagram last) packetForwarder := rfl
  have parsed : PullData.fromSlice (pullDatagram last) =
      .ok ⟨0, [0, 0, 0, 0, 0, 0, 0, last]⟩ := rfl
  rw [handled, handlePullData, parsed, Prog.lift_eq, Prog.done_ok_bind]
  dsimp only
  refine ⟨_, rfl, _, rfl, ?_⟩
  refine ⟨_, rfl, _, rfl, ?_⟩
  refine ⟨_, rfl, _, rfl, ?_⟩
  exact ⟨rfl, rfl, rfl⟩

def firstEntry : RSig := ⟨0, 1, -50, none⟩

def secondEntry : RSig := ⟨1, 1, -60, none⟩

/-- The frame for one antenna entry of the object of the PUSH_DATA. -/
def antennaFrame (rs : RSig) : Gw.UplinkFrame :=
  rs.signal.on (twoAntennasRxPk.frame [0, 0, 0, 0, 0, 0, 0, 1] 0 (.fsk { datarate := 50000 }) none)

theorem antennaFrame_gatewayId (rs : RSig) :
    (MqttMessage.up (antennaFrame rs)).gatewayId? = some (shortId 1) := rfl

theorem twoAntennas_exec (last : UInt8) :
    ∃ state,
      (program twoAntennas .release {} .udp (.datagram twoAntennasDatagram packetForwarder)).Exec
        (· = Env.plain) (pulled last)
        [.pushAck [2, 0, 0, 1] packetForwarder,
          .countedUplink (antennaFrame firstEntry),
          .event (.up (antennaFrame firstEntry)),
          .countedUplink (antennaFrame secondEntry),
          .event (.up (antennaFrame secondEntry))]
        state (.ok ()) := by
  have handled : program twoAntennas .release {} .udp
      (.datagram twoAntennasDatagram packetForwarder) =
      handlePushData twoAntennas .release {} twoAntennasDatagram packetForwarder := rfl
  rw [handled, handlePushData, twoAntennas_parsed, Prog.lift_eq, Prog.done_ok_bind]
  apply Exists.intro
  refine ⟨_, rfl, _, rfl, ?_⟩
  refine ⟨_, rfl, _, rfl, ?_⟩
  refine ⟨_, rfl, _, rfl, ?_⟩
  refine ⟨_, rfl, _, rfl, ?_⟩
  refine ⟨_, rfl, _, rfl, ?_⟩
  refine ⟨_, rfl, _, rfl, ?_⟩
  refine ⟨_, rfl, _, rfl, ?_⟩
  refine ⟨_, rfl, _, rfl, ?_⟩
  exact ⟨rfl, rfl, rfl⟩

theorem shortId_ne (last : UInt8) : shortId last ≠ "" := by
  simp [shortId, hexEncode]

/-- A session that starts with the id of the PULL_DATA publishes a frame of the PUSH_DATA. -/
theorem session_publishes (last : UInt8) :
    ∃ since after s,
      Run twoAntennas .release {} {} (since ++ .started (shortId last) :: after) s ∧
      .published (eventTopic {} (shortId last) "up") (.up (antennaFrame firstEntry)) ∈ after ∧
      (last = 1 → ∀ o ∈ since ++ .started (shortId last) :: after,
        o.Carries twoAntennas .release {} (shortId 1)) := by
  have answers : ∀ e, e = Env.plain → e.channel = .room := fun e same => same ▸ rfl
  have opened : Step twoAntennas .release {} {} (.init {}) .opened
      { Forwarder.init {} with channel := some [] } := .opened rfl (by decide)
  obtain ⟨first, s₁, pulls, state₁, returned₁, queued₁, session₁, own₁⟩ :=
    @trace_of_request twoAntennas .release {} {} { Forwarder.init {} with channel := some [] }
      (· = Env.plain) answers .udp (.datagram (pullDatagram last) packetForwarder) _ _ _ []
      trivial trivial (pullDatagram_exec last) rfl (by decide)
  have reported : s₁.backend.state.gatewayId = shortId last := by
    rw [state₁]
    rfl
  have started : Step twoAntennas .release {} {} s₁ (.started s₁.backend.state.gatewayId)
      { s₁ with session := some ⟨s₁.backend.state.gatewayId, none⟩ } := by
    apply Step.started
    · exact session₁
    · simp [queued₁]
    · rw [reported]
      exact shortId_ne last
  rw [reported] at started
  obtain ⟨state, exec⟩ := twoAntennas_exec last
  rw [← state₁] at exec
  obtain ⟨second, s₂, pushes, _, _, queued₂, session₂, own₂⟩ :=
    @trace_of_request twoAntennas .release {} {}
      { s₁ with session := some ⟨shortId last, none⟩ }
      (· = Env.plain) answers .udp (.datagram twoAntennasDatagram packetForwarder) _ _ _ []
      (by rw [returned₁]; trivial) trivial exec queued₁ (by decide)
  have received :
      Step twoAntennas .release {} {} s₂ (.received (.up (antennaFrame firstEntry))) _ :=
    .received session₂ queued₂
  have published : Step twoAntennas .release {} {} _
      (.published (eventTopic {} (shortId last) "up") (.up (antennaFrame firstEntry))) _ :=
    .published (s := { s₂ with
      channel := some [.up (antennaFrame secondEntry)]
      session := some ⟨shortId last, some (.up (antennaFrame firstEntry))⟩ }) rfl
  refine ⟨_, _, _, (Trace.cons opened pulls).append
    (.cons started (pushes.append (.cons received (.cons published .nil)))), by simp, ?_⟩
  intro same o member
  simp only [List.cons_append, List.mem_cons, List.mem_append, List.not_mem_nil, or_false] at member
  rcases member with rfl | rfl | acted | rfl | rfl | acted | rfl | rfl
  · trivial
  · exact carries_of_bytes (same ▸ rfl)
  · obtain ⟨effects, rfl⟩ := own₁ o acted
    trivial
  · trivial
  · exact carries_of_bytes rfl
  · obtain ⟨effects, rfl⟩ := own₂ o acted
    trivial
  · trivial
  · trivial

theorem one_gateway_two_frames :
    ∃ since after s, Run twoAntennas .release {} {} (since ++ .started (shortId 1) :: after) s ∧
      .published (eventTopic {} (shortId 1) "up") (.up (antennaFrame firstEntry)) ∈ after ∧
      OneGateway {} (shortId 1) (since ++ [.started (shortId 1)]) after := by
  obtain ⟨since, after, s, run, published, carries⟩ := session_publishes 1
  have settled : Settled (shortId 1) [] (.init {}) := by
    constructor
    · exact fun i => ⟨.ok (), rfl⟩
    · simp [Forwarder.pending, Forwarder.init]
    · rintro addr ⟨⟩
  exact ⟨since, after, s, run, published, one_gateway .nil settled run (carries rfl)⟩

/-- A frame of one gateway is published under the topics of the gateway that a PULL_DATA has
named before. -/
theorem session_publishes_other_gateway :
    ¬ ∀ (crates : Crates) (profile : Profile) (conf : SemtechUdp.Conf) (mqtt : Conf) (g : String)
      (before after : List Occurrence) (s : Forwarder),
      Run crates profile conf mqtt (before ++ .started g :: after) s →
        OneGateway mqtt g (before ++ [.started g]) after := by
  intro unmixed
  obtain ⟨since, after, s, run, published, _⟩ := session_publishes 2
  have carried := (unmixed _ _ _ _ _ _ _ _ run).events (.up (antennaFrame firstEntry)) published
  rw [antennaFrame_gatewayId] at carried
  exact absurd carried (by decide)

end MqttForwarder.Mqtt.Sessions
