import MqttForwarder.Mqtt.OneGateway
import MqttForwarder.Mqtt.Publishing

/-!
# The backend on the publish channel

With its events encoded, the backend with its sessions is one of the runs of
the publish loop.  What holds of the messages in all of those runs holds of
the events of the backend.
-/

namespace MqttForwarder.Mqtt.Sessions

open MqttForwarder.Rust
open MqttForwarder.SemtechUdp

/-! ## Events of one action -/

/-- The action puts one event on the channel at most, and only if there is room. -/
def AtMostOne (e : Env) (_ _ : State) (os : List Effect) : Prop :=
  os.filterMap Effect.event? = [] ∨
    e.channel = .room ∧ ∃ msg, os.filterMap Effect.event? = [msg]

section

variable {crates : Crates} {profile : Profile} {conf : SemtechUdp.Conf}

theorem trySend_atMostOne (msg : MqttMessage) : (trySend msg).Guarantees AtMostOne :=
  trySend_guarantees (fun _ _ => .inl rfl) fun _ _ room => .inr ⟨room, msg, rfl⟩

theorem pushData_atMostOne : PushDataActions crates AtMostOne where
  idle := fun _ _ => .inl rfl
  pushAck := fun _ _ => sendTo_guarantees (fun _ _ => .inl rfl) fun _ _ => .inl rfl
  countUplink := fun _ => Prog.guarantees_attempt fun _ _ => .inl rfl
  up := fun _ => trySend_atMostOne _
  exportStats := Prog.guarantees_attempt fun _ _ => .inl rfl
  stats := fun _ => trySend_atMostOne _

theorem pullData_atMostOne : PullDataActions AtMostOne where
  pullAck := fun _ _ => sendTo_guarantees (fun _ _ => .inl rfl) fun _ _ => .inl rfl
  setGatewayId := fun _ => Prog.guarantees_atomically fun _ _ => .inl rfl
  setPullAddr := fun _ => Prog.guarantees_atomically fun _ _ => .inl rfl

theorem txAck_atMostOne : TxAckActions crates AtMostOne where
  idle := fun _ _ => .inl rfl
  setDownlinkCache := fun _ _ => Prog.guarantees_atomically fun _ _ => .inl rfl
  pullResp := fun _ _ _ _ => sendTo_guarantees (fun _ _ => .inl rfl) fun _ _ => .inl rfl
  cleanDownlinkCache := Prog.guarantees_atomically fun _ _ => .inl rfl
  readDownlinkCache := fun _ => Prog.guarantees_atomically fun _ _ => .inl rfl
  countDownlink := fun _ _ => Prog.guarantees_attempt fun _ _ => .inl rfl
  ack := fun _ => trySend_atMostOne _

theorem program_atMostOne (i : Thread) (r : Request) :
    (program crates profile conf i r).Guarantees AtMostOne :=
  program_guarantees pushData_atMostOne pullData_atMostOne txAck_atMostOne i r

end

/-! ## Encoded events -/

/-- The encoder of the sender of the event. -/
def write (encoders : Publishing.Encoders) (json : Bool) : MqttMessage → Outcome (List UInt8)
  | .up pl => encoders.uplinkFrame.write json pl
  | .stats pl => encoders.gatewayStats.write json pl
  | .ack pl => encoders.downlinkTxAck.write json pl

/-- The sender of the event. -/
def sender : MqttMessage → Publishing.Call
  | .up pl => .sendUplinkFrame pl
  | .stats pl => .sendGatewayStats pl
  | .ack pl => .sendTxAck pl

/-- The encoders, and what they write for the events that they do not fail on. -/
structure Encoding where
  encoders : Publishing.Encoders
  json : Bool
  bytes : MqttMessage → List UInt8

namespace Encoding

variable (encoding : Encoding)

/-- The event is encoded without an error. -/
def Writes (msg : MqttMessage) : Prop :=
  write encoding.encoders encoding.json msg = .ok (encoding.bytes msg)

def encoded (msg : MqttMessage) : Publishing.MqttMessage := ⟨msg.typ, encoding.bytes msg⟩

/-- Where the publish loop of the session waits. -/
def loop : Option Session → Publishing.PublishLoop
  | none => .stopped
  | some ⟨_, none⟩ => .receiving
  | some ⟨_, some msg⟩ => .publishing (encoding.encoded msg)

/-- The sender of an event puts it on a channel that has room. -/
theorem sender_run {msg : MqttMessage} (writes : encoding.Writes msg)
    {channel after : Mpsc Publishing.MqttMessage}
    (sent : channel.trySend (encoding.encoded msg) = some after) :
    (sender msg).run encoding.encoders encoding.json (some channel) =
      .ok (encoding.encoded msg, after) := by
  have taken : ∀ {T : Type} (encoder : Publishing.Encoder T) (pl : T),
      encoder.write encoding.json pl = .ok (encoding.bytes msg) →
      Publishing.sendEvent encoder msg.typ encoding.json pl (some channel) =
        .ok (encoding.encoded msg, after) := by
    intro T encoder pl written
    rw [Publishing.sendEvent, written, Outcome.ok_bind, Outcome.okOr_some, Outcome.ok_bind]
    rw [encoded] at sent
    rw [sent]
    rfl
  cases msg with
  | up pl => exact taken encoding.encoders.uplinkFrame pl writes
  | stats pl => exact taken encoding.encoders.gatewayStats pl writes
  | ack pl => exact taken encoding.encoders.downlinkTxAck pl writes

/-- The states agree, with the events encoded. -/
structure Relays (mqtt : Conf) (s : Forwarder) (t : Publishing.State) : Prop where
  channel : t.channel.map Mpsc.queue = s.channel.map (List.map encoding.encoded)
  capacity : ∀ tx, t.channel = some tx → tx.capacity = mqtt.publishChannelSize
  loop : t.loop = encoding.loop s.session

end Encoding

def Occurrence.published? : Occurrence → Option MqttMessage
  | published _ msg => some msg
  | _ => none

def Occurrence.effects : Occurrence → List Effect
  | acted _ os => os
  | _ => []

/-- The events that have been published, in order. -/
def published (labels : List Occurrence) : List MqttMessage :=
  labels.filterMap Occurrence.published?

section

variable {crates : Crates} {profile : Profile} {conf : SemtechUdp.Conf} {mqtt : Conf}
  {encoding : Encoding} {labels : List Occurrence} {s s' : Forwarder} {t : Publishing.State}

/-- A channel that the forwarder has set up. -/
theorem Encoding.Relays.some_channel (relays : encoding.Relays mqtt s t) {queue : List MqttMessage}
    (set : s.channel = some queue) :
    ∃ tx, t.channel = some tx ∧ tx.queue = queue.map encoding.encoded ∧
      tx.capacity = mqtt.publishChannelSize := by
  have same := relays.channel
  rw [set, Option.map_some, Option.map_eq_some_iff] at same
  obtain ⟨tx, found, queued⟩ := same
  exact ⟨tx, found, queued, relays.capacity tx found⟩

theorem Step.log {o : Occurrence} (taken : Step crates profile conf mqtt s o s') :
    s'.backend.log = s.backend.log ++ o.effects := by
  cases taken with
  | acted i action next e current answered => rfl
  | opened unset positive => exact (List.append_nil _).symm
  | started stopped set known => exact (List.append_nil _).symm
  | took i r free admitted => exact (List.append_nil _).symm
  | received receiving front => exact (List.append_nil _).symm
  | published publishing => exact (List.append_nil _).symm
  | failed publishing => exact (List.append_nil _).symm
  | terminated running => exact (List.append_nil _).symm

/-- The publish loop does for a step what the step does, with the events encoded. -/
structure Relayed (encoding : Encoding) (mqtt : Conf) (o : Occurrence) (s' : Forwarder)
    (t : Publishing.State) (labels : List Publishing.Occurrence) (t' : Publishing.State) :
    Prop where
  trace : Trace (Publishing.Step mqtt encoding.encoders) t labels t'
  relays : encoding.Relays mqtt s' t'
  published : Publishing.published labels = o.published?.toList.map encoding.encoded
  accepted : Publishing.accepted labels =
    (o.effects.filterMap Effect.event?).map encoding.encoded

/-- An action of the backend is a call of a sender, or nothing to the publish loop. -/
theorem Encoding.Relays.acted (relays : encoding.Relays mqtt s t) {i : Thread} {e : Env}
    {os : List Effect} {backend : System} (answered : e.channel = s.answer mqtt)
    (writes : ∀ msg ∈ os.filterMap Effect.event?, encoding.Writes msg)
    (events : os.filterMap Effect.event? = [] ∨
      e.channel = .room ∧ ∃ msg, os.filterMap Effect.event? = [msg]) :
    ∃ labels t', Relayed encoding mqtt (.acted i os)
      { s with
        backend
        channel := s.channel.map (· ++ os.filterMap Effect.event?) } t labels t' := by
  rcases events with none | ⟨room, msg, one⟩
  · refine ⟨[], t, .nil, ⟨?_, relays.capacity, relays.loop⟩, rfl, ?_⟩
    · simpa [none] using relays.channel
    · simp [Occurrence.effects, none, Publishing.accepted]
  · rw [room, Forwarder.answer] at answered
    split at answered
    · cases answered
    · next queue set =>
        split at answered
        · next free =>
            obtain ⟨tx, found, queued, capacity⟩ := relays.some_channel set
            obtain ⟨after, sent, same⟩ := Mpsc.trySend_of_room (encoding.encoded msg)
              (by rw [queued, List.length_map, capacity]; exact free)
            have accepted : Publishing.Step mqtt encoding.encoders t
                (.accepted (encoding.encoded msg)) { t with channel := some after } :=
              .accepted (by
                rw [found]
                exact encoding.sender_run (writes msg (by rw [one]; exact List.mem_cons_self)) sent)
            refine ⟨_, _, .snoc .nil accepted, ⟨?_, ?_, relays.loop⟩, rfl, ?_⟩
            · simp [one, set, Mpsc.queue_of_trySend sent, queued]
            · rintro _ ⟨⟩
              exact same.trans capacity
            · simp [Occurrence.effects, one, Publishing.accepted,
                Publishing.Occurrence.accepted?]
        · cases answered

theorem Encoding.Relays.step (relays : encoding.Relays mqtt s t)
    (atMostOne : ∀ i, (s.backend.threads i).Guarantees AtMostOne) {o : Occurrence}
    (taken : Step crates profile conf mqtt s o s')
    (writes : ∀ msg ∈ o.effects.filterMap Effect.event?, encoding.Writes msg) :
    ∃ labels t', Relayed encoding mqtt o s' t labels t' := by
  cases taken with
  | opened unset positive =>
      have none : t.channel = none := by simpa [unset] using relays.channel
      refine ⟨_, _, .snoc .nil (.opened none positive), ⟨rfl, ?_, relays.loop⟩, rfl, rfl⟩
      rintro _ ⟨⟩
      rfl
  | started stopped set known =>
      have stopped' : t.loop = .stopped := by simpa [stopped, Encoding.loop] using relays.loop
      obtain ⟨queue, some⟩ := Option.ne_none_iff_exists'.mp set
      obtain ⟨tx, found, _, _⟩ := relays.some_channel some
      exact ⟨_, _, .snoc .nil (.started stopped' (by simp [found])),
        ⟨relays.channel, relays.capacity, rfl⟩, rfl, rfl⟩
  | took i r free admitted =>
      exact ⟨[], t, .nil, ⟨relays.channel, relays.capacity, relays.loop⟩, rfl, rfl⟩
  | acted i action next e current answered =>
      have guarantees := atMostOne i
      rw [current] at guarantees
      exact relays.acted answered writes (guarantees e _).1
  | @received gatewayId msg rest receiving front =>
      obtain ⟨tx, found, queued, capacity⟩ := relays.some_channel front
      obtain ⟨after, got, same⟩ := Mpsc.recv_of_queue queued
      have receiving' : t.loop = .receiving := by
        simpa [receiving, Encoding.loop] using relays.loop
      refine ⟨_, _, .snoc .nil (.received receiving' found got), ⟨?_, ?_, rfl⟩, rfl, rfl⟩
      · have rest := Mpsc.queue_of_recv got
        rw [queued, List.map_cons] at rest
        simpa using (List.cons.inj rest).2.symm
      · rintro _ ⟨⟩
        exact same.trans capacity
  | @published gatewayId msg publishing =>
      have publishing' : t.loop = .publishing (encoding.encoded msg) := by
        simpa [publishing, Encoding.loop] using relays.loop
      exact ⟨_, _, .snoc .nil (.published publishing'),
        ⟨relays.channel, relays.capacity, rfl⟩, rfl, rfl⟩
  | @failed gatewayId msg publishing =>
      have publishing' : t.loop = .publishing (encoding.encoded msg) := by
        simpa [publishing, Encoding.loop] using relays.loop
      exact ⟨_, _, .snoc .nil (.failed publishing'),
        ⟨relays.channel, relays.capacity, rfl⟩, rfl, rfl⟩
  | terminated running =>
      have running' : t.loop ≠ .stopped := by
        rw [relays.loop]
        rcases session : s.session with _ | ⟨gatewayId, _ | msg⟩
        · exact absurd session running
        · simp [Encoding.loop]
        · simp [Encoding.loop]
      exact ⟨_, _, .snoc .nil (.terminated running'),
        ⟨relays.channel, relays.capacity, rfl⟩, rfl, rfl⟩

/-- The gateway id of the session is one that a session has begun with. -/
theorem Run.session_started (run : Run crates profile conf mqtt labels s) {gatewayId : String}
    {publishing : Option MqttMessage} (current : s.session = some ⟨gatewayId, publishing⟩) :
    .started gatewayId ∈ labels := by
  induction run generalizing gatewayId publishing with
  | nil => cases current
  | snoc _ taken ih =>
      rw [List.mem_append]
      cases taken with
      | started stopped set known =>
          cases current
          exact .inr List.mem_cons_self
      | opened unset positive => exact .inl (ih current)
      | took i r free admitted => exact .inl (ih current)
      | acted i action next e now answered => exact .inl (ih current)
      | received receiving front =>
          cases current
          exact .inl (ih receiving)
      | published earlier =>
          cases current
          exact .inl (ih earlier)
      | failed earlier =>
          cases current
          exact .inl (ih earlier)
      | terminated running => cases current

/-- An event is published on the topic of its type, for the gateway of a session. -/
theorem Run.topic (run : Run crates profile conf mqtt labels s) {topic : String}
    {msg : MqttMessage} (member : .published topic msg ∈ labels) :
    ∃ gatewayId, .started gatewayId ∈ labels ∧ topic = eventTopic mqtt gatewayId msg.typ := by
  induction run with
  | nil => cases member
  | snoc run taken ih =>
      rcases List.mem_append.mp member with earlier | now
      · obtain ⟨gatewayId, started, same⟩ := ih earlier
        exact ⟨gatewayId, List.mem_append_left _ started, same⟩
      · obtain rfl := List.mem_singleton.mp now
        cases taken with
        | published publishing =>
            exact ⟨_, List.mem_append_left _ (Run.session_started run publishing), rfl⟩

/-- Every run of the forwarder whose events are encoded without an error is a run of the publish
loop, and every event is published on the topic of its type for the gateway of a session. -/
theorem Run.relayed (encoding : Encoding) (run : Run crates profile conf mqtt labels s)
    (writes : ∀ msg ∈ s.backend.log.filterMap Effect.event?, encoding.Writes msg) :
    (∃ labels' t, Publishing.Run mqtt encoding.encoders labels' t ∧ encoding.Relays mqtt s t ∧
      Publishing.published labels' = (published labels).map encoding.encoded ∧
      Publishing.accepted labels' =
        (s.backend.log.filterMap Effect.event?).map encoding.encoded) ∧
    ∀ topic msg, .published topic msg ∈ labels →
      ∃ gatewayId, .started gatewayId ∈ labels ∧ topic = eventTopic mqtt gatewayId msg.typ := by
  refine ⟨?_, fun _ _ => run.topic⟩
  induction run with
  | nil =>
      refine ⟨[], .init, .nil, ⟨rfl, ?_, rfl⟩, rfl, rfl⟩
      rintro _ ⟨⟩
  | @snoc before s s' o run taken ih =>
      rw [Step.log taken, List.filterMap_append] at writes
      obtain ⟨earlier, t, trace, relays, published', accepted'⟩ :=
        ih fun msg member => writes msg (List.mem_append_left _ member)
      have atMostOne : ∀ i, (s.backend.threads i).Guarantees AtMostOne :=
        Pool.run_guarantees program_atMostOne (Run.reachable run) (Pool.guarantees_idle _)
      obtain ⟨now, t', relayed⟩ :=
        relays.step atMostOne taken fun msg member => writes msg (List.mem_append_right _ member)
      refine ⟨earlier ++ now, t', trace.append relayed.trace, relayed.relays, ?_, ?_⟩
      · have last := relayed.published
        unfold Publishing.published at published' last ⊢
        rw [List.filterMap_append, published', last, published, published, filterMap_snoc,
          List.map_append]
      · have last := relayed.accepted
        unfold Publishing.accepted at accepted' last ⊢
        rw [List.filterMap_append, accepted', last, Step.log taken, List.filterMap_append,
          List.map_append]

end

def partEncoding : Encoding where
  encoders := Publishing.partEncoders
  json := false
  bytes
    | .up pl => pl.phyPayload
    | .stats pl => ascii pl.gatewayId
    | .ack pl => ascii pl.gatewayId

theorem partEncoding_writes (msg : MqttMessage) : partEncoding.Writes msg := by
  cases msg <;> rfl

/-- A session that publishes a frame of a PUSH_DATA. -/
theorem relayed_two_frames :
    ∃ labels s, Run twoAntennas .release {} {} labels s ∧
      .up (antennaFrame firstEntry) ∈ published labels ∧
      partEncoding.encoded (.up (antennaFrame firstEntry)) = ⟨"up", [0]⟩ ∧
      (∃ labels' t, Publishing.Run {} partEncoding.encoders labels' t ∧
        partEncoding.Relays {} s t ∧
        Publishing.published labels' = (published labels).map partEncoding.encoded ∧
        Publishing.accepted labels' =
          (s.backend.log.filterMap Effect.event?).map partEncoding.encoded) ∧
      ∀ topic msg, .published topic msg ∈ labels →
        ∃ gatewayId, .started gatewayId ∈ labels ∧ topic = eventTopic {} gatewayId msg.typ := by
  obtain ⟨since, after, s, run, member, _⟩ := session_publishes 1
  refine ⟨_, s, run, ?_, rfl, Run.relayed partEncoding run fun msg _ => partEncoding_writes msg⟩
  exact List.mem_filterMap.mpr
    ⟨_, List.mem_append_right _ (List.mem_cons_of_mem _ member), rfl⟩

end MqttForwarder.Mqtt.Sessions
