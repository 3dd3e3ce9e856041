import MqttForwarder.Api.Environment
import MqttForwarder.Mqtt.Topics
import MqttForwarder.Rust.Channel
import MqttForwarder.Rust.Outcome

/-!
# Publishing events

The backends send their events on one channel, which outlives the sessions.
The publish loop of a session takes an event out of the channel and then hands
it to the client.  A SIGHUP aborts the tasks of the session, wherever they
wait, and the next session goes on with the same channel.
-/

namespace MqttForwarder.Mqtt.Publishing

open MqttForwarder.Rust

/-! ## Senders -/

/-- A message on the publish channel. -/
structure MqttMessage where
  typ : String
  bytes : List UInt8
  deriving DecidableEq

/-- The two encoders of a message type. -/
structure Encoder (T : Type) where
  /-- `serde_json::to_vec`. -/
  toVec : T → Except String (List UInt8)
  /-- `encode_to_vec` of the protobuf message. -/
  encodeToVec : T → List UInt8

/-- `match JSON.load(…) { true => serde_json::to_vec(&pl)?, false => pl.encode_to_vec() }`. -/
def Encoder.write {T : Type} (encoder : Encoder T) (json : Bool) (pl : T) : Outcome (List UInt8) :=
  match (if json then encoder.toVec pl else .ok (encoder.encodeToVec pl)) with
  | .ok bytes => .ok bytes
  | .error message => .err message

structure Encoders where
  uplinkFrame : Encoder Gw.UplinkFrame
  gatewayStats : Encoder Gw.GatewayStats
  meshEvent : Encoder Gw.MeshEvent
  downlinkTxAck : Encoder Gw.DownlinkTxAck
  commandExecResponse : Encoder Gw.GatewayCommandExecResponse

/-- What the senders have in common: the message is encoded and offered to the channel.  The
result is the message that the channel took, and the channel with it. -/
def sendEvent {T : Type} (encoder : Encoder T) (typ : String) (json : Bool) (pl : T)
    (channel : Option (Mpsc MqttMessage)) : Outcome (MqttMessage × Mpsc MqttMessage) := do
  let b ← encoder.write json pl
  let tx ← Outcome.okOr channel "PUB_CHANNEL_TX is None"
  let tx ← Outcome.okOr (tx.trySend ⟨typ, b⟩) "no available capacity"
  pure (⟨typ, b⟩, tx)

section

variable (encoders : Encoders) (json : Bool) (channel : Option (Mpsc MqttMessage))

def sendUplinkFrame (pl : Gw.UplinkFrame) := sendEvent encoders.uplinkFrame "up" json pl channel

def sendGatewayStats (pl : Gw.GatewayStats) :=
  sendEvent encoders.gatewayStats "stats" json pl channel

def sendMeshEvent (pl : Gw.MeshEvent) := sendEvent encoders.meshEvent "mesh" json pl channel

def sendTxAck (pl : Gw.DownlinkTxAck) := sendEvent encoders.downlinkTxAck "ack" json pl channel

/-- The part of `handle_command_exec` after the command has been executed. -/
def sendCommandExecEvent (resp : Gw.GatewayCommandExecResponse) :=
  sendEvent encoders.commandExecResponse "exec" json resp channel

end

/-- A call of a sender. -/
inductive Call where
  | sendUplinkFrame (pl : Gw.UplinkFrame)
  | sendGatewayStats (pl : Gw.GatewayStats)
  | sendMeshEvent (pl : Gw.MeshEvent)
  | sendTxAck (pl : Gw.DownlinkTxAck)
  | sendCommandExecEvent (resp : Gw.GatewayCommandExecResponse)

def Call.run (encoders : Encoders) (json : Bool) (channel : Option (Mpsc MqttMessage)) :
    Call → Outcome (MqttMessage × Mpsc MqttMessage)
  | sendUplinkFrame pl => Publishing.sendUplinkFrame encoders json channel pl
  | sendGatewayStats pl => Publishing.sendGatewayStats encoders json channel pl
  | sendMeshEvent pl => Publishing.sendMeshEvent encoders json channel pl
  | sendTxAck pl => Publishing.sendTxAck encoders json channel pl
  | sendCommandExecEvent resp => Publishing.sendCommandExecEvent encoders json channel resp

/-! ## Sessions -/

/-- Where the publish loop waits. -/
inductive PublishLoop where
  /-- No session runs. -/
  | stopped
  /-- At `pub_chan_rx.recv().await`. -/
  | receiving
  /-- At `client.publish(…).await`. -/
  | publishing (msg : MqttMessage)
  deriving DecidableEq

def PublishLoop.inProgress : PublishLoop → Option MqttMessage
  | publishing msg => some msg
  | _ => none

@[simp] theorem inProgress_stopped : PublishLoop.stopped.inProgress = none := rfl

@[simp] theorem inProgress_receiving : PublishLoop.receiving.inProgress = none := rfl

@[simp] theorem inProgress_publishing (msg : MqttMessage) :
    (PublishLoop.publishing msg).inProgress = some msg := rfl

structure State where
  /-- `PUB_CHANNEL_TX` and `PUB_CHANNEL_RX`. -/
  channel : Option (Mpsc MqttMessage)
  loop : PublishLoop

def State.init : State where
  channel := none
  loop := .stopped

def State.inChannel (s : State) : List MqttMessage :=
  match s.channel with
  | some channel => channel.queue
  | none => []

inductive Occurrence where
  /-- `run` has set up the channel. -/
  | opened
  /-- A sender has returned `Ok`. -/
  | accepted (msg : MqttMessage)
  /-- A sender has returned an error. -/
  | refused
  /-- `run` has spawned the publish loop. -/
  | started
  | received (msg : MqttMessage)
  /-- `client.publish` has returned `Ok`. -/
  | published (msg : MqttMessage)
  /-- `client.publish` has returned an error. -/
  | failed (msg : MqttMessage)
  /-- The tasks of the session have been aborted, one of them perhaps while it published. -/
  | terminated (inProgress : Option MqttMessage)
  deriving DecidableEq

/-- The steps of the senders, of the publish loop and of the sessions. -/
inductive Step (conf : Conf) (encoders : Encoders) : State → Occurrence → State → Prop where
  | opened {s : State} (unset : s.channel = none) (positive : 0 < conf.publishChannelSize) :
      Step conf encoders s .opened
        { s with channel := some (.empty conf.publishChannelSize positive) }
  | accepted {s : State} {call : Call} {json : Bool} {msg : MqttMessage} {tx : Mpsc MqttMessage}
      (sent : call.run encoders json s.channel = .ok (msg, tx)) :
      Step conf encoders s (.accepted msg) { s with channel := some tx }
  | refused {s : State} {call : Call} {json : Bool} {message : String}
      (refused : call.run encoders json s.channel = .err message) : Step conf encoders s .refused s
  | started {s : State} (stopped : s.loop = .stopped) (set : s.channel ≠ none) :
      Step conf encoders s .started { s with loop := .receiving }
  | received {s : State} {rx rx' : Mpsc MqttMessage} {msg : MqttMessage}
      (receiving : s.loop = .receiving) (set : s.channel = some rx)
      (front : rx.recv = some (msg, rx')) :
      Step conf encoders s (.received msg) { channel := some rx', loop := .publishing msg }
  | published {s : State} {msg : MqttMessage} (publishing : s.loop = .publishing msg) :
      Step conf encoders s (.published msg) { s with loop := .receiving }
  | failed {s : State} {msg : MqttMessage} (publishing : s.loop = .publishing msg) :
      Step conf encoders s (.failed msg) { s with loop := .receiving }
  | terminated {s : State} (running : s.loop ≠ .stopped) :
      Step conf encoders s (.terminated s.loop.inProgress) { s with loop := .stopped }

/-- The occurrences of a run of the forwarder, and its state after them. -/
abbrev Run (conf : Conf) (encoders : Encoders) : List Occurrence → State → Prop :=
  Trace (Step conf encoders) State.init

/-! ## The law of the channel -/

namespace Occurrence

def accepted? : Occurrence → Option MqttMessage
  | accepted msg => some msg
  | _ => none

@[simp] def received? : Occurrence → Option MqttMessage
  | received msg => some msg
  | _ => none

@[simp] def published? : Occurrence → Option MqttMessage
  | published msg => some msg
  | _ => none

/-- A message that has been received and can no longer be published. -/
@[simp] def lost? : Occurrence → Option MqttMessage
  | failed msg => some msg
  | terminated inProgress => inProgress
  | _ => none

/-- What the occurrence means for the channel. -/
def use? : Occurrence → Option (Use MqttMessage)
  | accepted msg => some (.sent msg)
  | received msg => some (.received msg)
  | _ => none

end Occurrence

section

variable {conf : Conf} {encoders : Encoders} {labels : List Occurrence} {s : State}

theorem sendEvent_eq_ok {T : Type} {encoder : Encoder T} {typ : String} {json : Bool} {pl : T}
    {channel : Option (Mpsc MqttMessage)} {msg : MqttMessage} {tx : Mpsc MqttMessage}
    (sent : sendEvent encoder typ json pl channel = .ok (msg, tx)) :
    ∃ before, channel = some before ∧ before.trySend msg = some tx := by
  obtain ⟨b, _, sent⟩ := Outcome.bind_eq_ok.mp sent
  obtain ⟨before, set, sent⟩ := Outcome.bind_eq_ok.mp sent
  obtain ⟨after, room, sent⟩ := Outcome.bind_eq_ok.mp sent
  cases sent
  exact ⟨before, Outcome.okOr_eq_ok.mp set, Outcome.okOr_eq_ok.mp room⟩

/-- Whichever sender is called, the channel takes one message at its end. -/
theorem Call.run_eq_ok {call : Call} {json : Bool} {channel : Option (Mpsc MqttMessage)}
    {msg : MqttMessage} {tx : Mpsc MqttMessage}
    (sent : call.run encoders json channel = .ok (msg, tx)) :
    ∃ before, channel = some before ∧ before.trySend msg = some tx := by
  cases call with
  | sendUplinkFrame pl => exact sendEvent_eq_ok sent
  | sendGatewayStats pl => exact sendEvent_eq_ok sent
  | sendMeshEvent pl => exact sendEvent_eq_ok sent
  | sendTxAck pl => exact sendEvent_eq_ok sent
  | sendCommandExecEvent resp => exact sendEvent_eq_ok sent

/-- The channel is a queue in every run, whoever sends and however many sessions there are. -/
theorem Run.queued (run : Run conf encoders labels s) :
    Trace Use.Step [] (labels.filterMap Occurrence.use?) s.inChannel := by
  apply Trace.project State.inChannel Occurrence.use? _ _ run
  · intro s label s' taken silent
    cases taken with
    | opened unset positive => simp [State.inChannel, unset, Mpsc.empty]
    | accepted sent => cases silent
    | refused refused => rfl
    | started stopped set => rfl
    | received receiving set front => cases silent
    | published publishing => rfl
    | failed publishing => rfl
    | terminated running => rfl
  · intro s label s' use taken seen
    cases taken with
    | @accepted call json msg tx sent =>
        cases seen
        obtain ⟨before, set, sent⟩ := Call.run_eq_ok sent
        simp only [State.inChannel, set, Mpsc.queue_of_trySend sent]
        exact .sent msg
    | @received rx rx' msg receiving set front =>
        cases seen
        simp only [State.inChannel, set, Mpsc.queue_of_recv front]
        exact .received msg
    | opened unset positive => cases seen
    | refused refused => cases seen
    | started stopped set => cases seen
    | published publishing => cases seen
    | failed publishing => cases seen
    | terminated running => cases seen

/-- No more waits than the configuration allows. -/
theorem Run.inChannel_le (run : Run conf encoders labels s) :
    s.inChannel.length ≤ conf.publishChannelSize := by
  have capacity : ∀ tx, s.channel = some tx → tx.capacity = conf.publishChannelSize := by
    refine Trace.holds
      (I := fun _ s => ∀ tx, s.channel = some tx → tx.capacity = conf.publishChannelSize)
      nofun (fun _ s o s' before taken => ?_) run
    cases taken with
    | opened unset positive =>
        rintro _ ⟨⟩
        rfl
    | accepted sent =>
        rintro _ ⟨⟩
        obtain ⟨tx, set, sent⟩ := Call.run_eq_ok sent
        rw [Mpsc.capacity_of_trySend sent, before tx set]
    | received receiving set front =>
        rintro _ ⟨⟩
        rw [← before _ set, Mpsc.capacity_of_recv front]
    | _ => exact before
  cases set : s.channel with
  | none => simp [State.inChannel, set]
  | some tx =>
      have bounded := tx.bounded
      rw [capacity tx set] at bounded
      simpa [State.inChannel, set] using bounded

def accepted (labels : List Occurrence) : List MqttMessage :=
  labels.filterMap Occurrence.accepted?

def received (labels : List Occurrence) : List MqttMessage :=
  labels.filterMap Occurrence.received?

def published (labels : List Occurrence) : List MqttMessage :=
  labels.filterMap Occurrence.published?

def lost (labels : List Occurrence) : List MqttMessage :=
  labels.filterMap Occurrence.lost?

@[simp] theorem published_snoc (o : Occurrence) :
    published (labels ++ [o]) = published labels ++ o.published?.toList := filterMap_snoc ..

@[simp] theorem received_snoc (o : Occurrence) :
    received (labels ++ [o]) = received labels ++ o.received?.toList := filterMap_snoc ..

@[simp] theorem lost_snoc (o : Occurrence) :
    lost (labels ++ [o]) = lost labels ++ o.lost?.toList := filterMap_snoc ..

theorem Run.received_queued (run : Run conf encoders labels s) :
    received labels ++ s.inChannel = accepted labels := by
  have law := Use.fifo run.queued
  rw [List.filterMap_filterMap, List.filterMap_filterMap] at law
  have receives : (fun o => (Occurrence.use? o).bind Use.received?) = Occurrence.received? := by
    funext o
    cases o <;> rfl
  have accepts : (fun o => (Occurrence.use? o).bind Use.sent?) = Occurrence.accepted? := by
    funext o
    cases o <;> rfl
  rwa [receives, accepts] at law

/-! ## The publish loop -/

/-- Of the messages that the loop received it published some, in their order, it publishes the
last one now, or has lost it. -/
structure Progress (labels : List Occurrence) (s : State) : Prop where
  order : (published labels ++ s.loop.inProgress.toList).Sublist (received labels)
  count : (received labels).length =
    (published labels ++ s.loop.inProgress.toList).length + (lost labels).length

/-- A step that is not about the messages of the publish loop. -/
theorem Progress.aside (progress : Progress labels s) {o : Occurrence} {s' : State}
    (same : s'.loop.inProgress = s.loop.inProgress) (receives : o.received? = none)
    (publishes : o.published? = none) (loses : o.lost? = none) : Progress (labels ++ [o]) s' := by
  obtain ⟨order, count⟩ := progress
  constructor
  · rw [published_snoc, received_snoc, publishes, receives, same]
    simpa using order
  · rw [published_snoc, received_snoc, lost_snoc, publishes, receives, loses, same]
    simpa using count

theorem Progress.step (progress : Progress labels s) {o : Occurrence} {s' : State}
    (taken : Step conf encoders s o s') : Progress (labels ++ [o]) s' := by
  cases taken with
  | opened unset positive => exact progress.aside rfl rfl rfl rfl
  | accepted sent => exact progress.aside rfl rfl rfl rfl
  | refused refused => exact progress.aside rfl rfl rfl rfl
  | started stopped set => exact progress.aside (by rw [stopped]; rfl) rfl rfl rfl
  | @received rx rx' msg receiving set front =>
      obtain ⟨order, count⟩ := progress
      rw [receiving] at order count
      constructor
      · simpa using order.append_right [msg]
      · simp at count ⊢
        omega
  | @published msg publishing =>
      obtain ⟨order, count⟩ := progress
      rw [publishing] at order count
      constructor
      · simpa using order
      · simpa using count
  | @failed msg publishing =>
      obtain ⟨order, count⟩ := progress
      rw [publishing] at order count
      constructor
      · simpa using (List.sublist_append_left _ _).trans order
      · simp at count ⊢
        omega
  | terminated running =>
      obtain ⟨order, count⟩ := progress
      constructor
      · simpa using (List.sublist_append_left _ _).trans order
      · simp at count ⊢
        omega

theorem Run.progress (run : Run conf encoders labels s) : Progress labels s :=
  Trace.holds ⟨List.Sublist.refl _, rfl⟩ (fun _ _ _ _ progress taken => progress.step taken) run

/-- What has been published, what is being published and what is in the channel, in this order. -/
def carried (labels : List Occurrence) (s : State) : List MqttMessage :=
  published labels ++ s.loop.inProgress.toList ++ s.inChannel

/-- Whatever is lost, the order is kept and nothing is published twice. -/
theorem Run.carried_sublist (run : Run conf encoders labels s) :
    (carried labels s).Sublist (accepted labels) := by
  rw [← run.received_queued]
  exact run.progress.order.append_right s.inChannel

theorem Run.carried_length (run : Run conf encoders labels s) :
    (accepted labels).length = (carried labels s).length + (lost labels).length := by
  have count := run.progress.count
  rw [← run.received_queued, carried, List.length_append, List.length_append]
  omega

/-- No event is lost exactly when none could not be published. -/
theorem Run.carried_eq_iff (run : Run conf encoders labels s) :
    carried labels s = accepted labels ↔ lost labels = [] := by
  have length := run.carried_length
  constructor
  · intro same
    rw [same] at length
    apply List.eq_nil_of_length_eq_zero
    omega
  · intro nothing
    rw [nothing] at length
    exact run.carried_sublist.eq_of_length length.symm

/-- While the client publishes without errors, the events that have been published over all
sessions, then the one that is being published, if any, and then those in the channel are
the events that the senders gave to the channel, exactly when no SIGHUP has aborted a publish. -/
theorem events_survive_iff (run : Run conf encoders labels s)
    (reliable : ∀ msg, .failed msg ∉ labels) :
    published labels ++ s.loop.inProgress.toList ++ s.inChannel = accepted labels ↔
      ∀ msg, .terminated (some msg) ∉ labels := by
  refine run.carried_eq_iff.trans ?_
  rw [lost, List.filterMap_eq_nil_iff]
  constructor
  · intro nothing msg aborted
    cases nothing _ aborted
  · intro undisturbed o member
    cases o with
    | failed msg => exact absurd member (reliable msg)
    | terminated inProgress =>
        cases inProgress with
        | none => rfl
        | some msg => exact absurd member (undisturbed msg)
    | _ => rfl

end

/-! ## Two events -/

/-- Encoders that write a part of the message.  There is no JSON for a frame without metadata. -/
def partEncoders : Encoders where
  uplinkFrame :=
    ⟨fun pl => if pl.rxInfo = none then .error "no metadata" else .ok (123 :: pl.phyPayload),
      fun pl => pl.phyPayload⟩
  gatewayStats := ⟨fun pl => .ok (123 :: ascii pl.gatewayId), fun pl => ascii pl.gatewayId⟩
  meshEvent := ⟨fun pl => .ok (123 :: ascii pl.gatewayId), fun pl => ascii pl.gatewayId⟩
  downlinkTxAck := ⟨fun pl => .ok (123 :: ascii pl.gatewayId), fun pl => ascii pl.gatewayId⟩
  commandExecResponse := ⟨fun pl => .ok (123 :: pl.stdout), fun pl => pl.stdout⟩

def upEvent : MqttMessage := ⟨"up", [1]⟩

def ackEvent : MqttMessage := ⟨"ack", ascii "01"⟩

def holding (queue : List MqttMessage) (bounded : queue.length ≤ 100) : Mpsc MqttMessage :=
  ⟨100, queue, by decide, bounded⟩

/-- A run up to the point where the session publishes the first event. -/
theorem upEvent_publishing {labels : List Occurrence} {s : State}
    (rest : Trace (Step {} partEncoders)
      ⟨some (holding [ackEvent] (by decide)), .publishing upEvent⟩ labels s) :
    Run {} partEncoders
      (.opened :: .started :: .accepted upEvent :: .accepted ackEvent :: .received upEvent ::
        labels) s := by
  have opened : Step {} partEncoders State.init .opened
      ⟨some (holding [] (by decide)), .stopped⟩ := .opened rfl (by decide)
  have started : Step {} partEncoders ⟨some (holding [] (by decide)), .stopped⟩ .started
      ⟨some (holding [] (by decide)), .receiving⟩ := .started rfl (by simp)
  have up : (Call.sendUplinkFrame ⟨[1], none, none⟩).run partEncoders false
      (some (holding [] (by decide))) = .ok (upEvent, holding [upEvent] (by decide)) := rfl
  have ack : (Call.sendTxAck ⟨"01", 7, []⟩).run partEncoders false
      (some (holding [upEvent] (by decide))) =
      .ok (ackEvent, holding [upEvent, ackEvent] (by decide)) := rfl
  have received : Step {} partEncoders
      ⟨some (holding [upEvent, ackEvent] (by decide)), .receiving⟩ (.received upEvent)
      ⟨some (holding [ackEvent] (by decide)), .publishing upEvent⟩ := .received rfl rfl rfl
  exact .cons opened (.cons started (.cons (.accepted up) (.cons (.accepted ack)
    (.cons received rest))))

/-- A SIGHUP while the event is being published loses it: the next session waits on a channel
without it. -/
theorem sighup_loses_event :
    ¬ ∀ (conf : Conf) (encoders : Encoders) (labels : List Occurrence) (s : State),
      Run conf encoders labels s → (∀ msg, .failed msg ∉ labels) → s.loop = .receiving →
        published labels ++ s.inChannel = accepted labels := by
  intro survive
  have aborted : Step {} partEncoders
      ⟨some (holding [ackEvent] (by decide)), .publishing upEvent⟩ (.terminated (some upEvent))
      ⟨some (holding [ackEvent] (by decide)), .stopped⟩ := .terminated (by simp)
  have restarted : Step {} partEncoders ⟨some (holding [ackEvent] (by decide)), .stopped⟩ .started
      ⟨some (holding [ackEvent] (by decide)), .receiving⟩ := .started rfl (by simp)
  have run := upEvent_publishing (.cons aborted (.cons restarted .nil))
  have same := survive _ _ _ _ run (by simp) rfl
  exact absurd same (by decide)

/-- A SIGHUP while nothing is being published, with an event in the channel. -/
def twoEventsPublished : List Occurrence :=
  [.opened, .started, .accepted upEvent, .accepted ackEvent, .received upEvent, .published upEvent,
    .terminated none, .started, .received ackEvent, .published ackEvent]

def receivingSession : State := ⟨some (holding [] (by decide)), .receiving⟩

theorem events_survive_iff_two_events :
    published twoEventsPublished ++ receivingSession.loop.inProgress.toList ++
        receivingSession.inChannel = accepted twoEventsPublished ↔
      ∀ msg, .terminated (some msg) ∉ twoEventsPublished := by
  have published : Step {} partEncoders
      ⟨some (holding [ackEvent] (by decide)), .publishing upEvent⟩ (.published upEvent)
      ⟨some (holding [ackEvent] (by decide)), .receiving⟩ := .published rfl
  have terminated : Step {} partEncoders ⟨some (holding [ackEvent] (by decide)), .receiving⟩
      (.terminated none) ⟨some (holding [ackEvent] (by decide)), .stopped⟩ := .terminated (by simp)
  have restarted : Step {} partEncoders ⟨some (holding [ackEvent] (by decide)), .stopped⟩ .started
      ⟨some (holding [ackEvent] (by decide)), .receiving⟩ := .started rfl (by simp)
  have received : Step {} partEncoders ⟨some (holding [ackEvent] (by decide)), .receiving⟩
      (.received ackEvent) ⟨some (holding [] (by decide)), .publishing ackEvent⟩ :=
    .received rfl rfl rfl
  have last : Step {} partEncoders ⟨some (holding [] (by decide)), .publishing ackEvent⟩
      (.published ackEvent) receivingSession := .published rfl
  have run := upEvent_publishing (.cons published (.cons terminated (.cons restarted
    (.cons received (.cons last .nil)))))
  have reliable : ∀ msg, .failed msg ∉ twoEventsPublished := by simp [twoEventsPublished]
  exact events_survive_iff run reliable

end MqttForwarder.Mqtt.Publishing
