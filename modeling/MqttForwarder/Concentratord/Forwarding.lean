import MqttForwarder.Concentratord.Events
import MqttForwarder.Concentratord.Replies
import MqttForwarder.Mqtt.Publishing
import MqttForwarder.Rust.History

/-!
# The Concentratord backend on the publish channel

One task reads the events of the Concentratord, and a task for each downlink
waits for the reply to its command.  They share the publish channel, whose
sessions come and go.  What is published goes back to one message of the event
API or to the reply to one downlink.
-/

namespace MqttForwarder.Concentratord

open MqttForwarder.Rust
open MqttForwarder.Mqtt

/-! ## The event loop -/

/-- What the blocking task of `event_loop` has met on the socket. -/
inductive Reading where
  /-- The socket was not readable within 100 ms. -/
  | timeout
  /-- `poll` or `recv_bytes` failed, or the blocking task did. -/
  | failed
  | message (msg : List UInt8)

section

variable (decode : List UInt8 → Outcome Event) (crates : Crates) (conf : Config.Configuration)

/-- One iteration of `event_loop`; `decode` is `gw::Event::decode`. -/
def eventLoop : Reading → Task Unit
  | .timeout => pure ()
  | .failed => pure ()
  | .message msg => do
      let event ← decode msg
      onEvent crates conf event

/-- What one iteration may ask for and put on the publish channel. -/
inductive Offers : Reading → List Effect → Prop where
  | nothing {reading : Reading} : Offers reading []
  | up {msg : List UInt8} {v : Gw.UplinkFrame}
      (decoded : decode msg = .ok ⟨some (.uplinkFrame v)⟩)
      (kept : crcIgnored conf.backend.filters.forwardCrcOk conf.backend.filters.forwardCrcInvalid
        conf.backend.filters.forwardCrcMissing v = false)
      (wanted : crates.filterMatches v.phyPayload conf.backend.filters.lrwn = true) :
      Offers (.message msg) [.event (.up v)]
  | asked {msg : List UInt8} {v : Gw.GatewayStats} (answer : Outcome (HashMap String String))
      (decoded : decode msg = .ok ⟨some (.gatewayStats v)⟩) :
      Offers (.message msg) [.asked answer]
  | stats {msg : List UInt8} {v : Gw.GatewayStats} (metadata : HashMap String String)
      (decoded : decode msg = .ok ⟨some (.gatewayStats v)⟩) :
      Offers (.message msg) [.asked (.ok metadata),
        .event (.stats { v with metadata := v.metadata.extend metadata })]
  | mesh {msg : List UInt8} {v : Gw.MeshEvent} (decoded : decode msg = .ok ⟨some (.mesh v)⟩) :
      Offers (.message msg) [.event (.mesh v)]

end

section

variable {decode : List UInt8 → Outcome Event} {crates : Crates} {conf : Config.Configuration}

/-- An effect with nothing after it is the whole of what has been done. -/
theorem single_of_append {effect last : Effect} {first second : List Effect}
    (whole : effect :: first ++ second = [last]) : effect :: first = [last] := by
  obtain ⟨rfl, none⟩ := List.cons.inj whole
  rw [(List.append_eq_nil_iff.mp none).1]

theorem Offers.shorter {reading : Reading} {first second : List Effect}
    (offers : Offers decode crates conf reading (first ++ second)) :
    Offers decode crates conf reading first := by
  cases first with
  | nil => exact .nothing
  | cons effect rest =>
      generalize whole : effect :: rest ++ second = os at offers
      cases offers with
      | nothing => cases whole
      | up decoded kept wanted => exact single_of_append whole ▸ .up decoded kept wanted
      | asked answer decoded => exact single_of_append whole ▸ .asked answer decoded
      | mesh decoded => exact single_of_append whole ▸ .mesh decoded
      | stats metadata decoded =>
          obtain ⟨rfl, later⟩ := List.cons.inj whole
          cases rest with
          | nil => exact .asked _ decoded
          | cons other rest => exact single_of_append later ▸ .stats metadata decoded

/-- A message is offered once, or refused. -/
theorem trySend_upholds {message : MqttMessage} {Q : List Effect → Prop} {os : List Effect}
    (refused : Q os) (offered : Q (os ++ [.event message])) :
    (trySend message).Upholds (fun _ => True) (fun _ _ => True) (fun _ _ _ _ => True)
      (fun os _ => Q os) os := by
  intro e log s _ _
  refine ⟨trivial, trivial, ?_⟩
  dsimp only
  split
  · exact (List.append_nil os).symm ▸ refused
  · exact (List.append_nil os).symm ▸ refused
  · exact offered

/-- The handling of an event offers at most one message for it. -/
theorem onEvent_offers {msg : List UInt8} {event : Event} (decoded : decode msg = .ok event) :
    (onEvent crates conf event).Upholds (fun _ => True) (fun _ _ => True) (fun _ _ _ _ => True)
      (fun os _ => Offers decode crates conf (.message msg) os) [] := by
  obtain ⟨body⟩ := event
  unfold onEvent handleEventMsg
  cases body with
  | none => exact .nothing
  | some body =>
      cases body with
      | uplinkFrame v =>
          dsimp only
          split
          · exact .nothing
          · next kept =>
              split
              · next wanted =>
                  exact trySend_upholds .nothing (.up decoded (by simpa using kept) wanted)
              · exact .nothing
      | gatewayStats v =>
          intro e log s _ _
          refine ⟨trivial, trivial, ?_⟩
          dsimp only
          cases answer : e.metadata with
          | ok metadata => exact trySend_upholds (.asked _ decoded) (.stats metadata decoded)
          | err message => exact .asked _ decoded
          | panic cause => exact .asked _ decoded
      | mesh v => exact trySend_upholds .nothing (.mesh decoded)

/-- An iteration of the event loop offers at most what its message has led to. -/
theorem eventLoop_offers (reading : Reading) :
    (eventLoop decode crates conf reading).Upholds (fun _ => True) (fun _ _ => True)
      (fun _ _ _ _ => True) (fun os _ => Offers decode crates conf reading os) [] := by
  cases reading with
  | timeout => exact .nothing
  | failed => exact .nothing
  | message msg =>
      have handled : (Prog.done (decode msg) >>= onEvent crates conf : Task Unit).Upholds
          (fun _ => True) (fun _ _ => True) (fun _ _ _ _ => True)
          (fun os _ => Offers decode crates conf (.message msg) os) [] := by
        cases decoded : decode msg with
        | ok event => exact onEvent_offers decoded
        | err message => exact .nothing
        | panic cause => exact .nothing
      exact handled

end

/-! ## The forwarder -/

/-- What is put on the publish channel: a message of the event loop, or the acknowledgement of the
downlink of call `i`. -/
inductive Outgoing (ι : Type) where
  | event (message : MqttMessage)
  | ack (i : ι) (txAck : Gw.DownlinkTxAck)

namespace Outgoing

variable {ι : Type}

def message? : Outgoing ι → Option MqttMessage
  | event message => some message
  | ack _ _ => none

def call? : Outgoing ι → Option ι
  | event _ => none
  | ack i _ => some i

/-- The sender that puts it on the channel. -/
def sender : Outgoing ι → Publishing.Call
  | event (.up pl) => .sendUplinkFrame pl
  | event (.stats pl) => .sendGatewayStats pl
  | event (.mesh pl) => .sendMeshEvent pl
  | ack _ txAck => .sendTxAck txAck

/-- The message that the sender makes of it. -/
def encode (encoders : Publishing.Encoders) (json : Bool) :
    Outgoing ι → Outcome Publishing.MqttMessage
  | event (.up pl) => do pure ⟨"up", ← encoders.uplinkFrame.write json pl⟩
  | event (.stats pl) => do pure ⟨"stats", ← encoders.gatewayStats.write json pl⟩
  | event (.mesh pl) => do pure ⟨"mesh", ← encoders.meshEvent.write json pl⟩
  | ack _ txAck => do pure ⟨"ack", ← encoders.downlinkTxAck.write json txAck⟩

end Outgoing

/-- The calls of `send_command`, the event loop, and the publish channel with its sessions. -/
structure Forwarder (ι : Type) where
  commands : State ι
  /-- Whether `send_downlink_frame` has returned. -/
  ended : ι → Bool
  loop : Pool Unit Reading Env Unit Effect
  events : Publishing.State

def Forwarder.init {ι : Type} : Forwarder ι where
  commands := .init
  ended := fun _ => false
  loop := Pool.idle ()
  events := .init

inductive Happening (ι : Type) where
  | command (o : Occurrence ι)
  /-- The event loop begins an iteration. -/
  | took (reading : Reading)
  /-- The publish channel has refused a message of the event loop. -/
  | idled
  /-- `metadata::get()` has given the event loop this. -/
  | asked (answer : Outcome (HashMap String String))
  | sent (what : Outgoing ι) (msg : Publishing.MqttMessage)
  /-- `send_downlink_frame` has returned an error. -/
  | refused (i : ι)
  /-- A step of the publish loop or of a session. -/
  | event (o : Publishing.Occurrence)

/-- What the forwarder is given: the messages of the two APIs, its configuration, and the downlink
or other command that each call of `send_command` is for. -/
structure Setting (ι : Type) where
  codec : Codec
  command : ι → Command
  /-- The texts of the errors of the library. -/
  zmq : Failure → String
  /-- `gw::Event::decode`. -/
  decode : List UInt8 → Outcome Event
  crates : Crates
  conf : Config.Configuration
  mqtt : Mqtt.Conf
  encoders : Publishing.Encoders
  json : Bool

/-- The steps of the tasks of the backend and of the sessions.  The channel may refuse a message
of the event loop at any time, as an encoder may fail. -/
inductive Forwarder.Step {ι : Type} [DecidableEq ι] (set : Setting ι) :
    Forwarder ι → Happening ι → Forwarder ι → Prop where
  | command {f : Forwarder ι} {o : Occurrence ι} {commands : State ι}
      (taken : Concentratord.Step set.codec set.command f.commands o commands) :
      Step set f (.command o) { f with commands }
  | took {f : Forwarder ι} (reading : Reading) (free : (f.loop.threads ()).Finished) :
      Step set f (.took reading)
        { f with
          loop := f.loop.start () reading (eventLoop set.decode set.crates set.conf reading) }
  | idled {f : Forwarder ι} {β : Type} (action : Env → Unit → Reply β Unit Effect)
      (next : β → Task Unit) (e : Env) (current : f.loop.threads () = .act action next)
      (silent : (action e f.loop.state).effects = []) :
      Step set f .idled { f with loop := f.loop.exec () action next e }
  | asked {f : Forwarder ι} {β : Type} (action : Env → Unit → Reply β Unit Effect)
      (next : β → Task Unit) (e : Env) (current : f.loop.threads () = .act action next)
      {answer : Outcome (HashMap String String)}
      (given : (action e f.loop.state).effects = [.asked answer]) :
      Step set f (.asked answer) { f with loop := f.loop.exec () action next e }
  | sentEvent {f : Forwarder ι} {β : Type} (action : Env → Unit → Reply β Unit Effect)
      (next : β → Task Unit) (e : Env) (current : f.loop.threads () = .act action next)
      {message : MqttMessage} (offered : (action e f.loop.state).effects = [.event message])
      {msg : Publishing.MqttMessage} {tx : Mpsc Publishing.MqttMessage}
      (sent : (Outgoing.event message : Outgoing ι).sender.run set.encoders set.json
        f.events.channel = .ok (msg, tx)) :
      Step set f (.sent (.event message) msg)
        { f with
          loop := f.loop.exec () action next e
          events := { f.events with channel := some tx } }
  | sentAck {f : Forwarder ι} {i : ι} {pl : Gw.DownlinkFrame} {res : Except Failure (List UInt8)}
      {txAck : Gw.DownlinkTxAck} (downlink : set.command i = .sendDownlinkFrame pl)
      (returned : f.commands.place i = .returned res) (pending : f.ended i = false)
      (decoded : Backend.sendDownlinkFrame set.codec set.zmq res = .ok txAck)
      {msg : Publishing.MqttMessage} {tx : Mpsc Publishing.MqttMessage}
      (sent : (Outgoing.ack i txAck).sender.run set.encoders set.json f.events.channel =
        .ok (msg, tx)) :
      Step set f (.sent (.ack i txAck) msg)
        { f with
          ended := Function.update f.ended i true
          events := { f.events with channel := some tx } }
  | refused {f : Forwarder ι} {i : ι} {pl : Gw.DownlinkFrame} {res : Except Failure (List UInt8)}
      (downlink : set.command i = .sendDownlinkFrame pl)
      (returned : f.commands.place i = .returned res) (pending : f.ended i = false)
      {message : String} (refused : (do
        let txAck ← Backend.sendDownlinkFrame set.codec set.zmq res
        (Outgoing.ack i txAck).sender.run set.encoders set.json f.events.channel) =
          .err message) :
      Step set f (.refused i) { f with ended := Function.update f.ended i true }
  | event {f : Forwarder ι} {o : Publishing.Occurrence} {events : Publishing.State}
      (taken : Publishing.Step set.mqtt set.encoders f.events o events)
      (own : ∀ msg, o ≠ .accepted msg) : Step set f (.event o) { f with events }

/-- What has happened in a run of the forwarder, and its state after that. -/
abbrev Forwarder.Run {ι : Type} [DecidableEq ι] (set : Setting ι) :
    List (Happening ι) → Forwarder ι → Prop :=
  Trace (Forwarder.Step set) Forwarder.init

namespace Happening

variable {ι : Type}

def command? : Happening ι → Option (Occurrence ι)
  | command o => some o
  | _ => none

def reading? : Happening ι → Option Reading
  | took reading => some reading
  | _ => none

def outgoing? : Happening ι → Option (Outgoing ι)
  | sent what _ => some what
  | _ => none

/-- What the event loop has got or put on the channel. -/
def effect? : Happening ι → Option Effect
  | asked answer => some (.asked answer)
  | sent (.event message) _ => some (.event message)
  | _ => none

/-- What the happening is to the event loop. -/
def task? : Happening ι → Option (Pool.Event Unit Reading Effect)
  | took reading => some (.took () reading)
  | idled => some (.acted () [])
  | asked answer => some (.acted () [.asked answer])
  | sent (.event message) _ => some (.acted () [.event message])
  | _ => none

/-- What the happening is to the publish channel. -/
def event? : Happening ι → Option Publishing.Occurrence
  | sent _ msg => some (.accepted msg)
  | event o => some o
  | _ => none

end Happening

section

variable {ι : Type} (labels : List (Happening ι))

/-- What the event loop has met, in order. -/
def readings : List Reading := labels.filterMap Happening.reading?

/-- What has been put on the publish channel, in order. -/
def outgoing : List (Outgoing ι) := labels.filterMap Happening.outgoing?

/-- What the event loop has been told by `metadata::get()` and has put on the channel, in order. -/
def effects : List Effect := labels.filterMap Happening.effect?

def eventLog : List Publishing.Occurrence := labels.filterMap Happening.event?

end

section

variable {ι : Type} [DecidableEq ι] {set : Setting ι} {labels : List (Happening ι)}
  {f f' : Forwarder ι} {h : Happening ι}

/-! ## Its parts -/

theorem Forwarder.Run.commands (run : Forwarder.Run set labels f) :
    Concentratord.Run set.codec set.command (labels.filterMap Happening.command?) f.commands := by
  refine Trace.project Forwarder.commands Happening.command? ?_ ?_ run
  · intro f h f' taken silent
    cases taken with
    | command taken => cases silent
    | _ => rfl
  · intro f h f' o taken seen
    cases taken with
    | command taken =>
        cases seen
        exact taken
    | _ => cases seen

theorem Forwarder.Run.loop (run : Forwarder.Run set labels f) :
    Pool.History (fun _ => eventLoop set.decode set.crates set.conf) (fun _ _ => True)
      (fun _ => True) () (labels.filterMap Happening.task?) f.loop := by
  refine Trace.project Forwarder.loop Happening.task? ?_ ?_ run
  · intro f h f' taken silent
    cases taken with
    | took reading free => cases silent
    | idled action next e current quiet => cases silent
    | asked action next e current given => cases silent
    | sentEvent action next e current offered sent => cases silent
    | _ => rfl
  · intro f h f' event taken seen
    cases taken with
    | took reading free =>
        cases seen
        exact .took () reading free trivial
    | idled action next e current quiet =>
        cases seen
        exact quiet ▸ .acted () action next e current trivial
    | asked action next e current given =>
        cases seen
        exact given ▸ .acted () action next e current trivial
    | sentEvent action next e current offered sent =>
        cases seen
        exact offered ▸ .acted () action next e current trivial
    | _ => cases seen

theorem Forwarder.Run.events (run : Forwarder.Run set labels f) :
    Publishing.Run set.mqtt set.encoders (eventLog labels) f.events := by
  refine Trace.project Forwarder.events Happening.event? ?_ ?_ run
  · intro f h f' taken silent
    cases taken with
    | sentEvent action next e current offered sent => cases silent
    | sentAck downlink returned pending decoded sent => cases silent
    | event taken own => cases silent
    | _ => rfl
  · intro f h f' o taken seen
    cases taken with
    | sentEvent action next e current offered sent =>
        cases seen
        exact .accepted sent
    | sentAck downlink returned pending decoded sent =>
        cases seen
        exact .accepted sent
    | event taken own =>
        cases seen
        exact taken
    | _ => cases seen

end

/-! ## Where its messages come from -/

section

variable {ι : Type} {set : Setting ι} {labels : List (Happening ι)} {f f' : Forwarder ι}
  {h : Happening ι}

/-- Whatever a sender puts on the channel is what it makes of its argument. -/
theorem encode_of_run {what : Outgoing ι} {encoders : Publishing.Encoders} {json : Bool}
    {channel : Option (Mpsc Publishing.MqttMessage)} {msg : Publishing.MqttMessage}
    {tx : Mpsc Publishing.MqttMessage}
    (sent : what.sender.run encoders json channel = .ok (msg, tx)) :
    what.encode encoders json = .ok msg := by
  have made : ∀ {T : Type} {encoder : Publishing.Encoder T} {typ : String} {pl : T},
      Publishing.sendEvent encoder typ json pl channel = .ok (msg, tx) →
      (do pure (⟨typ, ← encoder.write json pl⟩ : Publishing.MqttMessage) : Outcome _) =
        .ok msg := by
    intro T encoder typ pl sent
    obtain ⟨b, written, sent⟩ := Outcome.bind_eq_ok.mp sent
    obtain ⟨_, _, sent⟩ := Outcome.bind_eq_ok.mp sent
    obtain ⟨_, _, sent⟩ := Outcome.bind_eq_ok.mp sent
    cases sent
    exact Outcome.bind_eq_ok.mpr ⟨b, written, rfl⟩
  cases what with
  | event message => cases message <;> exact made sent
  | ack i txAck => exact made sent

/-- The acknowledgement is what the Concentratord has replied to the downlink of call `i`. -/
def Acknowledges (set : Setting ι) (f : Forwarder ι) (i : ι) (txAck : Gw.DownlinkTxAck) : Prop :=
  ∃ pl resp, set.command i = .sendDownlinkFrame pl ∧
    ((i, set.codec.encode (.sendDownlinkFrame pl)), resp) ∈ f.commands.replies ∧
    set.codec.decodeTxAck resp = .ok txAck

/-- The acknowledgements that have been put on the channel. -/
structure Acks (set : Setting ι) (labels : List (Happening ι)) (f : Forwarder ι) : Prop where
  own : ∀ i txAck, .ack i txAck ∈ outgoing labels → Acknowledges set f i txAck
  once : ((outgoing labels).filterMap Outgoing.call?).Nodup
  ended : ∀ i ∈ (outgoing labels).filterMap Outgoing.call?, f.ended i = true

theorem outgoing_snoc (labels : List (Happening ι)) (h : Happening ι) :
    outgoing (labels ++ [h]) = outgoing labels ++ h.outgoing?.toList := filterMap_snoc ..

/-- A step that sends no acknowledgement. -/
theorem Acks.aside (acks : Acks set labels f) (none : h.outgoing?.bind Outgoing.call? = none)
    (replies : ∀ reply ∈ f.commands.replies, reply ∈ f'.commands.replies)
    (ended : ∀ i, f.ended i = true → f'.ended i = true) : Acks set (labels ++ [h]) f' := by
  have calls : (h.outgoing?.toList).filterMap Outgoing.call? = [] := by
    cases sent : h.outgoing? with
    | none => rfl
    | some what =>
        rw [sent] at none
        simpa using none
  constructor
  · intro i txAck member
    rw [outgoing_snoc] at member
    rcases List.mem_append.mp member with before | now
    · obtain ⟨pl, resp, downlink, reply, decoded⟩ := acks.own i txAck before
      exact ⟨pl, resp, downlink, replies _ reply, decoded⟩
    · have call := List.filterMap_eq_nil_iff.mp calls _ now
      cases call
  · rw [outgoing_snoc, List.filterMap_append, calls, List.append_nil]
    exact acks.once
  · rw [outgoing_snoc, List.filterMap_append, calls, List.append_nil]
    exact fun i member => ended i (acks.ended i member)

theorem effectsOf_loop (labels : List (Happening ι)) :
    Pool.effectsOf () (labels.filterMap Happening.task?) = effects labels := by
  induction labels using List.reverseRecOn with
  | nil => rfl
  | append_singleton before h ih =>
      rw [filterMap_snoc, effects, filterMap_snoc, ← effects, ← ih]
      cases h with
      | sent what msg =>
          cases what <;> simp [Happening.task?, Happening.effect?, Pool.Event.effectsOf]
      | _ => simp [Happening.task?, Happening.effect?, Pool.Event.effectsOf]

/-- What the event loop has put on the channel is among what it has done. -/
theorem outgoing_messages (labels : List (Happening ι)) :
    (outgoing labels).filterMap Outgoing.message? = (effects labels).filterMap Effect.message? := by
  rw [outgoing, effects, List.filterMap_filterMap, List.filterMap_filterMap]
  congr 1
  funext h
  cases h with
  | sent what msg => cases what <;> rfl
  | _ => rfl

theorem requests_loop (labels : List (Happening ι)) :
    Pool.requests () (labels.filterMap Happening.task?) = readings labels := by
  rw [Pool.requests, readings, List.filterMap_filterMap]
  congr 1
  funext h
  cases h with
  | sent what msg => cases what <;> rfl
  | _ => rfl

variable [DecidableEq ι]

/-- The Concentratord takes no reply back. -/
theorem replies_kept {o : Occurrence ι} {commands commands' : State ι}
    (taken : Concentratord.Step set.codec set.command commands o commands') :
    ∀ reply ∈ commands.replies, reply ∈ commands'.replies := by
  cases taken with
  | replied reply asked => exact fun _ member => List.mem_append_left _ member
  | _ => exact fun _ => id

theorem ended_update {ended : ι → Bool} (i : ι) {j : ι} (before : ended j = true) :
    Function.update ended i true j = true := by
  by_cases same : j = i
  · rw [same, Function.update_self]
  · rwa [Function.update_of_ne same]

theorem Acks.step (acks : Acks set labels f) (commands : Answered set.codec set.command f.commands)
    (taken : Forwarder.Step set f h f') : Acks set (labels ++ [h]) f' := by
  cases taken with
  | command taken => exact acks.aside rfl (replies_kept taken) fun _ => id
  | took reading free => exact acks.aside rfl (fun _ => id) fun _ => id
  | idled action next e current silent => exact acks.aside rfl (fun _ => id) fun _ => id
  | asked action next e current given => exact acks.aside rfl (fun _ => id) fun _ => id
  | sentEvent action next e current offered sent => exact acks.aside rfl (fun _ => id) fun _ => id
  | event taken own => exact acks.aside rfl (fun _ => id) fun _ => id
  | refused downlink returned pending refused =>
      exact acks.aside rfl (fun _ => id) fun _ => ended_update _
  | @sentAck i pl res txAck downlink returned pending decoded msg tx sent =>
      have one : (labels.filterMap Happening.outgoing? ++ [Outgoing.ack i txAck]).filterMap
          Outgoing.call? = (outgoing labels).filterMap Outgoing.call? ++ [i] := by
        rw [List.filterMap_append]
        rfl
      have fresh : i ∉ (outgoing labels).filterMap Outgoing.call? := by
        intro member
        rw [acks.ended i member] at pending
        cases pending
      constructor
      · intro j other member
        rw [outgoing_snoc] at member
        rcases List.mem_append.mp member with before | now
        · exact acks.own j other before
        · cases List.mem_singleton.mp now
          obtain ⟨resp, answers, own⟩ := commands.acknowledged downlink returned decoded
          exact ⟨pl, resp, downlink, answers, own⟩
      · rw [outgoing_snoc]
        exact one ▸ List.nodup_append.mpr ⟨acks.once, List.nodup_singleton i, by
          rintro j before _ now rfl
          exact fresh (List.mem_singleton.mp now ▸ before)⟩
      · intro j member
        rw [outgoing_snoc] at member
        rcases List.mem_append.mp (one ▸ member) with before | now
        · exact ended_update i (acks.ended j before)
        · rw [List.mem_singleton.mp now]
          exact Function.update_self ..

theorem Forwarder.Run.acks (run : Forwarder.Run set labels f) : Acks set labels f := by
  induction run with
  | nil =>
      constructor
      · intro i txAck member
        cases member
      · exact List.nodup_nil
      · intro i member
        cases member
  | snoc run taken ih => exact ih.step (Run.answered (Forwarder.Run.commands run)) taken

/-- The channel has taken exactly what has been sent, encoded. -/
theorem Forwarder.Run.accepted (run : Forwarder.Run set labels f) :
    List.Forall₂ (fun what msg => what.encode set.encoders set.json = .ok msg) (outgoing labels)
      (Publishing.accepted (eventLog labels)) := by
  induction run with
  | nil => exact .nil
  | @snoc before s s' h run taken ih =>
      have snoc : Publishing.accepted (eventLog (before ++ [h])) =
          Publishing.accepted (eventLog before) ++
            (h.event?.bind Publishing.Occurrence.accepted?).toList := by
        simp only [Publishing.accepted, eventLog, List.filterMap_filterMap]
        exact filterMap_snoc ..
      rw [outgoing_snoc, snoc]
      refine List.rel_append ih ?_
      cases taken with
      | sentEvent action next e current offered sent => exact .cons (encode_of_run sent) .nil
      | sentAck downlink returned pending decoded sent => exact .cons (encode_of_run sent) .nil
      | event taken own =>
          cases taken with
          | accepted sent => exact absurd rfl (own _)
          | _ => exact .nil
      | _ => exact .nil

/-- What holds of everything that the forwarder has published, publishes now or keeps. -/
structure Forwarded (set : Setting ι) (labels : List (Happening ι)) (f : Forwarder ι) : Prop where
  /-- Of what has been sent it is the encoding, some of it in the same order. -/
  carried : ∃ msgs, List.Forall₂ (fun what msg => what.encode set.encoders set.json = .ok msg)
    (outgoing labels) msgs ∧ (Publishing.carried (eventLog labels) f.events).Sublist msgs
  /-- What the event loop has sent goes back to its messages, one for each at most, and gateway
  statistics have the metadata that the loop has got for them. -/
  events : ∃ parts, List.Forall₂ (Offers set.decode set.crates set.conf) (readings labels) parts ∧
    effects labels = parts.flatten ∧
    (outgoing labels).filterMap Outgoing.message? = parts.flatten.filterMap Effect.message?
  /-- Every acknowledgement goes back to the reply to its own downlink. -/
  own : ∀ i txAck, .ack i txAck ∈ outgoing labels → Acknowledges set f i txAck
  /-- No downlink is acknowledged twice. -/
  once : ((outgoing labels).filterMap Outgoing.call?).Nodup

/-- In every run, however the calls, the event loop and the sessions interleave and whatever fails
or comes too late: what is published goes back, in order, to messages of the event API and to the
replies to the downlinks themselves, one event for each message and one for each downlink at
most. -/
theorem concentratord_forwards (run : Forwarder.Run set labels f) : Forwarded set labels f := by
  have acks := run.acks
  refine ⟨⟨_, run.accepted, run.events.carried_sublist⟩, ?_, acks.own, acks.once⟩
  have parts := Pool.History.parts (I := fun _ _ => True) (G := fun _ _ _ _ _ => True)
    (P := fun _ => Offers set.decode set.crates set.conf)
    (fun _ reading _ => eventLoop_offers reading) (fun _ _ _ _ offers => offers.shorter)
    ⟨Env.plain, trivial⟩ trivial run.loop ()
  rw [requests_loop, effectsOf_loop] at parts
  obtain ⟨parts, each, whole⟩ := parts
  exact ⟨parts, each, whole, whole ▸ outgoing_messages labels⟩

end

/-! ## An uplink, statistics and an acknowledgement -/

def uplink : Gw.UplinkFrame := ⟨[7], none, none⟩

def downlink : Gw.DownlinkFrame := ⟨1, [], "0102030405060708"⟩

def downlinkAck : Gw.DownlinkTxAck := ⟨"0102030405060708", 1, []⟩

def metadata : HashMap String String := (∅ : HashMap String String).insert "serial" "42"

/-- The first byte of a message tells its kind, and every call is for the downlink. -/
def oneEach : Setting Nat where
  codec := ⟨fun _ => [1], fun _ => .ok downlinkAck⟩
  command := fun _ => .sendDownlinkFrame downlink
  zmq := fun _ => ""
  decode
    | 1 :: _ => .ok ⟨some (.uplinkFrame uplink)⟩
    | 2 :: _ => .ok ⟨some (.gatewayStats {})⟩
    | _ => .err "failed to decode Protobuf message"
  crates := .plain
  conf := {}
  mqtt := {}
  encoders := Publishing.partEncoders
  json := false

/-- An uplink, statistics with their metadata, and the acknowledgement of a downlink are sent, and
the uplink is published. -/
theorem concentratord_forwards_three :
    ∃ (labels : List (Happening Nat)) (f : Forwarder Nat),
      outgoing labels = [.event (.up uplink), .event (.stats { metadata }), .ack 0 downlinkAck] ∧
      Publishing.published (eventLog labels) = [⟨"up", [7]⟩] ∧ Forwarded oneEach labels f := by
  obtain ⟨commands, exchanged, place⟩ := exchange_run oneEach.codec oneEach.command [2]
  have answered : Forwarder.Run oneEach _ { Forwarder.init with commands } :=
    exchanged.embed (fun commands => { Forwarder.init with commands }) Happening.command
      fun _ _ _ taken => .command taken
  have opened := answered.snoc (.event (.opened rfl (by decide)) (by simp))
  have up := (opened.snoc (.took (.message [1]) trivial)).snoc
    (.sentEvent _ _ Env.plain rfl rfl rfl)
  have asked := (up.snoc (.took (.message [2]) trivial)).snoc
    (.asked _ _ { Env.plain with metadata := .ok metadata } rfl rfl)
  have stats := asked.snoc (.sentEvent _ _ Env.plain rfl rfl rfl)
  have acked := stats.snoc
    (@Forwarder.Step.sentAck Nat _ _ _ 0 downlink (.ok [2]) downlinkAck rfl place rfl rfl _ _ rfl)
  have published := ((acked.snoc (.event (.started rfl (by simp)) (by simp))).snoc
    (.event (.received rfl rfl rfl) (by simp))).snoc (.event (.published rfl) (by simp))
  exact ⟨_, _, rfl, rfl, concentratord_forwards published⟩

end MqttForwarder.Concentratord
