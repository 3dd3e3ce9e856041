import MqttForwarder.Mqtt.Topics
import MqttForwarder.Rust.Channel
import MqttForwarder.SemtechUdp.System

/-!
# Sessions over the Semtech UDP backend

The tasks of the backend put their events on the publish channel.  A session
fixes the gateway id of its topics when it starts.  The backend takes the id
that it reports from its last PULL_DATA, at any time, and the id in an event
from the datagram that led to the event.
-/

namespace MqttForwarder.SemtechUdp

/-- The field `typ` of the message on the publish channel. -/
def MqttMessage.typ : MqttMessage → String
  | up _ => "up"
  | stats _ => "stats"
  | ack _ => "ack"

/-- The gateway id in the payload. -/
def MqttMessage.gatewayId? : MqttMessage → Option String
  | up pl => pl.rxInfo.map Gw.UplinkRxInfo.gatewayId
  | stats pl => some pl.gatewayId
  | ack pl => some pl.gatewayId

def Effect.event? : Effect → Option MqttMessage
  | event msg => some msg
  | _ => none

end MqttForwarder.SemtechUdp

namespace MqttForwarder.Mqtt.Sessions

open MqttForwarder.Rust
open MqttForwarder.SemtechUdp

/-! ## The forwarder -/

/-- The gateway id that `run` has found, and the event that the publish loop hands to the
client. -/
structure Session where
  gatewayId : String
  publishing : Option MqttMessage

structure Forwarder where
  backend : System
  /-- What is on the publish channel, once it has been set up. -/
  channel : Option (List MqttMessage)
  session : Option Session

def Forwarder.init (conf : SemtechUdp.Conf) : Forwarder where
  backend := Pool.idle (State.init conf)
  channel := none
  session := none

/-- What `try_send` meets. -/
def Forwarder.answer (mqtt : Conf) (s : Forwarder) : Channel :=
  match s.channel with
  | none => .unset
  | some queue => if queue.length < mqtt.publishChannelSize then .room else .full

/-- The events that have not been published yet. -/
def Forwarder.pending (s : Forwarder) : List MqttMessage :=
  (s.session.bind Session.publishing).toList ++ s.channel.getD []

inductive Occurrence where
  /-- `run` has set up the channel. -/
  | opened
  /-- `run` has fixed its topics. -/
  | started (gatewayId : String)
  /-- A task has taken a request. -/
  | took (i : Thread) (r : Request)
  /-- A task has done an action. -/
  | acted (i : Thread) (os : List Effect)
  /-- The publish loop has received an event. -/
  | received (msg : MqttMessage)
  /-- `client.publish` has returned `Ok`. -/
  | published (topic : String) (msg : MqttMessage)
  /-- `client.publish` has returned an error. -/
  | failed (msg : MqttMessage)
  /-- The tasks of the session have been aborted. -/
  | terminated

/-- The steps of the tasks of the backend, of `run` and of the publish loop. -/
inductive Step (crates : Crates) (profile : Profile) (conf : SemtechUdp.Conf) (mqtt : Conf) :
    Forwarder → Occurrence → Forwarder → Prop where
  | opened {s : Forwarder} (unset : s.channel = none) (positive : 0 < mqtt.publishChannelSize) :
      Step crates profile conf mqtt s .opened { s with channel := some [] }
  | started {s : Forwarder} (stopped : s.session = none) (set : s.channel ≠ none)
      (known : s.backend.state.gatewayId ≠ "") :
      Step crates profile conf mqtt s (.started s.backend.state.gatewayId)
        { s with session := some ⟨s.backend.state.gatewayId, none⟩ }
  | took {s : Forwarder} (i : Thread) (r : Request) (free : (s.backend.threads i).Finished)
      (admitted : admits (fun _ => True) i r) :
      Step crates profile conf mqtt s (.took i r)
        { s with backend := s.backend.start i r (program crates profile conf i r) }
  | acted {s : Forwarder} {β : Type} (i : Thread) (action : Env → State → Reply β State Effect)
      (next : β → SemtechUdp.Task Unit) (e : Env) (current : s.backend.threads i = .act action next)
      (answered : e.channel = s.answer mqtt) :
      Step crates profile conf mqtt s (.acted i (action e s.backend.state).effects)
        { s with
          backend := s.backend.exec i action next e
          channel := s.channel.map
            (· ++ (action e s.backend.state).effects.filterMap Effect.event?) }
  | received {s : Forwarder} {gatewayId : String} {msg : MqttMessage} {rest : List MqttMessage}
      (receiving : s.session = some ⟨gatewayId, none⟩) (front : s.channel = some (msg :: rest)) :
      Step crates profile conf mqtt s (.received msg)
        { s with channel := some rest, session := some ⟨gatewayId, some msg⟩ }
  | published {s : Forwarder} {gatewayId : String} {msg : MqttMessage}
      (publishing : s.session = some ⟨gatewayId, some msg⟩) :
      Step crates profile conf mqtt s (.published (eventTopic mqtt gatewayId msg.typ) msg)
        { s with session := some ⟨gatewayId, none⟩ }
  | failed {s : Forwarder} {gatewayId : String} {msg : MqttMessage}
      (publishing : s.session = some ⟨gatewayId, some msg⟩) :
      Step crates profile conf mqtt s (.failed msg)
        { s with session := some ⟨gatewayId, none⟩ }
  | terminated {s : Forwarder} (running : s.session ≠ none) :
      Step crates profile conf mqtt s .terminated { s with session := none }

/-- The occurrences of a run of the forwarder, and its state after them. -/
abbrev Run (crates : Crates) (profile : Profile) (conf : SemtechUdp.Conf) (mqtt : Conf) :
    List Occurrence → Forwarder → Prop :=
  Trace (Step crates profile conf mqtt) (Forwarder.init conf)

section

variable {crates : Crates} {profile : Profile} {conf : SemtechUdp.Conf} {mqtt : Conf}
  {labels : List Occurrence} {s s' : Forwarder}

/-- In every run the backend is in a state that its tasks can reach. -/
theorem Run.reachable (run : Run crates profile conf mqtt labels s) :
    Reachable crates profile conf (fun _ => True) s.backend := by
  induction run with
  | nil => exact .init
  | snoc _ taken ih =>
      cases taken with
      | took i r free admitted => exact ih.tail (.start i r free admitted)
      | acted i action next e current answered =>
          exact ih.tail (.exec i action next e current trivial)
      | opened unset positive => exact ih
      | started stopped set known => exact ih
      | received receiving front => exact ih
      | published publishing => exact ih
      | failed publishing => exact ih
      | terminated running => exact ih

/-- A task can do all of its actions, as long as the channel has room for its events. -/
theorem trace_of_exec {E : Env → Prop} (answers : ∀ e, E e → e.channel = .room) (i : Thread)
    {p : SemtechUdp.Task Unit} {os : List Effect} {state : State} {result : Outcome Unit}
    {queue : List MqttMessage} (exec : p.Exec E s.backend.state os state result)
    (current : s.backend.threads i = p) (channel : s.channel = some queue)
    (room : queue.length + (os.filterMap Effect.event?).length < mqtt.publishChannelSize) :
    ∃ labels s', Trace (Step crates profile conf mqtt) s labels s' ∧
      s'.backend.state = state ∧ s'.backend.threads i = .done result ∧
      s'.channel = some (queue ++ os.filterMap Effect.event?) ∧ s'.session = s.session ∧
      ∀ o ∈ labels, ∃ effects, o = .acted i effects := by
  induction p generalizing s os queue with
  | done result' =>
      obtain ⟨rfl, rfl, rfl⟩ := exec
      refine ⟨[], s, .nil, rfl, current, ?_, rfl, by simp⟩
      rw [channel, List.filterMap_nil, List.append_nil]
  | act action next ih =>
      obtain ⟨e, answer, rest, rfl, exec⟩ := exec
      rw [List.filterMap_append, List.length_append] at room
      have answered : e.channel = s.answer mqtt := by
        rw [answers e answer, Forwarder.answer, channel]
        exact (if_pos (by omega)).symm
      have acted : Step crates profile conf mqtt s _ _ :=
        .acted i action next e current answered
      obtain ⟨labels, s', trace, state, returned, queued, same, own⟩ :=
        ih _ (s := { s with
            backend := s.backend.exec i action next e
            channel := s.channel.map
              (· ++ (action e s.backend.state).effects.filterMap Effect.event?) })
          exec Pool.exec_threads_self (by rw [channel, Option.map_some])
          (by rw [List.length_append]; omega)
      refine ⟨_, s', .cons acted trace, state, returned, ?_, same, ?_⟩
      · rw [queued, List.filterMap_append, List.append_assoc]
      · intro o member
        rcases List.mem_cons.mp member with rfl | later
        · exact ⟨_, rfl⟩
        · exact own o later

/-- A task that is free can serve a request to its end. -/
theorem trace_of_request {E : Env → Prop} (answers : ∀ e, E e → e.channel = .room) {i : Thread}
    {r : Request} {os : List Effect} {state : State} {result : Outcome Unit}
    {queue : List MqttMessage} (free : (s.backend.threads i).Finished)
    (admitted : admits (fun _ => True) i r)
    (exec : (program crates profile conf i r).Exec E s.backend.state os state result)
    (channel : s.channel = some queue)
    (room : queue.length + (os.filterMap Effect.event?).length < mqtt.publishChannelSize) :
    ∃ labels s', Trace (Step crates profile conf mqtt) s (.took i r :: labels) s' ∧
      s'.backend.state = state ∧ s'.backend.threads i = .done result ∧
      s'.channel = some (queue ++ os.filterMap Effect.event?) ∧ s'.session = s.session ∧
      ∀ o ∈ labels, ∃ effects, o = .acted i effects := by
  have took : Step crates profile conf mqtt s (.took i r)
      { s with backend := s.backend.start i r (program crates profile conf i r) } :=
    .took i r free admitted
  obtain ⟨labels, s', trace, served⟩ :=
    @trace_of_exec crates profile conf mqtt
      { s with backend := s.backend.start i r (program crates profile conf i r) }
      E answers i _ os state result queue exec Pool.start_threads_self channel room
  exact ⟨labels, s', .cons took trace, served⟩

end

end MqttForwarder.Mqtt.Sessions
