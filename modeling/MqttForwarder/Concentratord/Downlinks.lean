import MqttForwarder.Concentratord.Forwarding
import MqttForwarder.Concentratord.Termination
import MqttForwarder.Mqtt.Dispatch

/-!
# From the broker to the Concentratord and back

The handler of a message runs in a task of its own, and at most one call of
`send_command` comes of it.  All these calls share the command socket, and what
the downlinks among them are replied goes to the publish channel.  However they
interleave, what the Concentratord is asked has been asked for by a message of
its own, and what is acknowledged is what a message has commanded.
-/

namespace MqttForwarder.Concentratord

open MqttForwarder.Rust
open MqttForwarder.Mqtt

/-! ## The forwarder behind the broker -/

/-- The command that the backend makes of an operation.  Commands of its own operating system are
not for the Concentratord. -/
def commandOf : Operation → Option Command
  | .sendDownlinkFrame pl => some (.sendDownlinkFrame pl)
  | .sendConfigurationCommand pl => some (.setGatewayConfiguration pl)
  | .sendMeshCommand pl => some (.mesh pl)
  | .handleCommandExec _ => none

/-- The calls of `send_command` have the numbers of the messages that they come from. -/
structure Site where
  forwarder : Forwarder Nat
  /-- The messages that have been delivered. -/
  messages : List Publish
  /-- The operations that their handlers have come to. -/
  asked : List (Nat × Operation)

def Site.init : Site where
  forwarder := .init
  messages := []
  asked := []

/-- The steps of the handlers of messages and of the forwarder. -/
inductive Site.Step (set : Setting Nat) (codecs : Codecs) : Site → Option (Happening Nat) → Site →
    Prop where
  | delivered {s : Site} {asked : List Operation} {result : Outcome Unit} (p : Publish)
      (handled : (messageCallback codecs set.json p).Exec (fun _ => True) () asked () result) :
      Step set codecs s none
        { s with
          messages := s.messages ++ [p]
          asked := s.asked ++ asked.map (s.messages.length, ·) }
  | happened {s : Site} {h : Happening Nat} {forwarder : Forwarder Nat}
      (taken : Forwarder.Step set s.forwarder h forwarder)
      (asked : ∀ i, h = .command (.called i) →
        ∃ operation, (i, operation) ∈ s.asked ∧ commandOf operation = some (set.command i)) :
      Step set codecs s (some h) { s with forwarder }

abbrev Site.Run (set : Setting Nat) (codecs : Codecs) : List (Option (Happening Nat)) → Site →
    Prop :=
  Trace (Site.Step set codecs) Site.init

/-- Message `i` has asked for the operation. -/
def Site.Wanted (codecs : Codecs) (json : Bool) (s : Site) (i : Nat) (operation : Operation) :
    Prop :=
  ∃ p, s.messages[i]? = some p ∧ Asks codecs json p operation

section

variable {set : Setting Nat} {codecs : Codecs} {labels : List (Option (Happening Nat))}
  {s s' : Site} {h : Option (Happening Nat)} {i : Nat} {operation : Operation}

theorem Site.Run.forwarder (run : Site.Run set codecs labels s) :
    Forwarder.Run set (labels.filterMap id) s.forwarder := by
  refine Trace.project Site.forwarder id ?_ ?_ run
  · intro s h s' taken silent
    cases taken with
    | delivered p handled => rfl
    | happened taken asked => cases silent
  · intro s h s' seen taken observed
    cases taken with
    | delivered p handled => cases observed
    | happened taken asked =>
        cases observed
        exact taken

theorem Site.Wanted.later (wanted : s.Wanted codecs set.json i operation) {more : List Publish}
    (messages : s'.messages = s.messages ++ more) : s'.Wanted codecs set.json i operation := by
  obtain ⟨p, own, asks⟩ := wanted
  refine ⟨p, ?_, asks⟩
  rw [messages, List.getElem?_append_left (List.getElem?_eq_some_iff.mp own).1]
  exact own

/-- The call is for an operation that its message has asked for. -/
def Site.Founded (set : Setting Nat) (codecs : Codecs) (s : Site) (i : Nat) : Prop :=
  ∃ operation, s.Wanted codecs set.json i operation ∧
    commandOf operation = some (set.command i)

theorem Site.Founded.later (founded : s.Founded set codecs i) {more : List Publish}
    (messages : s'.messages = s.messages ++ more) : s'.Founded set codecs i := by
  obtain ⟨operation, wanted, command⟩ := founded
  exact ⟨operation, wanted.later messages, command⟩

structure Site.Sound (set : Setting Nat) (codecs : Codecs) (s : Site) : Prop where
  asked : ∀ i operation, (i, operation) ∈ s.asked → s.Wanted codecs set.json i operation
  called : ∀ i, s.forwarder.commands.place i ≠ .uncalled → s.Founded set codecs i

/-- A call that stands somewhere else now has stood somewhere before. -/
theorem called_update {place : Nat → Place} {j : Nat} {p q : Place} (stands : place j = q)
    (begun : q ≠ .uncalled) (called : Function.update place j p i ≠ .uncalled) :
    place i ≠ .uncalled := by
  by_cases same : i = j
  · rw [same, stands]
    exact begun
  · rwa [Function.update_of_ne same] at called

/-- Calls begin only in the step that says so. -/
theorem called_of_step {codec : Codec} {command : Nat → Command} {c c' : State Nat}
    {o : Occurrence Nat} (taken : Step codec command c o c') (called : c'.place i ≠ .uncalled) :
    c.place i ≠ .uncalled ∨ o = .called i := by
  cases taken with
  | @called j fresh =>
      by_cases same : i = j
      · exact .inr (congrArg Occurrence.called same.symm)
      · refine .inl fun uncalled => called ?_
        simp [State.goto, Function.update_of_ne same, uncalled]
  | locked waits free => exact .inl (called_update waits (by simp) called)
  | sent sends connected taken => exact .inl (called_update sends (by simp) called)
  | busy sends refused => exact .inl (called_update sends (by simp) called)
  | sendFailed sends => exact .inl (called_update sends (by simp) called)
  | readable polls ready => exact .inl (called_update polls (by simp) called)
  | unanswered polls late => exact .inl (called_update polls (by simp) called)
  | pollFailed polls => exact .inl (called_update polls (by simp) called)
  | received receives taken => exact .inl (called_update receives (by simp) called)
  | recvFailed receives => exact .inl (called_update receives (by simp) called)
  | relocked waits free => exact .inl (called_update waits (by simp) called)
  | replaced recovers => exact .inl (called_update recovers (by simp) called)
  | socketFailed recovers => exact .inl (called_update recovers (by simp) called)
  | connected recovers => exact .inl (called_update recovers (by simp) called)
  | connectFailed recovers => exact .inl (called_update recovers (by simp) called)
  | awake sleeps => exact .inl (called_update sleeps (by simp) called)
  | replied reply asked => exact .inl called
  | delivered made => exact .inl called

theorem Site.Sound.step (sound : s.Sound set codecs) (taken : Site.Step set codecs s h s') :
    s'.Sound set codecs := by
  cases taken with
  | @delivered asked result p handled =>
      refine ⟨fun i operation member => ?_, fun i called => (sound.called i called).later rfl⟩
      rcases List.mem_append.mp member with earlier | now
      · exact (sound.asked i operation earlier).later rfl
      · obtain ⟨_, inside, same⟩ := List.mem_map.mp now
        cases same
        exact ⟨p, List.getElem?_concat_length, ((messageCallback_performs handled).2 _).mp inside⟩
  | @happened h forwarder taken asked =>
      refine ⟨sound.asked, fun i called => ?_⟩
      cases taken with
      | command taken =>
          rcases called_of_step taken called with before | rfl
          · exact sound.called i before
          · obtain ⟨operation, member, command⟩ := asked i rfl
            exact ⟨operation, sound.asked i operation member, command⟩
      | _ => exact sound.called i called

theorem Site.Run.sound (run : Site.Run set codecs labels s) : s.Sound set codecs := by
  refine run.holds (I := fun _ s => s.Sound set codecs) ⟨fun _ _ member => ?_, fun _ called => ?_⟩
    fun _ _ _ _ sound taken => sound.step taken
  · cases member
  · exact absurd rfl called

/-- Every message has come under the filter of the gateway. -/
def Site.Subscribed (mqtt : Conf) (gatewayId : String) (s : Site) : Prop :=
  ∀ p ∈ s.messages, ∃ topic, String.fromUTF8? p.topic = some topic ∧
    matchesFilter (commandTopic mqtt gatewayId) topic = true

/-- What the forwarder has carried between the broker and the Concentratord. -/
structure Site.Carries (set : Setting Nat) (codecs : Codecs)
    (labels : List (Option (Happening Nat))) (s : Site) : Prop where
  /-- Every request is the command of its message, and for the gateway whose topic it came on. -/
  requests : ∀ i bytes, (i, bytes) ∈ s.forwarder.commands.requests →
    ∃ operation command, s.Wanted codecs set.json i operation ∧
      commandOf operation = some command ∧ bytes = set.codec.encode command ∧
      ∀ gatewayId, PlainId gatewayId → s.Subscribed set.mqtt gatewayId →
        operation.gatewayId = gatewayId
  /-- No message has led to two requests. -/
  once : (s.forwarder.commands.requests.map Prod.fst).Nodup
  /-- Every acknowledgement is the reply to the downlink of its message. -/
  acks : ∀ i txAck, .ack i txAck ∈ outgoing (labels.filterMap id) →
    ∃ pl resp, s.Wanted codecs set.json i (.sendDownlinkFrame pl) ∧
      ((i, set.codec.encode (.sendDownlinkFrame pl)), resp) ∈ s.forwarder.commands.replies ∧
      set.codec.decodeTxAck resp = .ok txAck
  /-- No message has been acknowledged twice. -/
  acknowledged : ((outgoing (labels.filterMap id)).filterMap Outgoing.call?).Nodup

/-- In every run, however messages, calls, replies and sessions interleave: what the Concentratord
is asked is what messages of the broker have asked for, once for each message at most, and what is
acknowledged is the reply to what a message has commanded. -/
theorem commands_carried (run : Site.Run set codecs labels s) : s.Carries set codecs labels := by
  have sound := Site.Run.sound run
  have forwarder := Site.Run.forwarder run
  have commands := Forwarder.Run.commands forwarder
  have traffic := (Run.answered commands).traffic
  have acks := Forwarder.Run.acks forwarder
  have founded : ∀ request ∈ s.forwarder.commands.requests, s.Founded set codecs request.1 := by
    intro request member
    refine sound.called request.1 fun uncalled => Run.sent commands request member ?_
    rw [uncalled]
    trivial
  refine ⟨fun i bytes member => ?_, Run.requests_nodup commands, fun i txAck member => ?_,
    acks.once⟩
  · obtain ⟨operation, wanted, command⟩ := founded _ member
    refine ⟨operation, _, wanted, command, traffic.requests _ member, ?_⟩
    intro gatewayId plain subscribed
    obtain ⟨p, own, asks⟩ := wanted
    obtain ⟨topic, read, matched⟩ := subscribed p (List.mem_of_getElem? own)
    exact asks.own plain read matched
  · obtain ⟨pl, resp, downlink, reply, decoded⟩ := acks.own i txAck member
    obtain ⟨operation, wanted, command⟩ := founded _ (traffic.replies _ reply)
    rw [downlink] at command
    have same : operation = .sendDownlinkFrame pl := by
      cases operation <;> cases command
      rfl
    exact ⟨pl, resp, same ▸ wanted, reply, decoded⟩

end

/-! ## One downlink -/

def downTopic : String := "eu868/gateway/0102030405060708/command/down"

def downMessage : Publish := ⟨downTopic.toUTF8, []⟩

theorem downMessage_performs :
    (messageCallback (codecsFor "0102030405060708") false downMessage).Exec
      (fun _ => True) () [.sendDownlinkFrame downlink] () (.ok ()) := by
  have parts : levels downTopic =
      ["eu868"] ++ ["gateway", "0102030405060708", "command", "down"] := by decide
  rw [downMessage, messageCallback_eq parts]
  simp only [handleCommand, Codec.read, codecsFor, Bool.false_eq_true, ↓reduceIte, ne_eq,
    not_true_eq_false, Prog.lift_eq, Prog.done_ok_bind]
  exact ⟨.ok (), trivial, [], rfl, rfl, rfl, rfl⟩

/-- A downlink goes from its message to the Concentratord, and its acknowledgement comes back. -/
theorem commands_carried_one_downlink :
    ∃ (labels : List (Option (Happening Nat))) (s : Site),
      outgoing (labels.filterMap id) = [.ack 0 downlinkAck] ∧
      s.Carries oneEach (codecsFor "0102030405060708") labels := by
  have opened : Site.Run oneEach (codecsFor "0102030405060708") _ _ :=
    Trace.snoc .nil (.happened (.event (.opened rfl (by decide)) (by simp)) (by simp))
  have delivered := opened.snoc (.delivered downMessage downMessage_performs)
  have called := delivered.snoc (.happened (.command (@Step.called Nat _ _ _ _ 0 rfl))
    fun i same => by cases same; exact ⟨_, List.mem_cons_self, rfl⟩)
  have sent := (called.snoc (.happened
      (.command (@Step.locked Nat _ _ _ _ 0 rfl rfl)) (by simp))).snoc
    (.happened (.command (@Step.sent Nat _ _ _ _ 0 _ rfl rfl rfl)) (by simp))
  have replied := (sent.snoc (.happened
      (.command (@Step.replied Nat _ _ _ _ (0, [1]) [2] List.mem_cons_self)) (by simp))).snoc
    (.happened (.command (@Step.delivered Nat _ _ _ _ (0, [1]) [2] List.mem_cons_self)) (by simp))
  have returned := (replied.snoc (.happened
      (.command (@Step.readable Nat _ _ _ _ 0 rfl rfl)) (by simp))).snoc
    (.happened (.command (@Step.received Nat _ _ _ _ 0 [2] _ rfl rfl)) (by simp))
  have acknowledged := returned.snoc (.happened
    (@Forwarder.Step.sentAck Nat _ _ _ 0 downlink (.ok [2]) downlinkAck rfl rfl rfl rfl _ _ rfl)
    (by simp))
  exact ⟨_, _, rfl, commands_carried acknowledged⟩

end MqttForwarder.Concentratord
