import MqttForwarder.Api.Gw
import MqttForwarder.Mqtt.Topics
import MqttForwarder.Rust.Prog

/-!
# Command dispatch

A message of the broker is handled in a task of its own.  Its topic names the
command and the gateway, and its payload names the gateway again.  The handler
performs at most one operation, and only for the gateway of the session.
-/

namespace MqttForwarder.Mqtt

open MqttForwarder.Rust

/-! ## Payloads -/

/-- The two decoders of a message type. -/
structure Codec (T : Type) where
  /-- `serde_json::from_slice`. -/
  fromSlice : List UInt8 → Except String T
  /-- `decode` of the protobuf message. -/
  decode : List UInt8 → Except String T

/-- `match json { true => serde_json::from_slice(&b)?, false => T::decode(b.as_slice())? }`. -/
def Codec.read {T : Type} (codec : Codec T) (json : Bool) (b : List UInt8) : Outcome T :=
  match (if json then codec.fromSlice b else codec.decode b) with
  | .ok pl => .ok pl
  | .error message => .err message

/-- The payload is the message `pl` in the encoding of the settings, JSON or protobuf. -/
def Codec.Decodes {T : Type} (codec : Codec T) (json : Bool) (b : List UInt8) (pl : T) : Prop :=
  (json = true ∧ codec.fromSlice b = .ok pl) ∨ (json = false ∧ codec.decode b = .ok pl)

theorem Codec.read_eq_ok {T : Type} {codec : Codec T} {json : Bool} {b : List UInt8} {pl : T} :
    codec.read json b = .ok pl ↔ codec.Decodes json b pl := by
  have ok : ∀ x : Except String T, (match x with
      | .ok pl => Outcome.ok pl
      | .error message => .err message) = .ok pl ↔ x = .ok pl := by
    rintro (message | other) <;> simp
  unfold Codec.read Codec.Decodes
  cases json with
  | true => simp [ok]
  | false => simp [ok]

structure Codecs where
  downlinkFrame : Codec Gw.DownlinkFrame
  gatewayConfiguration : Codec Gw.GatewayConfiguration
  gatewayCommandExecRequest : Codec Gw.GatewayCommandExecRequest
  meshCommand : Codec Gw.MeshCommand

/-! ## The handler -/

/-- A message of the broker. -/
structure Publish where
  topic : ByteArray
  payload : List UInt8

/-- What a command makes the forwarder do. -/
inductive Operation where
  | sendDownlinkFrame (pl : Gw.DownlinkFrame)
  | sendConfigurationCommand (pl : Gw.GatewayConfiguration)
  | handleCommandExec (pl : Gw.GatewayCommandExecRequest)
  | sendMeshCommand (pl : Gw.MeshCommand)
  deriving DecidableEq

/-- A program that performs operations; the answer to one is what it returns. -/
abbrev Handler := Prog (Outcome Unit) Unit Operation

def perform (operation : Operation) : Handler Unit :=
  Prog.attempt fun answer s => ⟨answer, s, [operation]⟩

/-- The `match` of `message_callback`. -/
def handleCommand (codecs : Codecs) (json : Bool) (gatewayId command : String) (b : List UInt8) :
    Handler Unit :=
  match command with
  | "down" => do
      let pl ← codecs.downlinkFrame.read json b
      if pl.gatewayId ≠ gatewayId then
        .done (.err "Gateway ID in payload does not match gateway ID in topic")
      else perform (.sendDownlinkFrame pl)
  | "config" => do
      let pl ← codecs.gatewayConfiguration.read json b
      if pl.gatewayId ≠ gatewayId then
        .done (.err "Gateway ID in payload does not match gateway ID in topic")
      else perform (.sendConfigurationCommand pl)
  | "exec" => do
      let pl ← codecs.gatewayCommandExecRequest.read json b
      if pl.gatewayId ≠ gatewayId then
        .done (.err "Gateway ID in payload does not match gateway ID in topic")
      else perform (.handleCommandExec pl)
  | "mesh" => do
      let pl ← codecs.meshCommand.read json b
      if pl.gatewayId ≠ gatewayId then
        .done (.err "Gateway ID in payload does not match gateway ID in topic")
      else perform (.sendMeshCommand pl)
  | _ => .done (.err ("Unexpected command, command: " ++ command))

def messageCallback (codecs : Codecs) (json : Bool) (p : Publish) : Handler Unit := do
  let topic ← Outcome.okOr (String.fromUTF8? p.topic) "invalid utf-8 sequence"
  let parts := split '/' topic
  if parts.length < 4 then .done (.err "Topic does not contain enough paths")
  else do
    let gatewayId ← index parts (parts.length - 3)
    let command ← index parts (parts.length - 1)
    handleCommand codecs json gatewayId command p.payload

/-! ## Commands -/

/-- The topic and the payload ask gateway `gatewayId` for the operation. -/
def Commanded (codecs : Codecs) (json : Bool) (gatewayId topic : String) (b : List UInt8) :
    Operation → Prop
  | .sendDownlinkFrame pl => (levels topic).getLast? = some "down" ∧
      codecs.downlinkFrame.Decodes json b pl ∧ pl.gatewayId = gatewayId
  | .sendConfigurationCommand pl => (levels topic).getLast? = some "config" ∧
      codecs.gatewayConfiguration.Decodes json b pl ∧ pl.gatewayId = gatewayId
  | .handleCommandExec pl => (levels topic).getLast? = some "exec" ∧
      codecs.gatewayCommandExecRequest.Decodes json b pl ∧ pl.gatewayId = gatewayId
  | .sendMeshCommand pl => (levels topic).getLast? = some "mesh" ∧
      codecs.meshCommand.Decodes json b pl ∧ pl.gatewayId = gatewayId

section

variable {codecs : Codecs} {json : Bool} {gatewayId topic : String} {b : List UInt8}
  {E : Outcome Unit → Prop} {os : List Operation} {s s' : Unit} {result : Outcome Unit}

/-- A command whose payload has been read is performed for its own gateway only. -/
theorem exec_checked {T : Type} {read : Outcome T} (id : T → String) {operation : T → Operation}
    (exec : Prog.Exec E (do
      let pl ← read
      if id pl ≠ gatewayId then
        .done (.err "Gateway ID in payload does not match gateway ID in topic")
      else perform (operation pl) : Handler Unit) s os s' result) :
    os.length ≤ 1 ∧ ∀ performed, performed ∈ os ↔
      ∃ pl, performed = operation pl ∧ read = .ok pl ∧ id pl = gatewayId := by
  cases read with
  | err message =>
      obtain ⟨rfl, _⟩ := exec
      simp
  | panic cause =>
      obtain ⟨rfl, _⟩ := exec
      simp
  | ok pl =>
      simp only [Prog.lift_eq, Prog.done_ok_bind] at exec
      split at exec
      · next other =>
          obtain ⟨rfl, _⟩ := exec
          simp [other]
      · next same =>
          obtain ⟨answer, _, rest, rfl, silent, _⟩ := exec
          rw [silent]
          simp [not_not.mp same]

/-- On a topic of the session the handler comes to the command that the topic ends in. -/
theorem messageCallback_eq {front : List String} {command : String}
    (parts : levels topic = front ++ ["gateway", gatewayId, "command", command]) :
    messageCallback codecs json ⟨topic.toUTF8, b⟩ =
      handleCommand codecs json gatewayId command b := by
  have read : String.fromUTF8? topic.toUTF8 = some topic := by
    rw [String.fromUTF8?, dif_pos (show topic.toUTF8.IsValidUTF8 from topic.isValidUTF8)]
    rfl
  have four : (front ++ ["gateway", gatewayId, "command", command]).length = front.length + 4 := by
    simp
  have id : index (front ++ ["gateway", gatewayId, "command", command]) (front.length + 1) =
      .ok gatewayId := by
    rw [index_of_lt (by simp)]
    simp
  have last : index (front ++ ["gateway", gatewayId, "command", command]) (front.length + 3) =
      .ok command := by
    rw [index_of_lt (by simp)]
    simp
  rw [levels] at parts
  simp only [messageCallback, read, Outcome.okOr_some, Prog.lift_eq, Prog.done_ok_bind, parts, four]
  rw [if_neg (by omega), show front.length + 4 - 3 = front.length + 1 by omega,
    show front.length + 4 - 1 = front.length + 3 by omega, id, last]
  rfl

/-- The handler performs at most one operation, and the one that it is commanded. -/
theorem handleCommand_performs {command : String}
    (last : (levels topic).getLast? = some command)
    (exec : (handleCommand codecs json gatewayId command b).Exec E s os s' result) :
    os.length ≤ 1 ∧ ∀ operation,
      operation ∈ os ↔ Commanded codecs json gatewayId topic b operation := by
  unfold handleCommand at exec
  split at exec
  · obtain ⟨once, performed⟩ := exec_checked Gw.DownlinkFrame.gatewayId exec
    refine ⟨once, fun operation => (performed operation).trans ?_⟩
    cases operation <;> simp [Commanded, Codec.read_eq_ok, last]
  · obtain ⟨once, performed⟩ := exec_checked Gw.GatewayConfiguration.gatewayId exec
    refine ⟨once, fun operation => (performed operation).trans ?_⟩
    cases operation <;> simp [Commanded, Codec.read_eq_ok, last]
  · obtain ⟨once, performed⟩ := exec_checked Gw.GatewayCommandExecRequest.gatewayId exec
    refine ⟨once, fun operation => (performed operation).trans ?_⟩
    cases operation <;> simp [Commanded, Codec.read_eq_ok, last]
  · obtain ⟨once, performed⟩ := exec_checked Gw.MeshCommand.gatewayId exec
    refine ⟨once, fun operation => (performed operation).trans ?_⟩
    cases operation <;> simp [Commanded, Codec.read_eq_ok, last]
  · next down config execute mesh =>
      obtain ⟨rfl, _⟩ := exec
      refine ⟨Nat.zero_le 1, fun operation => ?_⟩
      cases operation <;> simp_all [Commanded]

/-- Every message on a topic of the session performs at most one operation: that of the last
segment of the topic, with the decoded payload, if the payload is for the gateway of the session. -/
theorem dispatch_iff (conf : Conf) (plain : PlainId gatewayId)
    (subscribed : matchesFilter (commandTopic conf gatewayId) topic = true)
    (exec : (messageCallback codecs conf.json ⟨topic.toUTF8, b⟩).Exec E s os s' result) :
    os.length ≤ 1 ∧ ∀ operation,
      operation ∈ os ↔ Commanded codecs conf.json gatewayId topic b operation := by
  obtain ⟨front, command, parts⟩ := levels_of_subscribed plain subscribed
  have last : (levels topic).getLast? = some command := by
    rw [parts]
    simp
  rw [messageCallback_eq parts] at exec
  exact handleCommand_performs last exec

end

/-! ## Messages -/

/-- The message asks for the operation: the topic of the message names the command, and the
gateway that the payload is for. -/
def Asks (codecs : Codecs) (json : Bool) (p : Publish) (operation : Operation) : Prop :=
  ∃ topic gatewayId, String.fromUTF8? p.topic = some topic ∧ 4 ≤ (levels topic).length ∧
    (levels topic)[(levels topic).length - 3]? = some gatewayId ∧
    Commanded codecs json gatewayId topic p.payload operation

theorem fromUTF8_toUTF8 (topic : String) : String.fromUTF8? topic.toUTF8 = some topic := by
  rw [String.fromUTF8?, dif_pos (show topic.toUTF8.IsValidUTF8 from topic.isValidUTF8)]
  rfl

/-- Whatever message comes, its handler performs at most one operation, and the one that the
message asks for. -/
theorem messageCallback_performs {codecs : Codecs} {json : Bool} {p : Publish}
    {E : Outcome Unit → Prop} {os : List Operation} {s s' : Unit} {result : Outcome Unit}
    (exec : (messageCallback codecs json p).Exec E s os s' result) :
    os.length ≤ 1 ∧ ∀ operation, operation ∈ os ↔ Asks codecs json p operation := by
  unfold messageCallback at exec
  cases read : String.fromUTF8? p.topic with
  | none =>
      rw [read] at exec
      obtain ⟨rfl, _⟩ := exec
      simp [Asks, read]
  | some topic =>
      rw [read, Outcome.okOr_some, Prog.lift_eq, Prog.done_ok_bind] at exec
      dsimp only at exec
      split at exec
      · next short =>
          obtain ⟨rfl, _⟩ := exec
          have few : ¬ 4 ≤ (levels topic).length := Nat.not_le.mpr short
          simp [Asks, read, few]
      · next enough =>
          have four : 4 ≤ (levels topic).length := Nat.not_lt.mp enough
          have third : (levels topic).length - 3 < (levels topic).length := by omega
          have last : (levels topic).length - 1 < (levels topic).length := by omega
          change Prog.Exec E (do
            let gatewayId ← index (levels topic) ((levels topic).length - 3)
            let command ← index (levels topic) ((levels topic).length - 1)
            handleCommand codecs json gatewayId command p.payload) s os s' result at exec
          rw [index_of_lt third, Prog.lift_eq, Prog.done_ok_bind, index_of_lt last, Prog.lift_eq,
            Prog.done_ok_bind] at exec
          have ends : (levels topic).getLast? = some (levels topic)[(levels topic).length - 1] := by
            rw [List.getLast?_eq_getElem?, List.getElem?_eq_getElem last]
          obtain ⟨once, performed⟩ := handleCommand_performs ends exec
          refine ⟨once, fun operation => (performed operation).trans ?_⟩
          constructor
          · exact fun commanded => ⟨topic, _, read, four, List.getElem?_eq_getElem third, commanded⟩
          · rintro ⟨topic', gatewayId, read', _, own, commanded⟩
            cases read.symm.trans read'
            rw [List.getElem?_eq_getElem third] at own
            cases own
            exact commanded

/-- The gateway that the operation is for. -/
def Operation.gatewayId : Operation → String
  | sendDownlinkFrame pl => pl.gatewayId
  | sendConfigurationCommand pl => pl.gatewayId
  | handleCommandExec pl => pl.gatewayId
  | sendMeshCommand pl => pl.gatewayId

/-- A message on a topic of the session asks for nothing but for its own gateway. -/
theorem Asks.own {codecs : Codecs} {json : Bool} {p : Publish} {operation : Operation}
    (asks : Asks codecs json p operation) {conf : Conf} {gatewayId topic : String}
    (plain : PlainId gatewayId) (read : String.fromUTF8? p.topic = some topic)
    (matched : matchesFilter (commandTopic conf gatewayId) topic = true) :
    operation.gatewayId = gatewayId := by
  obtain ⟨topic', own, read', _, third, commanded⟩ := asks
  cases read.symm.trans read'
  obtain ⟨front, command, built⟩ := levels_of_subscribed plain matched
  have same : own = gatewayId := by
    rw [built] at third
    simpa using third.symm
  cases operation <;> exact commanded.2.2.trans same

/-! ## A downlink command -/

/-- Codecs that read every payload as a message for one gateway. -/
def codecsFor (gatewayId : String) : Codecs where
  downlinkFrame := ⟨fun _ => .error "", fun _ => .ok ⟨1, [], gatewayId⟩⟩
  gatewayConfiguration := ⟨fun _ => .error "", fun _ => .ok ⟨gatewayId, ""⟩⟩
  gatewayCommandExecRequest := ⟨fun _ => .error "", fun _ => .ok ⟨gatewayId, "", 0, [], ∅⟩⟩
  meshCommand := ⟨fun _ => .error "", fun _ => .ok ⟨gatewayId⟩⟩

def withoutPrefix : Conf := { topicPrefix := "", json := true }

/-- Codecs that read one JSON object, and no other payload. -/
def jsonCodecs : Codecs :=
  { codecsFor "" with
    downlinkFrame :=
      ⟨fun b => if b = [123, 125] then .ok ⟨1, [], "0102030405060708"⟩ else .error "expected value",
        fun _ => .error "failed to decode Protobuf message"⟩ }

/-- Without a prefix the topic has the four segments that the handler needs. -/
theorem dispatch_iff_without_prefix :
    [Operation.sendDownlinkFrame ⟨1, [], "0102030405060708"⟩].length ≤ 1 ∧ ∀ operation,
      operation ∈ [Operation.sendDownlinkFrame ⟨1, [], "0102030405060708"⟩] ↔
        Commanded jsonCodecs true "0102030405060708" "gateway/0102030405060708/command/down"
          [123, 125] operation := by
  have plain : PlainId "0102030405060708" := by
    have each : "0102030405060708".toList.all (fun c => c ≠ '/' ∧ c ≠ '+' ∧ c ≠ '#') = true := by
      decide
    intro c member
    exact of_decide_eq_true (List.all_eq_true.mp each c member)
  have subscribed : matchesFilter (commandTopic withoutPrefix "0102030405060708")
      "gateway/0102030405060708/command/down" = true := by decide
  have parts : levels "gateway/0102030405060708/command/down" =
      [] ++ ["gateway", "0102030405060708", "command", "down"] := by decide
  have exec : (messageCallback jsonCodecs withoutPrefix.json
      ⟨"gateway/0102030405060708/command/down".toUTF8, [123, 125]⟩).Exec (fun _ => True) ()
      [.sendDownlinkFrame ⟨1, [], "0102030405060708"⟩] () (.ok ()) := by
    rw [messageCallback_eq parts]
    simp only [handleCommand, Codec.read, jsonCodecs, withoutPrefix, ↓reduceIte, ne_eq, ite_not,
      Prog.lift_eq, Prog.done_ok_bind]
    exact ⟨.ok (), trivial, [], rfl, rfl, rfl, rfl⟩
  exact @dispatch_iff jsonCodecs "0102030405060708"
    "gateway/0102030405060708/command/down" [123, 125] (fun _ => True) _ () () (.ok ())
    withoutPrefix plain subscribed exec

end MqttForwarder.Mqtt
