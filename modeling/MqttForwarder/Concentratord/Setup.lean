import MqttForwarder.Concentratord.Commands
import MqttForwarder.Config.Configuration
import MqttForwarder.Rust.Prog

/-!
# Setting up the Concentratord backend

`setup` connects two sockets, and asks for the gateway id over the one that the
commands take later.  Every call of the library may fail, and the Concentratord
may answer too late, or anything.  Then there is no backend.
-/

namespace MqttForwarder.Concentratord

open MqttForwarder.Rust MqttForwarder.Zmq

/-! ## The program -/

/-- What a call of the library meets. -/
structure SetupEnv where
  /-- The error that it returns. -/
  error : Option String
  /-- What the Concentratord has answered before it returns. -/
  reply : Option (List UInt8)

/-- What goes over the command socket. -/
inductive Exchange where
  | requested (bytes : List UInt8)
  | answered (bytes : List UInt8)
  deriving DecidableEq

/-- A program that calls the library. -/
abbrev Setup := Prog SetupEnv Unit Exchange

/-- A call of the library. -/
def call {α : Type} (answer : SetupEnv → Outcome α) (exchanges : SetupEnv → List Exchange) :
    Setup α :=
  Prog.attempt fun e s =>
    match e.error with
    | some message => ⟨.err message, s, []⟩
    | none => ⟨answer e, s, exchanges e⟩

/-- A call that has nothing to do with the Concentratord. -/
def configure {α : Type} (result : α) : Setup α := call (fun _ => .ok result) fun _ => []

/-- A SUB socket. -/
structure EventSock where
  endpoint : Option String
  subscriptions : List (List UInt8)
  deriving DecidableEq

/-- The REQ socket.  `setup` is the one call that sends a request on it. -/
abbrev CmdSock := Req Unit (List UInt8)

def CmdSock.sendBytes (sock : CmdSock) (bytes : List UInt8) : Setup CmdSock :=
  call (fun _ => Outcome.okOr (sock.send ()) "Operation cannot be accomplished in current state")
    fun _ => [.requested bytes]

/-- `zmq::poll(&mut items, 100)?`, which returns as soon as the reply is there. -/
def CmdSock.poll (sock : CmdSock) : Setup CmdSock :=
  call (fun e => .ok (e.reply.elim sock (sock.deliver ()))) fun e => (e.reply.map .answered).toList

def CmdSock.recvBytes (sock : CmdSock) : Setup (List UInt8 × CmdSock) :=
  call (fun _ => Outcome.okOr sock.recv "Resource temporarily unavailable") fun _ => []

/-- The tests of the gateway id in the response. -/
def checkGatewayId (gatewayId : String) : Outcome Unit :=
  if gatewayId.utf8ByteSize ≠ 16 then
    .err ("Invalid Gateway ID length, gateway_id: " ++ gatewayId)
  else if gatewayId = "0000000000000000" then
    .err ("Empty Gateway ID received, gateway_id: " ++ gatewayId)
  else .ok ()

/-- The backend, with the socket that it has given to the event loop. -/
structure Backend where
  gatewayId : String
  cmdUrl : String
  cmdSock : CmdSock
  eventSock : EventSock

/-- `decode` is `gw::GetGatewayIdResponse::decode`, for the gateway id in it. -/
def Backend.setup (codec : Codec) (decode : List UInt8 → Outcome String)
    (conf : Config.Concentratord) : Setup Backend := do
  let eventSock ← configure (⟨none, []⟩ : EventSock)
  let eventSock ← configure { eventSock with endpoint := some conf.eventUrl }
  let eventSock ← configure { eventSock with subscriptions := [[]] }
  let cmdSock ← configure (Req.new : CmdSock)
  let cmdSock ← configure cmdSock.connect
  let cmdSock ← CmdSock.sendBytes cmdSock (codec.encode .getGatewayId)
  let cmdSock ← CmdSock.poll cmdSock
  if !cmdSock.readable then .done (.err "Could not read gateway id")
  else do
    let (resp, cmdSock) ← CmdSock.recvBytes cmdSock
    let gatewayId ← decode resp
    checkGatewayId gatewayId
    pure { gatewayId, cmdUrl := conf.commandUrl, cmdSock, eventSock }

/-! ## What a set-up leads to -/

section

variable {codec : Codec} {decode : List UInt8 → Outcome String} {conf : Config.Concentratord}
  {E : SetupEnv → Prop} {s s' : Unit} {os : List Exchange}

/-- A call that succeeds. -/
theorem exec_call {α : Type} {answer : SetupEnv → Outcome α}
    {exchanges : SetupEnv → List Exchange} {value : α}
    (exec : (call answer exchanges).Exec E s os s' (.ok value)) :
    ∃ e, answer e = .ok value ∧ os = exchanges e := by
  obtain ⟨e, _, rest, rfl, rfl, _, result⟩ := exec
  refine ⟨e, ?_⟩
  dsimp only at result ⊢
  cases failed : e.error with
  | some message =>
      rw [failed] at result
      cases result
  | none =>
      rw [failed] at result
      exact ⟨result.symm, List.append_nil _⟩

theorem exec_configure_bind {α β : Type} {result : α} {rest : α → Setup β} {value : β}
    (exec : (configure result >>= rest).Exec E s os s' (.ok value)) :
    (rest result).Exec E s os s' (.ok value) := by
  obtain ⟨_, middle, first, last, rfl, begins, goes⟩ := Prog.exec_bind_ok exec
  obtain ⟨_, same, rfl⟩ := exec_call begins
  cases same
  exact goes

theorem checkGatewayId_eq_ok {gatewayId : String} :
    checkGatewayId gatewayId = .ok () ↔
      gatewayId.utf8ByteSize = 16 ∧ gatewayId ≠ "0000000000000000" := by
  unfold checkGatewayId
  split
  · next short => simp [short]
  · next long =>
      split
      · next zeros => simp [zeros]
      · next other => simpa [other] using long

/-- The backend has what the Concentratord has answered to the only request, and both of its
sockets wait for what comes next. -/
structure Backend.Ready (codec : Codec) (decode : List UInt8 → Outcome String)
    (conf : Config.Concentratord) (os : List Exchange) (backend : Backend) : Prop where
  told : ∃ reply, os = [.requested (codec.encode .getGatewayId), .answered reply] ∧
    decode reply = .ok backend.gatewayId
  checked : backend.gatewayId.utf8ByteSize = 16 ∧ backend.gatewayId ≠ "0000000000000000"
  cmdSock : backend.cmdSock = Req.new.connect
  cmdUrl : backend.cmdUrl = conf.commandUrl
  eventSock : backend.eventSock = ⟨some conf.eventUrl, [[]]⟩

/-- The calls of `send_command` begin with this socket. -/
theorem Backend.Ready.commands {backend : Backend} (ready : backend.Ready codec decode conf os) :
    backend.cmdSock = (State.init : State Unit).sock := ready.cmdSock

/-- A set-up that succeeds has made one exchange, and left nothing on the sockets. -/
theorem Backend.setup_ready {backend : Backend}
    (exec : (Backend.setup codec decode conf).Exec E s os s' (.ok backend)) :
    backend.Ready codec decode conf os := by
  unfold Backend.setup at exec
  have connected := exec_configure_bind (exec_configure_bind (exec_configure_bind
    (exec_configure_bind (exec_configure_bind exec))))
  obtain ⟨_, _, _, _, rfl, sending, polls⟩ := Prog.exec_bind_ok connected
  obtain ⟨_, sent, rfl⟩ := exec_call sending
  cases sent
  obtain ⟨_, _, _, _, rfl, polling, reads⟩ := Prog.exec_bind_ok polls
  obtain ⟨e, polled, rfl⟩ := exec_call polling
  cases polled
  cases replied : e.reply with
  | none =>
      rw [replied] at reads
      cases reads.2.2
  | some reply =>
      rw [replied] at reads
      obtain ⟨_, _, _, _, rfl, receiving, decodes⟩ := Prog.exec_bind_ok reads
      obtain ⟨_, received, rfl⟩ := exec_call receiving
      cases received
      obtain ⟨_, _, _, _, rfl, decoding, checks⟩ := Prog.exec_bind_ok decodes
      obtain ⟨_, _, _, _, rfl, checking, builds⟩ := Prog.exec_bind_ok checks
      obtain ⟨rfl, _, decoded⟩ := decoding
      obtain ⟨rfl, _, checked⟩ := checking
      obtain ⟨rfl, _, built⟩ := builds
      cases built
      exact ⟨⟨_, rfl, decoded.symm⟩, checkGatewayId_eq_ok.mp checked.symm, rfl, rfl, rfl⟩

end

end MqttForwarder.Concentratord
