import MqttForwarder.Api.Gw
import MqttForwarder.Rust.Channel
import MqttForwarder.Rust.Mutex
import MqttForwarder.Zmq.Req

/-!
# Commands to the Concentratord

The tasks of the forwarder share one REQ socket.  A call of `send_command`
holds the mutex of the socket for one exchange; when the exchange failed, the
call takes the mutex again to put a new socket in place.  A REQ socket does
not number its requests, so it is the call that stands for its request here.
-/

namespace MqttForwarder.Concentratord

open MqttForwarder.Rust MqttForwarder.Zmq

/-! ## Commands -/

/-- `gw::command::Command`. -/
inductive Command where
  | getGatewayId
  | sendDownlinkFrame (pl : Gw.DownlinkFrame)
  | setGatewayConfiguration (pl : Gw.GatewayConfiguration)
  | mesh (pl : Gw.MeshCommand)

/-- The messages of the command API. -/
structure Codec where
  /-- `encode_to_vec` of the command. -/
  encode : Command → List UInt8
  /-- `gw::DownlinkTxAck::decode`. -/
  decodeTxAck : List UInt8 → Outcome Gw.DownlinkTxAck

/-- Why an exchange failed. -/
inductive Failure where
  /-- `send` found a reply outstanding. -/
  | busy
  /-- `send` failed for another reason. -/
  | send
  /-- `poll` failed. -/
  | poll
  /-- The socket was not readable within 100 ms. -/
  | unanswered
  /-- `recv_bytes` failed. -/
  | recv
  deriving DecidableEq, Repr

/-- The request has been sent, and its reply has not been taken. -/
def Failure.GivesUp : Failure → Prop
  | busy => False
  | send => False
  | _ => True

/-- The text of the error; `zmq` are the texts of the errors of the library. -/
def Failure.message (zmq : Failure → String) : Failure → String
  | unanswered => "Could not read down response"
  | failure => zmq failure

/-! ## Calls of `send_command` -/

/-- Where a call stands after its exchange failed. -/
inductive Recovery where
  /-- At `self.cmd_sock.lock()` in `reconnect_cmd_sock`. -/
  | lock
  /-- At `self.ctx.socket(zmq::REQ)?`. -/
  | socket
  /-- At `cmd_sock.connect(&self.cmd_url)?`. -/
  | connect
  /-- At `sleep(Duration::from_secs(1))`. -/
  | sleep
  deriving DecidableEq, Repr

inductive Place where
  | uncalled
  /-- At `self.cmd_sock.lock()`. -/
  | lock
  | send
  | poll
  | recv
  /-- The exchange on the socket number `serial` failed. -/
  | recovering (failure : Failure) (serial : Nat) (recovery : Recovery)
  | returned (res : Except Failure (List UInt8))

/-- The places between a `lock()` and the end of its section. -/
def Place.Inside : Place → Prop
  | send => True
  | poll => True
  | recv => True
  | recovering _ _ .socket => True
  | recovering _ _ .connect => True
  | _ => False

/-- The calls `ι`, the socket that they share, and the traffic with the Concentratord. -/
structure State (ι : Type) where
  place : ι → Place
  holder : Option ι
  sock : Req ι (List UInt8)
  /-- How many sockets have replaced the first one. -/
  serial : Nat
  /-- The requests that the Concentratord has received. -/
  requests : List (ι × List UInt8)
  /-- Its replies: the request that each answers, and the bytes. -/
  replies : List ((ι × List UInt8) × List UInt8)

/-- The socket after `setup`, which has exchanged one request and its reply on it. -/
def State.init {ι : Type} : State ι where
  place := fun _ => .uncalled
  holder := none
  sock := Req.new.connect
  serial := 0
  requests := []
  replies := []

inductive Occurrence (ι : Type) where
  | called (i : ι)
  | locked (i : ι)
  | sent (i : ι)
  | readable (i : ι)
  | received (i : ι)
  | failed (i : ι) (failure : Failure)
  | relocked (i : ι)
  | replaced (i : ι)
  | connected (i : ι)
  /-- `reconnect_cmd_sock` has returned an error. -/
  | disconnected (i : ι)
  | awake (i : ι)
  | replied (request : ι × List UInt8) (reply : List UInt8)
  | delivered (request : ι × List UInt8) (reply : List UInt8)

namespace State

variable {ι : Type} [DecidableEq ι] (s : State ι) (i : ι)

/-- Call `i` goes on without touching the mutex. -/
def goto (p : Place) : State ι := { s with place := Function.update s.place i p }

/-- Call `i` takes the mutex. -/
def acquire (p : Place) : State ι :=
  { s with place := Function.update s.place i p, holder := some i }

/-- The section of call `i` under the mutex ends. -/
def release (p : Place) : State ι :=
  { s with place := Function.update s.place i p, holder := none }

/-- The exchange of call `i` fails on the present socket. -/
def fail (failure : Failure) : State ι := s.release i (.recovering failure s.serial .lock)

end State

/-- The steps of the calls and of the Concentratord.  A reply may be made and may come in at
any time after its request, or never.  The library may fail at any time; without a connection
`send` does nothing else. -/
inductive Step {ι : Type} [DecidableEq ι] (codec : Codec) (command : ι → Command) :
    State ι → Occurrence ι → State ι → Prop where
  | called {s : State ι} {i : ι} (fresh : s.place i = .uncalled) :
      Step codec command s (.called i) (s.goto i .lock)
  | locked {s : State ι} {i : ι} (waits : s.place i = .lock) (free : s.holder = none) :
      Step codec command s (.locked i) (s.acquire i .send)
  | sent {s : State ι} {i : ι} {sock : Req ι (List UInt8)} (sends : s.place i = .send)
      (connected : s.sock.connected = true) (taken : s.sock.send i = some sock) :
      Step codec command s (.sent i)
        ({ s with
          sock
          requests := s.requests ++ [(i, codec.encode (command i))] }.goto i .poll)
  | busy {s : State ι} {i : ι} (sends : s.place i = .send) (refused : s.sock.send i = none) :
      Step codec command s (.failed i .busy) (s.fail i .busy)
  | sendFailed {s : State ι} {i : ι} (sends : s.place i = .send) :
      Step codec command s (.failed i .send) (s.fail i .send)
  | readable {s : State ι} {i : ι} (polls : s.place i = .poll) (ready : s.sock.readable = true) :
      Step codec command s (.readable i) (s.goto i .recv)
  | unanswered {s : State ι} {i : ι} (polls : s.place i = .poll)
      (late : s.sock.readable = false) :
      Step codec command s (.failed i .unanswered) (s.fail i .unanswered)
  | pollFailed {s : State ι} {i : ι} (polls : s.place i = .poll) :
      Step codec command s (.failed i .poll) (s.fail i .poll)
  | received {s : State ι} {i : ι} {resp : List UInt8} {sock : Req ι (List UInt8)}
      (receives : s.place i = .recv) (taken : s.sock.recv = some (resp, sock)) :
      Step codec command s (.received i) ({ s with sock }.release i (.returned (.ok resp)))
  | recvFailed {s : State ι} {i : ι} (receives : s.place i = .recv) :
      Step codec command s (.failed i .recv) (s.fail i .recv)
  | relocked {s : State ι} {i : ι} {failure : Failure} {serial : Nat}
      (waits : s.place i = .recovering failure serial .lock) (free : s.holder = none) :
      Step codec command s (.relocked i) (s.acquire i (.recovering failure serial .socket))
  | replaced {s : State ι} {i : ι} {failure : Failure} {serial : Nat}
      (recovers : s.place i = .recovering failure serial .socket) :
      Step codec command s (.replaced i)
        ({ s with sock := Req.new, serial := s.serial + 1 }.goto i
          (.recovering failure serial .connect))
  | socketFailed {s : State ι} {i : ι} {failure : Failure} {serial : Nat}
      (recovers : s.place i = .recovering failure serial .socket) :
      Step codec command s (.disconnected i) (s.release i (.recovering failure serial .sleep))
  | connected {s : State ι} {i : ι} {failure : Failure} {serial : Nat}
      (recovers : s.place i = .recovering failure serial .connect) :
      Step codec command s (.connected i)
        ({ s with sock := s.sock.connect }.release i (.returned (.error failure)))
  | connectFailed {s : State ι} {i : ι} {failure : Failure} {serial : Nat}
      (recovers : s.place i = .recovering failure serial .connect) :
      Step codec command s (.disconnected i) (s.release i (.recovering failure serial .sleep))
  | awake {s : State ι} {i : ι} {failure : Failure} {serial : Nat}
      (sleeps : s.place i = .recovering failure serial .sleep) :
      Step codec command s (.awake i) (s.goto i (.recovering failure serial .lock))
  | replied {s : State ι} {request : ι × List UInt8} (reply : List UInt8)
      (asked : request ∈ s.requests) :
      Step codec command s (.replied request reply)
        { s with replies := s.replies ++ [(request, reply)] }
  | delivered {s : State ι} {request : ι × List UInt8} {reply : List UInt8}
      (made : (request, reply) ∈ s.replies) :
      Step codec command s (.delivered request reply)
        { s with sock := s.sock.deliver request.1 reply }

/-- The occurrences of a run in which call `i` of `send_command` is for `command i`. -/
abbrev Run {ι : Type} [DecidableEq ι] (codec : Codec) (command : ι → Command) :
    List (Occurrence ι) → State ι → Prop :=
  Trace (Step codec command) State.init

end MqttForwarder.Concentratord
