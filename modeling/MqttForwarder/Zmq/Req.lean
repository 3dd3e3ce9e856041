import Mathlib.Data.Option.Basic

/-!
# REQ sockets

A REQ socket alternates between a request and its reply.  It refuses to send
as long as the reply to its last request has not been taken, and it drops what
is not the reply to that request.
-/

namespace MqttForwarder.Zmq

/-- A REQ socket with requests `ρ` and replies `β`. -/
structure Req (ρ β : Type) where
  connected : Bool
  /-- The last request, as long as its reply has not been taken. -/
  outstanding : Option ρ
  /-- The reply to it, if it has come in. -/
  arrived : Option β

namespace Req

variable {ρ β : Type}

/-- `ctx.socket(zmq::REQ)`. -/
def new : Req ρ β := ⟨false, none, none⟩

def connect (sock : Req ρ β) : Req ρ β := { sock with connected := true }

/-- `send`, which is refused with `EFSM` while a reply is outstanding.  Without a connection it
waits for one. -/
def send (sock : Req ρ β) (request : ρ) : Option (Req ρ β) :=
  match sock.outstanding with
  | none => some { sock with outstanding := some request }
  | some _ => none

/-- A reply comes in. -/
def deliver [DecidableEq ρ] (sock : Req ρ β) (request : ρ) (reply : β) : Req ρ β :=
  if sock.outstanding = some request then { sock with arrived := some reply } else sock

def readable (sock : Req ρ β) : Bool := sock.arrived.isSome

/-- `recv_bytes`, as far as it does not wait. -/
def recv (sock : Req ρ β) : Option (β × Req ρ β) :=
  match sock.arrived with
  | some reply => some (reply, { sock with outstanding := none, arrived := none })
  | none => none

variable {sock sock' : Req ρ β} {request : ρ} {reply : β}

theorem send_eq_some : sock.send request = some sock' ↔
    sock.outstanding = none ∧ sock' = { sock with outstanding := some request } := by
  unfold send
  split
  · next free => simp [free, eq_comm]
  · next busy => simp [busy]

theorem send_eq_none : sock.send request = none ↔ sock.outstanding ≠ none := by
  unfold send
  split
  · next free => simp [free]
  · next busy => simp [busy]

theorem recv_eq_some : sock.recv = some (reply, sock') ↔
    sock.arrived = some reply ∧ sock' = { sock with outstanding := none, arrived := none } := by
  unfold recv
  split
  · next arrived => simp [arrived, eq_comm]
  · next empty => simp [empty]

@[simp] theorem outstanding_deliver [DecidableEq ρ] :
    (sock.deliver request reply).outstanding = sock.outstanding := by
  unfold deliver
  split <;> rfl

@[simp] theorem connected_deliver [DecidableEq ρ] :
    (sock.deliver request reply).connected = sock.connected := by
  unfold deliver
  split <;> rfl

theorem readable_deliver [DecidableEq ρ] (ready : sock.readable = true) :
    (sock.deliver request reply).readable = true := by
  unfold deliver
  split
  · rfl
  · exact ready

/-- What has come in is the reply to the outstanding request. -/
theorem arrived_deliver [DecidableEq ρ] {other : β}
    (arrived : (sock.deliver request reply).arrived = some other) :
    sock.arrived = some other ∨ sock.outstanding = some request ∧ other = reply := by
  unfold deliver at arrived
  split at arrived
  · next own => exact .inr ⟨own, (Option.some.inj arrived).symm⟩
  · exact .inl arrived

end Req

end MqttForwarder.Zmq
