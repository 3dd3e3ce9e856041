/-!
# Broadcast channels

A broadcast channel keeps the last values that were sent, as many as it has
room for.  A receiver has a position of its own among the values; one that has
fallen too far behind is told so and goes on with the oldest value that is
kept.  Without a receiver nothing can be sent.
-/

namespace MqttForwarder.Rust

/-- The sending side of `tokio::sync::broadcast::channel`, with every value sent so far. -/
structure Broadcast (α : Type) where
  capacity : Nat
  sent : List α
  /-- The number of receivers. -/
  receivers : Nat

namespace Broadcast

/-- A receiver: the position of the value that it receives next. -/
structure Receiver where
  next : Nat
  deriving DecidableEq

/-- What `recv` returns when it does not wait. -/
inductive Received (α : Type) where
  | value (value : α)
  /-- `RecvError::Lagged`. -/
  | lagged (missed : Nat)

variable {α : Type}

/-- A channel whose first receiver has been dropped. -/
def new (capacity : Nat) : Broadcast α := ⟨capacity, [], 0⟩

def subscribe (channel : Broadcast α) : Receiver × Broadcast α :=
  (⟨channel.sent.length⟩, { channel with receivers := channel.receivers + 1 })

/-- A receiver is dropped. -/
def unsubscribe (channel : Broadcast α) : Broadcast α :=
  { channel with receivers := channel.receivers - 1 }

/-- `send`, which fails if there is no receiver. -/
def send (channel : Broadcast α) (value : α) : Option (Broadcast α) :=
  if channel.receivers = 0 then none else some { channel with sent := channel.sent ++ [value] }

/-- `recv`, as far as it does not wait. -/
def recv (channel : Broadcast α) (rx : Receiver) : Option (Received α × Receiver) :=
  if channel.sent.length ≤ rx.next + channel.capacity then
    (channel.sent[rx.next]?).map fun value => (.value value, ⟨rx.next + 1⟩)
  else
    let oldest := channel.sent.length - channel.capacity
    some (.lagged (oldest - rx.next), ⟨oldest⟩)

theorem send_eq_some {channel channel' : Broadcast α} {value : α} :
    channel.send value = some channel' ↔
      channel.receivers ≠ 0 ∧ channel' = { channel with sent := channel.sent ++ [value] } := by
  unfold send
  split <;> simp_all [eq_comm]

theorem send_eq_none {channel : Broadcast α} {value : α} :
    channel.send value = none ↔ channel.receivers = 0 := by
  unfold send
  split <;> simp_all

/-- A receiver waits exactly if it has passed all values. -/
theorem recv_isSome {channel : Broadcast α} {rx : Receiver} :
    (channel.recv rx).isSome ↔ rx.next < channel.sent.length := by
  unfold recv
  split
  · simp
  · next behind =>
      simp only [Option.isSome_some, true_iff]
      omega

end Broadcast

end MqttForwarder.Rust
