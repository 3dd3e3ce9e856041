import MqttForwarder.Rust.Channel

/-!
# Subscribing again

The broker may forget a subscription, so every successful ConnAck makes the
session subscribe again, and so does a SubAck with an error.  The event loop
signals this on a channel with room for one token; when a token is there
already, the signal is dropped.  The (re)subscribe loop takes a token, repeats
the subscription until the client takes it, and then publishes its state.
-/

namespace MqttForwarder.Mqtt.Subscription

open MqttForwarder.Rust

/-! ## The event loop -/

inductive ConnectReturnCode where
  | success
  | refused
  deriving DecidableEq, Repr

inductive SubscribeReasonCode where
  | success
  | failure
  deriving DecidableEq, Repr

/-- An event that the event loop polls, as far as it looks at it. -/
inductive Incoming where
  | connAck (code : ConnectReturnCode)
  | subAck (returnCodes : List SubscribeReasonCode)
  | other
  deriving DecidableEq

/-- Whether the event loop tries to send on `subscribe_tx`. -/
def Incoming.signals : Incoming → Bool
  | connAck code => code == .success
  | subAck returnCodes => !(returnCodes.filter (· != .success)).isEmpty
  | other => false

/-- The arm of the event loop.  Nothing in it waits before the token is offered: the callback
of a connection runs in a task of its own.  A failure of `try_send` is only logged. -/
def handle (packet : Incoming) (tx : Mpsc Unit) : Mpsc Unit :=
  if packet.signals then (tx.trySend ()).getD tx else tx

/-! ## The (re)subscribe loop -/

/-- Where the loop stands. -/
inductive SubscribeLoop where
  /-- At `subscribe_rx.recv().await`. -/
  | waiting
  /-- At the head of the inner loop. -/
  | retrying
  /-- At `client.subscribe(…).await`. -/
  | subscribing
  /-- At `sleep(…).await`. -/
  | sleeping
  /-- Behind the inner loop. -/
  | subscribed
  /-- At `client.publish(…).await`. -/
  | publishing
  deriving DecidableEq, Repr

structure State where
  channel : Mpsc Unit
  loop : SubscribeLoop

def State.init : State where
  channel := .empty 1 Nat.one_pos
  loop := .waiting

inductive Occurrence where
  | incoming (packet : Incoming)
  | token
  /-- `client.subscribe` has been called. -/
  | subscribing
  /-- `client.subscribe` has returned `Ok`. -/
  | subscribed
  | subscribeFailed
  | awake
  /-- `client.publish` has been called with the state `Online`. -/
  | publishing
  /-- `client.publish` has returned. -/
  | published (ok : Bool)
  deriving DecidableEq

/-- The steps of both loops. -/
inductive Step : State → Occurrence → State → Prop where
  | incoming {s : State} (packet : Incoming) :
      Step s (.incoming packet) { s with channel := handle packet s.channel }
  | token {s : State} {rx : Mpsc Unit} (waiting : s.loop = .waiting)
      (front : s.channel.recv = some ((), rx)) : Step s .token ⟨rx, .retrying⟩
  | subscribing {s : State} (retrying : s.loop = .retrying) :
      Step s .subscribing { s with loop := .subscribing }
  | subscribed {s : State} (subscribing : s.loop = .subscribing) :
      Step s .subscribed { s with loop := .subscribed }
  | subscribeFailed {s : State} (subscribing : s.loop = .subscribing) :
      Step s .subscribeFailed { s with loop := .sleeping }
  | awake {s : State} (sleeping : s.loop = .sleeping) :
      Step s .awake { s with loop := .retrying }
  | publishing {s : State} (subscribed : s.loop = .subscribed) :
      Step s .publishing { s with loop := .publishing }
  | published {s : State} (ok : Bool) (publishing : s.loop = .publishing) :
      Step s (.published ok) { s with loop := .waiting }

/-- The occurrences of one session, and its state after them. -/
abbrev Session : List Occurrence → State → Prop := Trace Step State.init

/-! ## What follows a signal -/

/-- A call of `client.subscribe` that is still in progress: only packets came in after it. -/
def Subscribing (labels : List Occurrence) : Prop :=
  ∃ (earlier : List Occurrence) (packets : List Incoming),
    labels = earlier ++ .subscribing :: packets.map .incoming

/-- A call of `client.subscribe` that has succeeded. -/
def Subscribed (labels : List Occurrence) : Prop :=
  ∃ calls later, Subscribing calls ∧ labels = calls ++ .subscribed :: later

/-- After a call of `client.subscribe` that succeeded, the loop has tried to publish its state. -/
def Resubscribed (labels : List Occurrence) : Prop :=
  ∃ subscribed later, Subscribed subscribed ∧ labels = subscribed ++ .publishing :: later

/-- What the loop has done for a token that it has taken. -/
def Done (labels : List Occurrence) : SubscribeLoop → Prop
  | .retrying => True
  | .sleeping => True
  | .subscribing => Subscribing labels
  | .subscribed => Subscribed labels
  | .publishing => Resubscribed labels
  | .waiting => Resubscribed labels

/-- After a signal there is a token in the channel, or the loop has taken one since. -/
def Covered (labels : List Occurrence) (s : State) : Prop :=
  s.channel.queue ≠ [] ∨ Done labels s.loop

section

variable {labels : List Occurrence} {s s' : State} {o : Occurrence}

theorem Subscribed.snoc (subscribed : Subscribed labels) (o : Occurrence) :
    Subscribed (labels ++ [o]) := by
  obtain ⟨calls, later, subscribing, rfl⟩ := subscribed
  exact ⟨calls, later ++ [o], subscribing, by simp⟩

theorem Resubscribed.snoc (resubscribed : Resubscribed labels) (o : Occurrence) :
    Resubscribed (labels ++ [o]) := by
  obtain ⟨subscribed, later, done, rfl⟩ := resubscribed
  exact ⟨subscribed, later ++ [o], done, by simp⟩

theorem Subscribing.incoming (subscribing : Subscribing labels) (packet : Incoming) :
    Subscribing (labels ++ [.incoming packet]) := by
  obtain ⟨earlier, packets, rfl⟩ := subscribing
  exact ⟨earlier, packets ++ [packet], by simp⟩

theorem Done.incoming {loop : SubscribeLoop} (done : Done labels loop) (packet : Incoming) :
    Done (labels ++ [.incoming packet]) loop := by
  cases loop with
  | retrying => trivial
  | sleeping => trivial
  | subscribing => exact Subscribing.incoming done packet
  | subscribed => exact Subscribed.snoc done _
  | publishing => exact Resubscribed.snoc done _
  | waiting => exact Resubscribed.snoc done _

/-- The packets after which the session is to subscribe again. -/
theorem signals_iff {packet : Incoming} :
    packet.signals = true ↔ packet = .connAck .success ∨
      ∃ returnCodes, packet = .subAck returnCodes ∧ .failure ∈ returnCodes := by
  cases packet with
  | connAck code => cases code <;> simp [Incoming.signals]
  | subAck returnCodes =>
      have failed : ∀ code : SubscribeReasonCode, (code != .success) = true ↔ code = .failure := by
        rintro (_ | _) <;> decide
      simp [Incoming.signals, failed]
  | other => simp [Incoming.signals]

/-- A signal leaves a token in the channel, whether it was sent or dropped. -/
theorem handle_signal {packet : Incoming} (signals : packet.signals = true) (tx : Mpsc Unit) :
    (handle packet tx).queue ≠ [] := by
  rw [handle, if_pos signals]
  cases sent : tx.trySend () with
  | some after =>
      rw [Option.getD_some, Mpsc.queue_of_trySend sent]
      simp
  | none =>
      have full := Mpsc.queue_of_refused sent
      have positive := tx.positive
      rw [Option.getD_none, ← List.length_pos_iff, full]
      exact positive

theorem handle_ne_nil {packet : Incoming} {tx : Mpsc Unit} (token : tx.queue ≠ []) :
    (handle packet tx).queue ≠ [] := by
  cases signals : packet.signals with
  | true => exact handle_signal signals tx
  | false =>
      rw [handle, signals]
      exact token

/-- One step of either loop. -/
theorem Covered.step (covered : Covered labels s) (taken : Step s o s') :
    Covered (labels ++ [o]) s' := by
  cases taken with
  | incoming packet =>
      rcases covered with token | done
      · exact .inl (handle_ne_nil token)
      · exact .inr (done.incoming packet)
  | token waiting front => exact .inr trivial
  | subscribing retrying =>
      rcases covered with token | done
      · exact .inl token
      · exact .inr ⟨labels, [], rfl⟩
  | subscribed subscribing =>
      rcases covered with token | done
      · exact .inl token
      · rw [subscribing] at done
        exact .inr ⟨labels, [], done, rfl⟩
  | subscribeFailed subscribing => exact .inr trivial
  | awake sleeping => exact .inr trivial
  | publishing subscribed =>
      rcases covered with token | done
      · exact .inl token
      · rw [subscribed] at done
        exact .inr ⟨labels, [], done, rfl⟩
  | published ok publishing =>
      rcases covered with token | done
      · exact .inl token
      · rw [publishing] at done
        exact .inr (Resubscribed.snoc done _)

/-- In every state of a session in which the (re)subscribe loop waits on an empty channel, a call
of `client.subscribe` that succeeded and then an attempt to publish the state were started after
every successful ConnAck and every SubAck with an error, so also after the most recent one. -/
theorem resubscribed (session : Session labels s) (waiting : s.loop = .waiting)
    (empty : s.channel.queue = []) {before after : List Occurrence} {packet : Incoming}
    (whole : labels = before ++ .incoming packet :: after)
    (asks : packet = .connAck .success ∨
      ∃ returnCodes, packet = .subAck returnCodes ∧ .failure ∈ returnCodes) :
    Resubscribed after := by
  have signals := signals_iff.mpr asks
  have covered : Covered after s := by
    rw [whole] at session
    apply session.since
    · intro s s' taken
      cases taken with
      | incoming => exact .inl (handle_signal signals s.channel)
    · intro before s label s' covered taken
      exact covered.step taken
  have done := covered.resolve_left (not_not.mpr empty)
  rw [waiting] at done
  exact done

end

/-! ## A signal that is dropped -/

def afterSubAck : List Occurrence :=
  [.token, .subscribing, .subscribed, .publishing, .published true]

/-- The SubAck comes in while the token of the ConnAck is still in the channel. -/
theorem subAck_dropped :
    Session ([.incoming (.connAck .success)] ++
      .incoming (.subAck [.success, .failure]) :: afterSubAck) State.init := by
  have connAck : Step State.init (.incoming (.connAck .success))
      ⟨⟨1, [()], by decide, by decide⟩, .waiting⟩ := .incoming _
  have subAck : Step ⟨⟨1, [()], by decide, by decide⟩, .waiting⟩
      (.incoming (.subAck [.success, .failure])) ⟨⟨1, [()], by decide, by decide⟩, .waiting⟩ :=
    .incoming _
  have token : Step ⟨⟨1, [()], by decide, by decide⟩, .waiting⟩ .token
      ⟨State.init.channel, .retrying⟩ := .token rfl rfl
  exact .cons connAck (.cons subAck (.cons token (.cons (.subscribing rfl) (.cons (.subscribed rfl)
    (.cons (.publishing rfl) (.cons (.published true rfl) .nil))))))

theorem resubscribed_subAck_dropped : Resubscribed afterSubAck :=
  resubscribed subAck_dropped rfl rfl rfl (.inr ⟨_, rfl, by decide⟩)

end MqttForwarder.Mqtt.Subscription
