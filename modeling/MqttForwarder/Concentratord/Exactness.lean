import MqttForwarder.Concentratord.Forwarding

/-!
# Exactly the events that are due

Messages of the event API get lost where the metadata cannot be read, where the
publish channel refuses an event, and with an event that a session has in hand
when it fails or ends.  In a run without all this, each message that the event
loop has read has led to the event that is due for it, and to nothing else.
-/

namespace MqttForwarder.Concentratord

open MqttForwarder.Rust
open MqttForwarder.Mqtt

/-! ## What is due -/

/-- The channel takes a message, and the commands of the metadata succeed. -/
def Reliable (e : Env) : Prop := e.channel = .room ∧ ∃ metadata, e.metadata = .ok metadata

section

variable (decode : List UInt8 → Outcome Event) (crates : Crates) (conf : Config.Configuration)

/-- The uplink passes both filters. -/
def Passes (v : Gw.UplinkFrame) : Prop :=
  crcIgnored conf.backend.filters.forwardCrcOk conf.backend.filters.forwardCrcInvalid
      conf.backend.filters.forwardCrcMissing v = false ∧
    crates.filterMatches v.phyPayload conf.backend.filters.lrwn = true

/-- What is due for what the event loop has met.  Gateway statistics are sent with the metadata
that the loop has got for them. -/
inductive Due : Reading → List Effect → Prop where
  | timeout : Due .timeout []
  | failed : Due .failed []
  | undecoded {msg : List UInt8} (fails : ∀ event, decode msg ≠ .ok event) : Due (.message msg) []
  | empty {msg : List UInt8} (decoded : decode msg = .ok ⟨none⟩) : Due (.message msg) []
  | up {msg : List UInt8} {v : Gw.UplinkFrame} (decoded : decode msg = .ok ⟨some (.uplinkFrame v)⟩)
      (passes : Passes crates conf v) : Due (.message msg) [.event (.up v)]
  | filtered {msg : List UInt8} {v : Gw.UplinkFrame}
      (decoded : decode msg = .ok ⟨some (.uplinkFrame v)⟩) (stopped : ¬ Passes crates conf v) :
      Due (.message msg) []
  | stats {msg : List UInt8} {v : Gw.GatewayStats} (metadata : HashMap String String)
      (decoded : decode msg = .ok ⟨some (.gatewayStats v)⟩) :
      Due (.message msg) [.asked (.ok metadata),
        .event (.stats { v with metadata := v.metadata.extend metadata })]
  | mesh {msg : List UInt8} {v : Gw.MeshEvent} (decoded : decode msg = .ok ⟨some (.mesh v)⟩) :
      Due (.message msg) [.event (.mesh v)]

end

section

variable {decode : List UInt8 → Outcome Event} {crates : Crates} {conf : Config.Configuration}

/-- With room in the channel, a message is offered. -/
theorem trySend_exact {message : MqttMessage} {Q : List Effect → Prop} {os : List Effect}
    (offered : Q (os ++ [.event message])) :
    (trySend message).Upholds Reliable (fun _ _ => True) (fun _ _ _ _ => True) (fun os _ => Q os)
      os := by
  intro e log s reliable _
  refine ⟨trivial, trivial, ?_⟩
  simp only [reliable.1]
  exact offered

theorem onEvent_exact {msg : List UInt8} {event : Event} (decoded : decode msg = .ok event) :
    (onEvent crates conf event).Upholds Reliable (fun _ _ => True) (fun _ _ _ _ => True)
      (fun os _ => Due decode crates conf (.message msg) os) [] := by
  obtain ⟨body⟩ := event
  unfold onEvent handleEventMsg
  cases body with
  | none => exact .empty decoded
  | some body =>
      cases body with
      | uplinkFrame v =>
          dsimp only
          split
          · next ignored => exact .filtered decoded fun passes => by simp [passes.1] at ignored
          · next kept =>
              split
              · next wanted => exact trySend_exact (.up decoded ⟨by simpa using kept, wanted⟩)
              · next unwanted => exact .filtered decoded fun passes => unwanted passes.2
      | gatewayStats v =>
          intro e log s reliable _
          refine ⟨trivial, trivial, ?_⟩
          obtain ⟨metadata, answer⟩ := reliable.2
          simp only [answer]
          exact trySend_exact (.stats metadata decoded)
      | mesh v => exact trySend_exact (.mesh decoded)

/-- An iteration of the event loop offers exactly what is due. -/
theorem eventLoop_exact (reading : Reading) :
    (eventLoop decode crates conf reading).Upholds Reliable (fun _ _ => True)
      (fun _ _ _ _ => True) (fun os _ => Due decode crates conf reading os) [] := by
  cases reading with
  | timeout => exact .timeout
  | failed => exact .failed
  | message msg =>
      have handled : (Prog.done (decode msg) >>= onEvent crates conf : Task Unit).Upholds
          Reliable (fun _ _ => True) (fun _ _ _ _ => True)
          (fun os _ => Due decode crates conf (.message msg) os) [] := by
        cases decoded : decode msg with
        | ok event => exact onEvent_exact decoded
        | err message => exact .undecoded (by simp [decoded])
        | panic cause => exact .undecoded (by simp [decoded])
      exact handled

end

/-! ## Runs in which nothing is lost -/

/-- The event loop does nothing in this happening, and no session loses an event. -/
def Happening.Aside {ι : Type} : Happening ι → Prop
  | idled => False
  | asked _ => False
  | sent (.event _) _ => False
  | event o => o.lost? = none
  | _ => True

/-- The steps of the forwarder without a loss. -/
inductive Forwarder.SmoothStep {ι : Type} [DecidableEq ι] (set : Setting ι) :
    Forwarder ι → Happening ι → Forwarder ι → Prop where
  | idled {f : Forwarder ι} {β : Type} (action : Env → Unit → Reply β Unit Effect)
      (next : β → Task Unit) (e : Env) (current : f.loop.threads () = .act action next)
      (silent : (action e f.loop.state).effects = []) (reliable : Reliable e) :
      SmoothStep set f .idled { f with loop := f.loop.exec () action next e }
  | asked {f : Forwarder ι} {β : Type} (action : Env → Unit → Reply β Unit Effect)
      (next : β → Task Unit) (e : Env) (current : f.loop.threads () = .act action next)
      {answer : Outcome (HashMap String String)}
      (given : (action e f.loop.state).effects = [.asked answer]) (reliable : Reliable e) :
      SmoothStep set f (.asked answer) { f with loop := f.loop.exec () action next e }
  | sentEvent {f : Forwarder ι} {β : Type} (action : Env → Unit → Reply β Unit Effect)
      (next : β → Task Unit) (e : Env) (current : f.loop.threads () = .act action next)
      {message : MqttMessage} (offered : (action e f.loop.state).effects = [.event message])
      (reliable : Reliable e) {msg : Publishing.MqttMessage} {tx : Mpsc Publishing.MqttMessage}
      (sent : (Outgoing.event message : Outgoing ι).sender.run set.encoders set.json
        f.events.channel = .ok (msg, tx)) :
      SmoothStep set f (.sent (.event message) msg)
        { f with
          loop := f.loop.exec () action next e
          events := { f.events with channel := some tx } }
  | other {f f' : Forwarder ι} {h : Happening ι} (taken : Step set f h f') (aside : h.Aside) :
      SmoothStep set f h f'

abbrev Forwarder.SmoothRun {ι : Type} [DecidableEq ι] (set : Setting ι) :
    List (Happening ι) → Forwarder ι → Prop :=
  Trace (Forwarder.SmoothStep set) Forwarder.init

section

variable {ι : Type} [DecidableEq ι] {set : Setting ι} {labels : List (Happening ι)}
  {f f' : Forwarder ι} {h : Happening ι}

theorem Forwarder.SmoothStep.step (smooth : Forwarder.SmoothStep set f h f') :
    Forwarder.Step set f h f' := by
  cases smooth with
  | idled action next e current silent reliable => exact .idled action next e current silent
  | asked action next e current given reliable => exact .asked action next e current given
  | sentEvent action next e current offered reliable sent =>
      exact .sentEvent action next e current offered sent
  | other taken aside => exact taken

theorem Forwarder.SmoothRun.run (run : Forwarder.SmoothRun set labels f) :
    Forwarder.Run set labels f := by
  induction run with
  | nil => exact .nil
  | snoc _ smooth ih => exact ih.snoc smooth.step

/-- The event loop has a history in a reliable environment. -/
theorem Forwarder.SmoothRun.loop (run : Forwarder.SmoothRun set labels f) :
    Pool.History (fun _ => eventLoop set.decode set.crates set.conf) (fun _ _ => True) Reliable ()
      (labels.filterMap Happening.task?) f.loop := by
  refine Trace.project Forwarder.loop Happening.task? ?_ ?_ run
  · intro f h f' smooth silent
    cases smooth with
    | idled action next e current quiet reliable => cases silent
    | asked action next e current given reliable => cases silent
    | sentEvent action next e current offered reliable sent => cases silent
    | other taken aside =>
        cases taken with
        | took reading free => cases silent
        | idled action next e current quiet => cases silent
        | asked action next e current given => cases silent
        | sentEvent action next e current offered sent => cases silent
        | _ => rfl
  · intro f h f' event smooth seen
    cases smooth with
    | idled action next e current quiet reliable =>
        cases seen
        exact quiet ▸ .acted () action next e current reliable
    | asked action next e current given reliable =>
        cases seen
        exact given ▸ .acted () action next e current reliable
    | sentEvent action next e current offered reliable sent =>
        cases seen
        exact offered ▸ .acted () action next e current reliable
    | other taken aside =>
        cases taken with
        | took reading free =>
            cases seen
            exact .took () reading free trivial
        | idled action next e current quiet => exact absurd aside id
        | asked action next e current given => exact absurd aside id
        | sentEvent action next e current offered sent => exact absurd aside id
        | _ => cases seen

/-- No session has lost an event. -/
theorem Forwarder.SmoothRun.lost (run : Forwarder.SmoothRun set labels f) :
    Publishing.lost (eventLog labels) = [] := by
  induction run with
  | nil => rfl
  | @snoc before s s' h run smooth ih =>
      have none : (h.event?.bind Publishing.Occurrence.lost?).toList = [] := by
        cases smooth with
        | idled action next e current silent reliable => rfl
        | asked action next e current given reliable => rfl
        | sentEvent action next e current offered reliable sent => rfl
        | other taken aside =>
            cases taken with
            | event taken own =>
                simp only [Happening.event?, Option.bind_some]
                rw [show Publishing.Occurrence.lost? _ = none from aside]
                rfl
            | _ => rfl
      have snoc : Publishing.lost (eventLog (before ++ [h])) =
          Publishing.lost (eventLog before) ++
            (h.event?.bind Publishing.Occurrence.lost?).toList := by
        simp only [Publishing.lost, eventLog, List.filterMap_filterMap]
        exact filterMap_snoc ..
      rw [snoc, ih, none]
      rfl

/-- What holds of the events while the event loop waits for a message. -/
structure Complete (set : Setting ι) (labels : List (Happening ι)) (f : Forwarder ι) : Prop where
  /-- Everything that has been sent has been published or waits, encoded and in order. -/
  carried : List.Forall₂ (fun what msg => what.encode set.encoders set.json = .ok msg)
    (outgoing labels) (Publishing.carried (eventLog labels) f.events)
  /-- The event loop has sent what is due for each of its messages. -/
  due : ∃ parts, List.Forall₂ (Due set.decode set.crates set.conf) (readings labels) parts ∧
    effects labels = parts.flatten ∧
    (outgoing labels).filterMap Outgoing.message? = parts.flatten.filterMap Effect.message?

/-- In every smooth run, while the event loop waits, all that is due for the messages that it has
read has been published or waits, once and in order, whatever the downlinks do in between. -/
theorem concentratord_exact (run : Forwarder.SmoothRun set labels f) {result : Outcome Unit}
    (waits : f.loop.threads () = .done result) : Complete set labels f := by
  have whole := (run.run.events.carried_eq_iff).mpr run.lost
  refine ⟨whole ▸ run.run.accepted, ?_⟩
  obtain ⟨parts, each, sent⟩ := run.loop.completed (I := fun _ _ => True)
    (fun _ reading _ => eventLoop_exact reading) trivial waits
  rw [requests_loop] at each
  rw [effectsOf_loop] at sent
  exact ⟨parts, each.imp fun _ _ ⟨_, due⟩ => due, sent, sent ▸ outgoing_messages labels⟩

/-- An uplink and statistics that have been read are published, and the acknowledgement of a
downlink waits. -/
theorem concentratord_exact_three : ∃ (labels : List (Happening Nat)) (f : Forwarder Nat),
    readings labels = [.message [1], .timeout, .message [2]] ∧
      outgoing labels = [.event (.up uplink), .event (.stats { metadata }), .ack 0 downlinkAck] ∧
      Publishing.published (eventLog labels) = [⟨"up", [7]⟩, ⟨"stats", []⟩] ∧
      Complete oneEach labels f := by
  obtain ⟨commands, exchanged, place⟩ := exchange_run oneEach.codec oneEach.command [2]
  have answered : Forwarder.SmoothRun oneEach _ { Forwarder.init with commands } :=
    exchanged.embed (fun commands => { Forwarder.init with commands }) Happening.command
      fun _ _ _ taken => .other (.command taken) trivial
  have opened := answered.snoc (.other (.event (.opened rfl (by decide)) (by simp)) rfl)
  have up := (opened.snoc (.other (.took (.message [1]) trivial) trivial)).snoc
    (.sentEvent _ _ Env.plain rfl rfl ⟨rfl, _, rfl⟩ rfl)
  have waited := up.snoc (.other (.took .timeout trivial) trivial)
  have asked := (waited.snoc (.other (.took (.message [2]) trivial) trivial)).snoc
    (.asked _ _ { Env.plain with metadata := .ok metadata } rfl rfl ⟨rfl, _, rfl⟩)
  have stats := asked.snoc (.sentEvent _ _ Env.plain rfl rfl ⟨rfl, _, rfl⟩ rfl)
  have acked := stats.snoc (.other
    (@Forwarder.Step.sentAck Nat _ _ _ 0 downlink (.ok [2]) downlinkAck rfl place rfl rfl _ _ rfl)
    trivial)
  have first := ((acked.snoc (.other (.event (.started rfl (by simp)) (by simp)) rfl)).snoc
    (.other (.event (.received rfl rfl rfl) (by simp)) rfl)).snoc
    (.other (.event (.published rfl) (by simp)) rfl)
  have second := (first.snoc (.other (.event (.received rfl rfl rfl) (by simp)) rfl)).snoc
    (.other (.event (.published rfl) (by simp)) rfl)
  exact ⟨_, _, rfl, rfl, rfl, concentratord_exact second (rfl : _ = Prog.done (.ok ()))⟩

end

end MqttForwarder.Concentratord
