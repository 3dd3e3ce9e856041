import MqttForwarder.Mqtt.Origins
import MqttForwarder.SemtechUdp.Answers

/-!
# Nothing lost, nothing added

As long as the environment of the backend is reliable, the client publishes
what it is given and no session ends while it publishes, the uplinks that the
broker gets are exactly the wanted frames of the PUSH_DATAs: in their order,
once each, over any number of sessions and whatever else the backend does.
-/

namespace MqttForwarder.SemtechUdp

open MqttForwarder.Rust

def MqttMessage.up? : MqttMessage → Option Gw.UplinkFrame
  | up pl => some pl
  | _ => none

section

variable (crates : Crates) (profile : Profile) (conf : Conf) (clock : Gw.Timestamp → Prop)

/-- The uplinks that a datagram leads to when nothing fails: the wanted frames of all objects of a
PUSH_DATA, or none if one of them cannot be converted. -/
inductive Uplinks (data : List UInt8) : List Gw.UplinkFrame → Prop where
  | forwarded {pl : PushData} {frames : List Gw.UplinkFrame}
      (read : PushData.fromSlice crates profile data = .ok pl)
      (expands : ExpandsAll clock conf.timeFallbackEnabled pl.gatewayId pl.payload.rxpk frames) :
      Uplinks data (frames.filter (Wanted crates conf))
  | unconverted {pl : PushData} {rx : RxPk}
      (read : PushData.fromSlice crates profile data = .ok pl) (among : rx ∈ pl.payload.rxpk)
      (fails : ¬ rx.Converts) : Uplinks data []
  | other (unread : ∀ pl, PushData.fromSlice crates profile data ≠ .ok pl) : Uplinks data []

/-- What has been offered for a datagram, once its handling has ended. -/
def LeadsTo (i : Thread) (r : Request) (os : List Effect) : Prop :=
  match i, r with
  | .udp, .datagram data _ => Uplinks crates profile conf clock data (os.filterMap Effect.up?)
  | _, _ => True

end

section

variable {crates : Crates} {profile : Profile} {conf : Conf} {clock : Gw.Timestamp → Prop}

/-- The action offers no uplink. -/
abbrev NoUplink (_ : Env) (_ _ : State) (os : List Effect) : Prop :=
  os.filterMap Effect.up? = []

theorem pullData_noUplink : PullDataActions NoUplink where
  pullAck := fun _ _ => sendTo_guarantees (fun _ _ => rfl) fun _ _ => rfl
  setGatewayId := fun _ => Prog.guarantees_atomically fun _ _ => rfl
  setPullAddr := fun _ => Prog.guarantees_atomically fun _ _ => rfl

theorem txAck_noUplink : TxAckActions crates NoUplink where
  idle := fun _ _ => rfl
  setDownlinkCache := fun _ _ => Prog.guarantees_atomically fun _ _ => rfl
  pullResp := fun _ _ _ _ => sendTo_guarantees (fun _ _ => rfl) fun _ _ => rfl
  cleanDownlinkCache := Prog.guarantees_atomically fun _ _ => rfl
  readDownlinkCache := fun _ => Prog.guarantees_atomically fun _ _ => rfl
  countDownlink := fun _ _ => Prog.guarantees_attempt fun _ _ => rfl
  ack := fun _ => trySend_guarantees (fun _ _ => rfl) fun _ _ _ => rfl

/-- What offers no uplink is right for a datagram that is no PUSH_DATA. -/
theorem exact_of_noUplink {data : List UInt8} {remote : SocketAddr} {p : Task Unit}
    (unread : ∀ pl, PushData.fromSlice crates profile data ≠ .ok pl)
    (silent : p.Guarantees NoUplink) :
    p.Upholds (Reliable clock) (fun _ _ => True) (fun _ _ _ _ => True)
      (fun os _ => LeadsTo crates profile conf clock .udp (.datagram data remote) os) [] := by
  refine (silent.upholds_filterMap (Reliable clock) []).mono fun os _ none => ?_
  rw [LeadsTo, none]
  exact .other unread

/-- However other tasks interfere, a datagram leads to its uplinks if nothing fails. -/
theorem program_exact (i : Thread) (r : Request) (admitted : admits (fun _ => True) i r) :
    (program crates profile conf i r).Upholds (Reliable clock) (fun _ _ => True)
      (fun _ _ _ _ => True) (fun os _ => LeadsTo crates profile conf clock i r os) [] := by
  cases i with
  | command n =>
    cases r with
    | datagram data remote => exact absurd admitted id
    | command pl =>
      have silent : (program crates profile conf (.command n) (.command pl)).Guarantees NoUplink :=
        sendDownlinkFrame_guarantees (@txAck_noUplink crates).toDownlinkActions _ _ _
      exact (silent.upholds_filterMap (Reliable clock) []).mono fun _ _ _ => trivial
  | udp =>
    cases r with
    | command pl => exact absurd admitted id
    | datagram data remote =>
      have handled : (receive crates profile conf data remote).Upholds (Reliable clock)
          (fun _ _ => True) (fun _ _ _ _ => True)
          (fun os _ => LeadsTo crates profile conf clock .udp (.datagram data remote) os) [] := by
        have unread : data[3]? ≠ some 0x00 →
            ∀ pl, PushData.fromSlice crates profile data ≠ .ok pl :=
          fun other pl read => other (PushData.headed read).identifier
        unfold receive
        split
        · next short => exact .other (unread (by simp [short]))
        · cases read : PushData.fromSlice crates profile data with
          | ok pl =>
              refine (handlePushData_upholds clock remote read).mono fun os _ relayed => ?_
              rcases relayed with ⟨frames, expands, forwarded⟩ | ⟨⟨rx, among, fails⟩, none⟩
              · rw [LeadsTo, forwarded.published]
                exact .forwarded read expands
              · rw [LeadsTo, none]
                exact .unconverted read among fails
          | err message =>
              unfold handlePushData
              rw [read]
              exact .other fun pl => by simp [read]
          | panic cause =>
              unfold handlePushData
              rw [read]
              exact .other fun pl => by simp [read]
        · next identifier =>
            exact exact_of_noUplink (unread (by simp [identifier]))
              (handlePullData_guarantees pullData_noUplink data remote)
        · next identifier =>
            exact exact_of_noUplink (unread (by simp [identifier]))
              (handleTxAck_guarantees txAck_noUplink data)
        · next cid notPush notPull notTxAck identifier =>
            refine .other (unread ?_)
            rw [identifier]
            exact fun same => notPush (Option.some.inj same)
      exact handled

end

end MqttForwarder.SemtechUdp

namespace MqttForwarder.Mqtt.Sessions

open MqttForwarder.Rust
open MqttForwarder.SemtechUdp

/-! ## Smooth runs -/

/-- The steps in which nothing fails: the environment of the backend is reliable, the client
publishes, and a session ends only while it publishes nothing. -/
inductive SmoothStep (crates : Crates) (profile : Profile) (conf : SemtechUdp.Conf) (mqtt : Conf)
    (clock : Gw.Timestamp → Prop) : Forwarder → Occurrence → Forwarder → Prop where
  | acted {s : Forwarder} {β : Type} (i : Thread) (action : Env → State → Reply β State Effect)
      (next : β → SemtechUdp.Task Unit) (e : Env) (current : s.backend.threads i = .act action next)
      (answered : e.channel = s.answer mqtt) (reliable : Reliable clock e) :
      SmoothStep crates profile conf mqtt clock s (.acted i (action e s.backend.state).effects)
        { s with
          backend := s.backend.exec i action next e
          channel := s.channel.map
            (· ++ (action e s.backend.state).effects.filterMap Effect.event?) }
  | terminated {s : Forwarder} {gatewayId : String} (idle : s.session = some ⟨gatewayId, none⟩) :
      SmoothStep crates profile conf mqtt clock s .terminated { s with session := none }
  | other {s s' : Forwarder} {o : Occurrence} (taken : Step crates profile conf mqtt s o s')
      (unacted : ∀ i os, o ≠ .acted i os) (unfailed : ∀ msg, o ≠ .failed msg)
      (running : o ≠ .terminated) : SmoothStep crates profile conf mqtt clock s o s'

abbrev SmoothRun (crates : Crates) (profile : Profile) (conf : SemtechUdp.Conf) (mqtt : Conf)
    (clock : Gw.Timestamp → Prop) : List Occurrence → Forwarder → Prop :=
  Trace (SmoothStep crates profile conf mqtt clock) (Forwarder.init conf)

section

variable {crates : Crates} {profile : Profile} {conf : SemtechUdp.Conf} {mqtt : Conf}
  {clock : Gw.Timestamp → Prop} {labels : List Occurrence} {s s' : Forwarder}

theorem SmoothStep.step {o : Occurrence}
    (smooth : SmoothStep crates profile conf mqtt clock s o s') :
    Step crates profile conf mqtt s o s' := by
  cases smooth with
  | acted i action next e current answered reliable =>
      exact .acted i action next e current answered
  | terminated idle => exact .terminated (by simp [idle])
  | other taken unacted unfailed running => exact taken

theorem SmoothRun.run (run : SmoothRun crates profile conf mqtt clock labels s) :
    Run crates profile conf mqtt labels s := by
  induction run with
  | nil => exact .nil
  | snoc _ smooth ih => exact ih.snoc smooth.step

/-- The tasks of the backend have a history in a reliable environment. -/
theorem SmoothRun.history (run : SmoothRun crates profile conf mqtt clock labels s) :
    Pool.History (program crates profile conf) (admits fun _ => True) (Reliable clock)
      (State.init conf) (labels.filterMap Occurrence.event?) s.backend := by
  apply Trace.project Forwarder.backend Occurrence.event? _ _ run
  · intro s label s' smooth silent
    cases smooth with
    | acted i action next e current answered reliable => cases silent
    | terminated idle => rfl
    | other taken unacted unfailed running =>
        cases taken with
        | took i r free admitted => cases silent
        | acted i action next e current answered => cases silent
        | _ => rfl
  · intro s label s' seen smooth observed
    cases smooth with
    | acted i action next e current answered reliable =>
        cases observed
        exact .acted i action next e current reliable
    | terminated idle => cases observed
    | other taken unacted unfailed running =>
        cases taken with
        | took i r free admitted =>
            cases observed
            exact .took i r free admitted
        | acted i action next e current answered => exact absurd rfl (unacted _ _)
        | _ => cases observed

/-- What a smooth step publishes and leaves waiting is what has waited before it, and then what
is new. -/
theorem SmoothStep.carries {o : Occurrence}
    (atMostOne : ∀ i, (s.backend.threads i).Guarantees AtMostOne)
    (smooth : SmoothStep crates profile conf mqtt clock s o s') :
    o.published?.toList ++ s'.pending = s.pending ++ offers o.effects := by
  cases smooth with
  | acted i action next e current answered reliable =>
      have guarantees := atMostOne i
      rw [current] at guarantees
      exact pending_acted answered (guarantees e _).1
  | terminated idle =>
      simp [Forwarder.pending, idle, offers, Occurrence.published?, Occurrence.effects]
  | other taken unacted unfailed running =>
      cases taken with
      | acted i action next e current answered => exact absurd rfl (unacted _ _)
      | failed publishing => exact absurd rfl (unfailed _)
      | terminated running' => exact absurd rfl running
      | opened unset positive =>
          simp [Forwarder.pending, unset, offers, Occurrence.published?, Occurrence.effects]
      | started stopped set known =>
          simp [Forwarder.pending, stopped, offers, Occurrence.published?, Occurrence.effects]
      | took i r free admitted =>
          simp [Forwarder.pending, offers, Occurrence.published?, Occurrence.effects]
      | received receiving front =>
          simp [Forwarder.pending, receiving, front, offers, Occurrence.published?,
            Occurrence.effects]
      | published publishing =>
          simp [Forwarder.pending, publishing, offers, Occurrence.published?,
            Occurrence.effects]

theorem SmoothRun.carried (run : SmoothRun crates profile conf mqtt clock labels s) :
    published labels ++ s.pending = offers s.backend.log := by
  induction run with
  | nil => rfl
  | @snoc before s s' o run smooth ih =>
      have atMostOne : ∀ i, (s.backend.threads i).Guarantees AtMostOne :=
        Pool.run_guarantees program_atMostOne (Run.reachable (SmoothRun.run run))
          (Pool.guarantees_idle _)
      rw [published, filterMap_snoc, ← published, Step.log smooth.step, offers_append, ← ih,
        List.append_assoc, smooth.carries atMostOne, List.append_assoc]

theorem uplinks_of_parts {requests : List Request} {parts : List (List Effect)}
    (requested : ∀ r ∈ requests, admits (fun _ => True) .udp r)
    (each : List.Forall₂ (fun r os => ∃ _ : Outcome Unit,
      LeadsTo crates profile conf clock .udp r os) requests parts) :
    ∃ uplinks, List.Forall₂ (Uplinks crates profile conf clock)
        (requests.filterMap requestDatagram?) uplinks ∧
      parts.flatten.filterMap Effect.up? = uplinks.flatten := by
  induction each with
  | nil => exact ⟨[], .nil, rfl⟩
  | @cons r os requests parts now _ ih =>
      obtain ⟨uplinks, later, same⟩ :=
        ih fun q member => requested q (List.mem_cons_of_mem _ member)
      obtain ⟨_, leads⟩ := now
      cases r with
      | command pl => exact absurd (requested _ List.mem_cons_self) id
      | datagram data remote =>
          refine ⟨os.filterMap Effect.up? :: uplinks, .cons leads later, ?_⟩
          rw [List.flatten_cons, List.filterMap_append, same, List.flatten_cons]

/-- In every smooth run, while the receive loop waits for a datagram, the uplinks that have been
published over all sessions, and then those that wait, are exactly those that the datagrams lead
to, for each datagram in turn. -/
theorem uplinks_exact (run : SmoothRun crates profile conf mqtt clock labels s)
    {result : Outcome Unit} (waits : s.backend.threads .udp = .done result) :
    ∃ uplinks, List.Forall₂ (Uplinks crates profile conf clock) (datagrams labels) uplinks ∧
      (published labels ++ s.pending).filterMap MqttMessage.up? = uplinks.flatten := by
  have told := SmoothRun.history run
  obtain ⟨parts, each, effects⟩ := told.completed
    (fun i r admitted => program_exact i r admitted) trivial waits
  obtain ⟨uplinks, own, same⟩ := uplinks_of_parts
    (fun r member => told.admitted (Pool.took_of_mem_requests member)) each
  refine ⟨uplinks, by rwa [datagrams_eq], ?_⟩
  have up : (fun o : Effect => o.event?.bind MqttMessage.up?) = Effect.up? := by
    funext o
    cases o with
    | event msg => cases msg <;> rfl
    | _ => rfl
  have others : ∀ j os, .acted j os ∈ labels.filterMap Occurrence.event? → j ≠ .udp →
      os.filterMap Effect.up? = [] := by
    intro j os acted other
    rw [← up, ← List.filterMap_filterMap, Run.silent (SmoothRun.run run) j os acted other]
    rfl
  rw [SmoothRun.carried run, offers, List.filterMap_filterMap, up, told.log,
    Pool.filterMap_effectsOf others, effects, same]

/-! ## An object with two antenna entries -/

/-- A task can do all of its actions smoothly, as long as the channel has room for its events. -/
theorem smooth_of_exec {E : Env → Prop} (answers : ∀ e, E e → Reliable clock e) (i : Thread)
    {p : SemtechUdp.Task Unit} {os : List Effect} {state : State} {result : Outcome Unit}
    {queue : List MqttMessage} (exec : p.Exec E s.backend.state os state result)
    (current : s.backend.threads i = p) (channel : s.channel = some queue)
    (room : queue.length + (offers os).length < mqtt.publishChannelSize) :
    ∃ labels s', Trace (SmoothStep crates profile conf mqtt clock) s labels s' ∧
      s'.backend.state = state ∧ s'.backend.threads i = .done result ∧
      s'.channel = some (queue ++ offers os) ∧ s'.session = s.session ∧ datagrams labels = [] ∧
      published labels = [] := by
  induction p generalizing s os queue with
  | done result' =>
      obtain ⟨rfl, rfl, rfl⟩ := exec
      refine ⟨[], s, .nil, rfl, current, ?_, rfl, rfl, rfl⟩
      rw [channel, offers, List.filterMap_nil, List.append_nil]
  | act action next ih =>
      obtain ⟨e, answer, rest, rfl, exec⟩ := exec
      rw [offers_append, List.length_append] at room
      have answered : e.channel = s.answer mqtt := by
        rw [(answers e answer).channel, Forwarder.answer, channel]
        exact (if_pos (by omega)).symm
      have acted : SmoothStep crates profile conf mqtt clock s _ _ :=
        .acted i action next e current answered (answers e answer)
      obtain ⟨labels, s', trace, state, returned, queued, same, none⟩ :=
        ih _ (s := { s with
            backend := s.backend.exec i action next e
            channel := s.channel.map
              (· ++ (action e s.backend.state).effects.filterMap Effect.event?) })
          exec Pool.exec_threads_self (by rw [channel, Option.map_some])
          (by rw [List.length_append]; exact Nat.add_assoc _ _ _ ▸ room)
      refine ⟨_, s', .cons acted trace, state, returned, ?_, same, none⟩
      rw [queued, offers_append, List.append_assoc]
      rfl

/-- A task that is free can serve a request smoothly. -/
theorem smooth_of_request {E : Env → Prop} (answers : ∀ e, E e → Reliable clock e) {i : Thread}
    {r : Request} {os : List Effect} {state : State} {result : Outcome Unit}
    {queue : List MqttMessage} (free : (s.backend.threads i).Finished)
    (admitted : admits (fun _ => True) i r)
    (exec : (program crates profile conf i r).Exec E s.backend.state os state result)
    (channel : s.channel = some queue)
    (room : queue.length + (offers os).length < mqtt.publishChannelSize) :
    ∃ labels s', Trace (SmoothStep crates profile conf mqtt clock) s (.took i r :: labels) s' ∧
      s'.backend.state = state ∧ s'.backend.threads i = .done result ∧
      s'.channel = some (queue ++ offers os) ∧ s'.session = s.session ∧ datagrams labels = [] ∧
      published labels = [] := by
  have took : SmoothStep crates profile conf mqtt clock s (.took i r)
      { s with backend := s.backend.start i r (program crates profile conf i r) } :=
    .other (.took i r free admitted) (by simp) (by simp) (by simp)
  obtain ⟨labels, s', trace, served⟩ :=
    @smooth_of_exec crates profile conf mqtt clock
      { s with backend := s.backend.start i r (program crates profile conf i r) }
      E answers i _ os state result queue exec Pool.start_threads_self channel room
  exact ⟨labels, s', .cons took trace, served⟩

end

/-- Both frames of the object wait in the channel once the PUSH_DATA has been handled. -/
theorem uplinks_exact_two_antennas :
    ∃ uplinks, List.Forall₂ (Uplinks twoAntennas .release {} fun _ => True)
        [pullDatagram 1, twoAntennasDatagram] uplinks ∧
      [antennaFrame firstEntry, antennaFrame secondEntry] = uplinks.flatten := by
  have reliable : ∀ e, e = Env.plain → Reliable (fun _ => True) e := by
    rintro _ rfl
    exact ⟨⟨by decide, rfl, trivial⟩, rfl⟩
  have opened : SmoothStep twoAntennas .release {} {} (fun _ => True) (.init {}) .opened
      { Forwarder.init {} with channel := some [] } :=
    .other (.opened rfl (by decide)) (by simp) (by simp) (by simp)
  obtain ⟨first, s₁, pulls, state₁, returned₁, queued₁, session₁, none₁, unpublished₁⟩ :=
    @smooth_of_request twoAntennas .release {} {} (fun _ => True)
      { Forwarder.init {} with channel := some [] } (· = Env.plain) reliable .udp
      (.datagram (pullDatagram 1) packetForwarder) _ _ _ [] trivial trivial
      (pullDatagram_exec 1) rfl (by decide)
  obtain ⟨state, exec⟩ := twoAntennas_exec 1
  rw [← state₁] at exec
  obtain ⟨second, s₂, pushes, _, returned₂, queued₂, session₂, none₂, unpublished₂⟩ :=
    @smooth_of_request twoAntennas .release {} {} (fun _ => True) s₁ (· = Env.plain) reliable .udp
      (.datagram twoAntennasDatagram packetForwarder) _ _ _ []
      (by rw [returned₁]; trivial) trivial exec queued₁ (by decide)
  obtain ⟨uplinks, each, same⟩ :=
    uplinks_exact ((Trace.cons opened pulls).append pushes) returned₂
  have stopped : s₂.session = none := session₂.trans session₁
  refine ⟨uplinks, ?_, ?_⟩
  · unfold datagrams at each none₁ none₂
    rwa [List.filterMap_append, List.filterMap_cons_none (by rfl),
      List.filterMap_cons_some (by rfl), List.filterMap_cons_some (by rfl), none₁, none₂] at each
  · have unpublished : published
        (.opened :: .took .udp (.datagram (pullDatagram 1) packetForwarder) :: first ++
          .took .udp (.datagram twoAntennasDatagram packetForwarder) :: second) = [] := by
      unfold published at unpublished₁ unpublished₂ ⊢
      rw [List.filterMap_append, List.filterMap_cons_none (by rfl),
        List.filterMap_cons_none (by rfl), List.filterMap_cons_none (by rfl), unpublished₁,
        unpublished₂]
      rfl
    rw [unpublished, Forwarder.pending, stopped, queued₂] at same
    exact same

end MqttForwarder.Mqtt.Sessions
