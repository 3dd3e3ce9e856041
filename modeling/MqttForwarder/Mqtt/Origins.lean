import MqttForwarder.Downlink.Origins
import MqttForwarder.Mqtt.Relay
import MqttForwarder.Uplink.Forwarding

/-!
# Where events come from

Whatever the environment answers and whatever other tasks do, the events that
the receive loop offers for one datagram have their origin in that datagram.
A PUSH_DATA leads to uplinks in the order of its objects and then at most to
one report; when the handler fails, it has offered the first of them.  A
TX_ACK leads to one ack at most, for a frame with its token.
-/

namespace MqttForwarder.SemtechUdp

open MqttForwarder.Rust

/-- The events among some effects. -/
def offers (os : List Effect) : List MqttMessage := os.filterMap Effect.event?

theorem offers_append (first second : List Effect) :
    offers (first ++ second) = offers first ++ offers second := List.filterMap_append

/-- The report is that of the datagram, with counters and metadata filled in. -/
def FilledIn (stat stats : Gw.GatewayStats) : Prop :=
  ∃ (counters : Gw.GatewayStats) (metadata : HashMap String String), stats = {
    stat with
    rxPacketsReceivedOk := counters.rxPacketsReceivedOk
    txPacketsEmitted := counters.txPacketsEmitted
    rxPacketsPerFrequency := counters.rxPacketsPerFrequency
    txPacketsPerFrequency := counters.txPacketsPerFrequency
    rxPacketsPerModulation := counters.rxPacketsPerModulation
    txPacketsPerModulation := counters.txPacketsPerModulation
    txPacketsPerStatus := counters.txPacketsPerStatus
    metadata := stat.metadata.extend metadata }

/-- The ack answers the TX_ACK: it names its gateway, and a frame in `F` that has its token. -/
structure AnswersTxAck (F : Gw.DownlinkFrame → Prop) (pl : TxAck) (ack : Gw.DownlinkTxAck) :
    Prop where
  gatewayId : ack.gatewayId = hexEncode pl.gatewayId
  frame : ∃ frame, F frame ∧ tokenFor frame = pl.randomToken ∧
    ack.downlinkId = frame.downlinkId ∧ ack.items.length = frame.items.length
  shape : AckShape ack.items

section

variable (crates : Crates) (profile : Profile) (conf : Conf) (F : Gw.DownlinkFrame → Prop)

/-- The events that have been offered so far for a datagram. -/
inductive Offered (data : List UInt8) : List MqttMessage → Prop where
  | nothing : Offered data []
  | uplinks {pl : PushData} {frames forwarded : List Gw.UplinkFrame}
      (read : PushData.fromSlice crates profile data = .ok pl)
      (expands : ExpandsAll (fun _ => True) conf.timeFallbackEnabled pl.gatewayId
        pl.payload.rxpk frames)
      (first : forwarded <+: frames.filter (Wanted crates conf)) :
      Offered data (forwarded.map .up)
  | report {pl : PushData} {frames : List Gw.UplinkFrame} {stat stats : Gw.GatewayStats}
      (read : PushData.fromSlice crates profile data = .ok pl)
      (expands : ExpandsAll (fun _ => True) conf.timeFallbackEnabled pl.gatewayId
        pl.payload.rxpk frames)
      (reported : pl.toProtoGatewayStats = .ok (some stat)) (reports : FilledIn stat stats) :
      Offered data ((frames.filter (Wanted crates conf)).map .up ++ [.stats stats])
  | ack {pl : TxAck} {ack : Gw.DownlinkTxAck} (read : TxAck.fromSlice crates data = .ok pl)
      (answered : AnswersTxAck F pl ack) : Offered data [.ack ack]

/-- What a task has offered so far for a request: only the receive loop offers events. -/
def Origin (i : Thread) (r : Request) (os : List Effect) : Prop :=
  match i, r with
  | .udp, .datagram data _ => Offered crates profile conf F data (offers os)
  | _, _ => offers os = []

end

section

variable {crates : Crates} {profile : Profile} {conf : Conf} {F : Gw.DownlinkFrame → Prop}
  {data : List UInt8}

theorem Offered.shorter {first second : List MqttMessage}
    (offered : Offered crates profile conf F data (first ++ second)) :
    Offered crates profile conf F data first := by
  generalize whole : first ++ second = messages at offered
  have start : first <+: messages := ⟨second, whole⟩
  cases offered with
  | nothing =>
      rw [List.prefix_nil.mp start]
      exact .nothing
  | uplinks read expands upTo =>
      obtain ⟨forwarded, shorter, rfl⟩ := List.prefix_map_iff.mp start
      exact .uplinks read expands (shorter.trans upTo)
  | report read expands reported reports =>
      rcases List.prefix_concat_iff.mp start with rfl | start
      · exact .report read expands reported reports
      · obtain ⟨forwarded, shorter, rfl⟩ := List.prefix_map_iff.mp start
        exact .uplinks read expands shorter
  | ack read answered =>
      rcases List.prefix_cons_iff.mp start with rfl | ⟨rest, rfl, nothing⟩
      · exact .nothing
      · rw [List.prefix_nil.mp nothing]
        exact .ack read answered

theorem Origin.shorter {i : Thread} {r : Request} {first second : List Effect}
    (origin : Origin crates profile conf F i r (first ++ second)) :
    Origin crates profile conf F i r first := by
  unfold Origin at origin ⊢
  rw [offers_append] at origin
  split at origin
  · exact origin.shorter
  · exact (List.append_eq_nil_iff.mp origin).1

/-! ## Handlers -/

/-- However the loop ends, it has offered the first of the wanted frames, and all of them if it
has not failed. -/
theorem forwardFrames_offered (frames : List Gw.UplinkFrame) (os : List Effect) :
    (forwardFrames crates conf frames).Upholds (fun _ => True) (fun _ _ => True)
      (fun _ _ _ _ => True)
      (fun os' result => ∃ forwarded, forwarded <+: frames.filter (Wanted crates conf) ∧
        offers os' = offers os ++ forwarded.map .up ∧
        (result = .ok () → forwarded = frames.filter (Wanted crates conf))) os := by
  induction frames generalizing os with
  | nil => exact ⟨[], List.nil_prefix, (List.append_nil _).symm, fun _ => rfl⟩
  | cons pl rest ih =>
      rw [forwardFrames_cons]
      split
      · next wanted =>
          rw [List.filter_cons_of_pos wanted]
          have counted : offers (os ++ [.countedUplink pl]) = offers os := by
            simp [offers, Effect.event?]
          intro e _ s _ _
          refine ⟨trivial, trivial, ?_⟩
          dsimp only
          cases (s.stats.countUplink crates pl).1 with
          | err message => exact ⟨[], List.nil_prefix, by simp [counted], by simp⟩
          | panic cause => exact ⟨[], List.nil_prefix, by simp [counted], by simp⟩
          | ok value =>
              intro e _ s _ _
              refine ⟨trivial, trivial, ?_⟩
              dsimp only
              cases e.channel with
              | unset => exact ⟨[], List.nil_prefix, by simp [counted], by simp⟩
              | full => exact ⟨[], List.nil_prefix, by simp [counted], by simp⟩
              | room =>
                  refine (ih _).mono ?_
                  rintro os' result ⟨forwarded, first, offered, all⟩
                  refine ⟨pl :: forwarded, (List.prefix_cons_inj pl).mpr first, ?_,
                    fun ended => congrArg (pl :: ·) (all ended)⟩
                  rw [offered, offers_append, counted]
                  simp [offers, Effect.event?]
      · next unwanted =>
          rw [List.filter_cons_of_neg unwanted]
          exact ih os

/-- At most one report is offered after the loop. -/
theorem forwardStats_offered (gatewayStats : Option Gw.GatewayStats) (os : List Effect) :
    (forwardStats crates gatewayStats).Upholds (fun _ => True) (fun _ _ => True)
      (fun _ _ _ _ => True)
      (fun os' _ => offers os' = offers os ∨ ∃ stat stats, gatewayStats = some stat ∧
        FilledIn stat stats ∧ offers os' = offers os ++ [.stats stats]) os := by
  cases gatewayStats with
  | none => exact .inl rfl
  | some stat =>
      have exported : offers (os ++ [.exported]) = offers os := by simp [offers, Effect.event?]
      intro e _ s _ _
      refine ⟨trivial, trivial, ?_⟩
      dsimp only
      cases (s.stats.exportStats crates).1 with
      | err message => exact .inl exported
      | panic cause => exact .inl exported
      | ok counters =>
          intro e _ s _ _
          refine ⟨trivial, trivial, ?_⟩
          dsimp only
          rw [List.append_nil]
          cases e.metadata with
          | err message => exact .inl exported
          | panic cause => exact .inl exported
          | ok metadata =>
              intro e _ s _ _
              refine ⟨trivial, trivial, ?_⟩
              dsimp only
              cases e.channel with
              | unset => exact .inl (by rw [List.append_nil, exported])
              | full => exact .inl (by rw [List.append_nil, exported])
              | room =>
                  refine .inr ⟨stat, _, rfl, ⟨counters, metadata, rfl⟩, ?_⟩
                  rw [offers_append, exported]
                  rfl

theorem forwardPushData_offered {pl : PushData}
    (read : PushData.fromSlice crates profile data = .ok pl) (bytes : List UInt8)
    (remote : SocketAddr) :
    (forwardPushData crates conf pl).Upholds (fun _ => True) (fun _ _ => True)
      (fun _ _ _ _ => True) (fun os _ => Offered crates profile conf F data (offers os))
      [.pushAck bytes remote] := by
  refine Prog.upholds_bind.mpr (((toProtoFrames_expands _ _ _).upholds
    (fun _ _ => trivial) _).mono ?_)
  rintro _ _ ⟨rfl, ⟨frames, rfl, expands⟩ | ⟨message, rfl⟩⟩
  · obtain ⟨stats, reported⟩ := pl.toProtoGatewayStats_ok
    rw [Prog.done_ok_bind, reported, Prog.lift_eq, Prog.done_ok_bind]
    refine Prog.upholds_bind.mpr ((forwardFrames_offered frames _).mono ?_)
    rintro os result ⟨forwarded, first, offered, all⟩
    have uplinks : Offered crates profile conf F data (offers os) := by
      rw [offered]
      exact .uplinks read expands first
    cases result with
    | err message => exact uplinks
    | panic cause => exact uplinks
    | ok value =>
        refine (forwardStats_offered stats os).mono ?_
        rintro os' _ (same | ⟨stat, filled, rfl, reports, more⟩)
        · rw [same]
          exact uplinks
        · rw [more, offered, all rfl]
          exact .report read expands reported reports
  · exact .nothing

theorem handlePushData_offered (data : List UInt8) (remote : SocketAddr) :
    (handlePushData crates profile conf data remote).Upholds (fun _ => True) (fun _ _ => True)
      (fun _ _ _ _ => True) (fun os _ => Offered crates profile conf F data (offers os)) [] := by
  unfold handlePushData
  cases read : PushData.fromSlice crates profile data with
  | err message => exact .nothing
  | panic cause => exact .nothing
  | ok pl =>
      intro e _ s _ _
      refine ⟨trivial, trivial, ?_⟩
      dsimp only
      cases e.socketSends with
      | false => exact .nothing
      | true => exact forwardPushData_offered read _ remote

theorem pullData_silent : PullDataActions fun _ _ _ os => ∀ o ∈ os, o.event? = none where
  pullAck := fun _ _ => sendTo_guarantees (fun _ _ => by simp) fun _ _ => by
    simp [Effect.event?]
  setGatewayId := fun _ => Prog.guarantees_atomically fun _ _ => by simp
  setPullAddr := fun _ => Prog.guarantees_atomically fun _ _ => by simp

theorem Tried.offers {E : Env → Prop} {A : Option SocketAddr → Prop} {pl : Gw.DownlinkFrame}
    {acks : List Gw.DownlinkTxAckItem} {i : Nat} {os : List Effect} {result : Outcome Unit}
    (tried : Tried E A profile pl acks i os result) : offers os = [] := by
  cases tried <;> rfl

/-- How the handling of a TX_ACK ends tells what it has offered. -/
theorem Handled.offered {E : Env → Prop} {A : Option SocketAddr → Prop} {os : List Effect}
    {result : Outcome Unit} (handled : Handled E A crates profile F data os result) :
    Offered crates profile conf F data (offers os) := by
  cases handled with
  | unreadable unreadable => exact .nothing
  | unknown read => exact .nothing
  | @found pl dc os _ read good acknowledged =>
      cases acknowledged with
      | empty empty => exact .nothing
      | uncounted nonempty final fails => exact .nothing
      | unpublished nonempty allowed blocked => exact .nothing
      | published nonempty final counts =>
          exact .ack read {
            gatewayId := rfl
            frame := ⟨dc.frame, good.commanded, good.token.symm, rfl, by
              rw [DownlinkCache.ack, DownlinkCache.answered, List.length_set, good.length]⟩
            shape := good.ackShape (good.bound nonempty) pl.toProtoTxAckStatus_ne_ignored final }
      | retried nonempty more tried =>
          have nothing : offers (.looked pl.randomToken (some dc) :: os) = [] := tried.offers
          rw [nothing]
          exact .nothing

/-- However other tasks interfere, what a task does for a request has its origin there. -/
theorem program_origin (i : Thread) (r : Request) (admitted : admits F i r) :
    (program crates profile conf i r).Upholds (fun _ => True) (Holds F fun _ => True) AddrKept
      (fun os _ => Origin crates profile conf F i r os) [] := by
  cases i with
  | command n =>
      cases r with
      | command pl =>
          exact (backend_sendDownlinkFrame_upholds admitted).mono fun os _ tried => tried.offers
      | datagram data remote => exact absurd admitted id
  | udp =>
    cases r with
    | command pl => exact absurd admitted id
    | datagram data remote =>
      have handled : (receive crates profile conf data remote).Upholds (fun _ => True)
          (Holds F fun _ => True) AddrKept
          (fun os _ => Offered crates profile conf F data (offers os)) [] := by
        unfold receive
        split
        · exact .nothing
        · exact aside_upholds (handlePushData_guarantees pushData_aside data remote)
            (handlePushData_offered data remote)
        · have silent := handlePullData_guarantees pullData_silent data remote
          have aside : (handlePullData data remote).Guarantees (Aside crates) :=
            handlePullData_guarantees pullData_aside data remote
          refine aside_upholds aside ((silent.each (by simp)).mono fun os _ none => ?_)
          rw [offers, List.filterMap_eq_nil_iff.mpr none]
          exact .nothing
        · exact (handleTxAck_upholds data).mono fun os _ handled => handled.offered
        · exact .nothing
      exact handled

end

end MqttForwarder.SemtechUdp

namespace MqttForwarder.Mqtt.Sessions

open MqttForwarder.Rust
open MqttForwarder.SemtechUdp

/-! ## Sessions -/

/-- What the tasks of the backend have done in the step. -/
def Occurrence.event? : Occurrence → Option (Pool.Event Thread Request Effect)
  | took i r => some (.took i r)
  | acted i os => some (.acted i os)
  | _ => none

/-- The datagram, if the receive loop has taken one. -/
def Occurrence.datagram? : Occurrence → Option (List UInt8)
  | took .udp (.datagram data _) => some data
  | _ => none

/-- The datagrams that the receive loop has taken, in order. -/
def datagrams (labels : List Occurrence) : List (List UInt8) :=
  labels.filterMap Occurrence.datagram?

/-- The datagram of a request. -/
def requestDatagram? : Request → Option (List UInt8)
  | .datagram data _ => some data
  | .command _ => none

theorem datagrams_eq (labels : List Occurrence) :
    datagrams labels = (Pool.requests .udp (labels.filterMap Occurrence.event?)).filterMap
      requestDatagram? := by
  rw [datagrams, Pool.requests, List.filterMap_filterMap, List.filterMap_filterMap]
  congr 1
  funext o
  cases o with
  | took i r =>
      cases i with
      | udp => cases r <;> rfl
      | command n => rfl
  | _ => rfl

/-- The frame has been commanded. -/
def Commanded (labels : List Occurrence) (frame : Gw.DownlinkFrame) : Prop :=
  ∃ n, .took (.command n) (.command frame) ∈ labels

section

variable {crates : Crates} {profile : Profile} {conf : SemtechUdp.Conf} {mqtt : Conf}
  {labels : List Occurrence} {s s' : Forwarder}

/-- The tasks of the backend have a history in every run. -/
theorem Run.history (run : Run crates profile conf mqtt labels s) :
    Pool.History (program crates profile conf) (admits (Commanded labels)) (fun _ => True)
      (State.init conf) (labels.filterMap Occurrence.event?) s.backend := by
  have told : Pool.History (program crates profile conf) (admits fun _ => True) (fun _ => True)
      (State.init conf) (labels.filterMap Occurrence.event?) s.backend := by
    apply Trace.project Forwarder.backend Occurrence.event? _ _ run
    · intro s label s' taken silent
      cases taken with
      | took i r free admitted => cases silent
      | acted i action next e current answered => cases silent
      | _ => rfl
    · intro s label s' seen taken observed
      cases taken with
      | took i r free admitted =>
          cases observed
          exact .took i r free admitted
      | acted i action next e current answered =>
          cases observed
          exact .acted i action next e current trivial
      | _ => cases observed
  refine told.restrict fun i r requested => ?_
  obtain ⟨label, member, same⟩ := List.mem_filterMap.mp requested
  have admitted := told.admitted requested
  cases label with
  | took j q =>
      cases same
      cases i with
      | udp =>
          cases r with
          | command pl => exact admitted
          | datagram data remote => trivial
      | command n =>
          cases r with
          | command pl => exact ⟨n, member⟩
          | datagram data remote => exact admitted
  | _ => cases same

/-- An action adds its event to those that wait; it has one only if there is a channel. -/
theorem pending_acted {e : Env} {os : List Effect} {backend : System}
    (answered : e.channel = s.answer mqtt)
    (events : os.filterMap Effect.event? = [] ∨
      e.channel = .room ∧ ∃ msg, os.filterMap Effect.event? = [msg]) :
    Forwarder.pending { s with
      backend
      channel := s.channel.map (· ++ os.filterMap Effect.event?) } = s.pending ++ offers os := by
  rw [Forwarder.answer] at answered
  cases set : s.channel with
  | some queue => simp [Forwarder.pending, set, offers]
  | none =>
      rw [set] at answered
      have nothing : os.filterMap Effect.event? = [] := by
        refine events.resolve_right fun room => ?_
        cases answered.symm.trans room.1
      simp [Forwarder.pending, set, offers, nothing]

/-- What a step publishes and leaves waiting has waited before it, or is new. -/
theorem Step.carries {o : Occurrence}
    (atMostOne : ∀ i, (s.backend.threads i).Guarantees AtMostOne)
    (taken : Step crates profile conf mqtt s o s') :
    (o.published?.toList ++ s'.pending).Sublist (s.pending ++ offers o.effects) := by
  cases taken with
  | @acted β i action next e current answered =>
      have guarantees := atMostOne i
      rw [current] at guarantees
      rw [pending_acted answered (guarantees e _).1]
      exact List.Sublist.refl _
  | opened unset positive =>
      simp [Forwarder.pending, unset, offers, Occurrence.published?, Occurrence.effects]
  | started stopped set known =>
      simp [Forwarder.pending, stopped, offers, Occurrence.published?, Occurrence.effects]
  | took i r free admitted =>
      simp [Forwarder.pending, offers, Occurrence.published?, Occurrence.effects]
  | received receiving front =>
      simp [Forwarder.pending, receiving, front, offers, Occurrence.published?,
        Occurrence.effects]
  | published publishing =>
      simp [Forwarder.pending, publishing, offers, Occurrence.published?, Occurrence.effects]
  | failed publishing =>
      simp [Forwarder.pending, publishing, offers, Occurrence.published?, Occurrence.effects]
  | terminated running =>
      simp [Forwarder.pending, offers, Occurrence.published?, Occurrence.effects]

/-- What has been published over all sessions and what waits is, in order, among the events that
the backend has put on the channel. -/
theorem Run.carried (run : Run crates profile conf mqtt labels s) :
    (published labels ++ s.pending).Sublist (offers s.backend.log) := by
  induction run with
  | nil => exact List.Sublist.refl _
  | @snoc before s s' o run taken ih =>
      have atMostOne : ∀ i, (s.backend.threads i).Guarantees AtMostOne :=
        Pool.run_guarantees program_atMostOne (Run.reachable run) (Pool.guarantees_idle _)
      have step := (Step.carries atMostOne taken).append_left (published before)
      rw [← List.append_assoc, ← List.append_assoc] at step
      rw [published, filterMap_snoc, ← published, Step.log taken, offers_append]
      exact step.trans (ih.append_right _)

/-- The parts of the receive loop, as far as they are for datagrams. -/
theorem offered_of_parts {F : Gw.DownlinkFrame → Prop} {requests : List Request}
    {parts : List (List Effect)}
    (each : List.Forall₂ (Origin crates profile conf F .udp) requests parts) :
    ∃ offered, List.Forall₂ (Offered crates profile conf F) (requests.filterMap requestDatagram?)
      offered ∧ (parts.map offers).flatten = offered.flatten := by
  induction each with
  | nil => exact ⟨[], .nil, rfl⟩
  | @cons r part requests parts now _ ih =>
      obtain ⟨offered, later, same⟩ := ih
      rw [List.map_cons, List.flatten_cons, same]
      cases r with
      | command pl =>
          have nothing : offers part = [] := now
          exact ⟨offered, later, by rw [nothing, List.nil_append]⟩
      | datagram data remote => exact ⟨offers part :: offered, .cons now later, rfl⟩

theorem Run.origins (run : Run crates profile conf mqtt labels s) (i : Thread) :
    ∃ parts, List.Forall₂ (Origin crates profile conf (Commanded labels) i)
        (Pool.requests i (labels.filterMap Occurrence.event?)) parts ∧
      Pool.effectsOf i (labels.filterMap Occurrence.event?) = parts.flatten :=
  (Run.history run).parts program_origin (fun _ _ _ _ origin => origin.shorter)
    ⟨Env.plain, trivial⟩ (Holds.init trivial) i

/-- Only the receive loop offers events. -/
theorem Run.silent (run : Run crates profile conf mqtt labels s) (j : Thread) (os : List Effect)
    (acted : .acted j os ∈ labels.filterMap Occurrence.event?) (other : j ≠ .udp) :
    os.filterMap Effect.event? = [] := by
  cases j with
  | udp => exact absurd rfl other
  | command n =>
      obtain ⟨parts, each, effects⟩ := Run.origins run (.command n)
      refine List.filterMap_eq_nil_iff.mpr fun o effect => ?_
      obtain ⟨r, part, _, origin, inside⟩ :=
        Pool.mem_part each effects (Pool.mem_effectsOf_of_acted acted effect)
      exact List.filterMap_eq_nil_iff.mp origin o inside

/-- The events of the receive loop are parts for its datagrams, in their order. -/
theorem Run.offered (run : Run crates profile conf mqtt labels s) :
    ∃ parts, List.Forall₂ (Offered crates profile conf (Commanded labels)) (datagrams labels)
        parts ∧ offers s.backend.log = parts.flatten := by
  obtain ⟨parts, each, effects⟩ := Run.origins run .udp
  obtain ⟨offered, own, same⟩ := offered_of_parts each
  refine ⟨offered, by rwa [datagrams_eq], ?_⟩
  rw [offers, (Run.history run).log, Pool.filterMap_effectsOf (Run.silent run), effects,
    List.filterMap_flatten, ← same]
  rfl

/-- In every run, the events that have been published over all sessions, and then those that wait,
are in order among the events that the datagrams have led to: for each datagram in turn the
uplinks of its objects and its report, or the ack of a commanded frame. -/
theorem events_have_origins (run : Run crates profile conf mqtt labels s) :
    ∃ parts, List.Forall₂ (Offered crates profile conf (Commanded labels)) (datagrams labels)
        parts ∧ (published labels ++ s.pending).Sublist parts.flatten := by
  obtain ⟨parts, each, same⟩ := Run.offered run
  exact ⟨parts, each, same ▸ Run.carried run⟩

/-- A session that publishes a frame of a PUSH_DATA. -/
theorem events_have_origins_two_frames :
    ∃ labels s, Run twoAntennas .release {} {} labels s ∧
      .up (antennaFrame firstEntry) ∈ published labels ∧
      ∃ parts, List.Forall₂ (Offered twoAntennas .release {} (Commanded labels))
          (datagrams labels) parts ∧ (published labels ++ s.pending).Sublist parts.flatten := by
  obtain ⟨since, after, s, run, member, _⟩ := session_publishes 1
  refine ⟨_, s, run, ?_, events_have_origins run⟩
  exact List.mem_filterMap.mpr
    ⟨_, List.mem_append_right _ (List.mem_cons_of_mem _ member), rfl⟩

end

end MqttForwarder.Mqtt.Sessions
