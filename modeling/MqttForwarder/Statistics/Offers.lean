import MqttForwarder.Statistics.Reports

/-!
# Frames and the publish channel

A frame is counted before the publish channel is asked to take it, and the
loop over the frames ends at the first one that the channel refuses.  As long
as the channel takes every frame, the counted frames are the published ones,
and every wanted frame of a datagram is offered.
-/

namespace MqttForwarder.SemtechUdp

open MqttForwarder.Rust MqttForwarder.Accounting

/-- The channel takes every frame that is offered to it. -/
def TakesFrames : Discipline Env State Effect := fun β action e =>
  ∀ pl, Takes (· = .up pl) β action e

/-- The frame is on the channel. -/
def Move.Taken (move : Move) : Prop := ∀ pl, move ≠ .taken pl false

theorem licensed_takesFrames : Licensed TakesFrames Move.Taken where
  published := fun _ _ impossible => by cases impossible
  settled := fun _ _ _ impossible => by cases impossible
  reported := fun _ _ impossible => by cases impossible
  refused := fun pl => .inr fun _ _ _ allowed => allowed pl
  unreported := .inl fun _ impossible => by cases impossible

section

variable {crates : Crates} {profile : Profile} {conf : Conf} {F : Gw.DownlinkFrame → Prop}
  {pool : System}

/-- If the channel takes every frame, the counted frames are published, in the same periods. -/
theorem History.published {moves : List Move} (history : History crates Move.Taken moves) :
    periods Effect.countedUplink? (moves.flatMap Move.effects) =
      periods Effect.up? (moves.flatMap Move.effects) := by
  induction history with
  | nil => rfl
  | @snoc before move _ _ taken ih =>
      rw [List.flatMap_append, List.flatMap_singleton, periods_append, periods_append, ih]
      generalize periods Effect.up? (before.flatMap Move.effects) = books
      cases move with
      | taken pl published =>
          cases published with
          | true => simp [Move.effects, Effect.posting, Effect.up?, Effect.countedUplink?,
              Books.post]
          | false => exact absurd rfl (taken pl)
      | _ => simp [Move.effects, Effect.posting, Effect.up?, Effect.countedUplink?, Books.post]

/-! ## The frames of one datagram -/

/-- The effect counts or publishes an uplink. -/
def Effect.uplink : Effect → Bool
  | .countedUplink _ => true
  | .event (.up _) => true
  | _ => false

/-- The handler leaves the uplinks alone. -/
abbrev Skips {α : Type} (p : Task α) : Prop :=
  p.Guarantees (Prog.Leaves (fun _ => ()) Effect.uplink)

theorem skips_of_wires {α : Type} {p : Task α} (wires : p.Guarantees Wires) : Skips p := by
  refine wires.mono fun e s s' os action => ⟨rfl, List.filter_eq_nil_iff.mpr fun o member => ?_⟩
  have wire := action.effects o member
  cases o <;> simp_all [Effect.wire, Effect.uplink]

theorem trySend_skips {message : MqttMessage} (other : (Effect.event message).uplink = false) :
    Skips (trySend message) :=
  trySend_guarantees (fun _ _ => ⟨rfl, rfl⟩) fun _ _ _ => ⟨rfl, by simp [other]⟩

theorem forwardStats_skips (gatewayStats : Option Gw.GatewayStats) :
    Skips (forwardStats crates gatewayStats) := by
  apply forwardStats_guarantees
  · exact fun _ _ => ⟨rfl, rfl⟩
  · exact Prog.guarantees_attempt fun _ _ => ⟨rfl, rfl⟩
  · exact fun _ _ _ _ => trySend_skips rfl

theorem txAck_skips : TxAckActions crates (Prog.Leaves (fun _ => ()) Effect.uplink) where
  idle := fun _ _ => ⟨rfl, rfl⟩
  setDownlinkCache := fun _ _ => skips_of_wires (downlink_wires.setDownlinkCache _ _)
  pullResp := fun _ _ _ _ => skips_of_wires (downlink_wires.pullResp _ _ _ _)
  cleanDownlinkCache := skips_of_wires cleanDownlinkCache_wires
  readDownlinkCache := fun _ => skips_of_wires (readDownlinkCache_wires _)
  countDownlink := fun _ _ => Prog.guarantees_attempt fun _ _ => ⟨rfl, rfl⟩
  ack := fun _ => trySend_skips rfl

theorem pullData_skips : PullDataActions (Prog.Leaves (fun _ => ()) Effect.uplink) where
  pullAck := fun _ _ => skips_of_wires (sendTo_wires rfl)
  setGatewayId := fun _ => Prog.guarantees_atomically fun _ _ => ⟨rfl, rfl⟩
  setPullAddr := fun _ => Prog.guarantees_atomically fun _ _ => ⟨rfl, rfl⟩

/-- What is left of a handler leads to the effects in `Q`, if the channel takes every frame. -/
abbrev Offering {α : Type} (p : Task α) (Q : Outcome α → List Effect → Prop)
    (os : List Effect) : Prop :=
  p.Owns TakesFrames (fun _ => ()) Effect.uplink (fun _ _ => True) (fun result os _ => Q result os)
    os ()

theorem offering_of_skips {α : Type} {p : Task α} (skips : Skips p) {os : List Effect} :
    Offering p (fun _ os' => os' = os) os :=
  (skips.owns trivial).mono fun _ _ _ _ same => same.1

/-- The loop offers every wanted frame. -/
theorem forwardFrames_offers {frames : List Gw.UplinkFrame}
    (countable : ∀ pl ∈ frames, Countable pl) (os : List Effect) :
    Offering (forwardFrames crates conf frames)
      (fun result os' => os' = os ++ forwarding (frames.filter (Wanted crates conf)) ∧
        result = .ok ()) os := by
  induction frames generalizing os with
  | nil => exact ⟨trivial, (List.append_nil os).symm, rfl⟩
  | cons pl rest ih =>
      have later := ih fun other member => countable other (List.mem_cons_of_mem _ member)
      have now := countable pl List.mem_cons_self
      rw [forwardFrames_cons]
      split
      · next wanted =>
          rw [List.filter_cons_of_pos wanted]
          refine ⟨trivial, fun e s _ _ => ?_⟩
          dsimp only
          rw [now.countUplink]
          refine ⟨trivial, fun e s takes _ => ?_⟩
          have room : e.channel = .room :=
            takes pl _ rfl ⟨Env.plain, s, List.mem_cons_self⟩
          dsimp only
          rw [room]
          refine (later _).mono ?_
          rintro _ _ _ _ ⟨rfl, rfl⟩
          refine ⟨?_, rfl⟩
          rw [List.append_assoc, List.append_assoc]
          rfl
      · next unwanted =>
          rw [List.filter_cons_of_neg unwanted]
          exact later os

/-- If a frame of the datagram is offered, then all its wanted frames are, and no others. -/
def OffersAll (crates : Crates) (profile : Profile) (conf : Conf) :
    Request → List Effect → Prop
  | .datagram data _, os => ∀ pl, PushData.fromSlice crates profile data = .ok pl → os ≠ [] →
      ∃ frames, ExpandsAll (fun _ => True) conf.timeFallbackEnabled pl.gatewayId
        pl.payload.rxpk frames ∧ os = forwarding (frames.filter (Wanted crates conf))
  | .command _, _ => True

theorem forwardPushData_offers (pl : PushData) :
    Offering (forwardPushData crates conf pl) (fun _ os => os ≠ [] →
      ∃ frames, ExpandsAll (fun _ => True) conf.timeFallbackEnabled pl.gatewayId
        pl.payload.rxpk frames ∧ os = forwarding (frames.filter (Wanted crates conf))) [] := by
  refine Prog.owns_bind (((toProtoFrames_expands _ _ _).owns (fun _ _ _ _ => trivial)
    trivial).mono ?_)
  rintro result _ _ _ ⟨rfl, rfl, ⟨frames, rfl, expands⟩ | ⟨message, rfl⟩⟩
  · obtain ⟨gatewayStats, computed⟩ := pl.toProtoGatewayStats_ok
    rw [Prog.done_ok_bind, computed, Prog.lift_eq, Prog.done_ok_bind]
    refine Prog.owns_bind ((forwardFrames_offers expands.countable []).mono ?_)
    rintro _ _ _ _ ⟨rfl, rfl⟩
    rw [Prog.done_ok_bind, List.nil_append]
    refine (offering_of_skips (forwardStats_skips gatewayStats)).mono ?_
    rintro _ _ _ _ rfl
    exact fun _ => ⟨frames, expands, rfl⟩
  · exact ⟨trivial, fun impossible => absurd rfl impossible⟩

theorem offersAll_nil (data : List UInt8) (remote : SocketAddr) :
    OffersAll crates profile conf (.datagram data remote) [] :=
  fun _ _ impossible => absurd rfl impossible

theorem handlePushData_offers (data : List UInt8) (remote : SocketAddr) :
    Offering (handlePushData crates profile conf data remote)
      (fun _ => OffersAll crates profile conf (.datagram data remote)) [] := by
  unfold handlePushData
  cases parsed : PushData.fromSlice crates profile data with
  | err message => exact ⟨trivial, offersAll_nil data remote⟩
  | panic cause => exact ⟨trivial, offersAll_nil data remote⟩
  | ok pl =>
      rw [Prog.lift_eq, Prog.done_ok_bind]
      refine Prog.owns_bind ((offering_of_skips (skips_of_wires (sendTo_wires rfl))).mono ?_)
      rintro result _ _ _ rfl
      cases result with
      | ok value =>
          refine (forwardPushData_offers pl).mono ?_
          intro _ os _ _ offers pl' same
          obtain rfl : pl = pl' := Outcome.ok.inj (parsed.symm.trans same)
          exact offers
      | err message => exact ⟨trivial, offersAll_nil data remote⟩
      | panic cause => exact ⟨trivial, offersAll_nil data remote⟩

theorem receive_offers (data : List UInt8) (remote : SocketAddr) :
    Offering (receive crates profile conf data remote)
      (fun _ => OffersAll crates profile conf (.datagram data remote)) [] := by
  have silent : ∀ {p : Task Unit}, Skips p →
      Offering p (fun _ => OffersAll crates profile conf (.datagram data remote)) [] := by
    intro p skips
    refine (offering_of_skips skips).mono ?_
    rintro _ _ _ _ rfl
    exact offersAll_nil data remote
  unfold receive
  split
  · exact silent (Prog.guarantees_done _)
  · exact handlePushData_offers data remote
  · exact silent (handlePullData_guarantees pullData_skips data remote)
  · exact silent (handleTxAck_guarantees txAck_skips data)
  · exact silent (Prog.guarantees_done _)

/-! ## Runs -/

/-- As long as the channel takes every frame, the counted frames are the published ones, the
counters are a tally of those published since the last export, and no wanted frame of a datagram
is left out. -/
theorem counted_iff_published (reads : ReadsBack crates)
    (reachable : ReachableUnder crates profile conf F TakesFrames pool) {result : Outcome Unit}
    (between : pool.threads .udp = .done result) :
    pool.log.filterMap Effect.countedUplink? = pool.log.filterMap Effect.up? ∧
    Kept crates .rx pool.state.stats
      ((periods Effect.up? pool.log).current.filterMap uplinkRadio) ∧
    ∀ r, pool.job .udp = some r →
      OffersAll crates profile conf r ((pool.trail .udp).filter Effect.uplink) := by
  obtain ⟨moves, history, effects, counters⟩ :=
    traced_of_reachableUnder reads licensed_takesFrames reachable between
  have same : periods Effect.countedUplink? pool.log = periods Effect.up? pool.log := by
    rw [← periods_filter fun _ => ledger_of_countedUplink, ← periods_filter fun _ => ledger_of_up,
      effects, history.published]
  have serving : Pool.Serving TakesFrames Effect.uplink (OffersAll crates profile conf) .udp
      pool := by
    refine Pool.Serving.run (fun r admitted => ?_) Pool.serving_idle reachable
    cases r with
    | command pl => exact admitted.elim
    | datagram data remote => exact receive_offers data remote
  refine ⟨?_, ?_, fun r job => serving.served job between⟩
  · rw [← all_periods Effect.countedUplink? rfl, ← all_periods Effect.up? rfl, same]
  · have kept := (audited reads (moves.map Move.call)).1.kept
    rw [booksOf_moves, ← effects, periods_filter fun _ => ledger_of_countedUplink, same] at kept
    rw [counters]
    exact kept

end

theorem counted_iff_published_one_uplink :
    ∃ pool : System, pool.log.filterMap Effect.up? = [oneUplinkFrame] ∧
      pool.log.filterMap Effect.countedUplink? = pool.log.filterMap Effect.up? ∧
      Kept oneUplink .rx pool.state.stats
        ((periods Effect.up? pool.log).current.filterMap uplinkRadio) ∧
      ∀ r, pool.job .udp = some r →
        OffersAll oneUplink .release oneUplinkConf r ((pool.trail .udp).filter Effect.uplink) := by
  obtain ⟨report, exec, _⟩ := oneUplink_reported
  have answers : ∀ β action e, e = Env.plain → TakesFrames β action e := by
    rintro β action e rfl
    exact fun _ _ _ _ => rfl
  obtain ⟨pool, run, _, log, returned⟩ := oneUplink_reachable answers exec
  refine ⟨pool, ?_, counted_iff_published oneUplink_reads run returned⟩
  rw [log]
  rfl

theorem oneUplink_refused :
    ∃ s, (receive oneUplink .release oneUplinkConf oneUplinkDatagram gatewayAddr).Exec
      (· = { Env.plain with channel := .full }) (State.init oneUplinkConf)
      [.pushAck [2, 0, 0, 1] gatewayAddr, .countedUplink oneUplinkFrame] s
      (.err "no available capacity") := by
  have handled : receive oneUplink .release oneUplinkConf oneUplinkDatagram gatewayAddr =
      handlePushData oneUplink .release oneUplinkConf oneUplinkDatagram gatewayAddr := rfl
  rw [handled, handlePushData, oneUplink_parsed, Prog.lift_eq, Prog.done_ok_bind]
  apply Exists.intro
  refine ⟨_, rfl, _, rfl, ?_⟩
  refine ⟨_, rfl, _, rfl, ?_⟩
  refine ⟨_, rfl, _, rfl, ?_⟩
  refine ⟨_, rfl, _, rfl, ?_⟩
  exact ⟨rfl, rfl, rfl⟩

/-- A frame that the channel refuses is counted all the same. -/
theorem refused_frame_counted :
    ¬ ∀ (crates : Crates) (profile : Profile) (conf : Conf) (F : Gw.DownlinkFrame → Prop)
      (pool : System) (result : Outcome Unit), ReadsBack crates →
      ReachableUnder crates profile conf F .free pool → pool.threads .udp = .done result →
      pool.log.filterMap Effect.countedUplink? = pool.log.filterMap Effect.up? := by
  intro onlyPublished
  obtain ⟨s, exec⟩ := oneUplink_refused
  obtain ⟨pool, run, _, log, returned⟩ :=
    oneUplink_reachable (D := .free) (fun _ _ _ _ => trivial) exec
  have same :=
    onlyPublished oneUplink .release oneUplinkConf (fun _ => True) pool _ oneUplink_reads run
    returned
  have counted : pool.log.filterMap Effect.countedUplink? = [oneUplinkFrame] := by
    rw [log]
    rfl
  have published : pool.log.filterMap Effect.up? = [] := by
    rw [log]
    rfl
  rw [counted, published] at same
  cases same

end MqttForwarder.SemtechUdp
