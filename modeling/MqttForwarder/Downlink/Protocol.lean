import MqttForwarder.Downlink.Refusal
import MqttForwarder.Downlink.Simulation

/-!
# The retry protocol

With a packet forwarder that answers every PULL_RESP in time, a frame whose
items can all be converted is tried item by item until one is sent.  Then one
ack with all the answers is published, and the counters are changed once.
-/

namespace MqttForwarder.SemtechUdp

open MqttForwarder.Rust

/-! ## What the network server should learn -/

/-- The last item that is tried when the items are answered with `s`: the first one that is
sent, or the last one of the frame. -/
def lastTried (s : Nat → Gw.TxAckStatus) (n : Nat) : Nat :=
  ((List.range n).find? fun j => s j == .ok).getD (n - 1)

/-- The answers to the items that are tried. -/
def answersTo (s : Nat → Gw.TxAckStatus) (n : Nat) : List Gw.TxAckStatus :=
  (List.range (lastTried s n + 1)).map s

/-- The counters after a downlink whose items were answered with `statuses`: one status for
each, and one emitted frame if the last of them was sent. -/
def Stats.reported (crates : Crates) (f : Gw.DownlinkFrame) (statuses : List Gw.TxAckStatus)
    (stats : Stats) : Stats :=
  let answered := statuses.foldl Stats.answered stats
  match statuses.getLast?, Stats.downlinkKeys crates f (statuses.length - 1) with
  | some .ok, .ok (frequency, b) => answered.emitted frequency b
  | _, _ => answered

theorem lastTried_eq {s : Nat → Gw.TxAckStatus} {n k : Nat} (refused : ∀ j < k, s j ≠ .ok)
    (within : k < n) (final : s k = .ok ∨ n ≤ k + 1) : lastTried s n = k := by
  unfold lastTried
  by_cases sent : s k = .ok
  · have found : (List.range n).find? (fun j => s j == .ok) = some k := by
      rw [List.find?_range_eq_some]
      exact ⟨by simp [sent], List.mem_range.mpr within, fun j before => by simp [refused j before]⟩
    rw [found]
    rfl
  · have last : n = k + 1 := by
      have beyond := final.resolve_left sent
      omega
    have missing : (List.range n).find? (fun j => s j == .ok) = none := by
      rw [List.find?_eq_none]
      intro j member
      rw [List.mem_range, last] at member
      rcases Nat.lt_succ_iff_lt_or_eq.mp member with before | rfl
      · simp [refused j before]
      · simp [sent]
    rw [missing, last]
    rfl

theorem answeredAll_ofStatus (stats : Stats) (statuses : List Gw.TxAckStatus) :
    stats.answeredAll (statuses.map Gw.DownlinkTxAckItem.ofStatus) =
      statuses.foldl Stats.answered stats := by
  simp [Stats.answeredAll, List.foldl_map]

section

variable {crates : Crates} {profile : Profile} {conf : Conf} {f : Gw.DownlinkFrame}

/-- A frame that has been answered is counted as the answers say. -/
theorem Concluded.counted {refusals : List Gw.TxAckStatus} {pl : TxAck}
    (concluded : Concluded f refusals pl)
    (keys : ∃ keys, Stats.downlinkKeys crates f refusals.length = .ok keys) (stats : Stats) :
    Stats.countDownlink crates stats f (ackOf f refusals pl) =
      (.ok (), stats.reported crates f (refusals ++ [pl.toProtoTxAckStatus])) := by
  obtain ⟨⟨frequency, b⟩, keys⟩ := keys
  have refused : ∀ item ∈ refusals.map Gw.DownlinkTxAckItem.ofStatus, refusal item := by
    intro item member
    obtain ⟨status, earlier, rfl⟩ := List.mem_map.mp member
    obtain ⟨unsent, given⟩ := concluded.refused status earlier
    exact refusal_ofStatus unsent given
  have items : (ackOf f refusals pl).items = refusals.map Gw.DownlinkTxAckItem.ofStatus ++
      .ofStatus pl.toProtoTxAckStatus ::
        List.replicate (f.items.length - (refusals.length + 1)) (.ofStatus .ignored) := by
    simp [ackOf, acksOf]
  by_cases sent : pl.toProtoTxAckStatus = .ok
  · rw [Stats.countDownlink_sent crates stats f items refused (by simp [sent])
      (by simp) (by simpa using concluded.within)]
    simp [Stats.reported, keys, sent, answeredAll_ofStatus]
  · have last := concluded.final.resolve_left sent
    have all : (ackOf f refusals pl).items =
        (refusals ++ [pl.toProtoTxAckStatus]).map Gw.DownlinkTxAckItem.ofStatus := by
      rw [items, Nat.sub_eq_zero_of_le last]
      simp
    rw [Stats.countDownlink_refused, all, answeredAll_ofStatus]
    · simp [Stats.reported, sent]
    · rw [all, List.map_append]
      intro item member
      rcases List.mem_append.mp member with earlier | now
      · exact refused item earlier
      · rw [List.map_singleton, List.mem_singleton] at now
        rw [now]
        exact refusal_ofStatus sent pl.toProtoTxAckStatus_ne_ignored

theorem downlinkKeys_of_accepted {i : Nat} {resp : PullResp}
    (accepted : PullResp.fromProto profile f i (tokenFor f) = .ok resp) :
    ∃ keys, Stats.downlinkKeys crates f i = .ok keys := by
  obtain ⟨item, txInfo, modulation, hitem, htxInfo, hmodulation⟩ :=
    PullResp.fromProto_item accepted
  simp [Stats.downlinkKeys, hitem, htxInfo, hmodulation]

end

/-! ## A network in time -/

/-- The time until which the last cache entry of the trace is needed. -/
def deadline (trace : List Effect) : Option Nat :=
  trace.foldl (fun limit o => match o with
    | .cached _ dc => some dc.expire
    | .looked _ _ => none
    | _ => limit) none

/-- The environment works, and the answer to the PULL_RESP that is out is read before its
cache entry expires. -/
def Timely (trace : List Effect) (e : Env) : Prop :=
  Works e ∧ ∀ limit ∈ deadline trace, e.now ≤ limit

/-- A packet forwarder that answers item `j` with `s j` in time. -/
def Rules.prompt (f : Gw.DownlinkFrame) (s : Nat → Gw.TxAckStatus) : Rules where
  commands := fun g => g = f
  others := fun _ => True
  allows := fun net => Timely (net.trace (tokenFor f))
  gives := fun answer => answer.status = s answer.shot.index
  loses := False
  duplicates := False

/-- Every item of the frame can be converted. -/
def Accepts (profile : Profile) (f : Gw.DownlinkFrame) : Prop :=
  ∀ j < f.items.length, ∃ resp, PullResp.fromProto profile f j (tokenFor f) = .ok resp

/-- The entry after these refusals is in the cache, and is needed. -/
def Course.Live (f : Gw.DownlinkFrame) (c : Course) (refusals : List Gw.TxAckStatus) : Prop :=
  ∃ expire, c.slot = some (entryOf f refusals expire) ∧ deadline c.trace = some expire

/-- Nothing has gone wrong with the downlink so far. -/
structure Course.Healthy (f : Gw.DownlinkFrame) (c : Course) : Prop where
  addr : c.addr ≠ none
  live : match c.phase with
    | .address _ rs _ => c.Live f rs
    | .send _ rs _ => c.Live f rs
    | .waiting rs => c.Live f rs
    | .answered rs _ => c.Live f rs
    | .clean rs _ => c.Live f rs
    | .look rs _ => c.Live f rs
    | .ended published => published = true
    | _ => True

section

variable {crates : Crates} {profile : Profile} {conf : Conf} {f : Gw.DownlinkFrame}

theorem deadline_append (trace : List Effect) (o : Effect) (quiet : o.visible = true) :
    deadline (trace ++ [o]) = deadline trace := by
  rw [deadline, List.foldl_append]
  cases o <;> first | rfl | cases quiet

theorem unexpired_of_le {dc : DownlinkCache} {now : Nat} (live : now ≤ dc.expire) :
    unexpired now (some dc) = some dc := by
  simp [unexpired, Option.filter_some, live]

theorem Course.Live.keep {c c' : Course} {rs : List Gw.TxAckStatus} (live : c.Live f rs)
    {e : Env} (timely : Timely c.trace e)
    (kept : c'.slot = c.slot ∨ c'.slot = unexpired e.now c.slot)
    (same : deadline c'.trace = deadline c.trace) : c'.Live f rs := by
  obtain ⟨expire, found, limit⟩ := live
  refine ⟨expire, ?_, by rw [same, limit]⟩
  rcases kept with kept | kept
  · rw [kept, found]
  · rw [kept, found]
    exact unexpired_of_le (timely.2 expire limit)

/-- The next action goes well in a timely environment. -/
theorem Course.Healthy.exec {c : Course} (healthy : c.Healthy f) (inv : c.Inv crates profile f)
    (nonempty : f.items ≠ []) (accepts : Accepts profile f) {e : Env}
    (timely : Timely c.trace e) : (c.exec crates profile f e).Healthy f := by
  have live := healthy.live
  obtain ⟨phase, slot, addr, answers, trace⟩ := c
  cases phase with
  | idle => exact healthy
  | waiting rs => exact healthy
  | answered rs answer => exact healthy
  | ended published => exact healthy
  | attempt i rs => exact ⟨healthy.addr, trivial⟩
  | insert i rs expire =>
      obtain ⟨refused, within, booked⟩ := inv
      have within : rs.length < f.items.length := by
        rcases within with rfl | within
        · exact List.length_pos_iff.mpr nonempty
        · exact within
      obtain ⟨resp, accepted⟩ := accepts rs.length within
      refine ⟨healthy.addr, ?_⟩
      simp only [Course.exec, accepted]
      exact ⟨expire, rfl, by rw [deadline, List.foldl_append]; rfl⟩
  | address i rs resp =>
      cases addr with
      | some known => exact ⟨healthy.addr, live⟩
      | none => exact absurd rfl healthy.addr
  | send i rs target =>
      have sends : e.socketSends = true := timely.1.1
      simp only [Course.exec, sends, if_true]
      exact ⟨healthy.addr, live.keep timely (.inl rfl) (deadline_append _ _ rfl)⟩
  | clean rs pl => exact ⟨healthy.addr, live.keep timely (.inr rfl) rfl⟩
  | look rs pl =>
      obtain ⟨expire, found, _⟩ := live
      refine ⟨healthy.addr, ?_⟩
      dsimp only at found
      simp only [Course.exec, found]
      by_cases final : (entryOf f rs expire).Final pl.toProtoTxAckStatus
      · rw [if_pos final]
        trivial
      · rw [if_neg final]
        trivial
  | count rs pl =>
      obtain ⟨concluded, booked⟩ := inv
      obtain ⟨resp, accepted⟩ := accepts rs.length concluded.within
      refine ⟨healthy.addr, ?_⟩
      simp only [Course.exec, concluded.counted (downlinkKeys_of_accepted accepted)]
  | publish rs pl =>
      have room : e.channel = .room := timely.1.2
      simp only [Course.exec, room, if_true]
      exact ⟨healthy.addr, rfl⟩

/-- In a timely environment without losses nothing goes wrong. -/
theorem Course.Healthy.step {c c' : Course} (healthy : c.Healthy f)
    (inv : c.Inv crates profile f) (nonempty : f.items ≠ []) (accepts : Accepts profile f)
    (step : Course.Step crates profile f (fun c => Timely c.trace) False c c') :
    c'.Healthy f := by
  have live := healthy.live
  cases step with
  | exec e owned timely => exact healthy.exec inv nonempty accepts timely
  | stay => exact healthy
  | start n idle => exact ⟨healthy.addr, trivial⟩
  | answer answer waiting shot answers =>
      rw [waiting] at live
      exact ⟨healthy.addr, live⟩
  | deliver pl arrives marked read token status =>
      rw [arrives] at live
      exact ⟨healthy.addr, live⟩
  | lose lost allowed => exact absurd allowed id
  | drift e slot addr outside timely kept known =>
      refine ⟨?_, ?_⟩
      · rcases known with same | ⟨known, new⟩
        · exact same ▸ healthy.addr
        · simp [new]
      · obtain ⟨phase, slot', addr', answers, trace⟩ := c
        cases phase with
        | address i rs resp => exact live.keep timely kept rfl
        | send i rs target => exact live.keep timely kept rfl
        | waiting rs => exact live.keep timely kept rfl
        | answered rs answer => exact live.keep timely kept rfl
        | clean rs pl => exact live.keep timely kept rfl
        | look rs pl => exact live.keep timely kept rfl
        | ended published => exact live
        | idle => trivial
        | attempt i rs => trivial
        | insert i rs expire => trivial
        | count rs pl => trivial
        | publish rs pl => trivial

end

/-! ## Completion -/

/-- The downlink has been commanded, and nothing is left to be done for it. -/
structure Net.Complete (crates : Crates) (f : Gw.DownlinkFrame) (net : Net) : Prop where
  commanded : f ∈ net.commanded
  pending : net.pending = []
  inFlight : net.inFlight = []
  threads : ∀ i r, net.pool.job i = some r → ¬ Stray crates (tokenFor f) r →
    ∃ result, net.pool.threads i = .done result

/-- The receive loop is not occupied by a datagram that has nothing to do with the downlink. -/
def Net.Receptive (crates : Crates) (f : Gw.DownlinkFrame) (net : Net) : Prop :=
  (net.pool.threads .udp).Finished ∨
    ∃ r, net.pool.job .udp = some r ∧ ¬ Stray crates (tokenFor f) r

/-- A bound on the actions that are left, for a frame with `n` items. -/
def Phase.left (n : Nat) : Phase → Nat
  | idle => 0
  | attempt _ rs => 10 * (n - rs.length) + 12
  | insert _ rs _ => 10 * (n - rs.length) + 11
  | address _ rs _ => 10 * (n - rs.length) + 10
  | send _ rs _ => 10 * (n - rs.length) + 9
  | waiting rs => 10 * (n - rs.length) + 8
  | answered rs _ => 10 * (n - rs.length) + 7
  | clean rs _ => 10 * (n - rs.length) + 6
  | look rs _ => 10 * (n - rs.length) + 5
  | count _ _ => 2
  | publish _ _ => 1
  | ended _ => 0

section

variable {crates : Crates} {profile : Profile} {conf : Conf} {f : Gw.DownlinkFrame}
  {s : Nat → Gw.TxAckStatus} {c : Course} {net : Net}

/-- Without a thread that works on it, a downlink is at rest. -/
theorem Phase.at_rest {phase : Phase} (free : phase.owner crates profile f = none) :
    phase = .idle ∨ (∃ rs, phase = .waiting rs) ∨ (∃ rs answer, phase = .answered rs answer) ∨
      ∃ published, phase = .ended published := by
  cases phase with
  | idle => exact .inl rfl
  | waiting rs => exact .inr (.inl ⟨rs, rfl⟩)
  | answered rs answer => exact .inr (.inr (.inl ⟨rs, answer, rfl⟩))
  | ended published => exact .inr (.inr (.inr ⟨published, rfl⟩))
  | _ => cases free

theorem Sim.over_of_complete (sim : Sim crates profile f c net)
    (complete : net.Complete crates f) : ∃ published, c.phase = .ended published := by
  cases owner : c.phase.owner crates profile f with
  | some worker =>
      obtain ⟨i, p⟩ := worker
      obtain ⟨r, job, own⟩ := sim.job i p owner
      obtain ⟨result, done⟩ := complete.threads i r job own
      rw [sim.owner i p owner] at done
      exact absurd done (Phase.owner_act owner result)
  | none =>
      have pending := sim.pending.symm.trans complete.pending
      have inFlight := sim.inFlight.symm.trans complete.inFlight
      rcases Phase.at_rest owner with idle | ⟨rs, waits⟩ | ⟨rs, answer, answered⟩ | ended
      · exact absurd idle (sim.commanded.mp complete.commanded)
      · rw [waits] at pending
        cases pending
      · rw [answered] at inFlight
        cases inFlight
      · exact ended

/-- A downlink that is over leaves nothing to be done. -/
theorem Sim.complete_of_over (sim : Sim crates profile f c net)
    {published : Bool} (ended : c.phase = .ended published) : net.Complete crates f := by
  refine ⟨sim.commanded.mpr (by simp [ended]), ?_, ?_, ?_⟩
  · rw [sim.pending, ended]
    rfl
  · rw [sim.inFlight, ended]
    rfl
  · intro i r job own
    obtain ⟨result, done, _⟩ := sim.rests i r job own (by simp [ended, Phase.owner])
    exact ⟨result, done⟩

/-- Every action brings the downlink closer to its end. -/
theorem Course.exec_left (inv : c.Inv crates profile f)
    (owned : (c.phase.owner crates profile f).isSome) (e : Env) :
    (c.exec crates profile f e).phase.left f.items.length < c.phase.left f.items.length := by
  obtain ⟨phase, slot, addr, answers, trace⟩ := c
  cases phase with
  | idle => cases owned
  | waiting rs => cases owned
  | answered rs answer => cases owned
  | ended published => cases owned
  | attempt i rs => simp [Course.exec, Phase.left]
  | insert i rs expire =>
      simp only [Course.exec]
      split
      · simp [Phase.left]
      · simp [Phase.left]
  | address i rs resp =>
      simp only [Course.exec]
      split
      · simp [Phase.left]
      · simp [Phase.left]
  | send i rs target =>
      simp only [Course.exec]
      split
      · simp [Phase.left]
      · simp [Phase.left]
  | clean rs pl => simp [Course.exec, Phase.left]
  | look rs pl =>
      have within := inv.2.1
      simp only [Course.exec]
      split
      · split
        · simp only [Phase.left]
          omega
        · simp only [Phase.left, List.length_append, List.length_singleton]
          omega
      · simp [Phase.left]
  | count rs pl =>
      simp only [Course.exec]
      split
      · simp [Phase.left]
      · simp [Phase.left]
  | publish rs pl =>
      simp only [Course.exec]
      split
      · simp [Phase.left]
      · simp [Phase.left]

/-- The net is in a state from which the downlink can be brought to its end. -/
structure Ready (crates : Crates) (profile : Profile) (f : Gw.DownlinkFrame) (c : Course)
    (net : Net) : Prop where
  sim : Sim crates profile f c net
  inv : c.Inv crates profile f
  healthy : c.Healthy f
  commanded : f ∈ net.commanded
  udp : (net.pool.threads .udp).Finished ∨
    ∃ p, c.phase.owner crates profile f = some (.udp, p)

theorem Ready.begun (ready : Ready crates profile f c net) : c.phase ≠ .idle :=
  ready.sim.commanded.mp ready.commanded

theorem timely_plain (trace : List Effect) : Timely trace Env.plain :=
  ⟨⟨rfl, rfl⟩, fun limit _ => Nat.zero_le limit⟩

/-- The thread that works on the downlink can do its next action. -/
theorem Ready.exec (ready : Ready crates profile f c net) (nonempty : f.items ≠ [])
    (accepts : Accepts profile f) {i : Thread} {p : Task Unit}
    (owned : c.phase.owner crates profile f = some (i, p)) :
    ∃ net', Net.Step crates profile conf (tokenFor f) (Rules.prompt f s) net net' ∧
      Ready crates profile f (c.exec crates profile f Env.plain) net' := by
  have threads := ready.sim.owner i p owned
  have timely := timely_plain c.trace
  cases p with
  | done result => exact absurd rfl (Phase.owner_act owned result)
  | act action next =>
      have sim := ready.sim.exec ready.inv owned threads Env.plain
      have healthy := ready.healthy.exec ready.inv nonempty accepts timely
      refine ⟨_, .exec i action next Env.plain threads (timely_plain _), sim, ready.inv.exec _,
        healthy, ready.commanded, ?_⟩
      · by_cases works : ∃ p,
          (c.exec crates profile f Env.plain).phase.owner crates profile f = some (.udp, p)
        · exact .inr works
        · left
          have unowned : ∀ p, (c.exec crates profile f Env.plain).phase.owner crates profile f ≠
              some (.udp, p) := fun p same => works ⟨p, same⟩
          by_cases same : i = .udp
          · subst same
            obtain ⟨r, job, own⟩ := ready.sim.job _ _ owned
            obtain ⟨_, _, finished⟩ := sim.rests .udp r job own unowned
            refine finished ?_
            intro failed
            have live := healthy.live
            rw [failed] at live
            cases live
          · rw [Net.exec, Pool.exec_threads_of_ne (Ne.symm same)]
            rcases ready.udp with finished | ⟨q, owner⟩
            · exact finished
            · rw [owned, Option.some.injEq, Prod.mk.injEq] at owner
              exact absurd owner.1 same

variable (conf) in
/-- As long as it is not over, the downlink can be brought closer to its end. -/
theorem Ready.advance (ready : Ready crates profile f c net) (nonempty : f.items ≠ [])
    (accepts : Accepts profile f)
    (speaks : ∀ j, ∃ data, Answers crates (tokenFor f) data (s j))
    (unfinished : ∀ published, c.phase ≠ .ended published) :
    ∃ c' net', Net.Step crates profile conf (tokenFor f) (Rules.prompt f s) net net' ∧
      Ready crates profile f c' net' ∧
      c'.phase.left f.items.length < c.phase.left f.items.length := by
  cases owner : c.phase.owner crates profile f with
  | some worker =>
      obtain ⟨i, p⟩ := worker
      obtain ⟨net', step, ready'⟩ := ready.exec nonempty accepts owner
      exact ⟨_, net', step, ready', Course.exec_left ready.inv (by rw [owner]; rfl) _⟩
  | none =>
      have live := ready.healthy.live
      have udp : (net.pool.threads .udp).Finished := by
        rcases ready.udp with finished | ⟨p, works⟩
        · exact finished
        · rw [owner] at works
          cases works
      rcases Phase.at_rest owner with idle | ⟨rs, waits⟩ | ⟨rs, answer, answered⟩ |
        ⟨published, ended⟩
      · exact absurd idle ready.begun
      · obtain ⟨data, answers⟩ := speaks rs.length
        rw [waits] at live
        have pending : net.pending = [] ++ (⟨f, rs.length⟩ : Shot) :: [] := by
          rw [ready.sim.pending, waits]
          rfl
        let answer : Answer := ⟨⟨f, rs.length⟩, s rs.length, data⟩
        have step : Course.Step crates profile f (fun c => Timely c.trace) False c
            { c with phase := .answered rs answer, answers := c.answers ++ [answer] } :=
          .answer answer waits rfl answers
        refine ⟨_, _, .answer answer pending answers rfl,
          ⟨ready.sim.answer waits answers rfl, ready.inv.step step,
            ready.healthy.step ready.inv nonempty accepts step, ready.commanded, .inl udp⟩, ?_⟩
        rw [waits]
        simp [Phase.left]
      · have inFlight : net.inFlight = [] ++ answer :: [] := by
          rw [ready.sim.inFlight, answered]
          rfl
        obtain ⟨marked, pl, read, token, status⟩ :=
          ready.sim.datagrams answer (inFlight ▸ by simp)
        have step : Course.Step crates profile f (fun c => Timely c.trace) False c
            { c with phase := .clean rs pl } :=
          .deliver pl answered marked read token status
        refine ⟨_, _, .deliver answer forwarderAddr inFlight udp,
          ⟨ready.sim.deliver answered marked read token forwarderAddr rfl, ready.inv.step step,
            ready.healthy.step ready.inv nonempty accepts step, ready.commanded, .inr ⟨_, rfl⟩⟩,
          ?_⟩
        rw [answered]
        simp [Phase.left]
      · exact absurd ended (unfinished published)

/-- The downlink can be brought to its end. -/
theorem Ready.completes (ready : Ready crates profile f c net) (nonempty : f.items ≠ [])
    (accepts : Accepts profile f)
    (speaks : ∀ j, ∃ data, Answers crates (tokenFor f) data (s j)) :
    ∃ net', Net.Run crates profile conf (tokenFor f) (Rules.prompt f s) net net' ∧
      net'.Complete crates f := by
  generalize bound : c.phase.left f.items.length = left
  induction left using Nat.strong_induction_on generalizing c net with
  | _ left ih =>
      by_cases ended : ∃ published, c.phase = .ended published
      · obtain ⟨published, ended⟩ := ended
        exact ⟨net, .refl, ready.sim.complete_of_over ended⟩
      · have unfinished : ∀ published, c.phase ≠ .ended published :=
          fun published same => ended ⟨published, same⟩
        obtain ⟨c', net', step, ready', fewer⟩ :=
          ready.advance conf nonempty accepts speaks unfinished
        obtain ⟨net'', run, complete⟩ := ih _ (bound ▸ fewer) ready' rfl
        exact ⟨net'', .head step run, complete⟩

end

/-! ## The protocol -/

section

variable (crates : Crates) (profile : Profile) (f : Gw.DownlinkFrame)
  (s : Nat → Gw.TxAckStatus)

/-- The ack for the answers to the items that are tried. -/
def ackFor (gatewayId : String) : Gw.DownlinkTxAck where
  gatewayId
  downlinkId := f.downlinkId
  items := acksOf f (answersTo s f.items.length)

/-- What can be seen of the downlink: the PULL_RESPs, the count, and the ack. -/
def protocolTrace (addrs : List SocketAddr) (gatewayId : String) : List Effect :=
  pullResps crates profile f addrs ++
    [.countedDownlink f (ackFor f s gatewayId), .event (.ack (ackFor f s gatewayId))]

/-- The packet forwarder has answered the items that are tried, in their order. -/
def Net.Answered (net : Net) : Prop :=
  net.produced.map (fun answer => (answer.shot, answer.status)) =
    (answersTo s f.items.length).mapIdx fun j status => ((⟨f, j⟩ : Shot), status)

/-- At every moment, what can be seen is a beginning of the protocol, and no ack is published
before the last item has been answered. -/
structure Net.OnTrack (net : Net) : Prop where
  trace : ∃ addrs gatewayId, addrs.length = lastTried s f.items.length + 1 ∧
    visible (net.trace (tokenFor f)) <+: protocolTrace crates profile f s addrs gatewayId
  answered : ∀ ack, .event (.ack ack) ∈ net.trace (tokenFor f) → net.Answered f s

/-- The whole protocol has been followed since `start`. -/
structure Net.Followed (net start : Net) : Prop where
  answered : net.Answered f s
  trace : ∃ addrs gatewayId, addrs.length = lastTried s f.items.length + 1 ∧
    visible (net.trace (tokenFor f)) = protocolTrace crates profile f s addrs gatewayId
  stats : ∃ before gatewayId after,
    net.pool.log = before ++ .countedDownlink f (ackFor f s gatewayId) :: after ∧
      net.pool.state.stats = replay crates
        ((replay crates start.pool.state.stats before).reported crates f
          (answersTo s f.items.length)) after

end

section

variable {crates : Crates} {profile : Profile} {conf : Conf} {f : Gw.DownlinkFrame}
  {s : Nat → Gw.TxAckStatus} {c : Course} {net : Net}

/-- The answers that have been given so far are those of `s`. -/
theorem Booked.given_eq {given : List Gw.TxAckStatus} {sent : Nat} {tail : List Effect}
    (booked : Booked crates profile f c given sent tail)
    (gives : ∀ answer ∈ c.answers, answer.status = s answer.shot.index) :
    given = (List.range given.length).map s := by
  apply List.ext_getElem
  · rw [List.length_map, List.length_range]
  · intro j within _
    have same := congrArg (fun answers => answers[j]?) booked.answers
    simp only [List.getElem?_map, List.getElem?_mapIdx, List.getElem?_eq_getElem within,
      Option.map_some, Option.map_eq_some_iff, Prod.mk.injEq] at same
    obtain ⟨answer, found, shot, status⟩ := same
    rw [← status, gives answer (List.mem_of_getElem? found), shot]
    simp

theorem Booked.refusals_eq {refusals more : List Gw.TxAckStatus} {sent : Nat}
    {tail : List Effect} (booked : Booked crates profile f c (refusals ++ more) sent tail)
    (gives : ∀ answer ∈ c.answers, answer.status = s answer.shot.index) :
    refusals = (List.range refusals.length).map s := by
  have same := booked.given_eq gives
  rw [List.length_append, List.range_add, List.map_append] at same
  exact (List.append_inj same (by simp)).1

theorem Refused.unsent {refusals : List Gw.TxAckStatus} (refused : Refused refusals)
    (same : refusals = (List.range refusals.length).map s) :
    ∀ j < refusals.length, s j ≠ .ok := by
  intro j before
  have member : s j ∈ refusals := by
    rw [same]
    exact List.mem_map_of_mem (List.mem_range.mpr before)
  exact (refused _ member).1

/-- The refusals so far are those before the last item that is tried. -/
theorem Refused.length_le {refusals : List Gw.TxAckStatus} (refused : Refused refusals)
    (same : refusals = (List.range refusals.length).map s)
    (within : refusals = [] ∨ refusals.length < f.items.length) :
    refusals.length ≤ lastTried s f.items.length := by
  rcases within with rfl | within
  · exact Nat.zero_le _
  · unfold lastTried
    cases found : (List.range f.items.length).find? fun j => s j == .ok with
    | none =>
        rw [Option.getD_none]
        omega
    | some k =>
        rw [List.find?_range_eq_some] at found
        rw [Option.getD_some]
        by_contra before
        exact refused.unsent same k (Nat.lt_of_not_le before) (by simpa using found.1)

theorem Concluded.answersTo_eq {refusals : List Gw.TxAckStatus} {pl : TxAck}
    (concluded : Concluded f refusals pl)
    (same : refusals ++ [pl.toProtoTxAckStatus] =
      (List.range (refusals ++ [pl.toProtoTxAckStatus]).length).map s) :
    lastTried s f.items.length = refusals.length ∧
      answersTo s f.items.length = refusals ++ [pl.toProtoTxAckStatus] := by
  rw [List.length_append, List.length_singleton] at same
  have parts := same
  rw [List.range_succ, List.map_append] at parts
  obtain ⟨before, last⟩ := List.append_inj parts (by simp)
  have status : s refusals.length = pl.toProtoTxAckStatus := (List.cons.inj last).1.symm
  have reached : lastTried s f.items.length = refusals.length :=
    lastTried_eq (concluded.refused.unsent before) concluded.within (status ▸ concluded.final)
  exact ⟨reached, by rw [answersTo, reached, same]⟩

/-- While items are tried, the PULL_RESPs so far are a beginning of the protocol. -/
theorem Booked.onTrack {given : List Gw.TxAckStatus} {sent : Nat}
    (booked : Booked crates profile f c given sent [])
    (few : sent ≤ lastTried s f.items.length + 1) (trace : net.trace (tokenFor f) = c.trace) :
    net.OnTrack crates profile f s := by
  obtain ⟨addrs, length, shown⟩ := booked.shown
  rw [List.append_nil] at shown
  constructor
  · refine ⟨addrs ++ List.replicate (lastTried s f.items.length + 1 - sent) forwarderAddr, "",
      ?_, ?_⟩
    · rw [List.length_append, List.length_replicate, length]
      omega
    · rw [trace, shown, protocolTrace, pullResps, pullResps, List.mapIdx_append,
        List.append_assoc]
      exact List.prefix_append ..
  · intro ack published
    have seen : Effect.event (.ack ack) ∈ visible (net.trace (tokenFor f)) :=
      List.mem_filter.mpr ⟨published, rfl⟩
    rw [trace, shown, pullResps, List.mem_mapIdx] at seen
    obtain ⟨_, _, impossible⟩ := seen
    cases impossible

/-- The items tried so far do not go past the last one that is to be tried. -/
theorem Booked.onTrack_refused {given refusals more : List Gw.TxAckStatus} {sent : Nat}
    (booked : Booked crates profile f c given sent []) (parts : given = refusals ++ more)
    (refused : Refused refusals) (within : refusals = [] ∨ refusals.length < f.items.length)
    (few : sent ≤ refusals.length + 1)
    (gives : ∀ answer ∈ c.answers, answer.status = s answer.shot.index)
    (trace : net.trace (tokenFor f) = c.trace) : net.OnTrack crates profile f s := by
  subst parts
  have same := booked.refusals_eq gives
  exact booked.onTrack (Nat.le_trans few (Nat.succ_le_succ (refused.length_le same within))) trace

/-- What can be seen once the last item has been answered. -/
theorem Concluded.trace_eq {refusals : List Gw.TxAckStatus} {pl : TxAck} {tail : List Effect}
    (concluded : Concluded f refusals pl)
    (booked : Booked crates profile f c (refusals ++ [pl.toProtoTxAckStatus])
      (refusals.length + 1) tail)
    (gives : ∀ answer ∈ c.answers, answer.status = s answer.shot.index) :
    ackOf f refusals pl = ackFor f s (hexEncode pl.gatewayId) ∧
      c.answers.map (fun answer => (answer.shot, answer.status)) =
        (answersTo s f.items.length).mapIdx (fun j status => ((⟨f, j⟩ : Shot), status)) ∧
      ∃ addrs, addrs.length = lastTried s f.items.length + 1 ∧
        visible c.trace = pullResps crates profile f addrs ++ tail := by
  obtain ⟨reached, answers⟩ := concluded.answersTo_eq (booked.given_eq gives)
  refine ⟨?_, ?_, ?_⟩
  · rw [ackOf, ackFor, answers]
  · rw [answers]
    exact booked.answers
  · rw [reached]
    exact booked.shown

/-- Once the last item has been answered, what follows is a beginning of the count and the ack. -/
theorem Concluded.onTrack {refusals : List Gw.TxAckStatus} {pl : TxAck} {tail : List Effect}
    (concluded : Concluded f refusals pl)
    (booked : Booked crates profile f c (refusals ++ [pl.toProtoTxAckStatus])
      (refusals.length + 1) tail)
    (part : tail <+:
      [.countedDownlink f (ackOf f refusals pl), .event (.ack (ackOf f refusals pl))])
    (gives : ∀ answer ∈ c.answers, answer.status = s answer.shot.index)
    (trace : net.trace (tokenFor f) = c.trace) (answers : net.produced = c.answers) :
    net.OnTrack crates profile f s := by
  obtain ⟨ack, given, addrs, length, shown⟩ := concluded.trace_eq booked gives
  constructor
  · refine ⟨addrs, hexEncode pl.gatewayId, length, ?_⟩
    rw [trace, shown, protocolTrace, ← ack]
    exact (List.prefix_append_right_inj _).mpr part
  · intro _ _
    rw [Net.Answered, answers]
    exact given

/-- A healthy downlink is on the track of the protocol. -/
theorem Sim.onTrack (sim : Sim crates profile f c net) (inv : c.Inv crates profile f)
    (healthy : c.Healthy f)
    (gives : ∀ answer ∈ net.produced, answer.status = s answer.shot.index) :
    net.OnTrack crates profile f s := by
  have trace := sim.trace
  have answers := sim.answers
  have live := healthy.live
  rw [answers] at gives
  obtain ⟨phase, slot, addr, given, seen⟩ := c
  cases phase with
  | idle => exact Booked.onTrack inv (Nat.zero_le _) trace
  | attempt i rs =>
      obtain ⟨refused, within, booked⟩ := inv
      exact booked.onTrack_refused (List.append_nil rs).symm refused within (Nat.le_succ _) gives
        trace
  | insert i rs expire =>
      obtain ⟨refused, within, booked⟩ := inv
      exact booked.onTrack_refused (List.append_nil rs).symm refused within (Nat.le_succ _) gives
        trace
  | address i rs resp =>
      obtain ⟨refused, within, booked, _⟩ := inv
      exact booked.onTrack_refused (List.append_nil rs).symm refused (.inr within) (Nat.le_succ _)
        gives trace
  | send i rs target =>
      obtain ⟨refused, within, booked, _⟩ := inv
      exact booked.onTrack_refused (List.append_nil rs).symm refused (.inr within) (Nat.le_succ _)
        gives trace
  | waiting rs =>
      obtain ⟨refused, within, booked, _⟩ := inv
      exact booked.onTrack_refused (List.append_nil rs).symm refused (.inr within) (Nat.le_refl _)
        gives trace
  | answered rs answer =>
      obtain ⟨refused, within, booked, _⟩ := inv
      exact booked.onTrack_refused rfl refused (.inr within) (Nat.le_refl _) gives trace
  | clean rs pl =>
      obtain ⟨refused, within, booked, _⟩ := inv
      exact booked.onTrack_refused rfl refused (.inr within) (Nat.le_refl _) gives trace
  | look rs pl =>
      obtain ⟨refused, within, booked, _⟩ := inv
      exact booked.onTrack_refused rfl refused (.inr within) (Nat.le_refl _) gives trace
  | count rs pl =>
      obtain ⟨concluded, booked⟩ := inv
      exact concluded.onTrack booked List.nil_prefix gives trace answers
  | publish rs pl =>
      obtain ⟨concluded, booked⟩ := inv
      exact concluded.onTrack booked (List.prefix_append [_] [_]) gives trace answers
  | ended published =>
      obtain ⟨_, _, tail, booked, ending⟩ := inv
      subst live
      cases ending with
      | published concluded =>
          exact concluded.onTrack booked (List.prefix_refl _) gives trace answers

/-- A healthy downlink that is over has followed the whole protocol. -/
theorem Sim.followed {start : Net} (sim : Sim crates profile f c net)
    (inv : c.Inv crates profile f) (healthy : c.Healthy f) (accepts : Accepts profile f)
    (gives : ∀ answer ∈ net.produced, answer.status = s answer.shot.index)
    (recorded : net.pool.state.stats = replay crates start.pool.state.stats net.pool.log)
    (complete : net.Complete crates f) : net.Followed crates profile f s start := by
  obtain ⟨published, ended⟩ := sim.over_of_complete complete
  have trace := sim.trace
  have answers := sim.answers
  have live := healthy.live
  rw [answers] at gives
  obtain ⟨phase, slot, addr, given, seen⟩ := c
  subst ended
  obtain ⟨_, _, tail, booked, ending⟩ := inv
  subst live
  cases ending with
  | @published refusals pl concluded =>
      obtain ⟨ack, given, addrs, length, shown⟩ := concluded.trace_eq booked gives
      obtain ⟨resp, accepted⟩ := accepts refusals.length concluded.within
      have counted : .countedDownlink f (ackOf f refusals pl) ∈ net.pool.log := by
        have member : .countedDownlink f (ackOf f refusals pl) ∈
            visible (net.trace (tokenFor f)) := by
          rw [trace, shown]
          simp
        exact List.mem_of_mem_filter (List.mem_of_mem_filter member)
      obtain ⟨before, after, log⟩ := List.append_of_mem counted
      refine ⟨?_, ⟨addrs, hexEncode pl.gatewayId, length, ?_⟩, before, hexEncode pl.gatewayId,
        after, ?_, ?_⟩
      · rw [Net.Answered, answers]
        exact given
      · rw [trace, shown, ack, protocolTrace]
      · rw [log, ack]
      · rw [recorded, log, replay_append,
          (concluded.answersTo_eq (booked.given_eq gives)).2]
        simp only [replay, List.foldl_cons, Effect.count,
          concluded.counted (downlinkKeys_of_accepted accepted)]

/-- The answers of the packet forwarder follow the rules. -/
theorem Net.Run.gives {token : UInt16} {rules : Rules} {start : Net}
    (run : Net.Run crates profile conf token rules start net)
    (before : ∀ answer ∈ start.produced, rules.gives answer) :
    ∀ answer ∈ net.produced, rules.gives answer := by
  induction run with
  | refl => exact before
  | tail _ step ih =>
      cases step with
      | answer answer waiting answers allowed =>
          intro other member
          rcases List.mem_append.mp member with earlier | now
          · exact ih other earlier
          · rw [List.mem_singleton.mp now]
            exact allowed
      | exec i action next e current allowed => exact ih
      | command n g free own once allowed => exact ih
      | other i r free admitted stray allowed => exact ih
      | deliver answer remote arrives free => exact ih
      | losePullResp shot waiting allowed => exact ih
      | loseTxAck answer arrives allowed => exact ih
      | duplicate answer arrives allowed => exact ih

/-- In a run with a prompt packet forwarder a downlink stays healthy. -/
theorem Sim.run_healthy {net' : Net} (sim : Sim crates profile f c net) (healthy : c.Healthy f)
    (inv : c.Inv crates profile f) (nonempty : f.items ≠ []) (accepts : Accepts profile f)
    (run : Net.Run crates profile conf (tokenFor f) (Rules.prompt f s) net net') :
    ∃ c', c'.Inv crates profile f ∧ Sim crates profile f c' net' ∧ c'.Healthy f := by
  obtain ⟨c', steps, inv', sim'⟩ := sim.run (A := fun c => Timely c.trace) inv (fun _ _ => id) id
    (fun c net e sim allowed => sim.trace ▸ allowed) run
  refine ⟨c', inv', sim', ?_⟩
  have both : c'.Inv crates profile f ∧ c'.Healthy f := by
    clear inv' sim'
    induction steps with
    | refl => exact ⟨inv, healthy⟩
    | tail _ step ih => exact ⟨ih.1.step step, ih.2.step ih.1 nonempty accepts step⟩
  exact both.2

/-- Let `f` be a frame with items that can all be converted, and let the packet forwarder answer
item `j` with `s j`, in time.  From any reachable pool that knows its address and has no
downlink with the token of `f` in flight, in any interleaving with other requests: what can be
seen of `f` is at every moment a beginning of the protocol; when nothing is left to be done for
`f` the whole protocol has been followed; and it can always be brought to that point, unless the
receive loop is occupied by something else. -/
theorem downlink_follows_protocol {F : Gw.DownlinkFrame → Prop} {pool : System}
    (reachable : Reachable crates profile conf F pool)
    (alone : ∀ i r, pool.job i = some r → ¬ Stray crates (tokenFor f) r →
      (pool.threads i).Finished)
    (known : pool.state.pullAddr ≠ none) (nonempty : f.items ≠ []) (accepts : Accepts profile f)
    (run : Net.Run crates profile conf (tokenFor f) (Rules.prompt f s) (Net.watch pool) net) :
    net.OnTrack crates profile f s ∧
      (net.Complete crates f → net.Followed crates profile f s (Net.watch pool)) ∧
      ((∀ j, ∃ data, Answers crates (tokenFor f) data (s j)) → f ∈ net.commanded →
        net.Receptive crates f →
          ∃ net', Net.Run crates profile conf (tokenFor f) (Rules.prompt f s) net net' ∧
            net'.Complete crates f) := by
  have gives : ∀ answer ∈ net.produced, answer.status = s answer.shot.index :=
    Net.Run.gives run (by simp [Net.watch])
  have guarantees : ∀ i, (pool.threads i).Guarantees (Recorded crates) :=
    Pool.run_guarantees program_recorded reachable (Pool.guarantees_idle _)
  have recorded : net.pool.state.stats = replay crates pool.state.stats net.pool.log :=
    Net.Run.recorded run guarantees rfl
  have healthy : (Course.start f (Net.watch pool)).Healthy f := ⟨known, trivial⟩
  obtain ⟨c, inv, sim, healthy⟩ := (reachable.quiet alone).sim.run_healthy healthy
    (Course.inv_start _) nonempty accepts run
  refine ⟨sim.onTrack inv healthy gives, ?_, ?_⟩
  · intro complete
    exact sim.followed inv healthy accepts gives recorded complete
  · intro speaks commanded receptive
    have ready : Ready crates profile f c net := by
      refine ⟨sim, inv, healthy, commanded, ?_⟩
      by_cases works : ∃ p, c.phase.owner crates profile f = some (.udp, p)
      · exact .inr works
      · left
        rcases receptive with finished | ⟨r, job, own⟩
        · exact finished
        · obtain ⟨_, _, finished⟩ := sim.rests .udp r job own fun p same => works ⟨p, same⟩
          refine finished ?_
          intro failed
          have live := healthy.live
          rw [failed] at live
          cases live
    exact ready.completes nonempty accepts speaks

end

/-! ## A frame with two items -/

/-- The first item is too late, and every other item is sent. -/
def lateThenSent : Nat → Gw.TxAckStatus
  | 0 => .tooLate
  | _ => .ok

/-- The pool that knows the address of the packet forwarder. -/
def addressKnown : System :=
  serve tooLateCrates .release {} (Pool.idle (State.init {})) .udp
    (.datagram pullDataDatagram forwarderAddr) 3

theorem addressKnown_reachable :
    Reachable tooLateCrates .release {} (fun _ => True) addressKnown :=
  run_serve trivial (Reachable.init : Reachable tooLateCrates .release {} (fun _ => True) _)
    .udp (.datagram pullDataDatagram forwarderAddr) 3 trivial trivial

theorem addressKnown_finished (i : Thread) : (addressKnown.threads i).Finished := by
  cases i with
  | udp => exact trivial
  | command n => exact trivial

theorem lateThenSent_datagram (j : Nat) :
    ∃ data, Answers tooLateCrates (tokenFor twoItems) data (lateThenSent j) := by
  cases j with
  | zero => exact ⟨tooLateDatagram, rfl, _, rfl, rfl, rfl⟩
  | succ j => exact ⟨txAckDatagram, rfl, _, rfl, rfl, rfl⟩

theorem twoItems_accepted : Accepts .release twoItems := by
  intro j within
  match j, within with
  | 0, _ => exact ⟨_, rfl⟩
  | 1, _ => exact ⟨_, rfl⟩

/-- The frame with two items, of which the first is refused, follows the protocol to its
end. -/
theorem downlink_follows_protocol_two_items :
    ∃ net, Net.Run tooLateCrates .release {} (tokenFor twoItems)
        (Rules.prompt twoItems lateThenSent) (Net.watch addressKnown) net ∧
      net.Complete tooLateCrates twoItems ∧
      net.Followed tooLateCrates .release twoItems lateThenSent (Net.watch addressKnown) := by
  have alone : ∀ i r, addressKnown.job i = some r →
      ¬ Stray tooLateCrates (tokenFor twoItems) r → (addressKnown.threads i).Finished :=
    fun i _ _ _ => addressKnown_finished i
  have commanded : Net.Run tooLateCrates .release {} (tokenFor twoItems)
      (Rules.prompt twoItems lateThenSent) (Net.watch addressKnown) _ :=
    .single (.command 0 twoItems (addressKnown_finished (.command 0)) rfl List.not_mem_nil rfl)
  have known : addressKnown.state.pullAddr ≠ none := by decide
  have nonempty : twoItems.items ≠ [] := by decide
  obtain ⟨net, run, complete⟩ := (downlink_follows_protocol addressKnown_reachable alone known
    nonempty twoItems_accepted commanded).2.2 lateThenSent_datagram List.mem_cons_self
    (.inl (addressKnown_finished .udp))
  have whole := commanded.trans run
  exact ⟨net, whole, complete, (downlink_follows_protocol addressKnown_reachable alone known
    nonempty twoItems_accepted whole).2.1 complete⟩

end MqttForwarder.SemtechUdp
