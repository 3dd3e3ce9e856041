import MqttForwarder.Rust.Ownership
import MqttForwarder.Statistics.Ledger
import MqttForwarder.Uplink.Forwarding

/-!
# What the receive loop does to the statistics

Only the task of the receive loop uses the statistics.  What it has done to
them and to the publish channel is a history of moves: a frame taken up, a
downlink settled, or the counters exported for a report.  The environment
decides whether a frame that was taken up, or a report, is on the channel.
-/

namespace MqttForwarder.SemtechUdp

open MqttForwarder.Rust MqttForwarder.Accounting

/-! ## Moves -/

/-- The effects on the counters, and the messages that the counters are about. -/
def Effect.ledger : Effect → Bool
  | .event (.up _) => true
  | .event (.stats _) => true
  | .countedUplink _ => true
  | .countedDownlink _ _ => true
  | .exported => true
  | _ => false

inductive Move where
  /-- A frame is counted; the channel may take it. -/
  | taken (pl : Gw.UplinkFrame) (published : Bool)
  | settled (pl : Gw.DownlinkFrame) (ack : Gw.DownlinkTxAck)
  /-- The counters are exported, and the channel takes the report. -/
  | reported (pl : Gw.GatewayStats)
  | unreported

namespace Move

def effects : Move → List Effect
  | taken pl true => [.countedUplink pl, .event (.up pl)]
  | taken pl false => [.countedUplink pl]
  | settled pl ack => [.countedDownlink pl ack]
  | reported pl => [.exported, .event (.stats pl)]
  | unreported => [.exported]

/-- The operation on the statistics. -/
def call : Move → Call
  | taken pl _ => .countUplink pl
  | settled pl ack => .countDownlink pl ack
  | reported _ => .exportStats
  | unreported => .exportStats

end Move

/-- The counters after some moves. -/
def statsAfter (crates : Crates) (moves : List Move) : Stats :=
  (accountOf crates (moves.map Move.call)).stats

/-- The report shows the exported counters. -/
structure Shows (pl report : Gw.GatewayStats) : Prop where
  rxPacketsReceivedOk : pl.rxPacketsReceivedOk = report.rxPacketsReceivedOk
  txPacketsEmitted : pl.txPacketsEmitted = report.txPacketsEmitted
  rxPacketsPerFrequency : pl.rxPacketsPerFrequency = report.rxPacketsPerFrequency
  txPacketsPerFrequency : pl.txPacketsPerFrequency = report.txPacketsPerFrequency
  rxPacketsPerModulation : pl.rxPacketsPerModulation = report.rxPacketsPerModulation
  txPacketsPerModulation : pl.txPacketsPerModulation = report.txPacketsPerModulation
  txPacketsPerStatus : pl.txPacketsPerStatus = report.txPacketsPerStatus

/-- The move is possible after the others: a frame that is counted names its frequency and its
modulation, and a report shows the counters at its time. -/
def Follows (crates : Crates) (before : List Move) : Move → Prop
  | .reported pl => ∃ report, (statsAfter crates before).exported crates = .ok report ∧
      Shows pl report
  | .taken pl _ => Countable pl
  | _ => True

/-- A history of moves, each of them in `A`. -/
inductive History (crates : Crates) (A : Move → Prop) : List Move → Prop where
  | nil : History crates A []
  | snoc {before : List Move} {move : Move} (history : History crates A before)
      (follows : Follows crates before move) (allowed : A move) :
      History crates A (before ++ [move])

/-- The effects and the counters are those of a history. -/
def Traced (crates : Crates) (A : Move → Prop) (os : List Effect) (stats : Stats) : Prop :=
  ∃ moves, History crates A moves ∧ os = moves.flatMap Move.effects ∧
    stats = statsAfter crates moves

section

variable {crates : Crates} {A : Move → Prop} {moves : List Move}

theorem History.mono {B : Move → Prop} (history : History crates A moves)
    (weaker : ∀ move, A move → B move) : History crates B moves := by
  induction history with
  | nil => exact .nil
  | snoc _ follows allowed ih => exact .snoc ih follows (weaker _ allowed)

theorem history_snoc {before : List Move} {move : Move} :
    History crates A (before ++ [move]) ↔
      History crates A before ∧ Follows crates before move ∧ A move := by
  constructor
  · intro history
    generalize same : before ++ [move] = all at history
    cases history with
    | nil => simp at same
    | snoc history follows allowed =>
        obtain ⟨rfl, last⟩ := List.append_inj' same rfl
        rw [List.singleton_inj.mp last]
        exact ⟨history, follows, allowed⟩
  · rintro ⟨history, follows, allowed⟩
    exact .snoc history follows allowed

theorem History.before {before after : List Move} (history : History crates A (before ++ after)) :
    History crates A before := by
  induction after using List.reverseRecOn with
  | nil =>
      rw [List.append_nil] at history
      exact history
  | append_singleton after last ih =>
      rw [← List.append_assoc] at history
      exact ih (history_snoc.mp history).1

/-- Every move of a history follows the moves before it. -/
theorem History.follows {before after : List Move} {move : Move}
    (history : History crates A (before ++ move :: after)) : Follows crates before move := by
  rw [← List.singleton_append, ← List.append_assoc] at history
  exact (history_snoc.mp history.before).2.1

/-- Every uplink that a history counts names its frequency and its modulation. -/
theorem History.countable (history : History crates A moves) :
    ∀ pl ∈ (moves.flatMap Move.effects).filterMap Effect.countedUplink?, Countable pl := by
  induction history with
  | nil => simp
  | snoc _ follows _ ih =>
      intro pl member
      rw [List.flatMap_append, List.filterMap_append, List.mem_append] at member
      rcases member with earlier | last
      · exact ih pl earlier
      · rename_i before move _ _
        cases move with
        | taken own published =>
            have same : pl = own := by
              cases published <;> simpa [Move.effects, Effect.countedUplink?, eq_comm] using last
            exact same ▸ follows
        | _ => simp [Move.effects, Effect.countedUplink?] at last

theorem Traced.mono {B : Move → Prop} {os : List Effect} {stats : Stats}
    (traced : Traced crates A os stats) (weaker : ∀ move, A move → B move) :
    Traced crates B os stats := by
  obtain ⟨moves, history, effects, counters⟩ := traced
  exact ⟨moves, history.mono weaker, effects, counters⟩

theorem traced_nil : Traced crates A [] {} := ⟨[], .nil, rfl, rfl⟩

theorem statsAfter_append (moves : List Move) (move : Move) :
    statsAfter crates (moves ++ [move]) =
      (Account.call crates (accountOf crates (moves.map Move.call)) move.call).stats := by
  simp [statsAfter, accountOf]

/-- One more move that is allowed. -/
theorem History.traced (history : History crates A moves) (move : Move)
    (follows : Follows crates moves move) (allowed : A move) {os : List Effect} {stats : Stats}
    (effects : os = moves.flatMap Move.effects ++ move.effects)
    (counters : stats = (Account.call crates (accountOf crates (moves.map Move.call))
      move.call).stats) :
    Traced crates A os stats := by
  refine ⟨moves ++ [move], .snoc history follows allowed, ?_, ?_⟩
  · rw [effects]
    simp
  · rw [counters, statsAfter_append]

end

/-! ## Actions that leave the statistics alone -/

/-- The effect is a datagram to the packet forwarder, or on the downlink cache. -/
def Effect.wire : Effect → Bool
  | .pushAck _ _ => true
  | .pullAck _ _ => true
  | .pullResp _ _ _ _ => true
  | .cached _ _ => true
  | .looked _ _ => true
  | _ => false

/-- The action changes at most the downlink cache, and sends at most datagrams. -/
structure Wires (_ : Env) (s s' : State) (os : List Effect) : Prop where
  gatewayId : s'.gatewayId = s.gatewayId
  pullAddr : s'.pullAddr = s.pullAddr
  stats : s'.stats = s.stats
  effects : ∀ o ∈ os, o.wire

theorem Wires.silent {e : Env} {s : State} : Wires e s s [] := ⟨rfl, rfl, rfl, by simp⟩

theorem sendTo_wires {datagram : Effect} (wire : datagram.wire) :
    (sendTo datagram).Guarantees Wires :=
  sendTo_guarantees (fun _ _ => .silent) fun _ _ => ⟨rfl, rfl, rfl, by simpa using wire⟩

theorem downlink_wires : DownlinkActions Wires where
  idle := fun _ _ => .silent
  setDownlinkCache := fun _ _ => Prog.guarantees_atomically fun _ _ =>
    ⟨rfl, rfl, rfl, by simp [Effect.wire]⟩
  pullResp := fun _ _ _ _ => sendTo_wires rfl

theorem cleanDownlinkCache_wires : State.cleanDownlinkCache.Guarantees Wires :=
  Prog.guarantees_atomically fun _ _ => ⟨rfl, rfl, rfl, by simp⟩

theorem readDownlinkCache_wires (token : UInt16) :
    (State.readDownlinkCache token).Guarantees Wires :=
  Prog.guarantees_atomically fun _ _ => ⟨rfl, rfl, rfl, by simp [Effect.wire]⟩

theorem sendDownlinkFrame_wires (crates : Crates) (profile : Profile) (pl : Gw.DownlinkFrame)
    (acks : List Gw.DownlinkTxAckItem) (i : Nat) :
    (sendDownlinkFrame crates profile pl acks i).Guarantees Wires :=
  sendDownlinkFrame_guarantees downlink_wires pl acks i

theorem getDownlinkCache_wires (token : UInt16) :
    (State.getDownlinkCache token).Guarantees Wires :=
  getDownlinkCache_guarantees cleanDownlinkCache_wires (readDownlinkCache_wires token)

/-- An ack on the publish channel is none of the statistics. -/
theorem sendTxAck_leaves (pl : Gw.DownlinkTxAck) :
    (sendTxAck pl).Guarantees (Prog.Leaves State.stats Effect.ledger) :=
  trySend_guarantees (fun _ _ => ⟨rfl, rfl⟩) fun _ _ _ => ⟨rfl, rfl⟩

theorem Wires.leaves {e : Env} {s s' : State} {os : List Effect} (wires : Wires e s s' os) :
    Prog.Leaves State.stats Effect.ledger e s s' os := by
  refine ⟨wires.stats, List.filter_eq_nil_iff.mpr fun o member => ?_⟩
  have wire := wires.effects o member
  cases o <;> simp_all [Effect.wire, Effect.ledger]

/-- Every program that only wires. -/
theorem leaves_of_wires {α : Type} {p : Task α} (wires : p.Guarantees Wires) :
    p.Guarantees (Prog.Leaves State.stats Effect.ledger) :=
  wires.mono fun _ _ _ _ => Wires.leaves

/-! ## What the environment may answer -/

section

variable {β : Type}

/-- Some answer makes the action put the message on the channel. -/
def Offers (message : MqttMessage) (action : Env → State → Reply β State Effect) : Prop :=
  ∃ e s, Effect.event message ∈ (action e s).effects

/-- What the action gives back depends on the answer of the metadata commands. -/
def Asks (action : Env → State → Reply β State Effect) : Prop :=
  ∃ e s metadata, (action { e with metadata } s).value ≠ (action e s).value

end

/-- The channel takes every message of `M` that is offered to it. -/
def Takes (M : MqttMessage → Prop) : Discipline Env State Effect := fun _ action e =>
  ∀ message, M message → Offers message action → e.channel = .room

/-- The metadata commands succeed whenever they are asked. -/
def Succeeds : Discipline Env State Effect := fun _ action e =>
  Asks action → ∃ metadata, e.metadata = .ok metadata

/-- Every move that is not in `A` is excluded by the discipline. -/
structure Licensed (D : Discipline Env State Effect) (A : Move → Prop) : Prop where
  published : ∀ pl, A (.taken pl true)
  settled : ∀ pl ack, A (.settled pl ack)
  reported : ∀ pl, A (.reported pl)
  refused : ∀ pl, A (.taken pl false) ∨ ∀ β action e, D β action e → Takes (· = .up pl) β action e
  unreported : A .unreported ∨ ∀ β action e, D β action e →
    Succeeds β action e ∧ ∀ pl, Takes (· = .stats pl) β action e

theorem licensed_free : Licensed .free fun _ => True :=
  ⟨fun _ => trivial, fun _ _ => trivial, fun _ => trivial, fun _ => .inl trivial, .inl trivial⟩

/-! ## The handlers -/

section

variable {crates : Crates} {profile : Profile} {conf : Conf} {D : Discipline Env State Effect}
  {A : Move → Prop}

/-- What is left of a handler leads to a history of allowed moves. -/
abbrev Leads (crates : Crates) (D : Discipline Env State Effect) (A : Move → Prop) {α : Type}
    (p : Task α) (os : List Effect) (stats : Stats) : Prop :=
  p.Owns D State.stats Effect.ledger (Traced crates fun _ => True)
    (fun _ => Traced crates A) os stats

variable {os : List Effect} {stats : Stats}

theorem Traced.any (traced : Traced crates A os stats) : Traced crates (fun _ => True) os stats :=
  traced.mono fun _ _ => trivial

theorem Traced.leads {α : Type} {result : Outcome α} (traced : Traced crates A os stats) :
    Leads crates D A (.done result) os stats :=
  ⟨traced.any, traced⟩

/-- The channel takes a message, or the sender ends. -/
theorem trySend_leads {message : MqttMessage} (recorded : Effect.ledger (.event message) = true)
    (any : Traced crates (fun _ => True) os stats)
    (refused : ∀ β action e, D β action e → Offers message action → e.channel ≠ .room →
      Traced crates A os stats)
    (sent : Traced crates A (os ++ [.event message]) stats) :
    Leads crates D A (trySend message) os stats := by
  refine ⟨any, fun e s allowed same => ?_⟩
  have ended : e.channel ≠ .room → Leads crates D A (.done (.err "") : Task Unit) os s.stats :=
    fun full =>
      same ▸ (refused _ _ e allowed ⟨Env.plain, s, List.mem_cons_self⟩ full).leads
  dsimp only
  cases channel : e.channel with
  | unset =>
      rw [List.filter_nil, List.append_nil]
      exact ended (by simp [channel])
  | full =>
      rw [List.filter_nil, List.append_nil]
      exact ended (by simp [channel])
  | room =>
      have taken : [Effect.event message].filter Effect.ledger = [.event message] := by
        rw [List.filter_cons, if_pos recorded, List.filter_nil]
      rw [taken]
      exact same ▸ sent.leads

/-- The channel takes a frame that has been counted, or the loop ends. -/
theorem sendUplinkFrame_leads (licensed : Licensed D A) {moves : List Move}
    (history : History crates A moves) {pl : Gw.UplinkFrame} (countable : Countable pl)
    (rest : Unit → Task Unit)
    (later : ∀ os stats, Traced crates A os stats → Leads crates D A (rest ()) os stats) :
    Leads crates D A (sendUplinkFrame pl >>= rest)
      (moves.flatMap Move.effects ++ [.countedUplink pl])
      ((statsAfter crates moves).countUplink crates pl).2 := by
  have any : History crates (fun _ => True) moves := history.mono fun _ _ => trivial
  have sends : Leads crates D A (sendUplinkFrame pl)
      (moves.flatMap Move.effects ++ [.countedUplink pl])
      ((statsAfter crates moves).countUplink crates pl).2 := by
    refine trySend_leads rfl (any.traced (.taken pl false) countable trivial rfl rfl) ?_ ?_
    · intro β action e allowed offers full
      rcases licensed.refused pl with refused | takes
      · exact history.traced (.taken pl false) countable refused rfl rfl
      · exact absurd (takes β action e allowed _ rfl offers) full
    · refine history.traced (.taken pl true) countable (licensed.published pl) ?_ rfl
      exact List.append_assoc ..
  refine Prog.owns_bind (sends.mono ?_)
  intro result os stats _ traced
  cases result with
  | ok value => exact later os stats traced
  | err message => exact traced.leads
  | panic cause => exact traced.leads

/-- The loop over the frames takes up each that is wanted. -/
theorem forwardFrames_leads (licensed : Licensed D A) {frames : List Gw.UplinkFrame}
    (countable : ∀ pl ∈ frames, Countable pl) (traced : Traced crates A os stats) :
    Leads crates D A (forwardFrames crates conf frames) os stats := by
  induction frames generalizing os stats with
  | nil => exact traced.leads
  | cons pl rest ih =>
      have later : ∀ os stats, Traced crates A os stats →
          Leads crates D A (forwardFrames crates conf rest) os stats :=
        fun _ _ => ih fun other member => countable other (List.mem_cons_of_mem _ member)
      have now := countable pl List.mem_cons_self
      rw [forwardFrames_cons]
      split
      · refine ⟨traced.any, fun e s _ same => ?_⟩
        obtain ⟨moves, history, rfl, rfl⟩ := traced
        have next := sendUplinkFrame_leads licensed history now
          (fun _ => forwardFrames crates conf rest) later
        rw [← same, now.countUplink] at next
        dsimp only
        rw [now.countUplink]
        exact next
      · exact later os stats traced

theorem exported_statsAfter (reads : ReadsBack crates) (moves : List Move) :
    ∃ report, (statsAfter crates moves).exported crates = .ok report := by
  obtain ⟨rx, tx⟩ := audited reads (moves.map Move.call)
  obtain ⟨report, exported, _⟩ := exported_reports reads rx.kept tx.kept
  exact ⟨report, exported⟩

/-- An export that is not on the channel is a move as well. -/
theorem History.unreported {moves : List Move} (history : History crates A moves)
    (allowed : A .unreported) {report : Gw.GatewayStats}
    (exported : (statsAfter crates moves).exported crates = .ok report) :
    Traced crates A (moves.flatMap Move.effects ++ [.exported]) {} := by
  refine history.traced .unreported trivial allowed rfl ?_
  simp only [Account.call, Move.call, Stats.exportStats]
  rw [statsAfter] at exported
  rw [exported]

/-- The channel takes a report of exported counters, or the handler ends. -/
theorem sendGatewayStats_leads (licensed : Licensed D A) {moves : List Move}
    (history : History crates A moves) {report pl : Gw.GatewayStats}
    (exported : (statsAfter crates moves).exported crates = .ok report) (shows : Shows pl report) :
    Leads crates D A (sendGatewayStats pl) (moves.flatMap Move.effects ++ [.exported]) {} := by
  have any : History crates (fun _ => True) moves := history.mono fun _ _ => trivial
  refine trySend_leads rfl (any.unreported trivial exported) ?_ ?_
  · intro β action e allowed offers full
    rcases licensed.unreported with unreported | takes
    · exact history.unreported unreported exported
    · exact absurd ((takes β action e allowed).2 pl _ rfl offers) full
  · refine history.traced (.reported pl) ⟨report, exported, shows⟩ (licensed.reported pl) ?_ ?_
    · exact List.append_assoc ..
    · simp only [Account.call, Move.call, Stats.exportStats]
      rw [statsAfter] at exported
      rw [exported]

/-- After the loop the counters are exported if there is a stat object. -/
theorem forwardStats_leads (reads : ReadsBack crates) (licensed : Licensed D A)
    (gatewayStats : Option Gw.GatewayStats) (traced : Traced crates A os stats) :
    Leads crates D A (forwardStats crates gatewayStats) os stats := by
  cases gatewayStats with
  | none => exact traced.leads
  | some pl =>
      refine ⟨traced.any, fun e s _ same => ?_⟩
      obtain ⟨moves, history, rfl, rfl⟩ := traced
      obtain ⟨report, exported⟩ := exported_statsAfter reads moves
      have any : History crates (fun _ => True) moves := history.mono fun _ _ => trivial
      have exports : s.stats.exportStats crates = (.ok report, {}) := by
        rw [Stats.exportStats, show s.stats = _ from same, exported]
      dsimp only
      rw [exports]
      refine ⟨any.unreported trivial exported, fun e s allowed same => ?_⟩
      dsimp only
      rw [List.filter_nil, List.append_nil, same]
      have failed : (∀ metadata, e.metadata ≠ .ok metadata) → A .unreported := by
        intro failed
        rcases licensed.unreported with unreported | answers
        · exact unreported
        · have asks : Asks fun (e : Env) (s : State) => ⟨e.metadata, s, ([] : List Effect)⟩ :=
            ⟨Env.plain, s, .err "", by simp [Env.plain]⟩
          obtain ⟨metadata, ok⟩ := (answers _ _ e allowed).1 asks
          exact absurd ok (failed metadata)
      cases answer : e.metadata with
      | ok metadata =>
          exact sendGatewayStats_leads licensed history exported ⟨rfl, rfl, rfl, rfl, rfl, rfl, rfl⟩
      | err message => exact (history.unreported (failed (by simp [answer])) exported).leads
      | panic cause => exact (history.unreported (failed (by simp [answer])) exported).leads

theorem Traced.leads_of_leaves (traced : Traced crates A os stats) {p : Task Unit}
    (leaves : p.Guarantees (Prog.Leaves State.stats Effect.ledger)) :
    Leads crates D A p os stats := by
  refine (leaves.owns traced.any).mono ?_
  rintro _ _ _ _ ⟨rfl, rfl⟩
  exact traced

/-- A composition whose first part leaves the statistics alone. -/
theorem Traced.leads_bind (traced : Traced crates A os stats) {α : Type} {p : Task α}
    {rest : α → Task Unit} (leaves : p.Guarantees (Prog.Leaves State.stats Effect.ledger))
    (later : ∀ value, Leads crates D A (rest value) os stats) :
    Leads crates D A (p >>= rest) os stats := by
  refine Prog.owns_bind ((leaves.owns traced.any).mono ?_)
  rintro result _ _ _ ⟨rfl, rfl⟩
  cases result with
  | ok value => exact later value
  | err message => exact traced.leads
  | panic cause => exact traced.leads

theorem forwardPushData_leads (reads : ReadsBack crates) (licensed : Licensed D A) (pl : PushData)
    (traced : Traced crates A os stats) :
    Leads crates D A (forwardPushData crates conf pl) os stats := by
  refine Prog.owns_bind (((toProtoFrames_expands _ _ _).owns (fun _ _ _ _ => trivial)
    traced.any).mono ?_)
  rintro result _ _ _ ⟨rfl, rfl, ⟨frames, rfl, expands⟩ | ⟨message, rfl⟩⟩
  · obtain ⟨gatewayStats, computed⟩ := pl.toProtoGatewayStats_ok
    rw [Prog.done_ok_bind, computed, Prog.lift_eq, Prog.done_ok_bind]
    refine Prog.owns_bind ((forwardFrames_leads licensed expands.countable traced).mono ?_)
    intro result os stats _ traced
    cases result with
    | ok value => exact forwardStats_leads reads licensed gatewayStats traced
    | err message => exact traced.leads
    | panic cause => exact traced.leads
  · exact traced.leads

theorem handlePushData_leads (reads : ReadsBack crates) (licensed : Licensed D A)
    (data : List UInt8) (remote : SocketAddr) (traced : Traced crates A os stats) :
    Leads crates D A (handlePushData crates profile conf data remote) os stats := by
  unfold handlePushData
  cases PushData.fromSlice crates profile data with
  | err message => exact traced.leads
  | panic cause => exact traced.leads
  | ok pl =>
      rw [Prog.lift_eq, Prog.done_ok_bind]
      exact traced.leads_bind (leaves_of_wires (sendTo_wires rfl)) fun _ =>
        forwardPushData_leads reads licensed pl traced

theorem acknowledge_leads (licensed : Licensed D A) (pl : TxAck) (dc : DownlinkCache)
    (traced : Traced crates A os stats) :
    Leads crates D A (acknowledge crates profile pl dc) os stats := by
  rcases Nat.lt_or_ge dc.index dc.ackItems.length with bound | beyond
  · rw [acknowledge_eq crates profile bound]
    split
    · refine ⟨traced.any, fun e s _ same => ?_⟩
      obtain ⟨moves, history, rfl, rfl⟩ := traced
      have settled : Traced crates A
          (moves.flatMap Move.effects ++ [.countedDownlink dc.frame (dc.ack pl)])
          (s.stats.countDownlink crates dc.frame (dc.ack pl)).2 := by
        refine history.traced (.settled dc.frame (dc.ack pl)) trivial (licensed.settled _ _) rfl ?_
        rw [show s.stats = _ from same]
        rfl
      have quiet := (sendTxAck_leaves (dc.ack pl)).owns (D := D) settled.any
      rcases counted : s.stats.countDownlink crates dc.frame (dc.ack pl) with ⟨result, after⟩
      rw [counted] at settled quiet
      dsimp only
      rw [counted]
      cases result with
      | ok value =>
          refine quiet.mono ?_
          rintro _ _ _ _ ⟨rfl, rfl⟩
          exact settled
      | err message => exact settled.leads
      | panic cause => exact settled.leads
    · exact traced.leads_of_leaves (leaves_of_wires (sendDownlinkFrame_wires _ _ _ _ _))
  · rw [acknowledge_of_le crates profile beyond]
    exact traced.leads

theorem handleTxAck_leads (licensed : Licensed D A) (data : List UInt8)
    (traced : Traced crates A os stats) :
    Leads crates D A (handleTxAck crates profile data) os stats := by
  unfold handleTxAck
  cases TxAck.fromSlice crates data with
  | err message => exact traced.leads
  | panic cause => exact traced.leads
  | ok pl =>
      rw [Prog.lift_eq, Prog.done_ok_bind]
      refine traced.leads_bind (leaves_of_wires (getDownlinkCache_wires _)) fun found => ?_
      cases found with
      | none => exact traced.leads
      | some dc => exact acknowledge_leads licensed pl dc traced

theorem pullData_leaves : PullDataActions (Prog.Leaves State.stats Effect.ledger) where
  pullAck := fun _ _ => leaves_of_wires (sendTo_wires rfl)
  setGatewayId := fun _ => Prog.guarantees_atomically fun _ _ => ⟨rfl, rfl⟩
  setPullAddr := fun _ => Prog.guarantees_atomically fun _ _ => ⟨rfl, rfl⟩

/-- Whatever the receive loop receives, it makes allowed moves. -/
theorem receive_leads (reads : ReadsBack crates) (licensed : Licensed D A) (data : List UInt8)
    (remote : SocketAddr) (traced : Traced crates A os stats) :
    Leads crates D A (receive crates profile conf data remote) os stats := by
  unfold receive
  split
  · exact traced.leads
  · exact handlePushData_leads reads licensed data remote traced
  · exact traced.leads_of_leaves (handlePullData_guarantees pullData_leaves data remote)
  · exact handleTxAck_leads licensed data traced
  · exact traced.leads

/-! ## Runs -/

/-- The pools that can be reached when every commanded frame is in `F` and the environment
answers as the discipline says. -/
abbrev ReachableUnder (crates : Crates) (profile : Profile) (conf : Conf)
    (F : Gw.DownlinkFrame → Prop) (D : Discipline Env State Effect) (pool : System) : Prop :=
  Pool.RunUnder (program crates profile conf) (admits F) D (Pool.idle (State.init conf)) pool

variable {F : Gw.DownlinkFrame → Prop} {pool : System}

/-- The receive loop has still to make allowed moves. -/
theorem kept_of_reachableUnder (reads : ReadsBack crates) (licensed : Licensed D A)
    (reachable : ReachableUnder crates profile conf F D pool) :
    Pool.Kept D State.stats Effect.ledger (Traced crates fun _ => True) (Traced crates A) .udp
      pool := by
  refine Pool.Kept.run ?_ ?_ (Pool.kept_idle traced_nil traced_nil) reachable
  · intro r os stats admitted _ traced
    cases r with
    | command pl => exact admitted.elim
    | datagram data remote => exact receive_leads reads licensed data remote traced
  · intro i r other admitted
    cases r with
    | command pl => exact leaves_of_wires (sendDownlinkFrame_wires _ _ _ _ _)
    | datagram data remote =>
        cases i with
        | udp => exact absurd rfl other
        | command n => exact admitted.elim

/-- Between two datagrams the counters and the messages are those of a history of allowed moves. -/
theorem traced_of_reachableUnder (reads : ReadsBack crates) (licensed : Licensed D A)
    (reachable : ReachableUnder crates profile conf F D pool) {result : Outcome Unit}
    (between : pool.threads .udp = .done result) :
    Traced crates A (pool.log.filter Effect.ledger) pool.state.stats :=
  (kept_of_reachableUnder reads licensed reachable).base between

/-- At any time they are those of some history. -/
theorem traced_of_reachable (reads : ReadsBack crates)
    (reachable : Reachable crates profile conf F pool) :
    Traced crates (fun _ => True) (pool.log.filter Effect.ledger) pool.state.stats := by
  have under : ReachableUnder crates profile conf F .free pool :=
    Relation.ReflTransGen.mono (fun _ _ step => Pool.step_iff_stepUnder.mp step) _ _ reachable
  exact (kept_of_reachableUnder reads licensed_free under).holds

end

end MqttForwarder.SemtechUdp
