import MqttForwarder.Metadata.Commands
import MqttForwarder.Statistics.Moves

/-!
# Reports of the statistics

An export empties the counters before the report is on the publish channel.
If the metadata cannot be had, or the channel does not take the report, then
what was counted is lost.  As long as neither happens, the reports on the
channel and the counters contain every uplink that was ever counted.
-/

namespace MqttForwarder.SemtechUdp

open MqttForwarder.Rust MqttForwarder.Serde MqttForwarder.Accounting

/-! ## Periods of the effects -/

def Effect.report? : Effect → Option Gw.GatewayStats
  | .event (.stats pl) => some pl
  | _ => none

section

variable {α : Type} (item : Effect → Option α)

/-- An export closes the books; other effects enter their item. -/
def Effect.posting : Effect → Posting α
  | .exported => .close
  | o => .enter (item o).toList

/-- The items of some effects, divided by the exports. -/
def periods (os : List Effect) : Books α := .keep (os.map (Effect.posting item))

variable {item}

theorem periods_append (first second : List Effect) :
    periods item (first ++ second) =
      (second.map (Effect.posting item)).foldl Books.post (periods item first) := by
  rw [periods, List.map_append, Books.keep_append, periods]

/-- An effect that has no item leaves the books as they are. -/
theorem periods_append_of_none {o : Effect} (none : item o = none) (open' : o ≠ .exported)
    (os : List Effect) : periods item (os ++ [o]) = periods item os := by
  have nothing : Effect.posting item o = .enter [] := by
    cases o with
    | exported => exact absurd rfl open'
    | _ => exact congrArg (fun found => Posting.enter (Option.toList found)) none
  rw [periods_append]
  simp [nothing, Books.post]

theorem all_periods (item : Effect → Option α) (silent : item .exported = none)
    (os : List Effect) : (periods item os).all = os.filterMap item := by
  have entered : ∀ o, (Effect.posting item o).items = (item o).toList := by
    intro o
    cases o with
    | exported => exact (congrArg Option.toList silent).symm
    | _ => rfl
  rw [periods, Books.all_keep, List.flatMap_map, List.filterMap_eq_flatMap_toList]
  exact List.flatMap_congr fun o _ => entered o

/-- Only the effects on the statistics matter. -/
theorem periods_filter (quiet : ∀ o, o.ledger = false → item o = none) (os : List Effect) :
    periods item (os.filter Effect.ledger) = periods item os := by
  induction os using List.reverseRecOn with
  | nil => rfl
  | append_singleton os o ih =>
      cases relevant : o.ledger with
      | false =>
          have open' : o ≠ .exported := by
            rintro rfl
            cases relevant
          rw [periods_append_of_none (quiet o relevant) open', List.filter_append,
            List.filter_singleton, relevant, ← ih]
          exact congrArg _ (List.append_nil _)
      | true =>
          rw [List.filter_append, List.filter_singleton, relevant, periods_append, ih,
            ← periods_append]
          rfl

end

theorem ledger_of_countedUplink {o : Effect} (other : o.ledger = false) :
    o.countedUplink? = none := by
  cases o with
  | countedUplink pl => cases other
  | _ => rfl

/-- The uplinks of the effects, as the books of the moves have them. -/
theorem booksOf_moves (moves : List Move) :
    booksOf .rx (moves.map Move.call) =
      (periods Effect.countedUplink? (moves.flatMap Move.effects)).filterMap uplinkRadio := by
  induction moves using List.reverseRecOn with
  | nil => rfl
  | append_singleton moves move ih =>
      rw [booksOf] at ih ⊢
      rw [List.map_append, List.map_append, Books.keep_append, ih, List.flatMap_append,
        periods_append]
      generalize periods Effect.countedUplink? (moves.flatMap Move.effects) = books
      cases move with
      | taken pl published =>
          have radio : [pl].filterMap uplinkRadio = (uplinkRadio pl).toList := by
            rw [List.filterMap_eq_flatMap_toList, List.flatMap_singleton]
          cases published <;>
            simp [Move.call, Call.posting, Move.effects, Effect.posting, Effect.countedUplink?,
              Books.post, Books.filterMap, radio]
      | _ =>
          simp [Move.call, Call.posting, Move.effects, Effect.posting, Effect.countedUplink?,
            Books.post, Books.filterMap]

/-! ## Reports that are on the channel -/

/-- The report is on the channel whenever counters have been exported for it. -/
def Enqueues : Discipline Env State Effect := fun β action e =>
  Succeeds β action e ∧ ∀ pl, Takes (· = .stats pl) β action e

theorem licensed_enqueues : Licensed Enqueues (· ≠ .unreported) where
  published := fun _ impossible => by cases impossible
  settled := fun _ _ impossible => by cases impossible
  reported := fun _ impossible => by cases impossible
  refused := fun _ => .inl fun impossible => by cases impossible
  unreported := .inr fun _ _ _ allowed => allowed

/-- The frame was received on the frequency. -/
def receivedOn (frequency : UInt32) (pl : Gw.UplinkFrame) : Bool :=
  pl.txInfo.map Gw.UplinkTxInfo.frequency = some frequency

/-- The reports on the channel and the counters contain every uplink that was counted. -/
def NothingLost (pool : System) : Prop :=
  ∀ frequency : UInt32,
    ((pool.log.filterMap Effect.report?).map fun pl =>
        (HashMap.count pl.rxPacketsPerFrequency frequency).toNat).sum +
      (HashMap.count pool.state.stats.rxPerFreqCount frequency).toNat =
    (pool.log.filterMap Effect.countedUplink?).countP (receivedOn frequency)

section

variable {crates : Crates} {profile : Profile} {conf : Conf} {F : Gw.DownlinkFrame → Prop}
  {pool : System}

/-- If every export is reported, the reports on the channel show the exports. -/
theorem History.exports {moves : List Move} (history : History crates (· ≠ .unreported) moves) :
    ∃ reports, (accountOf crates (moves.map Move.call)).exports = reports.map .ok ∧
      List.Forall₂ Shows ((moves.flatMap Move.effects).filterMap Effect.report?) reports := by
  induction history with
  | nil => exact ⟨[], rfl, .nil⟩
  | @snoc before move _ follows allowed ih =>
      obtain ⟨reports, exports, shown⟩ := ih
      have account : accountOf crates ((before ++ [move]).map Move.call) =
          (accountOf crates (before.map Move.call)).call crates move.call := by
        simp [accountOf]
      rw [account, List.flatMap_append, List.filterMap_append, List.flatMap_singleton]
      cases move with
      | taken pl published =>
          have none : (Move.taken pl published).effects.filterMap Effect.report? = [] := by
            cases published <;> rfl
          rw [none, List.append_nil]
          exact ⟨reports, exports, shown⟩
      | settled pl ack => exact ⟨reports, exports, (List.append_nil _).symm ▸ shown⟩
      | reported pl =>
          obtain ⟨report, exported, shows⟩ := follows
          refine ⟨reports ++ [report], ?_, List.rel_append shown (.cons shows .nil)⟩
          rw [statsAfter] at exported
          simp only [Account.call, Move.call, Stats.exportStats, exported, exports]
          simp
      | unreported => exact absurd rfl allowed

/-- An uplink on the frequency is one with such a radio. -/
theorem countP_uplinkRadio {frames : List Gw.UplinkFrame} (countable : ∀ pl ∈ frames, Countable pl)
    (frequency : UInt32) :
    (frames.filterMap uplinkRadio).countP (fun radio => decide (radio.frequency = frequency)) =
      frames.countP (receivedOn frequency) := by
  rw [List.countP_filterMap]
  refine List.countP_congr fun pl member => ?_
  obtain ⟨own, modulation, info⟩ := countable pl member
  simp [receivedOn, uplinkRadio, radioOf, info]

theorem map_perFrequency_of_shows {published reports : List Gw.GatewayStats}
    (shown : List.Forall₂ Shows published reports) (frequency : UInt32) :
    (published.map fun pl => (HashMap.count pl.rxPacketsPerFrequency frequency).toNat) =
      reports.map fun pl => (HashMap.count pl.rxPacketsPerFrequency frequency).toNat := by
  induction shown with
  | nil => rfl
  | cons shows _ ih => rw [List.map_cons, List.map_cons, shows.rxPacketsPerFrequency, ih]

theorem filterMap_filter_ledger {α : Type} {item : Effect → Option α}
    (quiet : ∀ o, o.ledger = false → item o = none) (os : List Effect) :
    (os.filter Effect.ledger).filterMap item = os.filterMap item := by
  rw [List.filterMap_filter]
  refine List.filterMap_congr fun o _ => ?_
  cases relevant : o.ledger with
  | true => rfl
  | false => simpa using (quiet o relevant).symm

theorem ledger_of_report {o : Effect} (other : o.ledger = false) : o.report? = none := by
  cases o with
  | event message => cases message <;> first | rfl | cases other
  | _ => rfl

/-- As long as every export is reported, no statistics are lost. -/
theorem nothingLost_of_enqueues (reads : ReadsBack crates)
    (reachable : ReachableUnder crates profile conf F Enqueues pool) {result : Outcome Unit}
    (between : pool.threads .udp = .done result)
    (within : (periods Effect.countedUplink? pool.log).Within (2 ^ 32)) : NothingLost pool := by
  obtain ⟨moves, history, effects, counters⟩ :=
    traced_of_reachableUnder reads licensed_enqueues reachable between
  obtain ⟨reports, exports, shown⟩ := history.exports
  have uplinks : pool.log.filterMap Effect.countedUplink? =
      (moves.flatMap Move.effects).filterMap Effect.countedUplink? := by
    rw [← effects, filterMap_filter_ledger fun _ => ledger_of_countedUplink]
  have enqueued : pool.log.filterMap Effect.report? =
      (moves.flatMap Move.effects).filterMap Effect.report? := by
    rw [← effects, filterMap_filter_ledger fun _ => ledger_of_report]
  have books : booksOf .rx (moves.map Move.call) =
      (periods Effect.countedUplink? pool.log).filterMap uplinkRadio := by
    rw [booksOf_moves, ← effects, periods_filter fun _ => ledger_of_countedUplink]
  have agreement := (audited reads (moves.map Move.call)).1
  rw [books] at agreement
  have conserved := agreement.conserved reads (within.filterMap _) exports
  intro frequency
  have law := conserved.perFrequency frequency
  rw [Books.all_filterMap, all_periods Effect.countedUplink? rfl] at law
  rw [← countP_uplinkRadio (uplinks ▸ history.countable), ← law, counters, enqueued]
  rw [map_perFrequency_of_shows shown]
  rfl

end

/-! ## What a report shows as received -/

/-- The frame has passed its CRC. -/
def crcOk (pl : Gw.UplinkFrame) : Bool :=
  pl.rxInfo.any fun rxInfo => rxInfo.getCrcStatus = .crcOk

section

variable {crates : Crates} {profile : Profile} {conf : Conf} {F : Gw.DownlinkFrame → Prop}
  {pool : System}

theorem move_of_report {move : Move} {first last : List Effect} {pl : Gw.GatewayStats}
    (same : move.effects = first ++ .event (.stats pl) :: last) :
    move = .reported pl ∧ first = [.exported] := by
  cases move with
  | taken own published =>
      cases published <;> rcases first with _ | ⟨o, _ | ⟨o', first⟩⟩ <;> simp [Move.effects] at same
  | settled own ack => rcases first with _ | ⟨o, first⟩ <;> simp [Move.effects] at same
  | reported own =>
      rcases first with _ | ⟨o, _ | ⟨o', first⟩⟩
      · simp [Move.effects] at same
      · simp only [Move.effects, List.cons_append, List.nil_append, List.cons.injEq,
          Effect.event.injEq, MqttMessage.stats.injEq] at same
        obtain ⟨rfl, rfl, _⟩ := same
        exact ⟨rfl, rfl⟩
      · simp [Move.effects] at same
  | unreported => rcases first with _ | ⟨o, first⟩ <;> simp [Move.effects] at same

/-- A report on the channel was made by a move, right after an export. -/
theorem moves_of_report {moves : List Move} {first last : List Effect} {pl : Gw.GatewayStats}
    (same : moves.flatMap Move.effects = first ++ .event (.stats pl) :: last) :
    ∃ before after, moves = before ++ .reported pl :: after ∧
      first = before.flatMap Move.effects ++ [.exported] := by
  induction moves generalizing first with
  | nil => simp at same
  | cons move rest ih =>
      have later : ∀ first', rest.flatMap Move.effects = first' ++ .event (.stats pl) :: last →
          first = move.effects ++ first' → ∃ before after,
            move :: rest = before ++ .reported pl :: after ∧
              first = before.flatMap Move.effects ++ [.exported] := by
        rintro first' others rfl
        obtain ⟨before, after, rfl, rfl⟩ := ih others
        exact ⟨move :: before, after, rfl, by simp⟩
      rw [List.flatMap_cons] at same
      rcases List.append_eq_append_iff.mp same with
        ⟨first', begins, others⟩ | ⟨own, begins, others⟩
      · exact later first' others begins
      · rcases own with _ | ⟨o, own⟩
        · exact later [] others.symm (by rw [begins, List.append_nil, List.append_nil])
        · obtain ⟨rfl, _⟩ := List.cons.inj others
          obtain ⟨rfl, rfl⟩ := move_of_report begins
          exact ⟨[], rest, rfl, rfl⟩

/-- What has been published since the last export is part of what has been counted since. -/
theorem published_sublist (moves : List Move) :
    List.Sublist (periods Effect.up? (moves.flatMap Move.effects)).current
      (periods Effect.countedUplink? (moves.flatMap Move.effects)).current := by
  induction moves using List.reverseRecOn with
  | nil => exact .slnil
  | append_singleton moves move ih =>
      rw [List.flatMap_append, List.flatMap_singleton, periods_append, periods_append]
      generalize periods Effect.up? (moves.flatMap Move.effects) = published at ih ⊢
      generalize periods Effect.countedUplink? (moves.flatMap Move.effects) = counted at ih ⊢
      cases move with
      | taken pl published =>
          cases published with
          | true => simpa [Move.effects, Effect.posting, Effect.up?, Effect.countedUplink?,
              Books.post] using ih
          | false =>
              simpa [Move.effects, Effect.posting, Effect.up?, Effect.countedUplink?, Books.post]
                using ih.trans (List.sublist_append_left _ _)
      | settled pl ack =>
          simpa [Move.effects, Effect.posting, Effect.up?, Effect.countedUplink?, Books.post]
            using ih
      | reported pl =>
          simp [Move.effects, Effect.posting, Effect.up?, Effect.countedUplink?, Books.post]
      | unreported =>
          simp [Move.effects, Effect.posting, Books.post]

theorem length_filterMap_uplinkRadio {frames : List Gw.UplinkFrame}
    (countable : ∀ pl ∈ frames, Countable pl) :
    (frames.filterMap uplinkRadio).length = frames.length := by
  rw [List.length_filterMap_eq_countP, List.countP_eq_length]
  intro pl member
  obtain ⟨frequency, modulation, info⟩ := countable pl member
  simp [uplinkRadio, radioOf, info]

/-- A report shows as received what has been counted since the last export. -/
theorem History.received {A : Move → Prop} {moves : List Move} (history : History crates A moves)
    (reads : ReadsBack crates) {pl : Gw.GatewayStats}
    (follows : Follows crates moves (.reported pl)) :
    pl.rxPacketsReceivedOk =
      UInt32.ofNat (periods Effect.countedUplink? (moves.flatMap Move.effects)).current.length := by
  obtain ⟨report, exported, shows⟩ := follows
  obtain ⟨rx, tx⟩ := audited reads (moves.map Move.call)
  obtain ⟨same, exported', received, _⟩ := exported_reports reads rx.kept tx.kept
  obtain rfl : same = report := Outcome.ok.inj (exported'.symm.trans exported)
  have countable : ∀ pl ∈ (periods Effect.countedUplink? (moves.flatMap Move.effects)).current,
      Countable pl := by
    intro pl member
    apply history.countable
    rw [← all_periods Effect.countedUplink? rfl]
    exact List.mem_append_right _ member
  rw [shows.rxPacketsReceivedOk, ← length_filterMap_uplinkRadio countable]
  have total := received.total
  rw [booksOf_moves] at total
  exact total

theorem ledger_of_up {o : Effect} (other : o.ledger = false) : o.up? = none := by
  cases o with
  | event message => cases message <;> first | rfl | cases other
  | _ => rfl

/-- The frames of the last period that was closed. -/
theorem getLast_periods_exported {α : Type} (item : Effect → Option α) (os : List Effect) :
    (periods item (os ++ [.exported])).closed.getLast? = some (periods item os).current := by
  rw [periods_append]
  simp [Effect.posting, Books.post]

theorem countP_eq_length_iff {frames counted : List Gw.UplinkFrame} {p : Gw.UplinkFrame → Bool}
    (part : frames.Sublist counted) :
    counted.length = frames.countP p ↔ frames = counted ∧ ∀ pl ∈ counted, p pl = true := by
  constructor
  · intro same
    have bound := List.countP_le_length (p := p) (l := frames)
    obtain rfl := part.eq_of_length (by have := part.length_le; omega)
    exact ⟨rfl, List.countP_eq_length.mp same.symm⟩
  · rintro ⟨rfl, all⟩
    exact (List.countP_eq_length.mpr all).symm

/-- What a report on the channel shows as received with a valid CRC is the number of such frames
that were forwarded since the export before, exactly if every frame counted since then was
forwarded and has a valid CRC. -/
theorem reported_received_ok_iff (reads : ReadsBack crates)
    (reachable : Reachable crates profile conf F pool) {before after : List Effect}
    {pl : Gw.GatewayStats} (published : pool.log = before ++ .event (.stats pl) :: after) :
    ∃ counted forwarded,
      (periods Effect.countedUplink? before).closed.getLast? = some counted ∧
      (periods Effect.up? before).closed.getLast? = some forwarded ∧
      (counted.length < 2 ^ 32 →
        (pl.rxPacketsReceivedOk.toNat = forwarded.countP crcOk ↔
          forwarded = counted ∧ ∀ uf ∈ counted, crcOk uf = true)) := by
  obtain ⟨moves, history, effects, _⟩ := traced_of_reachable reads reachable
  rw [published, List.filter_append, List.filter_cons_of_pos rfl] at effects
  obtain ⟨earlier, later, rfl, first⟩ := moves_of_report effects.symm
  refine ⟨(periods Effect.countedUplink? (earlier.flatMap Move.effects)).current,
    (periods Effect.up? (earlier.flatMap Move.effects)).current, ?_, ?_, fun few => ?_⟩
  · rw [← periods_filter fun _ => ledger_of_countedUplink, first, getLast_periods_exported]
  · rw [← periods_filter fun _ => ledger_of_up, first, getLast_periods_exported]
  · rw [history.before.received reads history.follows, toNat_ofNat_of_le le_rfl few]
    exact countP_eq_length_iff (published_sublist earlier)

end

/-! ## A datagram with an uplink and statistics -/

/-- The text of an object and of the statistics. -/
@[irreducible] def reportText : List UInt8 :=
  ascii "\x7b\"tmst\":1,\"freq\":868,\"stat\":-1,\"modu\":\"Fsk\",\"datr\":50000,\"size\":1," ++
    ascii "\"data\":\"AA==\"\x7d],\"stat\":\x7b\"time\":\"2014-01-12 08:59:28 GMT\"," ++
    ascii "\"rxnb\":1,\"rxok\":0,\"rxfw\":1,\"ackr\":100,\"dwnb\":0,\"txnb\":0\x7d\x7d"

def oneUplinkText : List UInt8 := ascii "\x7b\"rxpk\":[" ++ reportText

/-- Crates that give what that text says. -/
def oneUplink : Crates :=
  let nat (value : UInt64) : Json := .number (.posInt value)
  { Crates.reporting with
    readJson := fun _ =>
      ⟨.object [
        ("rxpk", .array [.object [("tmst", nat 1), ("freq", nat 868),
          ("stat", .number (.negInt (-1))), ("modu", jsonStr "Fsk"), ("datr", nat 50000),
          ("size", nat 1), ("data", jsonStr "AA==")]]),
        ("stat", .object [("time", jsonStr "2014-01-12 08:59:28 GMT"), ("rxnb", nat 1),
          ("rxok", nat 0), ("rxfw", nat 1), ("ackr", nat 100), ("dwnb", nat 0),
          ("txnb", nat 0)])], false⟩
    base64Decode := fun _ => some [0]
    parseExpandedTime := fun _ => some ⟨1389517168, 0⟩ }

theorem oneUplink_reads : ReadsBack oneUplink := fun modulation => reporting_reads modulation

def oneUplinkDatagram : List UInt8 :=
  [protocolVersion, 0, 0, 0x00] ++ [0, 0, 0, 0, 0, 0, 0, 1] ++ oneUplinkText

def oneUplinkConf : Conf := { forwardCrcInvalid := true }

/-- A frame with a failed CRC. -/
def oneUplinkRxPk : RxPk where
  tmst := 1
  freq := (868 : UInt64).toFloat
  stat := .invalid
  modu := .fsk
  datr := .fsk 50000
  size := 1
  data := [0]

def oneUplinkStat : Stat where
  time := ⟨1389517168, 0⟩
  rxnb := 1
  rxok := 0
  rxfw := 1
  ackr := (100 : UInt64).toFloat32
  dwnb := 0
  txnb := 0

def oneUplinkPushData : PushData where
  randomToken := 0
  gatewayId := [0, 0, 0, 0, 0, 0, 0, 1]
  payload := { rxpk := [oneUplinkRxPk], stat := some oneUplinkStat }

theorem oneUplink_parsed :
    PushData.fromSlice oneUplink .release oneUplinkDatagram = .ok oneUplinkPushData := by
  have long : 2 ≤ oneUplinkText.length := by
    have start : 2 ≤ (ascii "\x7b\"rxpk\":[").length := by decide
    rw [oneUplinkText, List.length_append]
    omega
  rw [oneUplinkDatagram, PushData.fromSlice_layout rfl long]
  rfl

/-- The frame that the object becomes. -/
def oneUplinkFrame : Gw.UplinkFrame :=
  oneUplinkRxPk.frame [0, 0, 0, 0, 0, 0, 0, 1] 0 (.fsk { datarate := 50000 }) none

def gatewayAddr : SocketAddr := ⟨[127, 0, 0, 1], 1700⟩

/-- One command gives metadata. -/
def thermometer : Config.Metadata where
  commands := (∅ : HashMap String (List String)).insert "temperature" ["thermometer"]

/-- The metadata when the program of the command is missing. -/
def thermometerMissing : Outcome (HashMap String String) :=
  Metadata.get (fun _ _ => .error "No such file or directory (os error 2)") thermometer
    thermometer.commands.entries

theorem oneUplink_failed :
    (receive oneUplink .release oneUplinkConf oneUplinkDatagram gatewayAddr).Exec
      (· = { Env.plain with metadata := thermometerMissing }) (State.init oneUplinkConf)
      [.pushAck [2, 0, 0, 1] gatewayAddr, .countedUplink oneUplinkFrame,
        .event (.up oneUplinkFrame), .exported]
      (State.init oneUplinkConf) (.err "No such file or directory (os error 2)") := by
  have handled : receive oneUplink .release oneUplinkConf oneUplinkDatagram gatewayAddr =
      handlePushData oneUplink .release oneUplinkConf oneUplinkDatagram gatewayAddr := rfl
  rw [handled, handlePushData, oneUplink_parsed, Prog.lift_eq, Prog.done_ok_bind]
  refine ⟨_, rfl, _, rfl, ?_⟩
  refine ⟨_, rfl, _, rfl, ?_⟩
  refine ⟨_, rfl, _, rfl, ?_⟩
  refine ⟨_, rfl, _, rfl, ?_⟩
  refine ⟨_, rfl, _, rfl, ?_⟩
  refine ⟨_, rfl, _, rfl, ?_⟩
  exact ⟨rfl, rfl, rfl⟩

theorem oneUplink_reported :
    ∃ report, (receive oneUplink .release oneUplinkConf oneUplinkDatagram gatewayAddr).Exec
        (· = Env.plain) (State.init oneUplinkConf)
        [.pushAck [2, 0, 0, 1] gatewayAddr, .countedUplink oneUplinkFrame,
          .event (.up oneUplinkFrame), .exported, .event (.stats report)]
        (State.init oneUplinkConf) (.ok ()) ∧
      report.rxPacketsReceivedOk = 1 := by
  have handled : receive oneUplink .release oneUplinkConf oneUplinkDatagram gatewayAddr =
      handlePushData oneUplink .release oneUplinkConf oneUplinkDatagram gatewayAddr := rfl
  rw [handled, handlePushData, oneUplink_parsed, Prog.lift_eq, Prog.done_ok_bind]
  apply Exists.intro
  constructor
  · refine ⟨_, rfl, _, rfl, ?_⟩
    refine ⟨_, rfl, _, rfl, ?_⟩
    refine ⟨_, rfl, _, rfl, ?_⟩
    refine ⟨_, rfl, _, rfl, ?_⟩
    refine ⟨_, rfl, _, rfl, ?_⟩
    refine ⟨_, rfl, _, rfl, ?_⟩
    refine ⟨_, rfl, _, rfl, ?_⟩
    exact ⟨rfl, rfl, rfl⟩
  · rfl

/-- A pool that has received the datagram. -/
theorem oneUplink_reachable {D : Discipline Env State Effect} {E : Env → Prop}
    (answers : ∀ β action e, E e → D β action e) {os : List Effect} {s : State}
    {result : Outcome Unit}
    (exec : (receive oneUplink .release oneUplinkConf oneUplinkDatagram gatewayAddr).Exec E
      (State.init oneUplinkConf) os s result) :
    ∃ pool, ReachableUnder oneUplink .release oneUplinkConf (fun _ => True) D pool ∧
      pool.state = s ∧ pool.log = os ∧ pool.threads .udp = .done result := by
  have free : ((Pool.idle (State.init oneUplinkConf) : System).threads .udp).Finished := trivial
  have admitted : admits (fun _ => True) .udp (.datagram oneUplinkDatagram gatewayAddr) := trivial
  exact Pool.runUnder_of_request answers free admitted exec

theorem nothingLost_one_uplink :
    ∃ pool, ReachableUnder oneUplink .release oneUplinkConf (fun _ => True) Enqueues pool ∧
      (pool.log.filterMap Effect.report?).length = 1 ∧ NothingLost pool := by
  obtain ⟨report, exec, _⟩ := oneUplink_reported
  have answers : ∀ β action e, e = Env.plain → Enqueues β action e := by
    rintro β action e rfl
    exact ⟨fun _ => ⟨_, rfl⟩, fun _ _ _ _ => rfl⟩
  obtain ⟨pool, run, _, log, returned⟩ := oneUplink_reachable answers exec
  have books : periods Effect.countedUplink? pool.log = ⟨[[oneUplinkFrame]], []⟩ := by
    rw [log]
    rfl
  refine ⟨pool, run, by rw [log]; rfl, ?_⟩
  exact nothingLost_of_enqueues oneUplink_reads run returned
    (by rw [books]; exact ⟨by simp, by simp⟩)

/-- If the metadata command cannot be started, the uplink is neither in a report nor in the
counters. -/
theorem report_loses_uplink :
    ¬ ∀ (crates : Crates) (profile : Profile) (conf : Conf) (F : Gw.DownlinkFrame → Prop)
      (pool : System) (result : Outcome Unit), ReadsBack crates →
      ReachableUnder crates profile conf F .free pool → pool.threads .udp = .done result →
      (periods Effect.countedUplink? pool.log).Within (2 ^ 32) → NothingLost pool := by
  intro conserved
  obtain ⟨pool, run, state, log, returned⟩ :=
    oneUplink_reachable (D := .free) (fun _ _ _ _ => trivial) oneUplink_failed
  have books : periods Effect.countedUplink? pool.log = ⟨[[oneUplinkFrame]], []⟩ := by
    rw [log]
    rfl
  have reports : pool.log.filterMap Effect.report? = [] := by
    rw [log]
    rfl
  have uplinks : pool.log.filterMap Effect.countedUplink? = [oneUplinkFrame] := by
    rw [log]
    rfl
  have one : [oneUplinkFrame].countP
      (receivedOn (oneUplinkRxPk.freq * 1000000).toUInt32) = 1 :=
    List.countP_cons_of_pos (decide_eq_true rfl)
  have law := conserved oneUplink .release oneUplinkConf (fun _ => True) pool _ oneUplink_reads run
    returned (by rw [books]; exact ⟨by simp, by simp⟩) (oneUplinkRxPk.freq * 1000000).toUInt32
  rw [reports, uplinks, state, one] at law
  exact absurd law (by decide)

/-- A pool whose report counts a frame with a failed CRC. -/
theorem oneUplink_reachable_reported :
    ∃ (pool : System) (report : Gw.GatewayStats),
      Reachable oneUplink .release oneUplinkConf (fun _ => True) pool ∧
      pool.log = [.pushAck [2, 0, 0, 1] gatewayAddr, .countedUplink oneUplinkFrame,
        .event (.up oneUplinkFrame), .exported] ++ .event (.stats report) :: [] ∧
      report.rxPacketsReceivedOk = 1 := by
  obtain ⟨report, exec, shown⟩ := oneUplink_reported
  obtain ⟨pool, run, _, log, _⟩ :=
    oneUplink_reachable (D := .free) (fun _ _ _ _ => trivial) exec
  refine ⟨pool, report, ?_, log, shown⟩
  exact Relation.ReflTransGen.mono (fun _ _ step => Pool.step_iff_stepUnder.mpr step) _ _ run

theorem reported_received_ok_iff_one_uplink :
    ∃ (pool : System) (before after : List Effect) (pl : Gw.GatewayStats),
      pool.log = before ++ .event (.stats pl) :: after ∧
      ∃ counted forwarded,
        (periods Effect.countedUplink? before).closed.getLast? = some counted ∧
        (periods Effect.up? before).closed.getLast? = some forwarded ∧
        (counted.length < 2 ^ 32 →
          (pl.rxPacketsReceivedOk.toNat = forwarded.countP crcOk ↔
            forwarded = counted ∧ ∀ uf ∈ counted, crcOk uf = true)) := by
  obtain ⟨pool, report, reachable, log, _⟩ := oneUplink_reachable_reported
  exact ⟨pool, _, _, report, log, reported_received_ok_iff oneUplink_reads reachable log⟩

/-- With `forward_crc_invalid` a report shows a frame with a failed CRC as received with a
valid one. -/
theorem report_counts_bad_crc :
    ¬ ∀ (crates : Crates) (profile : Profile) (conf : Conf) (F : Gw.DownlinkFrame → Prop)
      (pool : System), ReadsBack crates → Reachable crates profile conf F pool →
      ∀ (before after : List Effect) (pl : Gw.GatewayStats) (forwarded : List Gw.UplinkFrame),
        pool.log = before ++ .event (.stats pl) :: after →
        (periods Effect.up? before).closed.getLast? = some forwarded →
        pl.rxPacketsReceivedOk.toNat = forwarded.countP crcOk := by
  intro onlyValid
  obtain ⟨pool, report, reachable, log, shown⟩ := oneUplink_reachable_reported
  have law := onlyValid oneUplink .release oneUplinkConf (fun _ => True) pool oneUplink_reads
    reachable _ _ report [oneUplinkFrame] log rfl
  rw [shown] at law
  exact absurd law (by decide)

end MqttForwarder.SemtechUdp
