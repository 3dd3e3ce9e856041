import MqttForwarder.Accounting.Books
import MqttForwarder.SemtechUdp.Stats

/-!
# The statistics ledger

For any sequence of the three operations on `Stats`, the counters are a tally
of what has been counted since the last export, and the exports report what
was counted in the periods between them.  Nothing that was counted is missing
from the exports and the counters together, or counted in two of them.
-/

namespace MqttForwarder.SemtechUdp

open MqttForwarder.Rust MqttForwarder.Accounting

/-! ## What is counted -/

/-- A frame as it is counted. -/
structure Radio where
  frequency : UInt32
  modulation : Gw.Modulation
  deriving DecidableEq

def radioOf (frequency : UInt32) (modulation : Option Gw.Modulation) : Option Radio :=
  modulation.map fun modulation => { frequency, modulation }

def uplinkRadio (pl : Gw.UplinkFrame) : Option Radio :=
  pl.txInfo.bind fun txInfo => radioOf txInfo.frequency txInfo.modulation

def downlinkRadio (item : Gw.DownlinkFrameItem) : Option Radio :=
  item.txInfo.bind fun txInfo => radioOf txInfo.frequency txInfo.modulation

/-- The items of a downlink that were sent, up to one that cannot be counted. -/
def sentRadios (pl : Gw.DownlinkFrame) : Nat → List Gw.DownlinkTxAckItem → List Radio
  | _, [] => []
  | i, v :: rest =>
      if v.getStatus = .ok then
        match pl.items[i]? with
        | some item =>
            match downlinkRadio item with
            | some radio => radio :: sentRadios pl (i + 1) rest
            | none => []
        | none => sentRadios pl (i + 1) rest
      else sentRadios pl (i + 1) rest

/-- An operation on the statistics. -/
inductive Call where
  | countUplink (pl : Gw.UplinkFrame)
  | countDownlink (pl : Gw.DownlinkFrame) (ack : Gw.DownlinkTxAck)
  | exportStats

inductive Direction where
  | rx
  | tx
  deriving DecidableEq, Repr

/-- What the operation does to the books of one direction. -/
def Call.posting : Direction → Call → Posting Radio
  | .rx, .countUplink pl => .enter (uplinkRadio pl).toList
  | .tx, .countDownlink pl ack => .enter (sentRadios pl 0 ack.items)
  | _, .exportStats => .close
  | _, _ => .enter []

/-- The books of one direction. -/
def booksOf (direction : Direction) (calls : List Call) : Books Radio :=
  .keep (calls.map (Call.posting direction))

/-- The frames that have ever been counted. -/
def counted (direction : Direction) (calls : List Call) : List Radio :=
  calls.flatMap fun call => (call.posting direction).items

/-! ## What the operations leave -/

/-- The counters, and the results of the exports so far. -/
structure Account where
  stats : Stats := {}
  exports : List (Outcome Gw.GatewayStats) := []

section

variable (crates : Crates)

def Account.call (account : Account) : Call → Account
  | .countUplink pl => { account with stats := (account.stats.countUplink crates pl).2 }
  | .countDownlink pl ack => { account with stats := (account.stats.countDownlink crates pl ack).2 }
  | .exportStats =>
      let (result, stats) := account.stats.exportStats crates
      { stats, exports := account.exports ++ [result] }

/-- The account of a sequence of operations on empty statistics. -/
def accountOf (calls : List Call) : Account := calls.foldl (Account.call crates) {}

end

namespace Direction

def counter (stats : Stats) : Direction → UInt32
  | rx => stats.rxCount
  | tx => stats.txCount

def perFreqCount (stats : Stats) : Direction → HashMap UInt32 UInt32
  | rx => stats.rxPerFreqCount
  | tx => stats.txPerFreqCount

def perModulationCount (stats : Stats) : Direction → HashMap (List UInt8) UInt32
  | rx => stats.rxPerModulationCount
  | tx => stats.txPerModulationCount

/-- One more frame on a frequency with an encoded modulation. -/
def enter (stats : Stats) (frequency : UInt32) (b : List UInt8) : Direction → Stats
  | rx => stats.received frequency b
  | tx => stats.emitted frequency b

def reportedTotal (report : Gw.GatewayStats) : Direction → UInt32
  | rx => report.rxPacketsReceivedOk
  | tx => report.txPacketsEmitted

def reportedPerFrequency (report : Gw.GatewayStats) : Direction → HashMap UInt32 UInt32
  | rx => report.rxPacketsPerFrequency
  | tx => report.txPacketsPerFrequency

def reportedPerModulation (report : Gw.GatewayStats) : Direction → List Gw.PerModulationCount
  | rx => report.rxPacketsPerModulation
  | tx => report.txPacketsPerModulation

end Direction

/-- The counters of one direction are a tally of the period. -/
structure Kept (crates : Crates) (direction : Direction) (stats : Stats)
    (period : List Radio) : Prop where
  counter : direction.counter stats = UInt32.ofNat period.length
  perFreq : Tallies (direction.perFreqCount stats) (period.map Radio.frequency)
  perModulation : Tallies (direction.perModulationCount stats)
    (period.map fun radio => crates.encodeModulation radio.modulation)

/-- The list names each of the modulations once, with its count. -/
structure Enumerates (counts : List Gw.PerModulationCount) (modulations : List Gw.Modulation) :
    Prop where
  nodup : (counts.map Gw.PerModulationCount.modulation).Nodup
  mem_iff : ∀ entry, entry ∈ counts ↔ ∃ modulation ∈ modulations,
    entry = { count := UInt32.ofNat (modulations.count modulation), modulation := some modulation }

/-- The report says what was counted in the period, in one direction. -/
structure Reports (direction : Direction) (report : Gw.GatewayStats) (period : List Radio) :
    Prop where
  total : direction.reportedTotal report = UInt32.ofNat period.length
  perFrequency : Tallies (direction.reportedPerFrequency report) (period.map Radio.frequency)
  perModulation : Enumerates (direction.reportedPerModulation report)
    (period.map Radio.modulation)

/-- The account agrees with the books of one direction. -/
structure Audited (crates : Crates) (direction : Direction) (account : Account)
    (books : Books Radio) : Prop where
  kept : Kept crates direction account.stats books.current
  reported : List.Forall₂ (fun result period => ∃ report, result = .ok report ∧
    Reports direction report period) account.exports books.closed

/-! ## Counting -/

section

variable {crates : Crates} {direction : Direction} {stats : Stats} {period : List Radio}

theorem kept_empty (direction : Direction) : Kept crates direction {} [] := by
  cases direction <;> exact ⟨rfl, tallies_empty, tallies_empty⟩

theorem ofNat_length_append (period : List Radio) (radio : Radio) :
    UInt32.ofNat period.length + 1 = UInt32.ofNat (period ++ [radio]).length := by
  rw [List.length_append, UInt32.ofNat_add]
  rfl

theorem Kept.enter (kept : Kept crates direction stats period) (radio : Radio) :
    Kept crates direction
      (direction.enter stats radio.frequency (crates.encodeModulation radio.modulation))
      (period ++ [radio]) := by
  have perFreq := kept.perFreq.bump radio.frequency
  have perModulation := kept.perModulation.bump (crates.encodeModulation radio.modulation)
  have counter : direction.counter stats + 1 = UInt32.ofNat (period ++ [radio]).length := by
    rw [kept.counter, ofNat_length_append]
  cases direction with
  | rx => exact ⟨counter, by rw [List.map_append]; exact perFreq,
      by rw [List.map_append]; exact perModulation⟩
  | tx => exact ⟨counter, by rw [List.map_append]; exact perFreq,
      by rw [List.map_append]; exact perModulation⟩

/-- The counters of the other direction are left alone. -/
theorem Kept.enter_of_ne (kept : Kept crates direction stats period) (other : Direction)
    (apart : other ≠ direction) (frequency : UInt32) (b : List UInt8) :
    Kept crates direction (other.enter stats frequency b) period := by
  cases direction <;> cases other
  · exact absurd rfl apart
  · exact ⟨kept.counter, kept.perFreq, kept.perModulation⟩
  · exact ⟨kept.counter, kept.perFreq, kept.perModulation⟩
  · exact absurd rfl apart

/-- A status of a downlink item is not counted in either direction. -/
theorem Kept.answered (kept : Kept crates direction stats period) (status : Gw.TxAckStatus) :
    Kept crates direction (stats.answered status) period := by
  cases direction <;> exact ⟨kept.counter, kept.perFreq, kept.perModulation⟩

variable (crates) in
theorem uplinkKeys_eq (pl : Gw.UplinkFrame) :
    (∃ message, uplinkRadio pl = none ∧ Stats.uplinkKeys crates pl = .err message) ∨
      ∃ radio, uplinkRadio pl = some radio ∧ Stats.uplinkKeys crates pl =
        .ok (radio.frequency, crates.encodeModulation radio.modulation) := by
  unfold uplinkRadio Stats.uplinkKeys
  rcases pl.txInfo with _ | ⟨frequency, _ | modulation⟩
  · exact .inl ⟨_, rfl, rfl⟩
  · exact .inl ⟨_, rfl, rfl⟩
  · exact .inr ⟨⟨frequency, modulation⟩, rfl, rfl⟩

variable (crates) in
theorem downlinkKeys_eq {pl : Gw.DownlinkFrame} {i : Nat} {item : Gw.DownlinkFrameItem}
    (found : pl.items[i]? = some item) :
    (∃ message, downlinkRadio item = none ∧ Stats.downlinkKeys crates pl i = .err message) ∨
      ∃ radio, downlinkRadio item = some radio ∧ Stats.downlinkKeys crates pl i =
        .ok (radio.frequency, crates.encodeModulation radio.modulation) := by
  unfold downlinkRadio Stats.downlinkKeys
  rw [found]
  rcases item with ⟨phyPayload, _ | ⟨frequency, power, _ | modulation, board, antenna, timing⟩⟩
  · exact .inl ⟨_, rfl, rfl⟩
  · exact .inl ⟨_, rfl, rfl⟩
  · exact .inr ⟨⟨frequency, modulation⟩, rfl, rfl⟩

theorem Kept.countUplink (kept : Kept crates .rx stats period) (pl : Gw.UplinkFrame) :
    Kept crates .rx (stats.countUplink crates pl).2 (period ++ (uplinkRadio pl).toList) := by
  unfold Stats.countUplink
  rcases uplinkKeys_eq crates pl with ⟨message, none, failed⟩ | ⟨radio, some, found⟩
  · rw [none, failed, Option.toList_none, List.append_nil]
    exact kept
  · rw [some, found]
    exact kept.enter radio

theorem countUplink_kept_tx (kept : Kept crates .tx stats period) (pl : Gw.UplinkFrame) :
    Kept crates .tx (stats.countUplink crates pl).2 period := by
  unfold Stats.countUplink
  split
  · exact kept.enter_of_ne .rx (by decide) _ _
  · exact kept
  · exact kept

/-- One turn of the loop: it counts the item, leaves the loop, or passes over the item. -/
theorem Kept.countItem (kept : Kept crates .tx stats period) (pl : Gw.DownlinkFrame) (i : Nat)
    (v : Gw.DownlinkTxAckItem) (rest : List Gw.DownlinkTxAckItem) :
    (∃ after passed, stats.countItem crates pl i v = (.ok (), after) ∧
      sentRadios pl i (v :: rest) = passed ++ sentRadios pl (i + 1) rest ∧
      Kept crates .tx after (period ++ passed)) ∨
    (∃ message after, stats.countItem crates pl i v = (.err message, after) ∧
      sentRadios pl i (v :: rest) = [] ∧ Kept crates .tx after period) := by
  have answered := kept.answered v.getStatus
  unfold Stats.countItem
  rw [sentRadios]
  by_cases sent : v.getStatus = .ok
  · cases found : pl.items[i]? with
    | none =>
        have beyond := List.getElem?_eq_none_iff.mp found
        refine .inl ⟨stats.answered .ok, [], ?_, ?_, ?_⟩
        · simp [sent, Nat.not_lt.mpr beyond]
        · simp [sent]
        · rw [List.append_nil]
          exact sent ▸ answered
    | some item =>
        have inside := (List.getElem?_eq_some_iff.mp found).1
        rcases downlinkKeys_eq crates found with
          ⟨message, none, failed⟩ | ⟨radio, some, keys⟩
        · refine .inr ⟨message, stats.answered .ok, ?_, ?_, sent ▸ answered⟩
          · simp [sent, inside, failed]
          · simp [sent, none]
        · refine .inl ⟨_, [radio], ?_, ?_, (sent ▸ answered).enter radio⟩
          · simp [sent, inside, keys, Direction.enter]
          · simp [sent, some]
  · by_cases ignored : v.getStatus = .ignored
    · refine .inl ⟨stats, [], ?_, ?_, ?_⟩
      · simp [ignored]
      · simp [ignored]
      · rwa [List.append_nil]
    · refine .inl ⟨stats.answered v.getStatus, [], ?_, ?_, ?_⟩
      · simp [ignored, sent]
      · simp [sent]
      · rwa [List.append_nil]

theorem Kept.countItems (kept : Kept crates .tx stats period) (pl : Gw.DownlinkFrame) (i : Nat)
    (items : List Gw.DownlinkTxAckItem) :
    Kept crates .tx (stats.countItems crates pl i items).2 (period ++ sentRadios pl i items) := by
  induction items generalizing stats period i with
  | nil =>
      rw [sentRadios, List.append_nil]
      exact kept
  | cons v rest ih =>
      rcases kept.countItem pl i v rest with
        ⟨after, passed, turn, radios, still⟩ | ⟨message, after, turn, radios, still⟩
      · rw [Stats.countItems_cons, turn, radios, ← List.append_assoc]
        exact ih still (i + 1)
      · rw [Stats.countItems_cons, turn, radios, List.append_nil]
        exact still

theorem countItem_kept_rx (kept : Kept crates .rx stats period) (pl : Gw.DownlinkFrame) (i : Nat)
    (v : Gw.DownlinkTxAckItem) : Kept crates .rx (stats.countItem crates pl i v).2 period := by
  have answered := kept.answered v.getStatus
  unfold Stats.countItem
  split
  · exact kept
  · dsimp only
    split
    · split
      · exact answered.enter_of_ne .tx (by decide) _ _
      · exact answered
      · exact answered
    · exact answered

theorem countItems_kept_rx (kept : Kept crates .rx stats period) (pl : Gw.DownlinkFrame) (i : Nat)
    (items : List Gw.DownlinkTxAckItem) :
    Kept crates .rx (stats.countItems crates pl i items).2 period := by
  induction items generalizing stats i with
  | nil => exact kept
  | cons v rest ih =>
      have turn := countItem_kept_rx kept pl i v
      rw [Stats.countItems_cons]
      rcases first : stats.countItem crates pl i v with ⟨result, after⟩
      rw [first] at turn
      cases result with
      | ok value => exact ih turn (i + 1)
      | err message => exact turn
      | panic cause => exact turn

/-- A call that is no export enters what it counts in both books. -/
theorem Kept.enters (kept : Kept crates direction stats period) {account : Account}
    (same : account.stats = stats) (call : Call) (items : List Radio)
    (enters : call.posting direction = .enter items) :
    Kept crates direction (account.call crates call).stats (period ++ items) := by
  subst same
  cases call with
  | countUplink pl =>
      cases direction with
      | rx =>
          obtain rfl := Posting.enter.inj enters
          exact kept.countUplink pl
      | tx =>
          obtain rfl := Posting.enter.inj enters
          rw [List.append_nil]
          exact countUplink_kept_tx kept pl
  | countDownlink pl ack =>
      cases direction with
      | rx =>
          obtain rfl := Posting.enter.inj enters
          rw [List.append_nil]
          exact countItems_kept_rx kept pl 0 ack.items
      | tx =>
          obtain rfl := Posting.enter.inj enters
          exact kept.countItems pl 0 ack.items
  | exportStats => cases direction <;> cases enters

end

/-! ## Exporting -/

theorem mapM_eq_ok {α β : Type} {f : α → Outcome β} {g : α → β} {xs : List α}
    (succeeds : ∀ x ∈ xs, f x = .ok (g x)) : xs.mapM f = .ok (xs.map g) := by
  induction xs with
  | nil => rfl
  | cons x rest ih =>
      rw [List.mapM_cons, succeeds x List.mem_cons_self,
        ih fun y member => succeeds y (List.mem_cons_of_mem _ member)]
      rfl

/-- An encoded modulation can be decoded. -/
def ReadsBack (crates : Crates) : Prop :=
  ∀ modulation, crates.decodeModulation (crates.encodeModulation modulation) = some modulation

section

variable {crates : Crates}

theorem ReadsBack.injective (reads : ReadsBack crates) :
    Function.Injective crates.encodeModulation := by
  intro first second same
  have decoded := congrArg crates.decodeModulation same
  rw [reads, reads] at decoded
  exact Option.some.inj decoded

/-- The modulations of a tally of encoded modulations are listed. -/
theorem perModulation_enumerates (reads : ReadsBack crates)
    {counts : HashMap (List UInt8) UInt32} {modulations : List Gw.Modulation}
    (tallies : Tallies counts (modulations.map crates.encodeModulation)) :
    ∃ listed, Stats.perModulation crates counts = .ok listed ∧ Enumerates listed modulations := by
  have encoded := tallies.mem_entries_map reads.injective
  refine ⟨counts.entries.map fun entry =>
    { count := entry.2, modulation := crates.decodeModulation entry.1 }, ?_, ?_, ?_⟩
  · refine mapM_eq_ok fun entry member => ?_
    obtain ⟨modulation, _, rfl⟩ := (encoded entry).mp member
    simp [reads modulation]
  · have keys : (counts.entries.map Sigma.fst).Nodup := counts.keys_nodup
    rw [List.map_map]
    refine (List.Nodup.of_map _ keys).map_on fun first inFirst second inSecond same => ?_
    obtain ⟨one, _, rfl⟩ := (encoded first).mp inFirst
    obtain ⟨other, _, rfl⟩ := (encoded second).mp inSecond
    have decoded : some one = some other := by
      rw [← reads one, ← reads other]
      exact same
    rw [Option.some.inj decoded]
  · intro entry
    rw [List.mem_map]
    constructor
    · rintro ⟨stored, member, rfl⟩
      obtain ⟨modulation, inside, rfl⟩ := (encoded stored).mp member
      exact ⟨modulation, inside, by rw [reads]⟩
    · rintro ⟨modulation, inside, rfl⟩
      exact ⟨_, (encoded _).mpr ⟨modulation, inside, rfl⟩, by rw [reads]⟩

theorem Kept.encoded {direction : Direction} {stats : Stats} {period : List Radio}
    (kept : Kept crates direction stats period) :
    Tallies (direction.perModulationCount stats)
      ((period.map Radio.modulation).map crates.encodeModulation) := by
  rw [List.map_map]
  exact kept.perModulation

/-- Tallied counters are exported, and the export reports the period. -/
theorem exported_reports (reads : ReadsBack crates) {stats : Stats}
    {received emitted : List Radio} (rx : Kept crates .rx stats received)
    (tx : Kept crates .tx stats emitted) :
    ∃ report, stats.exported crates = .ok report ∧ Reports .rx report received ∧
      Reports .tx report emitted := by
  obtain ⟨rxListed, rxOk, rxEnumerates⟩ := perModulation_enumerates reads rx.encoded
  obtain ⟨txListed, txOk, txEnumerates⟩ := perModulation_enumerates reads tx.encoded
  simp only [Direction.perModulationCount] at rxOk txOk
  simp only [Stats.exported, rxOk, txOk, Outcome.ok_bind, Outcome.pure_eq, Outcome.ok.injEq,
    exists_eq_left']
  exact ⟨⟨rx.counter, rx.perFreq.extend_empty, rxEnumerates⟩,
    ⟨tx.counter, tx.perFreq.extend_empty, txEnumerates⟩⟩

/-! ## Sequences of operations -/

/-- One operation keeps the account of both directions in agreement with the books. -/
theorem Audited.call (reads : ReadsBack crates) {account : Account} {received emitted : Books Radio}
    (rx : Audited crates .rx account received) (tx : Audited crates .tx account emitted)
    (call : Call) :
    Audited crates .rx (account.call crates call) (received.post (call.posting .rx)) ∧
      Audited crates .tx (account.call crates call) (emitted.post (call.posting .tx)) := by
  cases call with
  | countUplink pl =>
      exact ⟨⟨rx.kept.enters rfl (.countUplink pl) _ rfl, rx.reported⟩,
        ⟨tx.kept.enters rfl (.countUplink pl) _ rfl, tx.reported⟩⟩
  | countDownlink pl ack =>
      exact ⟨⟨rx.kept.enters rfl (.countDownlink pl ack) _ rfl, rx.reported⟩,
        ⟨tx.kept.enters rfl (.countDownlink pl ack) _ rfl, tx.reported⟩⟩
  | exportStats =>
      obtain ⟨report, exported, rxReports, txReports⟩ := exported_reports reads rx.kept tx.kept
      have called : account.call crates .exportStats =
          { stats := {}, exports := account.exports ++ [.ok report] } := by
        simp only [Account.call, Stats.exportStats, exported]
      rw [called]
      exact ⟨⟨kept_empty .rx, List.rel_append rx.reported (.cons ⟨report, rfl, rxReports⟩ .nil)⟩,
        ⟨kept_empty .tx, List.rel_append tx.reported (.cons ⟨report, rfl, txReports⟩ .nil)⟩⟩

theorem audited_empty (direction : Direction) : Audited crates direction {} {} :=
  ⟨kept_empty direction, .nil⟩

/-- After any sequence of operations the account agrees with the books. -/
theorem audited (reads : ReadsBack crates) (calls : List Call) :
    Audited crates .rx (accountOf crates calls) (booksOf .rx calls) ∧
      Audited crates .tx (accountOf crates calls) (booksOf .tx calls) := by
  induction calls using List.reverseRecOn with
  | nil => exact ⟨audited_empty .rx, audited_empty .tx⟩
  | append_singleton calls call ih =>
      have step := ih.1.call reads ih.2 call
      simp only [accountOf, booksOf, List.foldl_append, List.foldl_cons, List.foldl_nil,
        List.map_append, List.map_cons, List.map_nil, Books.keep_append_singleton] at step ⊢
      exact step

end

/-! ## The law of the ledger -/

/-- The three counters of one direction agree. -/
structure InStep (direction : Direction) (stats : Stats) : Prop where
  perFreq : (direction.counter stats).toNat = total (direction.perFreqCount stats)
  perModulation : (direction.counter stats).toNat = total (direction.perModulationCount stats)

/-- The count that a list has for a modulation. -/
def listedCount (counts : List Gw.PerModulationCount) (modulation : Gw.Modulation) : Nat :=
  ((counts.find? fun entry => entry.modulation = some modulation).map
    fun entry => entry.count.toNat).getD 0

/-- The list has each modulation of the period, once, with the number of its frames. -/
structure ListsOnce (counts : List Gw.PerModulationCount) (period : List Radio) : Prop where
  nodup : (counts.map Gw.PerModulationCount.modulation).Nodup
  counted : ∀ entry ∈ counts, ∃ modulation, entry.modulation = some modulation ∧
    entry.count.toNat = period.countP fun radio => radio.modulation = modulation
  complete : ∀ radio ∈ period, ∃ entry ∈ counts, entry.modulation = some radio.modulation

/-- What the reports and the counters of one direction contain is what has been counted. -/
structure Conserved (crates : Crates) (direction : Direction) (stats : Stats)
    (reports : List Gw.GatewayStats) (frames : List Radio) : Prop where
  perFrequency : ∀ frequency,
    (reports.map fun report =>
      (HashMap.count (direction.reportedPerFrequency report) frequency).toNat).sum +
      (HashMap.count (direction.perFreqCount stats) frequency).toNat =
    frames.countP fun radio => radio.frequency = frequency
  perModulation : ∀ modulation,
    (reports.map fun report =>
      listedCount (direction.reportedPerModulation report) modulation).sum +
      (HashMap.count (direction.perModulationCount stats)
        (crates.encodeModulation modulation)).toNat =
    frames.countP fun radio => radio.modulation = modulation

section

variable {crates : Crates} {direction : Direction} {stats : Stats} {period : List Radio}
  {report : Gw.GatewayStats}

theorem count_map_eq_countP {α κ : Type} [DecidableEq κ] (f : α → κ) (items : List α) (key : κ) :
    (items.map f).count key = items.countP fun item => f item = key := by
  rw [List.count, List.countP_map]
  exact List.countP_congr fun item _ => by simp

theorem Kept.inStep (kept : Kept crates direction stats period) (few : period.length < 2 ^ 32) :
    InStep direction stats := by
  constructor
  · rw [kept.counter, kept.perFreq.total (by simpa using few), List.length_map]
    exact toNat_ofNat_of_le le_rfl few
  · rw [kept.counter, kept.perModulation.total (by simpa using few), List.length_map]
    exact toNat_ofNat_of_le le_rfl few

theorem Kept.toNat_perFreq (kept : Kept crates direction stats period)
    (few : period.length < 2 ^ 32) (frequency : UInt32) :
    (HashMap.count (direction.perFreqCount stats) frequency).toNat =
      period.countP fun radio => radio.frequency = frequency := by
  rw [kept.perFreq.toNat_count (by simpa using few)]
  exact count_map_eq_countP _ _ _

theorem Kept.toNat_perModulation (reads : ReadsBack crates)
    (kept : Kept crates direction stats period) (few : period.length < 2 ^ 32)
    (modulation : Gw.Modulation) :
    (HashMap.count (direction.perModulationCount stats)
        (crates.encodeModulation modulation)).toNat =
      period.countP fun radio => radio.modulation = modulation := by
  rw [kept.perModulation.toNat_count (by simpa using few), count_map_eq_countP]
  exact List.countP_congr fun radio _ => by simp [reads.injective.eq_iff]

theorem Reports.toNat_perFrequency (reports : Reports direction report period)
    (few : period.length < 2 ^ 32) (frequency : UInt32) :
    (HashMap.count (direction.reportedPerFrequency report) frequency).toNat =
      period.countP fun radio => radio.frequency = frequency := by
  rw [reports.perFrequency.toNat_count (by simpa using few)]
  exact count_map_eq_countP _ _ _

theorem Reports.listedCount (reports : Reports direction report period)
    (few : period.length < 2 ^ 32) (modulation : Gw.Modulation) :
    listedCount (direction.reportedPerModulation report) modulation =
      period.countP fun radio => radio.modulation = modulation := by
  rw [← count_map_eq_countP]
  unfold SemtechUdp.listedCount
  cases found : (direction.reportedPerModulation report).find?
      fun entry => entry.modulation = some modulation with
  | none =>
      have unlisted := List.find?_eq_none.mp found
      refine (List.count_eq_zero.mpr fun member => ?_).symm
      exact unlisted _ ((reports.perModulation.mem_iff _).mpr ⟨modulation, member, rfl⟩)
        (by simp)
  | some entry =>
      have listed := List.mem_of_find?_eq_some found
      have named : entry.modulation = some modulation := by simpa using List.find?_some found
      obtain ⟨other, _, rfl⟩ := (reports.perModulation.mem_iff entry).mp listed
      obtain rfl := Option.some.inj named
      exact toNat_ofNat_of_le List.count_le_length (by simpa using few)

theorem Reports.listsOnce (reports : Reports direction report period)
    (few : period.length < 2 ^ 32) :
    ListsOnce (direction.reportedPerModulation report) period := by
  refine ⟨reports.perModulation.nodup, fun entry member => ?_, fun radio member => ?_⟩
  · obtain ⟨modulation, _, rfl⟩ := (reports.perModulation.mem_iff entry).mp member
    refine ⟨modulation, rfl, ?_⟩
    rw [← count_map_eq_countP]
    exact toNat_ofNat_of_le List.count_le_length (by simpa using few)
  · exact ⟨_, (reports.perModulation.mem_iff _).mpr
      ⟨radio.modulation, List.mem_map_of_mem member, rfl⟩, rfl⟩

theorem all_booksOf (direction : Direction) (calls : List Call) :
    (booksOf direction calls).all = counted direction calls := by
  rw [booksOf, Books.all_keep, counted, List.flatMap_map]

end

/-- The reports of exports that succeeded. -/
theorem exists_reports {α : Type} {R : Gw.GatewayStats → α → Prop}
    {results : List (Outcome Gw.GatewayStats)} {periods : List α}
    (reported : List.Forall₂ (fun result period => ∃ report, result = .ok report ∧ R report period)
      results periods) :
    ∃ reports, results = reports.map .ok ∧ List.Forall₂ R reports periods := by
  induction reported with
  | nil => exact ⟨[], rfl, .nil⟩
  | cons first _ ih =>
      obtain ⟨report, rfl, reports⟩ := first
      obtain ⟨rest, rfl, others⟩ := ih
      exact ⟨report :: rest, rfl, .cons reports others⟩

/-- The exports of audited operations, read in one direction. -/
theorem Audited.reports {crates : Crates} {direction : Direction} {account : Account}
    {books : Books Radio} (audited : Audited crates direction account books)
    {reports : List Gw.GatewayStats} (exports : account.exports = reports.map .ok) :
    List.Forall₂ (Reports direction) reports books.closed := by
  obtain ⟨same, results, each⟩ := exists_reports audited.reported
  have equal : reports = same :=
    List.map_injective_iff.mpr (fun _ _ => Outcome.ok.inj) (exports.symm.trans results)
  exact equal ▸ each

theorem forall₂_imp_of_mem {α β : Type} {R S : α → β → Prop} {xs : List α} {ys : List β}
    (related : List.Forall₂ R xs ys) (weaker : ∀ x, ∀ y ∈ ys, R x y → S x y) :
    List.Forall₂ S xs ys := by
  induction related with
  | nil => exact .nil
  | cons first _ ih =>
      exact .cons (weaker _ _ List.mem_cons_self first)
        (ih fun x y member => weaker x y (List.mem_cons_of_mem _ member))

/-- What the reports of audited operations and their counters contain. -/
theorem Audited.conserved {crates : Crates} {direction : Direction} {account : Account}
    {books : Books Radio} (reads : ReadsBack crates)
    (audited : Audited crates direction account books) (within : books.Within (2 ^ 32))
    {reports : List Gw.GatewayStats} (exports : account.exports = reports.map .ok) :
    Conserved crates direction account.stats reports books.all := by
  constructor
  · intro frequency
    rw [audited.kept.toNat_perFreq within.current]
    apply Books.sum_reports
    exact forall₂_imp_of_mem (audited.reports exports) fun report period member reports =>
      reports.toNat_perFrequency (within.closed period member) frequency
  · intro modulation
    rw [audited.kept.toNat_perModulation reads within.current]
    apply Books.sum_reports
    exact forall₂_imp_of_mem (audited.reports exports) fun report period member reports =>
      reports.listedCount (within.closed period member) modulation

/-- The operations never fail to export, and every frame they count is in exactly one export or
still in the counters. -/
theorem statistics_ledger {crates : Crates} (reads : ReadsBack crates) (calls : List Call)
    (few : ∀ direction, (counted direction calls).length < 2 ^ 32) :
    (∀ direction, InStep direction (accountOf crates calls).stats) ∧
      ∃ reports, (accountOf crates calls).exports = reports.map .ok ∧ ∀ direction,
        List.Forall₂ (fun report period =>
            ListsOnce (Direction.reportedPerModulation report direction) period)
          reports (booksOf direction calls).closed ∧
        Conserved crates direction (accountOf crates calls).stats reports
          (counted direction calls) := by
  have agreement : ∀ direction,
      Audited crates direction (accountOf crates calls) (booksOf direction calls) := by
    intro direction
    cases direction with
    | rx => exact (audited reads calls).1
    | tx => exact (audited reads calls).2
  have within : ∀ direction, (booksOf direction calls).Within (2 ^ 32) := by
    intro direction
    apply Books.within_of_all
    rw [all_booksOf]
    exact few direction
  refine ⟨fun direction => ?_, ?_⟩
  · exact (agreement direction).kept.inStep (within direction).current
  · obtain ⟨reports, exports, _⟩ := exists_reports (agreement .rx).reported
    refine ⟨reports, exports, fun direction => ⟨?_, ?_⟩⟩
    · exact forall₂_imp_of_mem ((agreement direction).reports exports)
        fun report period member reports =>
          reports.listsOnce ((within direction).closed period member)
    · rw [← all_booksOf]
      exact (agreement direction).conserved reads (within direction) exports

/-! ## Crates that read modulations back -/

/-- Bytes of a modulation.  A modulation without parameters has none. -/
def layoutModulation : Gw.Modulation → List UInt8
  | ⟨none⟩ => []
  | ⟨some (.lora v)⟩ =>
      [0, v.polarizationInversion.toUInt8, v.noCrc.toUInt8] ++ u32ToBe v.bandwidth ++
        u32ToBe v.spreadingFactor ++ u32ToBe v.codeRate.toUInt32 ++ u32ToBe v.preamble
  | ⟨some (.fsk v)⟩ => [1] ++ u32ToBe v.frequencyDeviation ++ u32ToBe v.datarate
  | ⟨some (.lrFhss v)⟩ =>
      [2] ++ u32ToBe v.operatingChannelWidth ++ u32ToBe v.codeRate.toUInt32 ++
        u32ToBe v.gridSteps

def readModulation (bytes : List UInt8) : Option Gw.Modulation :=
  let word (i : Nat) := u32FromBe ((bytes.drop i).take 4)
  match bytes with
  | [] => some ⟨none⟩
  | 0 :: inverted :: noCrc :: _ => some ⟨some (.lora {
      polarizationInversion := inverted == 1, noCrc := noCrc == 1, bandwidth := word 3,
      spreadingFactor := word 7, codeRate := (word 11).toInt32, preamble := word 15 })⟩
  | 1 :: _ => some ⟨some (.fsk { frequencyDeviation := word 1, datarate := word 5 })⟩
  | 2 :: _ => some ⟨some (.lrFhss {
      operatingChannelWidth := word 1, codeRate := (word 5).toInt32, gridSteps := word 9 })⟩
  | _ => none

/-- Crates for runs that report statistics. -/
def Crates.reporting : Crates :=
  { Crates.plain with
    encodeModulation := layoutModulation
    decodeModulation := readModulation }

theorem reporting_reads : ReadsBack Crates.reporting := by
  rintro ⟨_ | ⟨_ | _ | _⟩⟩
  · rfl
  · next v =>
      obtain ⟨bandwidth, spreadingFactor, codeRate, inverted, preamble, noCrc⟩ := v
      calc readModulation (layoutModulation
            ⟨some (.lora ⟨bandwidth, spreadingFactor, codeRate, inverted, preamble, noCrc⟩)⟩)
          = some ⟨some (.lora {
              polarizationInversion := inverted.toUInt8 == 1, noCrc := noCrc.toUInt8 == 1,
              bandwidth := u32FromBe (u32ToBe bandwidth),
              spreadingFactor := u32FromBe (u32ToBe spreadingFactor),
              codeRate := (u32FromBe (u32ToBe codeRate.toUInt32)).toInt32,
              preamble := u32FromBe (u32ToBe preamble) })⟩ := rfl
        _ = _ := by
          simp only [u32FromBe_u32ToBe]
          cases inverted <;> cases noCrc <;> rfl
  · next v =>
      calc readModulation (layoutModulation ⟨some (.fsk v)⟩)
          = some ⟨some (.fsk {
              frequencyDeviation := u32FromBe (u32ToBe v.frequencyDeviation),
              datarate := u32FromBe (u32ToBe v.datarate) })⟩ := rfl
        _ = _ := by simp only [u32FromBe_u32ToBe]
  · next v =>
      calc readModulation (layoutModulation ⟨some (.lrFhss v)⟩)
          = some ⟨some (.lrFhss {
              operatingChannelWidth := u32FromBe (u32ToBe v.operatingChannelWidth),
              codeRate := (u32FromBe (u32ToBe v.codeRate.toUInt32)).toInt32,
              gridSteps := u32FromBe (u32ToBe v.gridSteps) })⟩ := rfl
        _ = _ := by
          simp only [u32FromBe_u32ToBe]
          rfl

/-- Two frames on one frequency, an export, and a downlink on another frequency. -/
def fourCalls : List Call :=
  let uplink : Gw.UplinkFrame :=
    { phyPayload := [1], txInfo := some { frequency := 868100000, modulation := some ⟨none⟩ },
      rxInfo := none }
  let item : Gw.DownlinkFrameItem :=
    { phyPayload := [2]
      txInfo := some {
        frequency := 869525000, power := 16, modulation := some ⟨none⟩, board := 0, antenna := 0,
        timing := none, context := [] } }
  [.countUplink uplink, .countUplink uplink, .exportStats,
    .countDownlink { downlinkId := 1, items := [item], gatewayId := "0101010101010101" }
      { gatewayId := "0101010101010101", downlinkId := 1, items := [.ofStatus .ok] }]

theorem statistics_ledger_four_calls :
    (∀ direction, InStep direction (accountOf Crates.reporting fourCalls).stats) ∧
      ∃ reports, (accountOf Crates.reporting fourCalls).exports = reports.map .ok ∧
        ∀ direction,
        List.Forall₂ (fun report period =>
            ListsOnce (Direction.reportedPerModulation report direction) period)
          reports (booksOf direction fourCalls).closed ∧
        Conserved Crates.reporting direction (accountOf Crates.reporting fourCalls).stats reports
          (counted direction fourCalls) :=
  statistics_ledger reporting_reads fourCalls fun direction => by cases direction <;> decide

end MqttForwarder.SemtechUdp
