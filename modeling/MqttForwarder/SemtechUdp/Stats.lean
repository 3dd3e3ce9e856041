import MqttForwarder.Api.Environment

/-!
# Statistics

The counters between two exports.  A counter is a `u32` that wraps as in the
release profile.  Counting a downlink may fail in the middle of its loop, and
then what was counted so far stays, so every operation gives back the counters
also when it fails.
-/

namespace MqttForwarder.SemtechUdp

open MqttForwarder.Rust

structure Stats where
  rxCount : UInt32 := 0
  txCount : UInt32 := 0
  rxPerFreqCount : HashMap UInt32 UInt32 := ∅
  txPerFreqCount : HashMap UInt32 UInt32 := ∅
  rxPerModulationCount : HashMap (List UInt8) UInt32 := ∅
  txPerModulationCount : HashMap (List UInt8) UInt32 := ∅
  txStatusCount : HashMap String UInt32 := ∅

/-- The packet forwarder answered the item, and refused it. -/
def refusal (item : Gw.DownlinkTxAckItem) : Prop :=
  item.getStatus ≠ .ok ∧ item.getStatus ≠ .ignored

theorem refusal_ofStatus {status : Gw.TxAckStatus} (unsent : status ≠ .ok)
    (given : status ≠ .ignored) : refusal (.ofStatus status) := by
  simp [refusal, unsent, given]

namespace Stats

/-! ## Counting -/

/-- One received frame on a frequency with an encoded modulation. -/
def received (stats : Stats) (frequency : UInt32) (b : List UInt8) : Stats :=
  { stats with
    rxCount := stats.rxCount + 1
    rxPerFreqCount := stats.rxPerFreqCount.bump frequency
    rxPerModulationCount := stats.rxPerModulationCount.bump b }

/-- One status of a downlink item. -/
def answered (stats : Stats) (status : Gw.TxAckStatus) : Stats :=
  { stats with txStatusCount := stats.txStatusCount.bump status.asStrName }

/-- One emitted frame on a frequency with an encoded modulation. -/
def emitted (stats : Stats) (frequency : UInt32) (b : List UInt8) : Stats :=
  { stats with
    txCount := stats.txCount + 1
    txPerFreqCount := stats.txPerFreqCount.bump frequency
    txPerModulationCount := stats.txPerModulationCount.bump b }

/-- The frequency and the encoded modulation of an uplink frame. -/
def uplinkKeys (crates : Crates) (pl : Gw.UplinkFrame) : Outcome (UInt32 × List UInt8) := do
  let txInfo ← Outcome.okOr pl.txInfo "tx_info is missing"
  let modulation ← Outcome.okOr txInfo.modulation "modulation is missing"
  pure (txInfo.frequency, crates.encodeModulation modulation)

def countUplink (crates : Crates) (stats : Stats) (pl : Gw.UplinkFrame) : Outcome Unit × Stats :=
  match uplinkKeys crates pl with
  | .ok (frequency, b) => (.ok (), stats.received frequency b)
  | .err message => (.err message, stats)
  | .panic cause => (.panic cause, stats)

/-- The frequency and the encoded modulation of a downlink item. -/
def downlinkKeys (crates : Crates) (pl : Gw.DownlinkFrame) (i : Nat) :
    Outcome (UInt32 × List UInt8) := do
  let item ← Outcome.okOr pl.items[i]? "Invalid items index"
  let txInfo ← Outcome.okOr item.txInfo "tx_info is missing"
  let modulation ← Outcome.okOr txInfo.modulation "modulation is missing"
  pure (txInfo.frequency, crates.encodeModulation modulation)

/-- The body of the loop of `count_downlink`. -/
def countItem (crates : Crates) (pl : Gw.DownlinkFrame) (stats : Stats) (i : Nat)
    (v : Gw.DownlinkTxAckItem) : Outcome Unit × Stats :=
  if v.getStatus = .ignored then (.ok (), stats)
  else
    let stats := stats.answered v.getStatus
    if v.getStatus = .ok ∧ i < pl.items.length then
      match downlinkKeys crates pl i with
      | .ok (frequency, b) => (.ok (), stats.emitted frequency b)
      | .err message => (.err message, stats)
      | .panic cause => (.panic cause, stats)
    else (.ok (), stats)

/-- The loop of `count_downlink`, from position `i` on. -/
def countItems (crates : Crates) (pl : Gw.DownlinkFrame) :
    Stats → Nat → List Gw.DownlinkTxAckItem → Outcome Unit × Stats
  | stats, _, [] => (.ok (), stats)
  | stats, i, v :: rest =>
      match countItem crates pl stats i v with
      | (.ok (), stats) => countItems crates pl stats (i + 1) rest
      | failed => failed

def countDownlink (crates : Crates) (stats : Stats) (pl : Gw.DownlinkFrame)
    (ack : Gw.DownlinkTxAck) : Outcome Unit × Stats :=
  countItems crates pl stats 0 ack.items

/-! ## What counting a downlink does -/

theorem countItems_cons (crates : Crates) (pl : Gw.DownlinkFrame) (stats : Stats) (i : Nat)
    (v : Gw.DownlinkTxAckItem) (rest : List Gw.DownlinkTxAckItem) :
    countItems crates pl stats i (v :: rest) =
      match countItem crates pl stats i v with
      | (.ok (), stats) => countItems crates pl stats (i + 1) rest
      | failed => failed := rfl

theorem countItem_fst (crates : Crates) (pl : Gw.DownlinkFrame) (stats other : Stats) (i : Nat)
    (v : Gw.DownlinkTxAckItem) :
    (countItem crates pl stats i v).1 = (countItem crates pl other i v).1 := by
  unfold countItem
  split
  · rfl
  · dsimp only
    split
    · split <;> rfl
    · rfl

/-- Whether a downlink can be counted does not depend on the counters. -/
theorem countDownlink_fst (crates : Crates) (stats other : Stats) (pl : Gw.DownlinkFrame)
    (ack : Gw.DownlinkTxAck) :
    (countDownlink crates stats pl ack).1 = (countDownlink crates other pl ack).1 := by
  unfold countDownlink
  generalize 0 = i
  induction ack.items generalizing i stats other with
  | nil => rfl
  | cons v rest ih =>
      have same := countItem_fst crates pl stats other i v
      simp only [countItems_cons]
      rcases first : countItem crates pl stats i v with ⟨result, stats'⟩
      rcases second : countItem crates pl other i v with ⟨result', other'⟩
      rw [first, second] at same
      dsimp only at same
      subst same
      cases result with
      | ok value => exact ih stats' other' (i + 1)
      | err message => rfl
      | panic cause => rfl

theorem downlinkKeys_calm (crates : Crates) (pl : Gw.DownlinkFrame) (i : Nat) :
    (downlinkKeys crates pl i).Calm := by
  refine Outcome.calm_bind.mpr ⟨Outcome.calm_okOr _ _, fun item _ => ?_⟩
  refine Outcome.calm_bind.mpr ⟨Outcome.calm_okOr _ _, fun txInfo _ => ?_⟩
  exact Outcome.calm_bind.mpr ⟨Outcome.calm_okOr _ _, fun _ _ => Outcome.calm_ok _⟩

theorem countItem_calm (crates : Crates) (pl : Gw.DownlinkFrame) (stats : Stats) (i : Nat)
    (v : Gw.DownlinkTxAckItem) : (countItem crates pl stats i v).1.Calm := by
  unfold countItem
  split
  · exact Outcome.calm_ok _
  · dsimp only
    split
    · split
      · exact Outcome.calm_ok _
      · exact Outcome.calm_err _
      · next cause panics => exact absurd panics (downlinkKeys_calm crates pl i cause)
    · exact Outcome.calm_ok _

theorem countDownlink_calm (crates : Crates) (stats : Stats) (pl : Gw.DownlinkFrame)
    (ack : Gw.DownlinkTxAck) :
    (countDownlink crates stats pl ack).1.Calm := by
  unfold countDownlink
  generalize 0 = i
  induction ack.items generalizing i stats with
  | nil => exact Outcome.calm_ok _
  | cons v rest ih =>
      have calm := countItem_calm crates pl stats i v
      simp only [countItems_cons]
      rcases first : countItem crates pl stats i v with ⟨result, stats'⟩
      rw [first] at calm
      cases result with
      | ok value => exact ih stats' (i + 1)
      | err message => exact Outcome.calm_err _
      | panic cause => exact absurd rfl (calm cause)

/-- The counters after each status of a list has been counted. -/
def answeredAll (stats : Stats) (items : List Gw.DownlinkTxAckItem) : Stats :=
  items.foldl (fun stats item => stats.answered item.getStatus) stats

theorem countItems_append (crates : Crates) (pl : Gw.DownlinkFrame) (stats : Stats) (i : Nat)
    (first second : List Gw.DownlinkTxAckItem) :
    countItems crates pl stats i (first ++ second) =
      match countItems crates pl stats i first with
      | (.ok (), stats) => countItems crates pl stats (i + first.length) second
      | failed => failed := by
  induction first generalizing stats i with
  | nil => rfl
  | cons v rest ih =>
      simp only [List.cons_append, countItems_cons, List.length_cons]
      rcases countItem crates pl stats i v with ⟨result, stats'⟩
      cases result with
      | ok value =>
          dsimp only
          rw [ih, Nat.add_right_comm, Nat.add_assoc]
      | err message => rfl
      | panic cause => rfl

theorem countItems_refusals (crates : Crates) (pl : Gw.DownlinkFrame) (stats : Stats) (i : Nat)
    {items : List Gw.DownlinkTxAckItem} (refused : ∀ item ∈ items, refusal item) :
    countItems crates pl stats i items = (.ok (), stats.answeredAll items) := by
  induction items generalizing stats i with
  | nil => rfl
  | cons v rest ih =>
      obtain ⟨unsent, given⟩ := refused v List.mem_cons_self
      have counted : countItem crates pl stats i v = (.ok (), stats.answered v.getStatus) := by
        simp [countItem, unsent, given]
      rw [countItems_cons, counted]
      exact ih _ _ fun item member => refused item (List.mem_cons_of_mem _ member)

theorem countItems_ignored (crates : Crates) (pl : Gw.DownlinkFrame) (stats : Stats) (i : Nat)
    {items : List Gw.DownlinkTxAckItem} (ignored : ∀ item ∈ items, item.getStatus = .ignored) :
    countItems crates pl stats i items = (.ok (), stats) := by
  induction items generalizing i with
  | nil => rfl
  | cons v rest ih =>
      have counted : countItem crates pl stats i v = (.ok (), stats) := by
        simp [countItem, ignored v List.mem_cons_self]
      rw [countItems_cons, counted]
      exact ih _ fun item member => ignored item (List.mem_cons_of_mem _ member)

/-- Counting an ack whose last tried item was sent: one status for each item tried, and one
emitted frame if that item names its transmit parameters and its modulation. -/
theorem countDownlink_sent (crates : Crates) (stats : Stats) (pl : Gw.DownlinkFrame)
    {ack : Gw.DownlinkTxAck} {errors ignored : List Gw.DownlinkTxAckItem}
    {sent : Gw.DownlinkTxAckItem} (items : ack.items = errors ++ sent :: ignored)
    (refused : ∀ item ∈ errors, refusal item) (ok : sent.getStatus = .ok)
    (untouched : ∀ item ∈ ignored, item.getStatus = .ignored)
    (bound : errors.length < pl.items.length) :
    countDownlink crates stats pl ack =
      match downlinkKeys crates pl errors.length with
      | .ok (frequency, b) =>
          (.ok (), ((stats.answeredAll errors).answered .ok).emitted frequency b)
      | .err message => (.err message, (stats.answeredAll errors).answered .ok)
      | .panic cause => (.panic cause, (stats.answeredAll errors).answered .ok) := by
  rw [countDownlink, items, countItems_append, countItems_refusals crates pl stats 0 refused]
  simp only [countItems_cons, countItem, ok, Nat.zero_add, bound, and_self, reduceCtorEq, if_false,
    if_true]
  cases downlinkKeys crates pl errors.length with
  | ok keys => exact countItems_ignored crates pl _ _ untouched
  | err message => rfl
  | panic cause => rfl

/-- Counting an ack of refusals: one status for each item. -/
theorem countDownlink_refused (crates : Crates) (stats : Stats) (pl : Gw.DownlinkFrame)
    {ack : Gw.DownlinkTxAck} (refused : ∀ item ∈ ack.items, refusal item) :
    countDownlink crates stats pl ack = (.ok (), stats.answeredAll ack.items) :=
  countItems_refusals crates pl stats 0 refused

/-! ## Exporting -/

/-- The counters of a map of encoded modulations. -/
def perModulation (crates : Crates) (counts : HashMap (List UInt8) UInt32) :
    Outcome (List Gw.PerModulationCount) :=
  counts.entries.mapM fun entry => do
    let modulation ← Outcome.okOr (crates.decodeModulation entry.1)
      "failed to decode Protobuf message"
    pure { count := entry.2, modulation := some modulation }

def exported (crates : Crates) (stats : Stats) : Outcome Gw.GatewayStats := do
  let rxPerModulation ← perModulation crates stats.rxPerModulationCount
  let txPerModulation ← perModulation crates stats.txPerModulationCount
  pure {
    rxPacketsReceived := stats.rxCount
    rxPacketsReceivedOk := stats.rxCount
    txPacketsReceived := stats.txCount
    txPacketsEmitted := stats.txCount
    txPacketsPerStatus := stats.txStatusCount
    rxPacketsPerFrequency := HashMap.extend ∅ stats.rxPerFreqCount
    txPacketsPerFrequency := HashMap.extend ∅ stats.txPerFreqCount
    rxPacketsPerModulation := rxPerModulation
    txPacketsPerModulation := txPerModulation }

/-- `export_stats`: the counters start again at zero only when the export succeeds. -/
def exportStats (crates : Crates) (stats : Stats) : Outcome Gw.GatewayStats × Stats :=
  match exported crates stats with
  | .ok result => (.ok result, {})
  | failed => (failed, stats)

end Stats

end MqttForwarder.SemtechUdp
