import MqttForwarder.SemtechUdp.Stats

/-!
# Counting as a whole

An uplink is counted as a whole or not at all.  The loop of `count_downlink`
counts the status of an item before it looks at what the frame says of it, so
a downlink is counted as a whole exactly when the frame describes every item
that was sent.
-/

namespace MqttForwarder.SemtechUdp

open MqttForwarder.Rust

/-- The frame says how its item at this position is to be sent. -/
def Described (pl : Gw.DownlinkFrame) (i : Nat) : Prop :=
  ∃ item txInfo modulation, pl.items[i]? = some item ∧ item.txInfo = some txInfo ∧
    txInfo.modulation = some modulation

namespace Stats

/-- The count of the status OK. -/
def okCount (stats : Stats) : UInt32 := stats.txStatusCount.count Gw.TxAckStatus.ok.asStrName

/-- An error leaves the counters alone, and a count of an ack with no more items than the frame
has is for the status OK and for the emitted frames alike. -/
structure DownlinkAllOrNothing (crates : Crates) (stats : Stats) (pl : Gw.DownlinkFrame)
    (ack : Gw.DownlinkTxAck) : Prop where
  unchanged : ∀ message, (stats.countDownlink crates pl ack).1 = .err message →
    (stats.countDownlink crates pl ack).2 = stats
  together : (stats.countDownlink crates pl ack).1 = .ok () → ack.items.length ≤ pl.items.length →
    ∃ grown : UInt32, (stats.countDownlink crates pl ack).2.okCount = stats.okCount + grown ∧
      (stats.countDownlink crates pl ack).2.txCount = stats.txCount + grown

/-- An error leaves the counters alone, and a count is for the received frames, for one
frequency and for one modulation alike. -/
structure UplinkAllOrNothing (crates : Crates) (stats : Stats) (pl : Gw.UplinkFrame) : Prop where
  unchanged : ∀ message, (stats.countUplink crates pl).1 = .err message →
    (stats.countUplink crates pl).2 = stats
  together : (stats.countUplink crates pl).1 = .ok () →
    ∃ txInfo modulation, pl.txInfo = some txInfo ∧ txInfo.modulation = some modulation ∧
      (stats.countUplink crates pl).2.rxCount = stats.rxCount + 1 ∧
      (stats.countUplink crates pl).2.rxPerFreqCount.count txInfo.frequency =
        stats.rxPerFreqCount.count txInfo.frequency + 1 ∧
      (stats.countUplink crates pl).2.rxPerModulationCount.count
          (crates.encodeModulation modulation) =
        stats.rxPerModulationCount.count (crates.encodeModulation modulation) + 1

/-! ## One item -/

theorem asStrName_eq_ok {status : Gw.TxAckStatus} :
    Gw.TxAckStatus.ok.asStrName = status.asStrName ↔ status = .ok := by
  cases status <;> decide

theorem okCount_answered (stats : Stats) (status : Gw.TxAckStatus) :
    (stats.answered status).okCount = stats.okCount + if status = .ok then 1 else 0 := by
  unfold okCount answered
  rw [HashMap.count_bump]
  simp only [asStrName_eq_ok]

@[simp] theorem okCount_emitted (stats : Stats) (frequency : UInt32) (b : List UInt8) :
    (stats.emitted frequency b).okCount = stats.okCount := rfl

@[simp] theorem txCount_emitted (stats : Stats) (frequency : UInt32) (b : List UInt8) :
    (stats.emitted frequency b).txCount = stats.txCount + 1 := rfl

@[simp] theorem txCount_answered (stats : Stats) (status : Gw.TxAckStatus) :
    (stats.answered status).txCount = stats.txCount := rfl

section

variable {crates : Crates} {pl : Gw.DownlinkFrame} {stats stats' : Stats} {i : Nat}
  {v : Gw.DownlinkTxAckItem} {items : List Gw.DownlinkTxAckItem} {message : String}

theorem downlinkKeys_of_described (crates : Crates) (described : Described pl i) :
    ∃ keys, downlinkKeys crates pl i = .ok keys := by
  obtain ⟨item, txInfo, modulation, found, info, modulated⟩ := described
  exact ⟨_, by simp [downlinkKeys, found, info, modulated]; rfl⟩

theorem downlinkKeys_of_not_described (crates : Crates) (bare : ¬ Described pl i) :
    ∃ message, downlinkKeys crates pl i = .err message := by
  cases keys : downlinkKeys crates pl i with
  | err message => exact ⟨message, rfl⟩
  | panic cause => exact absurd keys (downlinkKeys_calm crates pl i cause)
  | ok value =>
      obtain ⟨item, found, keys⟩ := Outcome.bind_eq_ok.mp keys
      obtain ⟨txInfo, info, keys⟩ := Outcome.bind_eq_ok.mp keys
      obtain ⟨modulation, modulated, _⟩ := Outcome.bind_eq_ok.mp keys
      exact absurd ⟨item, txInfo, modulation, Outcome.okOr_eq_ok.mp found,
        Outcome.okOr_eq_ok.mp info, Outcome.okOr_eq_ok.mp modulated⟩ bare

/-- An item is refused after its status OK has been counted. -/
theorem countItem_err (failed : countItem crates pl stats i v = (.err message, stats')) :
    v.getStatus = .ok ∧ i < pl.items.length ∧ ¬ Described pl i ∧ stats' = stats.answered .ok := by
  unfold countItem at failed
  split at failed
  · cases failed
  · dsimp only at failed
    split at failed
    · next sent =>
        split at failed
        · cases failed
        · next keys =>
            cases failed
            refine ⟨sent.1, sent.2, fun described => ?_, by rw [sent.1]⟩
            obtain ⟨_, found⟩ := downlinkKeys_of_described crates described
            rw [found] at keys
            cases keys
        · cases failed
    · cases failed

/-- A counted item of the frame grows both counts, or neither. -/
theorem countItem_ok (counted : countItem crates pl stats i v = (.ok (), stats'))
    (bound : i < pl.items.length) :
    (v.getStatus = .ok → Described pl i) ∧
      stats'.okCount = stats.okCount + (if v.getStatus = .ok then 1 else 0) ∧
      stats'.txCount = stats.txCount + if v.getStatus = .ok then 1 else 0 := by
  unfold countItem at counted
  split at counted
  · next ignored =>
      cases counted
      simp [ignored]
  · dsimp only at counted
    split at counted
    · next sent =>
        split at counted
        · next frequency b keys =>
            cases counted
            refine ⟨fun _ => ?_, ?_, ?_⟩
            · by_contra bare
              obtain ⟨_, refused⟩ := downlinkKeys_of_not_described crates bare
              rw [refused] at keys
              cases keys
            · rw [okCount_emitted, okCount_answered]
            · rw [txCount_emitted, txCount_answered, if_pos sent.1]
        · cases counted
        · cases counted
    · next unsent =>
        have other : v.getStatus ≠ .ok := fun sent => unsent ⟨sent, bound⟩
        cases counted
        refine ⟨fun sent => absurd sent other, okCount_answered _ _, ?_⟩
        rw [txCount_answered, if_neg other, UInt32.add_zero]

theorem countItem_ne_panic {cause : Panic}
    (counted : countItem crates pl stats i v = (.panic cause, stats')) : False := by
  have calm := countItem_calm crates pl stats i v
  rw [counted] at calm
  exact calm cause rfl

/-! ## The loop -/

/-- Past the items of the frame nothing is refused. -/
theorem countItems_of_le (beyond : pl.items.length ≤ i) :
    (countItems crates pl stats i items).1 = .ok () := by
  induction items generalizing i stats with
  | nil => rfl
  | cons v rest ih =>
      rw [countItems_cons]
      rcases counted : countItem crates pl stats i v with ⟨result, stats'⟩
      cases result with
      | ok value => exact ih (Nat.le_succ_of_le beyond)
      | err message => exact absurd (countItem_err counted).2.1 (Nat.not_lt.mpr beyond)
      | panic cause => exact (countItem_ne_panic counted).elim

/-- Up to a refusal the counts have grown alike, and then the status OK has been counted. -/
theorem countItems_err (failed : countItems crates pl stats i items = (.err message, stats')) :
    ∃ grown, stats'.okCount = stats.okCount + grown + 1 ∧
      stats'.txCount = stats.txCount + grown := by
  induction items generalizing i stats with
  | nil => cases failed
  | cons v rest ih =>
      rw [countItems_cons] at failed
      rcases counted : countItem crates pl stats i v with ⟨result, middle⟩
      rw [counted] at failed
      cases result with
      | ok value =>
          have bound : i < pl.items.length := by
            by_contra beyond
            have fine : (countItems crates pl middle (i + 1) rest).1 = .ok () :=
              countItems_of_le (Nat.le_succ_of_le (Nat.not_lt.mp beyond))
            dsimp only at failed
            rw [failed] at fine
            cases fine
          obtain ⟨_, statuses, frames⟩ := countItem_ok counted bound
          obtain ⟨grown, statuses', frames'⟩ := ih failed
          refine ⟨(if v.getStatus = .ok then 1 else 0) + grown, ?_, ?_⟩
          · rw [statuses', statuses, UInt32.add_assoc stats.okCount]
          · rw [frames', frames, UInt32.add_assoc]
      | err message =>
          cases failed
          obtain ⟨_, _, _, rfl⟩ := countItem_err counted
          refine ⟨0, ?_, ?_⟩
          · rw [okCount_answered, if_pos rfl, UInt32.add_zero]
          · rw [txCount_answered, UInt32.add_zero]
      | panic cause => cases failed

/-- Items of the frame that are counted are described if they were sent, and grow both counts
alike. -/
theorem countItems_ok (counted : countItems crates pl stats i items = (.ok (), stats'))
    (bound : i + items.length ≤ pl.items.length) :
    ∃ grown, stats'.okCount = stats.okCount + grown ∧ stats'.txCount = stats.txCount + grown := by
  induction items generalizing i stats with
  | nil =>
      cases counted
      exact ⟨0, (UInt32.add_zero _).symm, (UInt32.add_zero _).symm⟩
  | cons v rest ih =>
      rw [List.length_cons] at bound
      rw [countItems_cons] at counted
      rcases first : countItem crates pl stats i v with ⟨result, middle⟩
      rw [first] at counted
      cases result with
      | ok value =>
          obtain ⟨_, statuses, frames⟩ := countItem_ok first (by omega)
          obtain ⟨grown, statuses', frames'⟩ := ih counted (by omega)
          refine ⟨(if v.getStatus = .ok then 1 else 0) + grown, ?_, ?_⟩
          · rw [statuses', statuses, UInt32.add_assoc]
          · rw [frames', frames, UInt32.add_assoc]
      | err message => cases counted
      | panic cause => cases counted

/-- The loop succeeds exactly when the frame describes every item of it that was sent. -/
theorem countItems_fst_iff (crates : Crates) (pl : Gw.DownlinkFrame) (stats : Stats) (i : Nat)
    (items : List Gw.DownlinkTxAckItem) :
    (countItems crates pl stats i items).1 = .ok () ↔
      ∀ j v, items[j]? = some v → v.getStatus = .ok → i + j < pl.items.length →
        Described pl (i + j) := by
  induction items generalizing i stats with
  | nil => exact iff_of_true rfl fun j v found => by simp at found
  | cons v rest ih =>
      rw [countItems_cons]
      rcases counted : countItem crates pl stats i v with ⟨result, middle⟩
      cases result with
      | ok value =>
          refine (ih middle (i + 1)).trans ?_
          constructor
          · rintro later (_ | j) w found sent bound
            · obtain rfl : v = w := by simpa using found
              exact (countItem_ok counted bound).1 sent
            · rw [Nat.add_comm j 1, ← Nat.add_assoc] at bound ⊢
              exact later j w (by simpa using found) sent bound
          · intro all j w found sent bound
            have shifted : i + 1 + j = i + (j + 1) := by omega
            rw [shifted] at bound ⊢
            exact all (j + 1) w (by simpa using found) sent bound
      | err message =>
          obtain ⟨sent, bound, bare, _⟩ := countItem_err counted
          refine iff_of_false (fun impossible => by cases impossible) fun all => ?_
          exact bare (all 0 v rfl sent bound)
      | panic cause => exact (countItem_ne_panic counted).elim

end

/-! ## Whole counts -/

theorem countUplink_allOrNothing (crates : Crates) (stats : Stats) (pl : Gw.UplinkFrame) :
    UplinkAllOrNothing crates stats pl := by
  cases keys : uplinkKeys crates pl with
  | err message =>
      have refused : stats.countUplink crates pl = (.err message, stats) := by
        simp only [countUplink, keys]
      refine ⟨fun _ _ => by rw [refused], fun counted => ?_⟩
      rw [refused] at counted
      cases counted
  | panic cause =>
      have stopped : stats.countUplink crates pl = (.panic cause, stats) := by
        simp only [countUplink, keys]
      refine ⟨fun _ _ => by rw [stopped], fun counted => ?_⟩
      rw [stopped] at counted
      cases counted
  | ok value =>
      obtain ⟨txInfo, info, rest⟩ := Outcome.bind_eq_ok.mp keys
      obtain ⟨modulation, modulated, last⟩ := Outcome.bind_eq_ok.mp rest
      cases last
      have counted : stats.countUplink crates pl =
          (.ok (), stats.received txInfo.frequency (crates.encodeModulation modulation)) := by
        simp only [countUplink, keys]
      constructor
      · intro message failed
        rw [counted] at failed
        cases failed
      · intro _
        rw [counted]
        refine ⟨txInfo, modulation, Outcome.okOr_eq_ok.mp info,
          Outcome.okOr_eq_ok.mp modulated, rfl, ?_, ?_⟩
        · exact (HashMap.count_bump _ _ _).trans (by rw [if_pos rfl])
        · exact (HashMap.count_bump _ _ _).trans (by rw [if_pos rfl])

/-- Both laws of counting hold exactly when the frame describes every item that was sent. -/
theorem allOrNothing_iff (crates : Crates) (stats : Stats) (pl : Gw.DownlinkFrame)
    (ack : Gw.DownlinkTxAck) :
    (DownlinkAllOrNothing crates stats pl ack ∧
        ∀ uplink, UplinkAllOrNothing crates stats uplink) ↔
      ∀ i v, ack.items[i]? = some v → v.getStatus = .ok → i < pl.items.length →
        Described pl i := by
  have succeeds := countItems_fst_iff crates pl stats 0 ack.items
  simp only [Nat.zero_add] at succeeds
  rw [← succeeds, and_iff_left fun uplink => countUplink_allOrNothing crates stats uplink]
  constructor
  · intro whole
    rcases counted : countItems crates pl stats 0 ack.items with ⟨result, stats'⟩
    cases result with
    | ok value => rfl
    | panic cause =>
        have calm := countDownlink_calm crates stats pl ack
        rw [countDownlink, counted] at calm
        exact absurd rfl (calm cause)
    | err message =>
        have same := whole.unchanged message (by rw [countDownlink, counted])
        rw [countDownlink, counted] at same
        obtain rfl : stats' = stats := same
        obtain ⟨grown, statuses, frames⟩ := countItems_err counted
        have none : grown = 0 := UInt32.left_eq_add.mp frames
        rw [none, UInt32.add_zero] at statuses
        exact absurd (UInt32.left_eq_add.mp statuses) (by decide)
  · intro fine
    refine ⟨fun message failed => ?_, fun _ bound => ?_⟩
    · rw [countDownlink, fine] at failed
      cases failed
    · rcases counted : countItems crates pl stats 0 ack.items with ⟨result, stats'⟩
      rw [counted] at fine
      obtain rfl : result = .ok () := fine
      rw [countDownlink, counted]
      exact countItems_ok counted (by omega)

/-- One item without transmit parameters. -/
def bareFrame : Gw.DownlinkFrame := ⟨1, [⟨[1], none⟩], ""⟩

def sentAck : Gw.DownlinkTxAck := ⟨"", 1, [.ofStatus .ok]⟩

theorem bare_item_half_counted :
    ¬ ∀ (crates : Crates) (stats : Stats) (pl : Gw.DownlinkFrame) (ack : Gw.DownlinkTxAck),
      DownlinkAllOrNothing crates stats pl ack ∧
        ∀ uplink, UplinkAllOrNothing crates stats uplink := by
  intro always
  have same := (always .plain {} bareFrame sentAck).1.unchanged "tx_info is missing" rfl
  have counted : (({} : Stats).countDownlink .plain bareFrame sentAck).2.okCount = 1 := rfl
  rw [same] at counted
  cases counted

end Stats

end MqttForwarder.SemtechUdp
