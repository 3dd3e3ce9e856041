import MqttForwarder.SemtechUdp.Downlink

/-!
# Which items become a PULL_RESP

An item of a downlink frame is accepted if it names a timing and a modulation,
and if the time that it names can be computed.  The object for the packet
forwarder then has the time of the one variant and the fields of the one
modulation.  In a build with overflow checks the sum of the counter and the
delay can panic, although the counter itself rolls over.
-/

namespace MqttForwarder.SemtechUdp

open MqttForwarder.Rust

/-! ## Times -/

/-- A duration that converts to `std::time::Duration`. -/
def NonNegative (duration : Gw.Duration) : Prop := 0 ≤ duration.seconds ∧ 0 ≤ duration.nanos

def nanosOf (duration : Gw.Duration) : Nat :=
  duration.seconds.toInt.toNat * 1000000000 + duration.nanos.toInt.toNat

/-- A delay in whole microseconds. -/
def microsOf (delay : Gw.Duration) : Nat :=
  (delay.seconds.toInt.toNat * 1000000000 + delay.nanos.toInt.toNat) / 1000

/-- The counter of the concentrator in the first four bytes of a context. -/
def counterOf (context : List UInt8) : UInt32 := u32FromBe (context.take 4)

section

variable {profile : Profile} {a b c : UInt32} {txInfo : Gw.DownlinkTxInfo}

theorem tryInto_eq_ok {duration : Gw.Duration} {nanos : Nat} :
    duration.tryInto = .ok nanos ↔ NonNegative duration ∧ nanosOf duration = nanos := by
  unfold Gw.Duration.tryInto
  split
  · next nonNegative => simp [NonNegative, nonNegative, nanosOf]
  · next negative => simp [NonNegative, negative]

theorem addU32_eq_ok_iff :
    addU32 profile a b = .ok c ↔
      (profile = .debug → a.toNat + b.toNat < 2 ^ 32) ∧ a + b = c := by
  unfold addU32
  split
  · next overflows =>
      have not : ¬ (profile = .debug → a.toNat + b.toNat < 2 ^ 32) :=
        fun bound => absurd (bound overflows.1) (by omega)
      exact iff_of_false (by simp) fun both => not both.1
  · next calm =>
      have bound : profile = .debug → a.toNat + b.toNat < 2 ^ 32 := by
        intro debug
        by_contra beyond
        exact calm ⟨debug, by omega⟩
      rw [and_iff_right bound, Outcome.ok.injEq]

/-- The timestamp of a delayed downlink, for a context that has a counter. -/
theorem tmstOf_delay (profile : Profile) (long : 4 ≤ txInfo.context.length)
    {delay : Gw.Duration} (nonNegative : NonNegative delay) :
    tmstOf profile txInfo (.delay ⟨some delay⟩) =
      addU32 profile (counterOf txInfo.context) (UInt32.ofNat (microsOf delay)) >>=
        fun sum => .ok (some sum) := by
  have whole : slice txInfo.context 0 4 = .ok (txInfo.context.take 4) :=
    slice_of_le (Nat.zero_le _) long
  rw [tmstOf, if_neg (Nat.not_lt.mpr long), whole]
  simp only [Outcome.ok_bind, Outcome.okOr_some, tryInto_eq_ok.mpr ⟨nonNegative, rfl⟩]
  rfl

theorem tryInto_negative {duration : Gw.Duration} (negative : ¬ NonNegative duration) :
    duration.tryInto = .err "out of range integral type conversion attempted" :=
  if_neg negative

theorem tmstOf_short (profile : Profile) (short : txInfo.context.length < 4)
    (delay : Option Gw.Duration) :
    tmstOf profile txInfo (.delay ⟨delay⟩) = .err "context must contain at least 4 bytes" := by
  rw [tmstOf, if_pos short]

theorem tmstOf_missing (profile : Profile) (long : 4 ≤ txInfo.context.length) :
    tmstOf profile txInfo (.delay ⟨none⟩) = .err "delay is missing" := by
  rw [tmstOf, if_neg (Nat.not_lt.mpr long), slice_of_le (Nat.zero_le _) long]
  rfl

theorem tmstOf_negative (profile : Profile) (long : 4 ≤ txInfo.context.length)
    {delay : Gw.Duration} (negative : ¬ NonNegative delay) :
    tmstOf profile txInfo (.delay ⟨some delay⟩) =
      .err "out of range integral type conversion attempted" := by
  rw [tmstOf, if_neg (Nat.not_lt.mpr long), slice_of_le (Nat.zero_le _) long]
  simp only [Outcome.ok_bind, Outcome.okOr_some, tryInto_negative negative, Outcome.err_bind]

/-- The context and the duration of a timing give a time. -/
def Timed (context : List UInt8) : Gw.TimingParameters → Prop
  | .immediately => True
  | .delay v => 4 ≤ context.length ∧ ∃ delay, v.delay = some delay ∧ NonNegative delay
  | .gpsEpoch v => ∃ time, v.timeSinceGpsEpoch = some time ∧ NonNegative time

/-- What a build with overflow checks adds to the conditions of a timing. -/
def Unchecked (profile : Profile) (context : List UInt8) : Gw.TimingParameters → Prop
  | .delay ⟨some delay⟩ =>
      profile = .debug → (counterOf context).toNat + microsOf delay % 2 ^ 32 < 2 ^ 32
  | _ => True

theorem toNat_ofNat_micros (delay : Gw.Duration) :
    (UInt32.ofNat (microsOf delay)).toNat = microsOf delay % 2 ^ 32 :=
  UInt32.toNat_ofNat'

/-- Both times can be computed exactly for a timing that gives one. -/
theorem times_exist_iff (profile : Profile) (timing : Gw.TimingParameters) :
    (∃ tmst tmms, tmstOf profile txInfo timing = .ok tmst ∧ tmmsOf timing = .ok tmms) ↔
      Timed txInfo.context timing ∧ Unchecked profile txInfo.context timing := by
  cases timing with
  | immediately => exact iff_of_true ⟨none, none, rfl, rfl⟩ ⟨trivial, trivial⟩
  | gpsEpoch v =>
      obtain ⟨time⟩ := v
      simp only [tmstOf, tmmsOf, Timed, Unchecked, Outcome.pure_eq, Outcome.bind_eq_ok,
        Outcome.okOr_eq_ok, tryInto_eq_ok, Outcome.ok.injEq, and_true]
      constructor
      · rintro ⟨_, _, rfl, time', known, _, ⟨nonNegative, _⟩, _⟩
        exact ⟨time', known, nonNegative⟩
      · rintro ⟨time', known, nonNegative⟩
        exact ⟨_, _, rfl, time', known, _, ⟨nonNegative, rfl⟩, rfl⟩
  | delay v =>
      obtain ⟨delay⟩ := v
      constructor
      · rintro ⟨tmst, tmms, computed, _⟩
        have long : 4 ≤ txInfo.context.length := by
          by_contra short
          rw [tmstOf_short profile (Nat.lt_of_not_le short)] at computed
          cases computed
        cases delay with
        | none =>
            rw [tmstOf_missing profile long] at computed
            cases computed
        | some delay =>
            have nonNegative : NonNegative delay := by
              by_contra negative
              rw [tmstOf_negative profile long negative] at computed
              cases computed
            refine ⟨⟨long, delay, rfl, nonNegative⟩, fun debug => ?_⟩
            rw [tmstOf_delay profile long nonNegative] at computed
            obtain ⟨sum, added, _⟩ := Outcome.bind_eq_ok.mp computed
            rw [← toNat_ofNat_micros]
            exact (addU32_eq_ok_iff.mp added).1 debug
      · rintro ⟨⟨long, delay', known, nonNegative⟩, unchecked⟩
        obtain rfl : delay = some delay' := known
        refine ⟨some (counterOf txInfo.context + UInt32.ofNat (microsOf delay')), none, ?_, rfl⟩
        rw [tmstOf_delay profile long nonNegative,
          addU32_eq_ok_iff.mpr ⟨fun debug => toNat_ofNat_micros delay' ▸ unchecked debug, rfl⟩]
        rfl

/-- A delay that gives no time is refused, in every build. -/
theorem tmstOf_refused_iff (profile : Profile) (delay : Option Gw.Duration) :
    (∃ message, tmstOf profile txInfo (.delay ⟨delay⟩) = .err message) ↔
      ¬ Timed txInfo.context (.delay ⟨delay⟩) := by
  by_cases long : 4 ≤ txInfo.context.length
  · cases delay with
    | none =>
        refine iff_of_true ⟨_, tmstOf_missing profile long⟩ ?_
        rintro ⟨_, _, missing, _⟩
        cases missing
    | some delay =>
        by_cases nonNegative : NonNegative delay
        · refine iff_of_false ?_ fun untimed => untimed ⟨long, delay, rfl, nonNegative⟩
          rintro ⟨message, refused⟩
          rw [tmstOf_delay profile long nonNegative, addU32] at refused
          split at refused <;> cases refused
        · refine iff_of_true ⟨_, tmstOf_negative profile long nonNegative⟩ ?_
          rintro ⟨_, _, same, converts⟩
          cases same
          exact nonNegative converts
  · exact iff_of_true ⟨_, tmstOf_short profile (Nat.lt_of_not_le long) delay⟩
      fun timed => long timed.1

/-- A GPS time that cannot be converted is refused. -/
theorem tmmsOf_refused_iff (time : Option Gw.Duration) :
    (∃ message, tmmsOf (.gpsEpoch ⟨time⟩) = .err message) ↔
      ¬ Timed txInfo.context (.gpsEpoch ⟨time⟩) := by
  cases time with
  | none =>
      refine iff_of_true ⟨_, rfl⟩ ?_
      rintro ⟨_, missing, _⟩
      cases missing
  | some time =>
      by_cases nonNegative : NonNegative time
      · refine iff_of_false ?_ fun untimed => untimed ⟨time, rfl, nonNegative⟩
        rintro ⟨message, refused⟩
        simp [tmmsOf, tryInto_eq_ok.mpr ⟨nonNegative, rfl⟩] at refused
      · refine iff_of_true ⟨"out of range integral type conversion attempted", ?_⟩ ?_
        · simp [tmmsOf, tryInto_negative nonNegative]
        · rintro ⟨_, same, converts⟩
          cases same
          exact nonNegative converts

/-- A timing that gives no time is refused, in every build. -/
theorem times_refused_iff (profile : Profile) (timing : Gw.TimingParameters) :
    (∃ message, (tmstOf profile txInfo timing >>= fun tmst =>
        tmmsOf timing >>= fun tmms => pure (tmst, tmms)) = .err message) ↔
      ¬ Timed txInfo.context timing := by
  cases timing with
  | immediately =>
      refine iff_of_false ?_ fun untimed => untimed trivial
      rintro ⟨message, impossible⟩
      cases impossible
  | gpsEpoch v =>
      rw [← tmmsOf_refused_iff]
      have first : tmstOf profile txInfo (.gpsEpoch v) = .ok none := rfl
      rw [first, Outcome.ok_bind]
      cases tmmsOf (.gpsEpoch v) <;> simp
  | delay v =>
      rw [← tmstOf_refused_iff profile]
      have second : tmmsOf (.delay v) = .ok none := rfl
      rw [second]
      cases tmstOf profile txInfo (.delay v) <;> simp

end

/-! ## Items -/

/-- The item names its transmit parameters with a timing and a modulation. -/
structure Requested (dl : Gw.DownlinkFrame) (i : Nat) (item : Gw.DownlinkFrameItem)
    (txInfo : Gw.DownlinkTxInfo) (timing : Gw.TimingParameters)
    (parameters : Gw.ModulationParameters) : Prop where
  found : dl.items[i]? = some item
  info : item.txInfo = some txInfo
  timing : txInfo.timing = some ⟨some timing⟩
  modulation : txInfo.modulation = some ⟨some parameters⟩

/-- The object for an item whose times have been computed. -/
def TxPk.ofItem (item : Gw.DownlinkFrameItem) (txInfo : Gw.DownlinkTxInfo)
    (timing : Gw.TimingParameters) (parameters : Gw.ModulationParameters) (tmst : Option UInt32)
    (tmms : Option UInt64) : TxPk where
  imme := timing = .immediately
  rfch := 0
  powe := txInfo.power.toUInt32.toUInt8
  ant := txInfo.antenna.toUInt8
  brd := txInfo.board.toUInt8
  tmst
  tmms
  freq := txInfo.frequency.toFloat / 1000000
  modu := moduOf parameters
  datr := datrOf parameters
  codr := codrOf parameters
  fdev := fdevOf parameters
  ncrc := ncrcOf parameters
  ipol := ipolOf parameters
  prea := preaOf parameters
  size := UInt16.ofNat item.phyPayload.length
  data := item.phyPayload

section

variable {profile : Profile} {dl : Gw.DownlinkFrame} {i : Nat} {token : UInt16} {resp : PullResp}
  {item : Gw.DownlinkFrameItem} {txInfo : Gw.DownlinkTxInfo} {timing : Gw.TimingParameters}
  {parameters : Gw.ModulationParameters}

/-- An item is requested in one way only. -/
theorem Requested.unique (requested : Requested dl i item txInfo timing parameters)
    {item' : Gw.DownlinkFrameItem} {txInfo' : Gw.DownlinkTxInfo} {timing' : Gw.TimingParameters}
    {parameters' : Gw.ModulationParameters}
    (again : Requested dl i item' txInfo' timing' parameters') :
    item' = item ∧ txInfo' = txInfo ∧ timing' = timing ∧ parameters' = parameters := by
  obtain rfl := Option.some.inj (again.found.symm.trans requested.found)
  obtain rfl := Option.some.inj (again.info.symm.trans requested.info)
  have timings := again.timing.symm.trans requested.timing
  have modulations := again.modulation.symm.trans requested.modulation
  simp only [Option.some.injEq, Gw.Timing.mk.injEq] at timings
  simp only [Option.some.injEq, Gw.Modulation.mk.injEq] at modulations
  exact ⟨rfl, rfl, timings, modulations⟩

/-- An item is accepted exactly if it is requested and its times can be computed; this is the
object that it becomes. -/
theorem PullResp.fromProto_eq_ok :
    PullResp.fromProto profile dl i token = .ok resp ↔
      ∃ item txInfo timing parameters tmst tmms,
        Requested dl i item txInfo timing parameters ∧ tmstOf profile txInfo timing = .ok tmst ∧
        tmmsOf timing = .ok tmms ∧
        resp = ⟨token, ⟨TxPk.ofItem item txInfo timing parameters tmst tmms⟩⟩ := by
  simp only [PullResp.fromProto, Outcome.bind_eq_ok, Outcome.okOr_eq_ok, Outcome.pure_eq,
    Outcome.ok.injEq]
  constructor
  · rintro ⟨item, found, txInfo, info, ⟨_⟩, timed, timing, rfl, ⟨_⟩, modulated, parameters, rfl,
      tmst, computed, tmms, computed', rfl⟩
    refine ⟨item, txInfo, timing, parameters, tmst, tmms, ⟨found, info, timed, modulated⟩,
      computed, computed', ?_⟩
    simp [TxPk.ofItem]
  · rintro ⟨item, txInfo, timing, parameters, tmst, tmms, requested, computed, computed', rfl⟩
    refine ⟨item, requested.found, txInfo, requested.info, _, requested.timing, timing, rfl, _,
      requested.modulation, parameters, rfl, tmst, computed, tmms, computed', ?_⟩
    simp [TxPk.ofItem]

/-- The item of the frame can become a PULL_RESP. -/
def Acceptable (dl : Gw.DownlinkFrame) (i : Nat) : Prop :=
  ∃ item txInfo timing parameters, Requested dl i item txInfo timing parameters ∧
    Timed txInfo.context timing

/-- A requested item is accepted exactly if its time can be computed. -/
theorem Requested.accepted_iff (requested : Requested dl i item txInfo timing parameters) :
    (∃ resp, PullResp.fromProto profile dl i token = .ok resp) ↔
      Timed txInfo.context timing ∧ Unchecked profile txInfo.context timing := by
  rw [← times_exist_iff]
  constructor
  · rintro ⟨resp, accepted⟩
    obtain ⟨_, _, _, _, tmst, tmms, again, computed, computed', _⟩ :=
      PullResp.fromProto_eq_ok.mp accepted
    obtain ⟨rfl, rfl, rfl, rfl⟩ := requested.unique again
    exact ⟨tmst, tmms, computed, computed'⟩
  · rintro ⟨tmst, tmms, computed, computed'⟩
    exact ⟨_, PullResp.fromProto_eq_ok.mpr
      ⟨item, txInfo, timing, parameters, tmst, tmms, requested, computed, computed', rfl⟩⟩

/-- The release profile computes every sum. -/
theorem unchecked_release (context : List UInt8) (timing : Gw.TimingParameters) :
    Unchecked .release context timing := by
  cases timing with
  | delay v =>
      obtain ⟨delay⟩ := v
      cases delay with
      | none => trivial
      | some delay => exact fun impossible => by cases impossible
  | _ => trivial

/-- The conversion of a requested item is that of its times. -/
theorem Requested.fromProto_eq (requested : Requested dl i item txInfo timing parameters) :
    PullResp.fromProto profile dl i token =
      (tmstOf profile txInfo timing >>= fun tmst => tmmsOf timing >>= fun tmms =>
        pure (tmst, tmms)) >>= fun times =>
          pure ⟨token, ⟨TxPk.ofItem item txInfo timing parameters times.1 times.2⟩⟩ := by
  simp [PullResp.fromProto, requested.found, requested.info, requested.timing,
    requested.modulation, TxPk.ofItem]

/-- An item is requested, or it is refused for what it does not name. -/
theorem PullResp.requested_or_refused (profile : Profile) (dl : Gw.DownlinkFrame) (i : Nat)
    (token : UInt16) :
    (∃ item txInfo timing parameters, Requested dl i item txInfo timing parameters) ∨
      ∃ message, PullResp.fromProto profile dl i token = .err message := by
  cases found : dl.items[i]? with
  | none => exact .inr ⟨_, by rw [fromProto, found]; rfl⟩
  | some item =>
      obtain ⟨phyPayload, txInfo⟩ := item
      cases txInfo with
      | none => exact .inr ⟨_, by rw [fromProto, found]; rfl⟩
      | some txInfo =>
          obtain ⟨frequency, power, modulation, board, antenna, timing, context⟩ := txInfo
          rcases timing with _ | ⟨_ | timing⟩
          · exact .inr ⟨_, by rw [fromProto, found]; rfl⟩
          · exact .inr ⟨_, by rw [fromProto, found]; rfl⟩
          · rcases modulation with _ | ⟨_ | parameters⟩
            · exact .inr ⟨_, by rw [fromProto, found]; rfl⟩
            · exact .inr ⟨_, by rw [fromProto, found]; rfl⟩
            · exact .inl ⟨_, _, timing, parameters, found, rfl, rfl, rfl⟩

theorem Requested.refused_iff (requested : Requested dl i item txInfo timing parameters) :
    (∃ message, PullResp.fromProto profile dl i token = .err message) ↔ ¬ Acceptable dl i := by
  have acceptable : Acceptable dl i ↔ Timed txInfo.context timing := by
    constructor
    · rintro ⟨_, _, _, _, again, timed⟩
      obtain ⟨rfl, rfl, rfl, rfl⟩ := requested.unique again
      exact timed
    · exact fun timed => ⟨item, txInfo, timing, parameters, requested, timed⟩
  rw [acceptable, ← times_refused_iff profile, requested.fromProto_eq]
  refine exists_congr fun message => ?_
  cases tmstOf profile txInfo timing >>= fun tmst =>
    tmmsOf timing >>= fun tmms => pure (tmst, tmms) <;> simp

/-- Exactly the items that are not acceptable are refused, in every build. -/
theorem PullResp.fromProto_refused_iff :
    (∃ message, PullResp.fromProto profile dl i token = .err message) ↔ ¬ Acceptable dl i := by
  rcases PullResp.requested_or_refused profile dl i token with
    ⟨item, txInfo, timing, parameters, requested⟩ | refused
  · exact requested.refused_iff
  · refine iff_of_true refused fun acceptable => ?_
    obtain ⟨item, txInfo, timing, parameters, requested, timed⟩ := acceptable
    exact requested.refused_iff.mp refused ⟨item, txInfo, timing, parameters, requested, timed⟩

/-- Exactly one of the three times of the object is set, the one of the timing. -/
def TimedAs (txpk : TxPk) : Gw.TimingParameters → Prop
  | .immediately => txpk.imme = true ∧ txpk.tmst = none ∧ txpk.tmms = none
  | .delay _ => txpk.imme = false ∧ txpk.tmst.isSome ∧ txpk.tmms = none
  | .gpsEpoch _ => txpk.imme = false ∧ txpk.tmst = none ∧ txpk.tmms.isSome

/-- The object has the fields of the modulation only. -/
structure ModulatedAs (txpk : TxPk) (parameters : Gw.ModulationParameters) : Prop where
  codr : txpk.codr.isSome ↔ ∃ info, parameters = .lora info
  ipol : txpk.ipol.isSome ↔ ∃ info, parameters = .lora info
  ncrc : txpk.ncrc.isSome → ∃ info, parameters = .lora info
  prea : txpk.prea.isSome → ∃ info, parameters = .lora info
  fdev : txpk.fdev.isSome ↔ ∃ info, parameters = .fsk info

theorem timedAs_ofItem {tmst : Option UInt32} {tmms : Option UInt64}
    (computed : tmstOf profile txInfo timing = .ok tmst) (computed' : tmmsOf timing = .ok tmms) :
    TimedAs (TxPk.ofItem item txInfo timing parameters tmst tmms) timing := by
  cases timing with
  | immediately =>
      cases computed
      cases computed'
      exact ⟨rfl, rfl, rfl⟩
  | delay v =>
      cases computed'
      refine ⟨rfl, ?_, rfl⟩
      rw [tmstOf] at computed
      by_cases short : txInfo.context.length < 4
      · rw [if_pos short] at computed
        cases computed
      · rw [if_neg short] at computed
        obtain ⟨_, _, computed⟩ := Outcome.bind_eq_ok.mp computed
        obtain ⟨_, _, computed⟩ := Outcome.bind_eq_ok.mp computed
        obtain ⟨_, _, computed⟩ := Outcome.bind_eq_ok.mp computed
        obtain ⟨sum, _, computed⟩ := Outcome.bind_eq_ok.mp computed
        cases computed
        rfl
  | gpsEpoch v =>
      cases computed
      refine ⟨rfl, rfl, ?_⟩
      obtain ⟨_, _, computed'⟩ := Outcome.bind_eq_ok.mp computed'
      obtain ⟨millis, _, computed'⟩ := Outcome.bind_eq_ok.mp computed'
      cases computed'
      rfl

theorem modulatedAs_ofItem (tmst : Option UInt32) (tmms : Option UInt64) :
    ModulatedAs (TxPk.ofItem item txInfo timing parameters tmst tmms) parameters := by
  cases parameters with
  | lora info =>
      exact ⟨by simp [TxPk.ofItem, codrOf], by simp [TxPk.ofItem, ipolOf], fun _ => ⟨info, rfl⟩,
        fun _ => ⟨info, rfl⟩, by simp [TxPk.ofItem, fdevOf]⟩
  | fsk info => constructor <;> simp [TxPk.ofItem, codrOf, ipolOf, ncrcOf, preaOf, fdevOf]
  | lrFhss info => constructor <;> simp [TxPk.ofItem, codrOf, ipolOf, ncrcOf, preaOf, fdevOf]

/-- Where the sum of the counter and the delay wraps, an item is accepted exactly if it is
acceptable, and its object has the one time and the fields of the one modulation that were
requested. -/
theorem PullResp.fromProto_exact (dl : Gw.DownlinkFrame) (i : Nat) (token : UInt16) :
    ((∃ resp, PullResp.fromProto .release dl i token = .ok resp) ↔ Acceptable dl i) ∧
    ∀ resp, PullResp.fromProto .release dl i token = .ok resp →
      ∃ item txInfo timing parameters, Requested dl i item txInfo timing parameters ∧
        TimedAs resp.payload.txpk timing ∧ ModulatedAs resp.payload.txpk parameters := by
  refine ⟨⟨?_, ?_⟩, ?_⟩
  · rintro ⟨resp, accepted⟩
    obtain ⟨item, txInfo, timing, parameters, _, _, requested, _⟩ :=
      PullResp.fromProto_eq_ok.mp accepted
    exact ⟨item, txInfo, timing, parameters, requested,
      (requested.accepted_iff.mp ⟨resp, accepted⟩).1⟩
  · rintro ⟨item, txInfo, timing, parameters, requested, timed⟩
    exact requested.accepted_iff.mpr ⟨timed, unchecked_release _ _⟩
  · intro resp accepted
    obtain ⟨item, txInfo, timing, parameters, tmst, tmms, requested, computed, computed', rfl⟩ :=
      PullResp.fromProto_eq_ok.mp accepted
    exact ⟨item, txInfo, timing, parameters, requested, timedAs_ofItem computed computed',
      modulatedAs_ofItem tmst tmms⟩

/-! ## Timestamps -/

/-- The item is accepted, and its timestamp is the counter plus the delay, as the counter of the
concentrator itself would count. -/
def RollsOver (profile : Profile) (dl : Gw.DownlinkFrame) (i : Nat) (token : UInt16)
    (context : List UInt8) (delay : Gw.Duration) : Prop :=
  ∃ resp tmst, PullResp.fromProto profile dl i token = .ok resp ∧
    resp.payload.txpk.tmst = some tmst ∧
    tmst.toNat = ((counterOf context).toNat + microsOf delay) % 2 ^ 32

/-- A delayed item has the timestamp of the counter exactly if its build does not check the sum,
or the sum does not overflow. -/
theorem PullResp.fromProto_rollsOver_iff {delay : Gw.Duration}
    (requested : Requested dl i item txInfo (.delay ⟨some delay⟩) parameters)
    (context : 4 ≤ txInfo.context.length) (nonNegative : NonNegative delay)
    (profile : Profile) (token : UInt16) :
    RollsOver profile dl i token txInfo.context delay ↔
      (profile = .debug →
        (counterOf txInfo.context).toNat + microsOf delay % 2 ^ 32 < 2 ^ 32) := by
  constructor
  · rintro ⟨resp, tmst, accepted, _⟩
    exact (requested.accepted_iff.mp ⟨resp, accepted⟩).2
  · intro unchecked
    have computed : tmstOf profile txInfo (.delay ⟨some delay⟩) =
        .ok (some (counterOf txInfo.context + UInt32.ofNat (microsOf delay))) := by
      rw [tmstOf_delay profile context nonNegative,
        addU32_eq_ok_iff.mpr ⟨fun debug => toNat_ofNat_micros delay ▸ unchecked debug, rfl⟩]
      rfl
    refine ⟨_, _, PullResp.fromProto_eq_ok.mpr ⟨item, txInfo, _, parameters, _, none, requested,
      computed, rfl, rfl⟩, rfl, ?_⟩
    rw [UInt32.toNat_add, toNat_ofNat_micros, Nat.add_mod_mod]

end

/-! ## A delay of one second -/

def delayedTxInfo (context : List UInt8) : Gw.DownlinkTxInfo where
  frequency := 868100000
  power := 14
  modulation := some ⟨some (.lora {
    bandwidth := 125000, spreadingFactor := 7, codeRate := Gw.CodeRate.cr45.toI32 })⟩
  board := 0
  antenna := 0
  timing := some ⟨some (.delay ⟨some ⟨1, 0⟩⟩)⟩
  context

def delayedFrame (context : List UInt8) : Gw.DownlinkFrame where
  downlinkId := 1
  items := [{ phyPayload := [1], txInfo := some (delayedTxInfo context) }]
  gatewayId := "0000000000000001"

theorem delayedFrame_requested (context : List UInt8) :
    Requested (delayedFrame context) 0 ⟨[1], some (delayedTxInfo context)⟩
      (delayedTxInfo context) (.delay ⟨some ⟨1, 0⟩⟩) (.lora {
        bandwidth := 125000, spreadingFactor := 7, codeRate := Gw.CodeRate.cr45.toI32 }) :=
  ⟨rfl, rfl, rfl, rfl⟩

theorem PullResp.fromProto_rollsOver_iff_last_microsecond :
    RollsOver .release (delayedFrame [255, 255, 255, 255]) 0 1 [255, 255, 255, 255] ⟨1, 0⟩ ↔
      (Profile.release = .debug →
        (counterOf [255, 255, 255, 255]).toNat + microsOf ⟨1, 0⟩ % 2 ^ 32 < 2 ^ 32) :=
  PullResp.fromProto_rollsOver_iff (delayedFrame_requested [255, 255, 255, 255]) (by decide)
    ⟨by decide, by decide⟩ .release 1

/-- A build with overflow checks panics within a second of the end of the counter. -/
theorem panics_before_rollover :
    ¬ ∀ (profile : Profile) (dl : Gw.DownlinkFrame) (i : Nat) (token : UInt16)
      (item : Gw.DownlinkFrameItem) (txInfo : Gw.DownlinkTxInfo) (delay : Gw.Duration)
      (parameters : Gw.ModulationParameters),
      Requested dl i item txInfo (.delay ⟨some delay⟩) parameters →
      4 ≤ txInfo.context.length → NonNegative delay →
      RollsOver profile dl i token txInfo.context delay := by
  intro rolls
  obtain ⟨resp, _, accepted, _⟩ := rolls .debug (delayedFrame [255, 255, 255, 255]) 0 1 _ _ _ _
    (delayedFrame_requested [255, 255, 255, 255]) (by decide) ⟨by decide, by decide⟩
  have panics : PullResp.fromProto .debug (delayedFrame [255, 255, 255, 255]) 0 1 =
      .panic .addOverflow := by rfl
  rw [panics] at accepted
  cases accepted

end MqttForwarder.SemtechUdp
