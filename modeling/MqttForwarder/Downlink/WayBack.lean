import MqttForwarder.Downlink.Acceptance
import MqttForwarder.Uplink.Forwarding

/-!
# The way back

A network server answers an uplink with the modulation and the context of its
frame.  The two conversions between objects and frames have a table of coding
rates each, and the tables disagree on one rate.  For all others the radio
parameters of the uplink come back, and the timestamp is that of the uplink
plus the delay.
-/

namespace MqttForwarder.SemtechUdp

open MqttForwarder.Rust

/-! ## Parameters -/

/-- Only the rate 5/6 is another rate after a way through the two tables. -/
theorem fromProto_toProto_iff (cr : CodeRate) :
    CodeRate.fromProto cr.toProto = cr ↔ cr ≠ .cr56 := by
  cases cr <;> decide

section

variable {rx : RxPk} {parameters : Gw.ModulationParameters}

theorem datrOf_modulationParameters (converted : rx.modulationParameters = .ok parameters) :
    datrOf parameters = rx.datr := by
  unfold RxPk.modulationParameters at converted
  cases datr : rx.datr with
  | fsk bitrate =>
      rw [datr] at converted
      cases converted
      rfl
  | lora sf bw =>
      rw [datr] at converted
      obtain ⟨codr, _, same⟩ := Outcome.bind_eq_ok.mp converted
      cases same
      rfl
  | lrFhss ocw =>
      rw [datr] at converted
      obtain ⟨codr, _, rest⟩ := Outcome.bind_eq_ok.mp converted
      obtain ⟨hpw, _, same⟩ := Outcome.bind_eq_ok.mp rest
      cases same
      rfl

/-- The coding rate of a LoRa object after both conversions. -/
theorem codrOf_modulationParameters {sf bw : UInt32} (lora : rx.datr = .lora sf bw)
    (converted : rx.modulationParameters = .ok parameters) :
    ∃ cr, rx.codr = some cr ∧ codrOf parameters = some (CodeRate.fromProto cr.toProto) := by
  unfold RxPk.modulationParameters at converted
  rw [lora] at converted
  obtain ⟨codr, found, same⟩ := Outcome.bind_eq_ok.mp converted
  cases same
  refine ⟨codr, Outcome.okOr_eq_ok.mp found, ?_⟩
  rw [codrOf, Gw.LoraModulationInfo.getCodeRate, Gw.CodeRate.ofI32_toI32]

/-- The coding rate comes back unless it is 5/6. -/
theorem codrOf_eq_iff {sf bw : UInt32} (lora : rx.datr = .lora sf bw)
    (converted : rx.modulationParameters = .ok parameters) :
    codrOf parameters = rx.codr ↔ rx.codr ≠ some .cr56 := by
  obtain ⟨cr, own, back⟩ := codrOf_modulationParameters lora converted
  rw [own, back, Option.some.injEq, fromProto_toProto_iff, ne_eq, ne_eq, Option.some.injEq]

end

/-! ## The item that answers an uplink -/

/-- The downlink reuses the modulation and the context of the frame, with a delay. -/
structure Reuses (pl : Gw.UplinkFrame) (delay : Gw.Duration) (txInfo : Gw.DownlinkTxInfo) :
    Prop where
  modulation : txInfo.modulation = pl.txInfo.bind Gw.UplinkTxInfo.modulation
  context : some txInfo.context = pl.rxInfo.map Gw.UplinkRxInfo.context
  timing : txInfo.timing = some ⟨some (.delay ⟨some delay⟩)⟩

/-- The object for the packet forwarder has the parameters of the uplink, at its time plus the
delay. -/
structure Survives (rx : RxPk) (delay : Gw.Duration) (txpk : TxPk) : Prop where
  datr : txpk.datr = rx.datr
  codr : ∀ sf bw, rx.datr = .lora sf bw → txpk.codr = rx.codr
  tmst : txpk.tmst = some (rx.tmst + UInt32.ofNat (microsOf delay))

/-- An item that reuses an uplink is accepted exactly if its timestamp can be computed. -/
theorem PullResp.fromProto_delay {profile : Profile} {dl : Gw.DownlinkFrame} {i : Nat}
    {item : Gw.DownlinkFrameItem} {txInfo : Gw.DownlinkTxInfo} {token : UInt16}
    {parameters : Gw.ModulationParameters} {delay : Gw.Duration} {tmst : UInt32}
    (found : dl.items[i]? = some item) (info : item.txInfo = some txInfo)
    (modulation : txInfo.modulation = some ⟨some parameters⟩)
    (timing : txInfo.timing = some ⟨some (.delay ⟨some delay⟩)⟩)
    (context : txInfo.context = u32ToBe tmst)
    (nonNegative : 0 ≤ delay.seconds ∧ 0 ≤ delay.nanos) (txpk : TxPk → Prop) :
    (∃ resp, PullResp.fromProto profile dl i token = .ok resp ∧ txpk resp.payload.txpk) ↔
      ∃ sum, addU32 profile tmst (UInt32.ofNat (microsOf delay)) = .ok sum ∧ txpk {
        imme := false, rfch := 0, powe := txInfo.power.toUInt32.toUInt8,
        ant := txInfo.antenna.toUInt8, brd := txInfo.board.toUInt8, tmst := some sum, tmms := none,
        freq := txInfo.frequency.toFloat / 1000000, modu := moduOf parameters,
        datr := datrOf parameters, codr := codrOf parameters, fdev := fdevOf parameters,
        ncrc := ncrcOf parameters, ipol := ipolOf parameters, prea := preaOf parameters,
        size := UInt16.ofNat item.phyPayload.length, data := item.phyPayload } := by
  have long : 4 ≤ txInfo.context.length := by
    rw [context]
    exact le_rfl
  have counter : counterOf txInfo.context = tmst := by
    rw [context]
    exact u32FromBe_u32ToBe tmst
  simp only [PullResp.fromProto, found, info, timing, modulation, Outcome.okOr_some,
    Outcome.ok_bind, tmstOf_delay profile long nonNegative, counter]
  cases addU32 profile tmst (UInt32.ofNat (microsOf delay)) with
  | ok sum => simp [tmmsOf]
  | err message => simp
  | panic cause => simp

/-- The frames of a conversion that succeeded are those of the object. -/
theorem RxPk.expands_of_exec {rx : RxPk} {gatewayId : List UInt8} {fallback : Bool} {s s' : State}
    {os : List Effect} {frames : List Gw.UplinkFrame}
    (converted : (rx.toProto gatewayId fallback : Task _).Exec (fun _ => True) s os s'
      (.ok frames)) : rx.Expands (fun _ => True) fallback gatewayId frames := by
  have consults := @RxPk.toProto_consults State Effect (fun _ => True) (fun _ => True) fallback
    gatewayId (fun _ _ => trivial) rx
  have upholds : (rx.toProto gatewayId fallback : Task _).Upholds (fun _ => True)
      (fun _ _ => True) (fun _ _ _ _ => True) _ [] :=
    consults.upholds (fun _ _ => trivial) []
  rcases (upholds.exec converted).2 with ⟨same, equal, expands⟩ | ⟨_, message, impossible⟩
  · cases equal
    exact expands
  · cases impossible

/-- The parameters of an uplink survive the way back exactly if its coding rate is not 5/6 and
no overflow of the timestamp is checked. -/
theorem parameters_survive_iff {profile : Profile} {rx : RxPk} {gatewayId : List UInt8}
    {fallback : Bool} {s s' : State} {os : List Effect} {frames : List Gw.UplinkFrame}
    (converted : (rx.toProto gatewayId fallback : Task _).Exec (fun _ => True) s os s'
      (.ok frames))
    {pl : Gw.UplinkFrame} (member : pl ∈ frames) {delay : Gw.Duration}
    (nonNegative : 0 ≤ delay.seconds ∧ 0 ≤ delay.nanos) {dl : Gw.DownlinkFrame} {i : Nat}
    {item : Gw.DownlinkFrameItem} {txInfo : Gw.DownlinkTxInfo} (found : dl.items[i]? = some item)
    (info : item.txInfo = some txInfo) (reuses : Reuses pl delay txInfo) (token : UInt16) :
    (∃ resp, PullResp.fromProto profile dl i token = .ok resp ∧
        Survives rx delay resp.payload.txpk) ↔
      (∀ sf bw, rx.datr = .lora sf bw → rx.codr ≠ some .cr56) ∧
      (profile = .debug →
        rx.tmst.toNat + (UInt32.ofNat (microsOf delay)).toNat < 2 ^ 32) := by
  obtain ⟨signal, uplinkId, parameters, gwTime, shown, rfl⟩ :=
    (RxPk.expands_of_exec converted).frame member
  have modulation : txInfo.modulation = some ⟨some parameters⟩ := reuses.modulation
  have context : txInfo.context = u32ToBe rx.tmst := Option.some.inj reuses.context
  rw [PullResp.fromProto_delay found info modulation reuses.timing context nonNegative]
  constructor
  · rintro ⟨sum, computed, survives⟩
    obtain ⟨bound, rfl⟩ := addU32_eq_ok_iff.mp computed
    exact ⟨fun sf bw lora => (codrOf_eq_iff lora shown).mp (survives.codr sf bw lora), bound⟩
  · rintro ⟨other, bound⟩
    refine ⟨_, addU32_eq_ok_iff.mpr ⟨bound, rfl⟩, datrOf_modulationParameters shown, ?_, rfl⟩
    exact fun sf bw lora => (codrOf_eq_iff lora shown).mpr (other sf bw lora)

/-! ## An answer one second after an uplink -/

/-- A LoRa uplink with a coding rate. -/
def answeredRxPk (codr : CodeRate) : RxPk where
  tmst := 1000000
  freq := (868 : UInt64).toFloat
  stat := .ok
  modu := .lora
  datr := .lora 7 125000
  codr := some codr
  size := 1
  data := [0]

def answeredFrame (codr : CodeRate) : Gw.UplinkFrame :=
  (answeredRxPk codr).frame [0, 0, 0, 0, 0, 0, 0, 1] 0
    (.lora { bandwidth := 125000, spreadingFactor := 7, codeRate := codr.toProto.toI32 }) none

theorem answered_exec (codr : CodeRate) :
    ((answeredRxPk codr).toProto [0, 0, 0, 0, 0, 0, 0, 1] false : Task _).Exec (fun _ => True)
      (State.init {}) [] (State.init {}) (.ok [answeredFrame codr]) :=
  ⟨Env.plain, trivial, [], rfl, rfl, rfl, rfl⟩

def oneSecond : Gw.Duration := ⟨1, 0⟩

def answerTxInfo (codr : CodeRate) : Gw.DownlinkTxInfo where
  frequency := 868100000
  power := 14
  modulation := some ⟨some (.lora {
    bandwidth := 125000, spreadingFactor := 7, codeRate := codr.toProto.toI32 })⟩
  board := 0
  antenna := 0
  timing := some ⟨some (.delay ⟨some oneSecond⟩)⟩
  context := u32ToBe 1000000

def answer (codr : CodeRate) : Gw.DownlinkFrame where
  downlinkId := 1
  items := [{ phyPayload := [1], txInfo := some (answerTxInfo codr) }]
  gatewayId := "0000000000000001"

theorem answer_reuses (codr : CodeRate) :
    Reuses (answeredFrame codr) oneSecond (answerTxInfo codr) :=
  ⟨rfl, rfl, rfl⟩

theorem parameters_survive_iff_one_second :
    (∃ resp, PullResp.fromProto .debug (answer .cr45) 0 7 = .ok resp ∧
        Survives (answeredRxPk .cr45) oneSecond resp.payload.txpk) ↔
      (∀ sf bw, (answeredRxPk .cr45).datr = .lora sf bw →
        (answeredRxPk .cr45).codr ≠ some .cr56) ∧
      (Profile.debug = .debug →
        (answeredRxPk .cr45).tmst.toNat + (UInt32.ofNat (microsOf oneSecond)).toNat < 2 ^ 32) :=
  parameters_survive_iff (answered_exec .cr45) List.mem_cons_self ⟨by decide, by decide⟩ rfl rfl
    (answer_reuses .cr45) 7

/-- The coding rate 5/6 comes back as 4/5. -/
theorem code_rate_changes_on_the_way_back :
    ¬ ∀ (profile : Profile) (rx : RxPk) (gatewayId : List UInt8) (fallback : Bool) (s s' : State)
      (os : List Effect) (frames : List Gw.UplinkFrame) (pl : Gw.UplinkFrame)
      (delay : Gw.Duration) (dl : Gw.DownlinkFrame) (i : Nat) (item : Gw.DownlinkFrameItem)
      (txInfo : Gw.DownlinkTxInfo) (token : UInt16),
      (rx.toProto gatewayId fallback : Task _).Exec (fun _ => True) s os s' (.ok frames) →
      pl ∈ frames → 0 ≤ delay.seconds ∧ 0 ≤ delay.nanos → dl.items[i]? = some item →
      item.txInfo = some txInfo → Reuses pl delay txInfo →
      ∃ resp, PullResp.fromProto profile dl i token = .ok resp ∧
        Survives rx delay resp.payload.txpk := by
  intro reusable
  obtain ⟨resp, accepted, survives⟩ := reusable .release (answeredRxPk .cr56) _ false _ _ _ _ _
    oneSecond (answer .cr56) 0 _ _ 7 (answered_exec .cr56) List.mem_cons_self
    ⟨by decide, by decide⟩ rfl rfl (answer_reuses .cr56)
  have back : resp.payload.txpk.codr = some .cr45 := by
    cases accepted
    rfl
  have codr := survives.codr 7 125000 rfl
  rw [back] at codr
  cases codr

end MqttForwarder.SemtechUdp
