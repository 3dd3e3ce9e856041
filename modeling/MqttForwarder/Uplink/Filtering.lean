import MqttForwarder.Concentratord.Events
import MqttForwarder.Uplink.Forwarding

/-!
# The same filter in both backends

A frame is published if the uplink filters accept its payload and the flag for
its CRC status is set.  Both backends take this decision for every frame, with
or without reception data, whatever number the CRC status has.
-/

namespace MqttForwarder

open MqttForwarder.Rust

/-- The settings that `Backend::setup` of the Semtech UDP backend takes from the configuration. -/
def SemtechUdp.Conf.setup (conf : Config.Configuration) : SemtechUdp.Conf where
  gatewayId := conf.backend.gatewayId
  timeFallbackEnabled := conf.backend.semtechUdp.timeFallbackEnabled
  forwardCrcOk := conf.backend.filters.forwardCrcOk
  forwardCrcInvalid := conf.backend.filters.forwardCrcInvalid
  forwardCrcMissing := conf.backend.filters.forwardCrcMissing
  filters := conf.backend.filters.lrwn

/-- The flag for the number of a CRC status. -/
def Config.Filters.flagFor (filters : Config.Filters) (crcStatus : Int32) : Bool :=
  if crcStatus = 2 then filters.forwardCrcOk
  else if crcStatus = 1 then filters.forwardCrcInvalid
  else filters.forwardCrcMissing

/-- The frame is to be published. -/
def Accepted (crates : Crates) (filters : Config.Filters) (uf : Gw.UplinkFrame) : Prop :=
  crates.filterMatches uf.phyPayload
      ⟨filters.devAddrPrefixes, filters.joinEuiPrefixes, filters.lorawanOnly⟩ = true ∧
    ∀ rxInfo, uf.rxInfo = some rxInfo → filters.flagFor rxInfo.crcStatus = true

/-- The decision is to publish if `accepted`, and to drop otherwise. -/
structure Decided (accepted published dropped : Prop) : Prop where
  publishes : published ↔ accepted
  drops : dropped ↔ ¬ accepted

/-- The publish channel takes messages. -/
def TakesMessages (e : Env) : Prop := e.channel = .room

/-! ## The condition -/

theorem Gw.CrcStatus.ofI32_eq (number : Int32) :
    CrcStatus.ofI32 number =
      if number = 2 then .crcOk else if number = 1 then .badCrc else .noCrc := by
  unfold CrcStatus.ofI32
  simp only [List.find?_cons, List.find?_nil, beq_eq_decide]
  by_cases two : number = 2
  · subst two
    rfl
  · by_cases one : number = 1
    · subst one
      rfl
    · have two' : ¬ CrcStatus.toI32 .crcOk = number := fun same => two same.symm
      have one' : ¬ CrcStatus.toI32 .badCrc = number := fun same => one same.symm
      simp only [two, one, two', one', decide_false, if_false]
      split <;> rfl

section

variable {crates : Crates} {conf : Config.Configuration} {uf : Gw.UplinkFrame}

theorem enables_setup (rxInfo : Gw.UplinkRxInfo) :
    (SemtechUdp.Conf.setup conf).enables rxInfo.getCrcStatus =
      conf.backend.filters.flagFor rxInfo.crcStatus := by
  rw [Gw.UplinkRxInfo.getCrcStatus, Gw.CrcStatus.ofI32_eq, Config.Filters.flagFor]
  split
  · rfl
  · split <;> rfl

theorem wanted_iff :
    SemtechUdp.Wanted crates (.setup conf) uf = true ↔
      Accepted crates conf.backend.filters uf := by
  rw [SemtechUdp.Wanted, Bool.and_eq_true, and_comm, Accepted]
  refine and_congr Iff.rfl ?_
  cases uf.rxInfo with
  | none => simp
  | some rxInfo => simp [enables_setup]

/-- The two tests are one test with the flags carried in different ways. -/
theorem crcIgnored_setup :
    Concentratord.crcIgnored conf.backend.filters.forwardCrcOk
        conf.backend.filters.forwardCrcInvalid conf.backend.filters.forwardCrcMissing uf =
      SemtechUdp.crcIgnored (.setup conf) uf := by
  unfold Concentratord.crcIgnored SemtechUdp.crcIgnored SemtechUdp.crcForwarded
  cases uf.rxInfo <;> rfl

theorem onEvent_uplinkFrame (crates : Crates) (conf : Config.Configuration)
    (uf : Gw.UplinkFrame) :
    Concentratord.onEvent crates conf ⟨some (.uplinkFrame uf)⟩ =
      if SemtechUdp.Wanted crates (.setup conf) uf then Concentratord.sendUplinkFrame uf
      else pure () := by
  rw [SemtechUdp.Wanted]
  unfold Concentratord.onEvent Concentratord.handleEventMsg
  dsimp only
  rw [crcIgnored_setup, SemtechUdp.crcIgnored_eq]
  cases uf.rxInfo.all fun rxInfo => (SemtechUdp.Conf.setup conf).enables rxInfo.getCrcStatus with
  | false => rfl
  | true =>
      change (if crates.filterMatches uf.phyPayload conf.backend.filters.lrwn then _ else _) =
        if crates.filterMatches uf.phyPayload conf.backend.filters.lrwn then _ else _
      rfl

end

/-! ## The decisions -/

/-- The loop goes on with the rest after it has dealt with one frame. -/
theorem forwardFrames_cons_bind (crates : Crates) (conf : SemtechUdp.Conf) (uf : Gw.UplinkFrame)
    (rest : List Gw.UplinkFrame) :
    SemtechUdp.forwardFrames crates conf (uf :: rest) =
      SemtechUdp.forwardFrames crates conf [uf] >>=
        fun _ => SemtechUdp.forwardFrames crates conf rest := by
  rw [SemtechUdp.forwardFrames_cons, SemtechUdp.forwardFrames_cons]
  split
  · rw [Prog.bind_assoc]
    refine congrArg (_ >>= ·) (funext fun _ => ?_)
    rw [Prog.bind_assoc]
    rfl
  · rfl

theorem onEvent_decides (crates : Crates) (conf : Config.Configuration) (uf : Gw.UplinkFrame) :
    (Concentratord.onEvent crates conf ⟨some (.uplinkFrame uf)⟩).Upholds TakesMessages
      (fun _ _ => True) (fun _ _ _ _ => True)
      (fun os result => Decided (Accepted crates conf.backend.filters uf) (.event (.up uf) ∈ os)
        (os = [] ∧ result = .ok ())) [] := by
  rw [onEvent_uplinkFrame]
  split
  · next wanted =>
      have accepted := wanted_iff.mp wanted
      intro e _ s he _
      refine ⟨trivial, trivial, ?_⟩
      dsimp only
      rw [he]
      exact ⟨iff_of_true List.mem_cons_self accepted,
        iff_of_false (fun dropped => by cases dropped.1) (not_not_intro accepted)⟩
  · next unwanted =>
      have refused := unwanted ∘ wanted_iff.mpr
      exact ⟨iff_of_false List.not_mem_nil refused, iff_of_true ⟨rfl, rfl⟩ refused⟩

/-- A frame that cannot be counted is not dropped either: the handler ends with an error. -/
theorem forwardFrames_decides (crates : Crates) (conf : Config.Configuration)
    (uf : Gw.UplinkFrame) :
    (SemtechUdp.forwardFrames crates (.setup conf) [uf]).Upholds TakesMessages
      (fun _ _ => True) (fun _ _ _ _ => True)
      (fun os result =>
        (os = [] ∧ result = .ok () ↔ ¬ Accepted crates conf.backend.filters uf) ∧
        (SemtechUdp.Countable uf → Decided (Accepted crates conf.backend.filters uf)
          (.event (.up uf) ∈ os) (os = [] ∧ result = .ok ()))) [] := by
  rw [SemtechUdp.forwardFrames_cons]
  split
  · next wanted =>
      have accepted := wanted_iff.mp wanted
      have drops (os : List SemtechUdp.Effect) (result : Outcome Unit) :
          .countedUplink uf :: os = [] ∧ result = .ok () ↔
            ¬ Accepted crates conf.backend.filters uf :=
        iff_of_false (fun dropped => by cases dropped.1) (not_not_intro accepted)
      intro e _ s he _
      refine ⟨trivial, trivial, ?_⟩
      dsimp only
      cases counted : (s.stats.countUplink crates uf).1 with
      | ok value =>
          intro e _ s he _
          refine ⟨trivial, trivial, ?_⟩
          dsimp only
          rw [he]
          exact ⟨drops _ _, fun _ => ⟨iff_of_true (by simp) accepted, drops _ _⟩⟩
      | err message =>
          refine ⟨drops _ _, fun countable => ?_⟩
          rw [countable.countUplink] at counted
          cases counted
      | panic cause =>
          refine ⟨drops _ _, fun countable => ?_⟩
          rw [countable.countUplink] at counted
          cases counted
  · next unwanted =>
      have refused := unwanted ∘ wanted_iff.mpr
      have drops : ([] : List SemtechUdp.Effect) = [] ∧ (.ok () : Outcome Unit) = .ok () ↔
          ¬ Accepted crates conf.backend.filters uf := iff_of_true ⟨rfl, rfl⟩ refused
      exact ⟨drops, fun _ => ⟨iff_of_false List.not_mem_nil refused, drops⟩⟩

/-- The frames that a PUSH_DATA is converted to can all be counted. -/
theorem toProtoUplinkFrames_countable (pl : SemtechUdp.PushData) (fallback : Bool) :
    (pl.toProtoUplinkFrames fallback : SemtechUdp.Task _).Consults (fun _ => True)
      (fun result => ∀ frames, result = .ok frames → ∀ uf ∈ frames, SemtechUdp.Countable uf) := by
  refine (SemtechUdp.toProtoFrames_expands _ _ _).mono ?_
  rintro _ (⟨frames, rfl, expands⟩ | ⟨message, rfl⟩)
  · rintro _ ⟨⟩
    exact expands.countable
  · rintro _ ⟨⟩

/-- Both backends publish a frame if it is accepted and drop it otherwise. -/
theorem backends_filter_alike (crates : Crates) (conf : Config.Configuration)
    (uf : Gw.UplinkFrame) :
    (Concentratord.onEvent crates conf ⟨some (.uplinkFrame uf)⟩).Upholds TakesMessages
        (fun _ _ => True) (fun _ _ _ _ => True)
        (fun os result => Decided (Accepted crates conf.backend.filters uf) (.event (.up uf) ∈ os)
          (os = [] ∧ result = .ok ())) [] ∧
      (∀ rest, SemtechUdp.forwardFrames crates (.setup conf) (uf :: rest) =
        SemtechUdp.forwardFrames crates (.setup conf) [uf] >>=
          fun _ => SemtechUdp.forwardFrames crates (.setup conf) rest) ∧
      (SemtechUdp.forwardFrames crates (.setup conf) [uf]).Upholds TakesMessages
        (fun _ _ => True) (fun _ _ _ _ => True)
        (fun os result =>
          (os = [] ∧ result = .ok () ↔ ¬ Accepted crates conf.backend.filters uf) ∧
          (SemtechUdp.Countable uf → Decided (Accepted crates conf.backend.filters uf)
            (.event (.up uf) ∈ os) (os = [] ∧ result = .ok ()))) [] ∧
      ∀ (pl : SemtechUdp.PushData) (fallback : Bool),
        (pl.toProtoUplinkFrames fallback : SemtechUdp.Task _).Consults (fun _ => True)
          (fun result => ∀ frames, result = .ok frames →
            ∀ uf ∈ frames, SemtechUdp.Countable uf) :=
  ⟨onEvent_decides crates conf uf, forwardFrames_cons_bind crates _ uf,
    forwardFrames_decides crates conf uf, toProtoUplinkFrames_countable⟩

end MqttForwarder
