import MqttForwarder.SemtechUdp.System

/-!
# Forwarding of uplinks

Every `rxpk` object becomes one frame for each antenna that received it.  The
frames whose CRC status is enabled and whose payload passes the filters are
counted and published, in order and once each, whatever other tasks do in the
meantime.
-/

namespace MqttForwarder.SemtechUdp

open MqttForwarder.Rust MqttForwarder.Serde

/-! ## Expansion -/

/-- The reception of a frame by one antenna. -/
structure Signal where
  antenna : UInt32
  channel : UInt32
  rssi : Int32
  snr : Float32

def RSig.signal (rs : RSig) : Signal where
  antenna := rs.ant.toUInt32
  channel := rs.chan.toUInt32
  rssi := rs.rssic.toInt32
  snr := rs.lsnr.getD 0

/-- The receptions of an object: one for each antenna entry, or its own if it has none. -/
def RxPk.signals (rx : RxPk) : List Signal :=
  match rx.rsig with
  | [] => [{
      antenna := rx.ant.toUInt32, channel := rx.chan, rssi := rx.rssi, snr := rx.lsnr.getD 0 }]
  | entries => entries.map RSig.signal

theorem RxPk.signals_of_ne {rx : RxPk} (some : rx.rsig ≠ []) :
    rx.signals = rx.rsig.map RSig.signal := by
  unfold RxPk.signals
  split
  · contradiction
  · rfl

/-- The frame as one antenna received it. -/
def Signal.on (signal : Signal) (pl : Gw.UplinkFrame) : Gw.UplinkFrame :=
  { pl with
    rxInfo := pl.rxInfo.map fun rxInfo => { rxInfo with
      antenna := signal.antenna
      channel := signal.channel
      rssi := signal.rssi
      snr := signal.snr } }

/-- The conversion of the object has no error of its own. -/
def RxPk.Converts (rx : RxPk) : Prop :=
  ∃ parameters, rx.modulationParameters = .ok parameters

theorem RxPk.modulationParameters_calm (rx : RxPk) : rx.modulationParameters.Calm := by
  unfold RxPk.modulationParameters
  split
  · exact Outcome.calm_bind.mpr ⟨Outcome.calm_okOr _ _, fun _ _ => Outcome.calm_ok _⟩
  · exact Outcome.calm_ok _
  · refine Outcome.calm_bind.mpr ⟨Outcome.calm_okOr _ _, fun _ _ => ?_⟩
    exact Outcome.calm_bind.mpr ⟨Outcome.calm_okOr _ _, fun _ _ => Outcome.calm_ok _⟩

/-- The time of the object; without one, a value of the clock if the fallback is enabled. -/
def RxPk.ShowsTime (rx : RxPk) (clock : Gw.Timestamp → Prop) (fallback : Bool)
    (gwTime : Option Gw.Timestamp) : Prop :=
  match rx.time, fallback with
  | some time, _ => gwTime = some time
  | none, true => ∃ time, clock time ∧ gwTime = some time
  | none, false => gwTime = none

section

variable (clock : Gw.Timestamp → Prop) (fallback : Bool) (gatewayId : List UInt8)

/-- The frames are those of the object, one for each reception, and differ in nothing else
but their identifiers. -/
def RxPk.Expands (rx : RxPk) (frames : List Gw.UplinkFrame) : Prop :=
  ∃ parameters gwTime, rx.modulationParameters = .ok parameters ∧
    rx.ShowsTime clock fallback gwTime ∧
    List.Forall₂ (fun signal pl => ∃ uplinkId,
      pl = signal.on (rx.frame gatewayId uplinkId parameters gwTime)) rx.signals frames

/-- The frames are those of the objects, in order. -/
def ExpandsAll (rxpk : List RxPk) (frames : List Gw.UplinkFrame) : Prop :=
  ∃ parts, List.Forall₂ (fun rx part => rx.Expands clock fallback gatewayId part) rxpk parts ∧
    frames = parts.flatten

end

/-! ## Forwarding -/

/-- The flag for a CRC status. -/
def Conf.enables (conf : Conf) : Gw.CrcStatus → Bool
  | .crcOk => conf.forwardCrcOk
  | .badCrc => conf.forwardCrcInvalid
  | .noCrc => conf.forwardCrcMissing

/-- The CRC status of the frame is enabled and its payload passes the filters. -/
def Wanted (crates : Crates) (conf : Conf) (pl : Gw.UplinkFrame) : Bool :=
  pl.rxInfo.all (fun rxInfo => conf.enables rxInfo.getCrcStatus) &&
    crates.filterMatches pl.phyPayload conf.filters

def Effect.up? : Effect → Option Gw.UplinkFrame
  | .event (.up pl) => some pl
  | _ => none

def Effect.countedUplink? : Effect → Option Gw.UplinkFrame
  | .countedUplink pl => some pl
  | _ => none

/-- The counters after one more received frame. -/
def Stats.plus (crates : Crates) (stats : Stats) (pl : Gw.UplinkFrame) : Stats :=
  match pl.txInfo with
  | some { frequency, modulation := some modulation } =>
      stats.received frequency (crates.encodeModulation modulation)
  | _ => stats

/-- The effects publish and count exactly the wanted ones of the frames; until the counters
are exported, they have grown by these. -/
structure Forwarded (crates : Crates) (conf : Conf) (frames : List Gw.UplinkFrame)
    (os : List Effect) : Prop where
  published : os.filterMap Effect.up? = frames.filter (Wanted crates conf)
  counted : os.filterMap Effect.countedUplink? = frames.filter (Wanted crates conf)
  grown : ∀ stats, replay crates stats (os.takeWhile (· ≠ .exported)) =
    (frames.filter (Wanted crates conf)).foldl (Stats.plus crates) stats

/-- The random source answers, the publish channel has room, and the clock shows a time of
`clock`. -/
structure Roomy (clock : Gw.Timestamp → Prop) (e : Env) : Prop where
  random : e.random ≠ none
  channel : e.channel = .room
  time : clock e.utcNow

/-- The socket takes datagrams as well. -/
structure Reliable (clock : Gw.Timestamp → Prop) (e : Env) : Prop extends Roomy clock e where
  sends : e.socketSends = true

/-! ## Conversion -/

/-- The random source may fail to answer. -/
def Unanswered (E : Env → Prop) : Prop := ∃ e, E e ∧ e.random = none

section

variable {σ ο : Type} {E : Env → Prop} {clock : Gw.Timestamp → Prop} {fallback : Bool}
  {gatewayId : List UInt8}

theorem getrandom_consults {α : Type} {R : Outcome α → Prop} {rest : UInt32 → Prog Env σ ο α}
    (later : ∀ random, (rest random).Consults E R)
    (fails : Unanswered E → R (.err "getrandom failed")) :
    (getrandom >>= rest).Consults E R := by
  intro e s he
  refine ⟨rfl, rfl, ?_⟩
  dsimp only
  cases answered : e.random with
  | some random => exact later random
  | none => exact fails ⟨e, he, answered⟩

theorem RxPk.gwTime_consults (time : ∀ e, E e → clock e.utcNow) (rx : RxPk) :
    (rx.gwTime fallback : Prog Env σ ο _).Consults E
      (fun result => ∃ gwTime, result = .ok gwTime ∧ rx.ShowsTime clock fallback gwTime) := by
  unfold RxPk.gwTime RxPk.ShowsTime
  cases rx.time with
  | some time => exact ⟨_, rfl, rfl⟩
  | none =>
      cases fallback with
      | true => exact Prog.consults_ask fun e he => ⟨_, rfl, e.utcNow, time e he, rfl⟩
      | false => exact ⟨_, rfl, rfl⟩

/-- The copy for one antenna entry differs from the frame in the reception and the identifier. -/
theorem RSig.apply_frame (rs : RSig) (rx : RxPk) (uplinkId other : UInt32)
    (parameters : Gw.ModulationParameters) (gwTime : Option Gw.Timestamp) :
    rs.apply uplinkId (rx.frame gatewayId other parameters gwTime) =
      .ok (rs.signal.on (rx.frame gatewayId uplinkId parameters gwTime)) := rfl

theorem rsigFrames_consults (rx : RxPk) (uplinkId : UInt32)
    (parameters : Gw.ModulationParameters) (gwTime : Option Gw.Timestamp) (entries : List RSig) :
    (rsigFrames (rx.frame gatewayId uplinkId parameters gwTime) entries :
        Prog Env σ ο _).Consults E
      (fun result => (∃ frames, result = .ok frames ∧
        List.Forall₂ (fun signal pl => ∃ uplinkId,
          pl = signal.on (rx.frame gatewayId uplinkId parameters gwTime))
          (entries.map RSig.signal) frames) ∨
        Unanswered E ∧ ∃ message, result = .err message) := by
  induction entries with
  | nil => exact .inl ⟨[], rfl, .nil⟩
  | cons rs rest ih =>
      refine getrandom_consults (fun random => ?_) fun unanswered => .inr ⟨unanswered, _, rfl⟩
      rw [RSig.apply_frame, Prog.lift_eq, Prog.done_ok_bind]
      apply Prog.consults_bind
      refine ih.mono ?_
      rintro _ (⟨frames, rfl, others⟩ | ⟨unanswered, message, rfl⟩)
      · exact .inl ⟨_, rfl, .cons ⟨random, rfl⟩ others⟩
      · exact .inr ⟨unanswered, message, rfl⟩

/-- An object is expanded, or its conversion fails. -/
theorem RxPk.toProto_consults (time : ∀ e, E e → clock e.utcNow) (rx : RxPk) :
    (rx.toProto gatewayId fallback : Prog Env σ ο _).Consults E
      (fun result =>
        (∃ frames, result = .ok frames ∧ rx.Expands clock fallback gatewayId frames) ∨
          (¬ rx.Converts ∨ Unanswered E) ∧ ∃ message, result = .err message) := by
  refine getrandom_consults (fun uplinkId => ?_) fun unanswered => .inr ⟨.inr unanswered, _, rfl⟩
  cases converted : rx.modulationParameters with
  | err message =>
      refine .inr ⟨.inl ?_, message, rfl⟩
      rintro ⟨parameters, converts⟩
      rw [converted] at converts
      cases converts
  | panic cause => exact absurd converted (rx.modulationParameters_calm cause)
  | ok parameters =>
      rw [Prog.lift_eq, Prog.done_ok_bind]
      apply Prog.consults_bind
      refine (rx.gwTime_consults time).mono ?_
      rintro _ ⟨gwTime, rfl, shows⟩
      simp only [Prog.done_ok_bind]
      split
      · next none =>
          refine .inl ⟨_, rfl, parameters, gwTime, converted, shows, ?_⟩
          rw [RxPk.signals, none]
          exact .cons ⟨uplinkId, rfl⟩ .nil
      · next some =>
          refine (rsigFrames_consults rx uplinkId parameters gwTime rx.rsig).mono ?_
          rintro _ (⟨frames, rfl, others⟩ | ⟨unanswered, message, rfl⟩)
          · refine .inl ⟨frames, rfl, parameters, gwTime, converted, shows, ?_⟩
            rw [RxPk.signals_of_ne some]
            exact others
          · exact .inr ⟨.inr unanswered, message, rfl⟩

theorem ExpandsAll.cons {rx : RxPk} {rest : List RxPk} {part frames : List Gw.UplinkFrame}
    (expands : rx.Expands clock fallback gatewayId part)
    (others : ExpandsAll clock fallback gatewayId rest frames) :
    ExpandsAll clock fallback gatewayId (rx :: rest) (part ++ frames) := by
  obtain ⟨parts, each, rfl⟩ := others
  exact ⟨part :: parts, .cons expands each, rfl⟩

/-- All objects are expanded, or the conversion of one of them fails. -/
theorem toProtoFrames_consults (time : ∀ e, E e → clock e.utcNow) (rxpk : List RxPk) :
    (toProtoFrames gatewayId fallback rxpk : Prog Env σ ο _).Consults E
      (fun result =>
        (∃ frames, result = .ok frames ∧ ExpandsAll clock fallback gatewayId rxpk frames) ∨
          ((∃ rx ∈ rxpk, ¬ rx.Converts) ∨ Unanswered E) ∧
            ∃ message, result = .err message) := by
  induction rxpk with
  | nil => exact .inl ⟨[], rfl, [], .nil, rfl⟩
  | cons rx rest ih =>
      apply Prog.consults_bind
      refine (rx.toProto_consults time).mono ?_
      rintro _ (⟨part, rfl, expands⟩ | ⟨fails | unanswered, message, rfl⟩)
      · rw [Prog.done_ok_bind]
        apply Prog.consults_bind
        refine ih.mono ?_
        rintro _ (⟨frames, rfl, others⟩ | ⟨⟨other, member, fails⟩ | unanswered, message, rfl⟩)
        · exact .inl ⟨_, rfl, .cons expands others⟩
        · exact .inr ⟨.inl ⟨other, List.mem_cons_of_mem _ member, fails⟩, message, rfl⟩
        · exact .inr ⟨.inr unanswered, message, rfl⟩
      · exact .inr ⟨.inl ⟨rx, List.mem_cons_self, fails⟩, message, rfl⟩
      · exact .inr ⟨.inr unanswered, message, rfl⟩

/-- Whatever the environment answers, frames that are produced are those of the objects. -/
theorem toProtoFrames_expands (gatewayId : List UInt8) (fallback : Bool) (rxpk : List RxPk) :
    (toProtoFrames gatewayId fallback rxpk : Prog Env σ ο _).Consults (fun _ => True)
      (fun result =>
        (∃ frames, result = .ok frames ∧
          ExpandsAll (fun _ => True) fallback gatewayId rxpk frames) ∨
        ∃ message, result = .err message) := by
  have time : ∀ e : Env, True → True := fun _ _ => trivial
  refine (@toProtoFrames_consults σ ο _ (fun _ => True) fallback gatewayId time rxpk).mono ?_
  rintro _ (⟨frames, rfl, expands⟩ | ⟨_, message, rfl⟩)
  · exact .inl ⟨frames, rfl, expands⟩
  · exact .inr ⟨message, rfl⟩

theorem RxPk.Expands.converts {rx : RxPk} {frames : List Gw.UplinkFrame}
    (expands : rx.Expands clock fallback gatewayId frames) : rx.Converts := by
  obtain ⟨parameters, _, converted, _⟩ := expands
  exact ⟨parameters, converted⟩

/-- Every frame of an object has its payload, its CRC status and a modulation. -/
theorem RxPk.Expands.frame {rx : RxPk} {frames : List Gw.UplinkFrame}
    (expands : rx.Expands clock fallback gatewayId frames) {pl : Gw.UplinkFrame}
    (member : pl ∈ frames) :
    ∃ signal uplinkId parameters gwTime, rx.modulationParameters = .ok parameters ∧
      pl = Signal.on signal (rx.frame gatewayId uplinkId parameters gwTime) := by
  obtain ⟨parameters, gwTime, converted, _, each⟩ := expands
  generalize rx.signals = signals at each
  induction each with
  | nil => cases member
  | @cons signal frame signals frames now later ih =>
      rcases List.mem_cons.mp member with rfl | member
      · obtain ⟨uplinkId, rfl⟩ := now
        exact ⟨signal, uplinkId, parameters, gwTime, converted, rfl⟩
      · exact ih member

theorem ExpandsAll.frame {rxpk : List RxPk} {frames : List Gw.UplinkFrame}
    (expands : ExpandsAll clock fallback gatewayId rxpk frames) {pl : Gw.UplinkFrame}
    (member : pl ∈ frames) :
    ∃ rx ∈ rxpk, ∃ signal uplinkId parameters gwTime, rx.modulationParameters = .ok parameters ∧
      pl = Signal.on signal (rx.frame gatewayId uplinkId parameters gwTime) := by
  obtain ⟨parts, each, rfl⟩ := expands
  induction each with
  | nil => cases member
  | @cons rx part rest parts now later ih =>
      rw [List.flatten_cons, List.mem_append] at member
      rcases member with first | later
      · exact ⟨rx, List.mem_cons_self, now.frame first⟩
      · obtain ⟨other, inside, shape⟩ := ih later
        exact ⟨other, List.mem_cons_of_mem _ inside, shape⟩

end

/-! ## The loop -/

theorem crcForwarded_eq (conf : Conf) (rxInfo : Gw.UplinkRxInfo) :
    crcForwarded conf rxInfo = conf.enables rxInfo.getCrcStatus := by
  unfold crcForwarded Conf.enables
  cases rxInfo.getCrcStatus <;> simp [beq_eq_decide]

theorem crcIgnored_eq (conf : Conf) (pl : Gw.UplinkFrame) :
    crcIgnored conf pl = !pl.rxInfo.all fun rxInfo => conf.enables rxInfo.getCrcStatus := by
  unfold crcIgnored
  cases pl.rxInfo with
  | none => rfl
  | some rxInfo => simp only [crcForwarded_eq, Option.all_some]

/-- The frame names its frequency and its modulation. -/
def Countable (pl : Gw.UplinkFrame) : Prop :=
  ∃ frequency modulation, pl.txInfo = some { frequency, modulation := some modulation }

theorem Countable.countUplink {crates : Crates} {pl : Gw.UplinkFrame} (countable : Countable pl)
    (stats : Stats) : stats.countUplink crates pl = (.ok (), stats.plus crates pl) := by
  obtain ⟨frequency, modulation, info⟩ := countable
  simp only [Stats.countUplink, Stats.uplinkKeys, Stats.plus, info]
  rfl

/-- The effects of forwarding some frames. -/
def forwarding (frames : List Gw.UplinkFrame) : List Effect :=
  frames.flatMap fun pl => [.countedUplink pl, .event (.up pl)]

/-- One turn of the loop. -/
theorem forwardFrames_cons (crates : Crates) (conf : Conf) (pl : Gw.UplinkFrame)
    (rest : List Gw.UplinkFrame) :
    forwardFrames crates conf (pl :: rest) =
      if Wanted crates conf pl then do
        State.countUplink crates pl
        sendUplinkFrame pl
        forwardFrames crates conf rest
      else forwardFrames crates conf rest := by
  rw [forwardFrames, crcIgnored_eq, Wanted]
  cases pl.rxInfo.all fun rxInfo => conf.enables rxInfo.getCrcStatus with
  | false => rfl
  | true => cases crates.filterMatches pl.phyPayload conf.filters <;> rfl

/-- The loop counts and publishes exactly the wanted frames. -/
theorem forwardFrames_upholds {clock : Gw.Timestamp → Prop} {crates : Crates} {conf : Conf}
    {frames : List Gw.UplinkFrame} (countable : ∀ pl ∈ frames, Countable pl) (os : List Effect) :
    (forwardFrames crates conf frames).Upholds (Roomy clock) (fun _ _ => True)
      (fun _ _ _ _ => True)
      (fun os' result =>
        os' = os ++ forwarding (frames.filter (Wanted crates conf)) ∧ result = .ok ()) os := by
  induction frames generalizing os with
  | nil => exact ⟨(List.append_nil os).symm, rfl⟩
  | cons pl rest ih =>
      have later := ih fun other member => countable other (List.mem_cons_of_mem _ member)
      have now := countable pl List.mem_cons_self
      rw [forwardFrames_cons]
      split
      · next wanted =>
          rw [List.filter_cons_of_pos wanted]
          intro e _ s he _
          refine ⟨trivial, trivial, ?_⟩
          dsimp only
          rw [now.countUplink]
          intro e _ s he _
          refine ⟨trivial, trivial, ?_⟩
          dsimp only
          rw [he.channel]
          refine (later _).mono ?_
          rintro _ _ ⟨rfl, rfl⟩
          exact ⟨by simp [forwarding], rfl⟩
      · next unwanted =>
          rw [List.filter_cons_of_neg unwanted]
          exact later os

/-! ## The effects of a handler -/

theorem forwarding_published (frames : List Gw.UplinkFrame) :
    (forwarding frames).filterMap Effect.up? = frames := by
  induction frames with
  | nil => rfl
  | cons pl rest ih => exact congrArg (pl :: ·) ih

theorem forwarding_counted (frames : List Gw.UplinkFrame) :
    (forwarding frames).filterMap Effect.countedUplink? = frames := by
  induction frames with
  | nil => rfl
  | cons pl rest ih => exact congrArg (pl :: ·) ih

theorem exported_notMem_forwarding (frames : List Gw.UplinkFrame) :
    Effect.exported ∉ forwarding frames := by
  simp [forwarding]

theorem replay_forwarding {crates : Crates} {frames : List Gw.UplinkFrame}
    (countable : ∀ pl ∈ frames, Countable pl) (stats : Stats) :
    replay crates stats (forwarding frames) = frames.foldl (Stats.plus crates) stats := by
  induction frames generalizing stats with
  | nil => rfl
  | cons pl rest ih =>
      have now : stats.countUplink crates pl = (.ok (), stats.plus crates pl) :=
        (countable pl List.mem_cons_self).countUplink stats
      have later := ih fun other member => countable other (List.mem_cons_of_mem _ member)
      calc replay crates stats (forwarding (pl :: rest))
          = replay crates (stats.countUplink crates pl).2 (forwarding rest) := rfl
        _ = replay crates (stats.plus crates pl) (forwarding rest) := by rw [now]
        _ = (pl :: rest).foldl (Stats.plus crates) stats := later _

/-- The effects after the loop: the counters may be exported, and statistics published. -/
def Exports (os : List Effect) : Prop :=
  os = [] ∨ ∃ rest, os = .exported :: rest ∧ ∀ o ∈ rest, ∃ stats, o = .event (.stats stats)

theorem Exports.silent {os : List Effect} (exports : Exports os) :
    os.filterMap Effect.up? = [] ∧ os.filterMap Effect.countedUplink? = [] := by
  have quiet : ∀ o ∈ os, o.up? = none ∧ o.countedUplink? = none := by
    intro o member
    obtain rfl | ⟨rest, rfl, published⟩ := exports
    · cases member
    · rcases List.mem_cons.mp member with rfl | later
      · exact ⟨rfl, rfl⟩
      · obtain ⟨stats, rfl⟩ := published o later
        exact ⟨rfl, rfl⟩
  exact ⟨List.filterMap_eq_nil_iff.mpr fun o member => (quiet o member).1,
    List.filterMap_eq_nil_iff.mpr fun o member => (quiet o member).2⟩

theorem exports_exported : Exports [.exported] := .inr ⟨[], rfl, by simp⟩

theorem forwardStats_upholds {E : Env → Prop} {crates : Crates} (stats : Option Gw.GatewayStats)
    (os : List Effect) :
    (forwardStats crates stats).Upholds E (fun _ _ => True) (fun _ _ _ _ => True)
      (fun os' _ => ∃ tail, os' = os ++ tail ∧ Exports tail) os := by
  cases stats with
  | none => exact ⟨[], (List.append_nil os).symm, .inl rfl⟩
  | some stats =>
      intro e _ s _ _
      refine ⟨trivial, trivial, ?_⟩
      dsimp only
      cases (s.stats.exportStats crates).1 with
      | err message => exact ⟨_, rfl, exports_exported⟩
      | panic cause => exact ⟨_, rfl, exports_exported⟩
      | ok counters =>
          intro e _ s _ _
          refine ⟨trivial, trivial, ?_⟩
          dsimp only
          rw [List.append_nil]
          cases e.metadata with
          | err message => exact ⟨_, rfl, exports_exported⟩
          | panic cause => exact ⟨_, rfl, exports_exported⟩
          | ok metadata =>
              intro e _ s _ _
              refine ⟨trivial, trivial, ?_⟩
              dsimp only
              cases e.channel with
              | unset => exact ⟨_, List.append_nil _, exports_exported⟩
              | full => exact ⟨_, List.append_nil _, exports_exported⟩
              | room => exact ⟨_, List.append_assoc .., .inr ⟨_, rfl, by simp⟩⟩

theorem Forwarded.of_effects {crates : Crates} {conf : Conf} {frames : List Gw.UplinkFrame}
    (countable : ∀ pl ∈ frames, Countable pl) {bytes : List UInt8} {remote : SocketAddr}
    {tail : List Effect} (exports : Exports tail) :
    Forwarded crates conf frames
      (.pushAck bytes remote :: forwarding (frames.filter (Wanted crates conf)) ++ tail) := by
  generalize same : frames.filter (Wanted crates conf) = kept
  have each : ∀ pl ∈ kept, Countable pl := by
    rw [← same]
    exact fun pl member => countable pl (List.mem_of_mem_filter member)
  constructor
  · rw [same, List.filterMap_append, exports.silent.1, List.append_nil]
    exact forwarding_published kept
  · rw [same, List.filterMap_append, exports.silent.2, List.append_nil]
    exact forwarding_counted kept
  · intro stats
    have before : ∀ o ∈ .pushAck bytes remote :: forwarding kept,
        decide (o ≠ .exported) = true := by
      intro o member
      apply decide_eq_true
      rintro rfl
      rcases List.mem_cons.mp member with impossible | member
      · cases impossible
      · exact exported_notMem_forwarding kept member
    have none : tail.takeWhile (fun o => decide (o ≠ .exported)) = [] := by
      obtain rfl | ⟨rest, rfl, _⟩ := exports
      · rfl
      · simp
    rw [same, List.takeWhile_append_of_pos before, none, List.append_nil]
    exact replay_forwarding each stats

theorem ExpandsAll.countable {clock : Gw.Timestamp → Prop} {fallback : Bool}
    {gatewayId : List UInt8} {rxpk : List RxPk} {frames : List Gw.UplinkFrame}
    (expands : ExpandsAll clock fallback gatewayId rxpk frames) :
    ∀ pl ∈ frames, Countable pl := by
  intro pl member
  obtain ⟨rx, _, signal, uplinkId, parameters, gwTime, _, rfl⟩ := expands.frame member
  exact ⟨_, _, rfl⟩

/-- What has been done for a PUSH_DATA: the frames of all its objects are forwarded, or nothing
is published since the conversion of one of them fails. -/
def Relayed (crates : Crates) (conf : Conf) (clock : Gw.Timestamp → Prop) (pl : PushData)
    (os : List Effect) : Prop :=
  (∃ frames, ExpandsAll clock conf.timeFallbackEnabled pl.gatewayId pl.payload.rxpk frames ∧
    Forwarded crates conf frames os) ∨
  (∃ rx ∈ pl.payload.rxpk, ¬ rx.Converts) ∧ os.filterMap Effect.up? = []

section

variable {crates : Crates} {profile : Profile} {conf : Conf} {clock : Gw.Timestamp → Prop}
  {data : List UInt8} {pl : PushData}

theorem PushData.toProtoGatewayStats_ok (pl : PushData) :
    ∃ stats, pl.toProtoGatewayStats = .ok stats := by
  unfold PushData.toProtoGatewayStats
  cases pl.payload.stat with
  | none => exact ⟨none, rfl⟩
  | some stat => exact ⟨_, rfl⟩

theorem forwardPushData_upholds (pl : PushData) (bytes : List UInt8) (remote : SocketAddr) :
    (forwardPushData crates conf pl).Upholds (Roomy clock) (fun _ _ => True)
      (fun _ _ _ _ => True) (fun os _ => Relayed crates conf clock pl os)
      [.pushAck bytes remote] := by
  have time : ∀ e, Roomy clock e → clock e.utcNow := fun _ he => he.time
  refine Prog.upholds_bind.mpr
    (((toProtoFrames_consults time _).upholds (fun _ _ => trivial) _).mono ?_)
  rintro _ _ ⟨rfl, ⟨frames, rfl, expands⟩ | ⟨fails | ⟨e, he, none⟩, message, rfl⟩⟩
  · obtain ⟨stats, computed⟩ := pl.toProtoGatewayStats_ok
    rw [Prog.done_ok_bind, computed, Prog.lift_eq, Prog.done_ok_bind]
    refine Prog.upholds_bind.mpr ((forwardFrames_upholds expands.countable _).mono ?_)
    rintro _ _ ⟨rfl, rfl⟩
    refine (forwardStats_upholds stats _).mono ?_
    rintro _ _ ⟨tail, rfl, exports⟩
    exact .inl ⟨frames, expands, .of_effects expands.countable exports⟩
  · exact .inr ⟨fails, rfl⟩
  · exact absurd none he.random

variable (clock) in
/-- However other tasks interfere, a handler whose PUSH_ACK is sent handles its PUSH_DATA. -/
theorem handlePushData_upholds (remote : SocketAddr)
    (parsed : PushData.fromSlice crates profile data = .ok pl) :
    (handlePushData crates profile conf data remote).Upholds (Reliable clock) (fun _ _ => True)
      (fun _ _ _ _ => True) (fun os _ => Relayed crates conf clock pl os) [] := by
  unfold handlePushData
  rw [parsed, Prog.lift_eq, Prog.done_ok_bind]
  intro e _ s he _
  refine ⟨trivial, trivial, ?_⟩
  dsimp only
  rw [he.sends]
  simp only [if_true, List.nil_append]
  exact (forwardPushData_upholds pl _ remote).restrict (fun _ he => he.toRoomy)
    (fun _ _ _ => trivial) fun _ _ _ _ _ _ _ _ => trivial

/-- A PUSH_DATA whose objects all convert and whose PUSH_ACK is sent is forwarded exactly, and
the counters follow what its effects say. -/
theorem uplinks_forwarded (clock : Gw.Timestamp → Prop) (remote : SocketAddr)
    (parsed : PushData.fromSlice crates profile data = .ok pl)
    (converts : ∀ rx ∈ pl.payload.rxpk, rx.Converts) :
    (handlePushData crates profile conf data remote).Upholds (Reliable clock) (fun _ _ => True)
      (Recorded crates)
      (fun os _ => ∃ frames,
        ExpandsAll clock conf.timeFallbackEnabled pl.gatewayId pl.payload.rxpk frames ∧
          Forwarded crates conf frames os) [] := by
  have recorded :
      (handlePushData crates profile conf data remote).Guarantees (Recorded crates) :=
    handlePushData_guarantees pushData_recorded data remote
  apply recorded.strengthen
  refine (handlePushData_upholds clock remote parsed).mono ?_
  rintro os _ (forwarded | ⟨⟨rx, member, fails⟩, _⟩)
  · exact forwarded
  · exact absurd (converts rx member) fails

end

/-! ## An object with two antenna entries -/

/-- The text of a PUSH_DATA with these objects. -/
def rxpkText (objects : List UInt8) : List UInt8 :=
  ascii "\x7b\"rxpk\":[" ++ objects ++ ascii "]\x7d"

theorem two_le_rxpkText (objects : List UInt8) : 2 ≤ (rxpkText objects).length := by
  have start : 2 ≤ (ascii "\x7b\"rxpk\":[").length := by decide
  rw [rxpkText, List.length_append, List.length_append]
  omega

/-- The text of an object with two antenna entries. -/
@[irreducible] def twoAntennasText : List UInt8 :=
  ascii "\x7b\"tmst\":1,\"freq\":868,\"stat\":1,\"modu\":\"Fsk\",\"datr\":50000," ++
    ascii "\"size\":1,\"data\":\"AA==\",\"rsig\":[\x7b\"ant\":0,\"chan\":1,\"rssic\":-50\x7d," ++
    ascii "\x7b\"ant\":1,\"chan\":1,\"rssic\":-60\x7d]\x7d"

/-- Crates that give what that text and its payload say. -/
def twoAntennas : Crates :=
  let nat (value : UInt64) : Json := .number (.posInt value)
  let entry (ant : UInt64) (rssic : Int64) : Json :=
    .object [("ant", nat ant), ("chan", nat 1), ("rssic", .number (.negInt rssic))]
  { Crates.plain with
    readJson := fun _ =>
      ⟨.object [("rxpk", .array [.object [("tmst", nat 1), ("freq", nat 868), ("stat", nat 1),
        ("modu", jsonStr "Fsk"), ("datr", nat 50000), ("size", nat 1), ("data", jsonStr "AA=="),
        ("rsig", .array [entry 0 (-50), entry 1 (-60)])]])], false⟩
    base64Decode := fun _ => some [0] }

def twoAntennasDatagram : List UInt8 :=
  [protocolVersion, 0, 0, 0x00] ++ [0, 0, 0, 0, 0, 0, 0, 1] ++ rxpkText twoAntennasText

def twoAntennasRxPk : RxPk where
  tmst := 1
  freq := (868 : UInt64).toFloat
  stat := .ok
  modu := .fsk
  datr := .fsk 50000
  size := 1
  data := [0]
  rsig := [⟨0, 1, -50, none⟩, ⟨1, 1, -60, none⟩]

def twoAntennasPushData : PushData where
  randomToken := 0
  gatewayId := [0, 0, 0, 0, 0, 0, 0, 1]
  payload := { rxpk := [twoAntennasRxPk], stat := none }

theorem twoAntennas_parsed :
    PushData.fromSlice twoAntennas .release twoAntennasDatagram = .ok twoAntennasPushData :=
  PushData.fromSlice_layout rfl (two_le_rxpkText _)

theorem twoAntennas_converts : ∀ rx ∈ twoAntennasPushData.payload.rxpk, rx.Converts := by
  intro rx member
  obtain rfl := List.mem_singleton.mp member
  exact ⟨_, rfl⟩

theorem uplinks_forwarded_two_antennas :
    (handlePushData twoAntennas .release {} twoAntennasDatagram ⟨[127, 0, 0, 1], 1700⟩).Upholds
      (Reliable fun _ => True) (fun _ _ => True) (Recorded twoAntennas)
      (fun os _ => ∃ frames,
        ExpandsAll (fun _ => True) ({} : Conf).timeFallbackEnabled twoAntennasPushData.gatewayId
            twoAntennasPushData.payload.rxpk frames ∧
          Forwarded twoAntennas {} frames os) [] :=
  @uplinks_forwarded twoAntennas .release {} twoAntennasDatagram twoAntennasPushData
    (fun _ => True) ⟨[127, 0, 0, 1], 1700⟩ twoAntennas_parsed twoAntennas_converts

/-- If the socket does not take the PUSH_ACK, nothing is forwarded. -/
theorem uplinks_lost_without_ack :
    ¬ ∀ (crates : Crates) (profile : Profile) (conf : Conf) (clock : Gw.Timestamp → Prop)
      (data : List UInt8) (remote : SocketAddr) (pl : PushData),
      PushData.fromSlice crates profile data = .ok pl →
      (∀ rx ∈ pl.payload.rxpk, rx.Converts) →
      (handlePushData crates profile conf data remote).Upholds (Roomy clock) (fun _ _ => True)
        (Recorded crates)
        (fun os _ => ∃ frames,
          ExpandsAll clock conf.timeFallbackEnabled pl.gatewayId pl.payload.rxpk frames ∧
            Forwarded crates conf frames os) [] := by
  intro forwards
  have handled := forwards twoAntennas .release {} (fun _ => True) twoAntennasDatagram
    ⟨[127, 0, 0, 1], 1700⟩ twoAntennasPushData twoAntennas_parsed twoAntennas_converts
  rw [handlePushData, twoAntennas_parsed, Prog.lift_eq, Prog.done_ok_bind] at handled
  obtain ⟨frames, expands, forwarded⟩ := (handled { Env.plain with socketSends := false } []
    (State.init {}) ⟨by decide, rfl, trivial⟩ trivial).2.2
  obtain ⟨_, _ | ⟨first, _ | _⟩, rfl⟩ := expands
  obtain ⟨parameters, gwTime, _, _, _ | ⟨⟨uplinkId, rfl⟩, others⟩⟩ := first
  have published := forwarded.published
  rw [List.flatten_cons, List.cons_append, List.filter_cons_of_pos rfl] at published
  cases published

end MqttForwarder.SemtechUdp
