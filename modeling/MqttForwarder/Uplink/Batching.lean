import Mathlib.Data.List.Forall2
import MqttForwarder.Uplink.Forwarding

/-!
# Batches of uplinks

The uplinks of one PUSH_DATA against the same uplinks in a PUSH_DATA each.  The
handler gives up at the first object that cannot be converted, so the batch
publishes the same frames only if all of its objects convert, or if those that
do are not wanted anyway.
-/

namespace MqttForwarder.SemtechUdp

open MqttForwarder.Rust MqttForwarder.Serde

/-! ## The same frames -/

/-- The frame without its identifier and its time. -/
def erased (pl : Gw.UplinkFrame) : Gw.UplinkFrame :=
  { pl with
    rxInfo := pl.rxInfo.map fun rxInfo => { rxInfo with uplinkId := 0, gwTime := none } }

def timeOf (pl : Gw.UplinkFrame) : Option Gw.Timestamp :=
  pl.rxInfo.bind fun rxInfo => rxInfo.gwTime

/-- The frames agree up to their random identifiers and values of the clock. -/
structure Alike (clock : Gw.Timestamp → Prop) (first second : Gw.UplinkFrame) : Prop where
  erased : erased first = erased second
  time : timeOf first = timeOf second ∨
    ∃ time time', clock time ∧ clock time' ∧ timeOf first = some time ∧ timeOf second = some time'

section

variable (crates : Crates) (profile : Profile) (conf : Conf) (clock : Gw.Timestamp → Prop)
  (remote : SocketAddr)

/-- The datagrams are handled one after the other. -/
def InTurn : List (List UInt8) → State → List Effect → State → Prop
  | [], s, os, s' => os = [] ∧ s' = s
  | data :: rest, s, os, s' => ∃ first middle result last,
      Prog.Exec (Reliable clock) (handlePushData crates profile conf data remote) s first middle
          result ∧
        os = first ++ last ∧ InTurn rest middle last s'

/-- The batch publishes the same sequence of frames as its parts in turn. -/
def Lossless (batch : List UInt8) (singles : List (List UInt8)) : Prop :=
  ∀ s os s' result t os' t',
    Prog.Exec (Reliable clock) (handlePushData crates profile conf batch remote) s os s' result →
    InTurn crates profile conf clock remote singles t os' t' →
    List.Forall₂ (Alike clock) (os.filterMap Effect.up?) (os'.filterMap Effect.up?)

/-- Each datagram carries one of the objects, from the same gateway. -/
def Split (pl : PushData) (singles : List (List UInt8)) : Prop :=
  List.Forall₂ (fun rx data => ∃ single, PushData.fromSlice crates profile data = .ok single ∧
    single.gatewayId = pl.gatewayId ∧ single.payload.rxpk = [rx]) pl.payload.rxpk singles

/-- The CRC status of the object is enabled and its payload passes the filters. -/
def RxPk.Wanted (rx : RxPk) : Prop :=
  conf.enables rx.stat.toProto = true ∧ crates.filterMatches rx.data conf.filters = true

end

/-! ## What an object contributes -/

section

variable {crates : Crates} {profile : Profile} {conf : Conf} {clock : Gw.Timestamp → Prop}
  {remote : SocketAddr} {fallback : Bool} {gatewayId : List UInt8} {rx : RxPk}
  {frames frames' : List Gw.UplinkFrame}

/-- Every frame of an object is wanted if the object is. -/
theorem RxPk.wanted_frame (rx : RxPk) (signal : Signal) (uplinkId : UInt32)
    (parameters : Gw.ModulationParameters) (gwTime : Option Gw.Timestamp) :
    SemtechUdp.Wanted crates conf (signal.on (rx.frame gatewayId uplinkId parameters gwTime)) =
      true ↔ rx.Wanted crates conf := by
  have status : (Gw.CrcStatus.ofI32 rx.stat.toProto.toI32) = rx.stat.toProto :=
    Gw.CrcStatus.ofI32_toI32 _
  simp only [SemtechUdp.Wanted, RxPk.Wanted, Signal.on, RxPk.frame, Option.map_some,
    Option.all_some, Gw.UplinkRxInfo.getCrcStatus, status, Bool.and_eq_true]

/-- Either all frames of an object are wanted, or none is. -/
theorem RxPk.Expands.wanted_iff (expands : rx.Expands clock fallback gatewayId frames)
    {pl : Gw.UplinkFrame} (member : pl ∈ frames) :
    SemtechUdp.Wanted crates conf pl = true ↔ rx.Wanted crates conf := by
  obtain ⟨signal, uplinkId, parameters, gwTime, _, rfl⟩ := expands.frame member
  exact rx.wanted_frame signal uplinkId parameters gwTime

theorem RxPk.Expands.ne_nil (expands : rx.Expands clock fallback gatewayId frames) :
    frames ≠ [] := by
  rintro rfl
  obtain ⟨_, _, _, _, each⟩ := expands
  have empty := List.forall₂_nil_right_iff.mp each
  unfold RxPk.signals at empty
  split at empty
  · cases empty
  · next entries some => exact some (List.map_eq_nil_iff.mp empty)

/-- Two expansions of an object are alike. -/
theorem RxPk.Expands.alike (expands : rx.Expands clock fallback gatewayId frames)
    (expands' : rx.Expands clock fallback gatewayId frames') :
    List.Forall₂ (Alike clock) frames frames' := by
  obtain ⟨parameters, gwTime, converted, shows, each⟩ := expands
  obtain ⟨parameters', gwTime', converted', shows', each'⟩ := expands'
  obtain rfl : parameters = parameters' := by
    rw [converted] at converted'
    exact Outcome.ok.inj converted'
  have times : gwTime = gwTime' ∨
      ∃ time time', clock time ∧ clock time' ∧ gwTime = some time ∧ gwTime' = some time' := by
    unfold RxPk.ShowsTime at shows shows'
    cases own : rx.time with
    | some time =>
        rw [own] at shows shows'
        exact .inl (shows.trans shows'.symm)
    | none =>
        rw [own] at shows shows'
        cases fallback with
        | true =>
            obtain ⟨time, shown, same⟩ := shows
            obtain ⟨time', shown', same'⟩ := shows'
            exact .inr ⟨time, time', shown, shown', same, same'⟩
        | false => exact .inl (shows.trans shows'.symm)
  generalize rx.signals = signals at each each'
  induction each generalizing frames' with
  | nil =>
      obtain rfl := List.forall₂_nil_left_iff.mp each'
      exact .nil
  | @cons signal pl signals frames now later ih =>
      obtain ⟨pl', rest', now', later', rfl⟩ := List.forall₂_cons_left_iff.mp each'
      obtain ⟨uplinkId, rfl⟩ := now
      obtain ⟨uplinkId', rfl⟩ := now'
      exact .cons ⟨rfl, times⟩ (ih later')

variable (crates conf clock fallback gatewayId) in
/-- The frames that a PUSH_DATA of this object alone publishes. -/
def RxPk.Publishes (rx : RxPk) (part : List Gw.UplinkFrame) : Prop :=
  (∃ frames, rx.Expands clock fallback gatewayId frames ∧
    part = frames.filter (SemtechUdp.Wanted crates conf)) ∨
  ¬ rx.Converts ∧ part = []

theorem RxPk.Expands.filter_of_wanted (expands : rx.Expands clock fallback gatewayId frames)
    (wanted : rx.Wanted crates conf) :
    frames.filter (SemtechUdp.Wanted crates conf) = frames :=
  List.filter_eq_self.mpr fun _ member => (expands.wanted_iff member).mpr wanted

theorem RxPk.Expands.filter_of_unwanted (expands : rx.Expands clock fallback gatewayId frames)
    (unwanted : ¬ rx.Wanted crates conf) :
    frames.filter (SemtechUdp.Wanted crates conf) = [] :=
  List.filter_eq_nil_iff.mpr fun _ member wanted =>
    unwanted ((expands.wanted_iff member).mp wanted)

/-- An object publishes nothing unless it converts and is wanted. -/
theorem RxPk.Publishes.eq_nil_iff {part : List Gw.UplinkFrame}
    (publishes : rx.Publishes crates conf clock fallback gatewayId part) :
    part = [] ↔ (rx.Converts → ¬ rx.Wanted crates conf) := by
  rcases publishes with ⟨frames, expands, rfl⟩ | ⟨fails, rfl⟩
  · by_cases wanted : rx.Wanted crates conf
    · rw [expands.filter_of_wanted wanted]
      exact iff_of_false expands.ne_nil fun unwanted => unwanted expands.converts wanted
    · exact iff_of_true (expands.filter_of_unwanted wanted) fun _ => wanted
  · exact iff_of_true rfl fun converts => absurd converts fails

theorem published_eq_nil_iff {rxpk : List RxPk} {parts : List (List Gw.UplinkFrame)}
    (each : List.Forall₂
      (fun rx part => rx.Publishes crates conf clock fallback gatewayId part) rxpk parts) :
    parts.flatten = [] ↔ ∀ rx ∈ rxpk, rx.Converts → ¬ rx.Wanted crates conf := by
  induction each with
  | nil => simp
  | cons now _ ih =>
      rw [List.flatten_cons, List.append_eq_nil_iff, now.eq_nil_iff, ih, List.forall_mem_cons]

/-- In a batch and on its own, an object that converts publishes the same frames. -/
theorem RxPk.Publishes.alike {part : List Gw.UplinkFrame}
    (publishes : rx.Publishes crates conf clock fallback gatewayId part)
    (expands : rx.Expands clock fallback gatewayId frames) :
    List.Forall₂ (Alike clock) (frames.filter (SemtechUdp.Wanted crates conf)) part := by
  rcases publishes with ⟨frames', expands', rfl⟩ | ⟨fails, _⟩
  · by_cases wanted : rx.Wanted crates conf
    · rw [expands.filter_of_wanted wanted, expands'.filter_of_wanted wanted]
      exact expands.alike expands'
    · rw [expands.filter_of_unwanted wanted, expands'.filter_of_unwanted wanted]
      exact .nil
  · exact absurd expands.converts fails

theorem ExpandsAll.converts {rxpk : List RxPk}
    (expands : ExpandsAll clock fallback gatewayId rxpk frames) : ∀ rx ∈ rxpk, rx.Converts := by
  obtain ⟨parts, each, rfl⟩ := expands
  induction each with
  | nil => simp
  | cons now _ ih => exact List.forall_mem_cons.mpr ⟨now.converts, ih⟩

theorem ExpandsAll.publishes {rxpk : List RxPk}
    (expands : ExpandsAll clock fallback gatewayId rxpk frames) :
    ∃ parts, List.Forall₂
        (fun rx part => rx.Publishes crates conf clock fallback gatewayId part) rxpk parts ∧
      frames.filter (SemtechUdp.Wanted crates conf) = parts.flatten := by
  obtain ⟨parts, each, rfl⟩ := expands
  refine ⟨_, ?_, List.filter_flatten⟩
  rw [List.forall₂_map_right_iff]
  exact each.imp fun rx part expands => .inl ⟨part, expands, rfl⟩

end

/-! ## What the runs publish -/

section

variable {crates : Crates} {profile : Profile} {conf : Conf} {clock : Gw.Timestamp → Prop}
  {remote : SocketAddr} {data : List UInt8} {pl : PushData} {singles : List (List UInt8)}
  {s s' : State} {os : List Effect} {result : Outcome Unit}

theorem relayed_of_exec (parsed : PushData.fromSlice crates profile data = .ok pl)
    (run : Prog.Exec (Reliable clock) (handlePushData crates profile conf data remote) s os s'
      result) : Relayed crates conf clock pl os :=
  (handlePushData_upholds clock remote parsed).exec run

theorem publishes_of_exec (parsed : PushData.fromSlice crates profile data = .ok pl) {rx : RxPk}
    (alone : pl.payload.rxpk = [rx])
    (run : Prog.Exec (Reliable clock) (handlePushData crates profile conf data remote) s os s'
      result) :
    rx.Publishes crates conf clock conf.timeFallbackEnabled pl.gatewayId
      (os.filterMap Effect.up?) := by
  have relayed := relayed_of_exec parsed run
  rw [Relayed, alone] at relayed
  rcases relayed with ⟨_, ⟨parts, each, rfl⟩, forwarded⟩ | ⟨⟨other, member, fails⟩, nothing⟩
  · obtain ⟨frames, rest, expands, none, rfl⟩ := List.forall₂_cons_left_iff.mp each
    obtain rfl := List.forall₂_nil_left_iff.mp none
    refine .inl ⟨frames, expands, ?_⟩
    rw [forwarded.published, List.flatten_cons, List.flatten_nil, List.append_nil]
  · obtain rfl := List.mem_singleton.mp member
    exact .inr ⟨fails, nothing⟩

/-- In turn, each object publishes what it publishes on its own. -/
theorem inTurn_published (split : Split crates profile pl singles)
    (run : InTurn crates profile conf clock remote singles s os s') :
    ∃ parts, List.Forall₂
        (fun rx part => rx.Publishes crates conf clock conf.timeFallbackEnabled pl.gatewayId part)
        pl.payload.rxpk parts ∧
      os.filterMap Effect.up? = parts.flatten := by
  unfold Split at split
  generalize pl.payload.rxpk = rxpk at split ⊢
  induction split generalizing s os with
  | nil =>
      obtain ⟨rfl, rfl⟩ := run
      exact ⟨[], .nil, rfl⟩
  | cons now _ ih =>
      obtain ⟨single, parsed, same, alone⟩ := now
      obtain ⟨first, middle, _, last, handled, rfl, later⟩ := run
      obtain ⟨parts, each, rest⟩ := ih later
      have publishes := publishes_of_exec parsed alone handled
      rw [same] at publishes
      refine ⟨_ :: parts, .cons publishes each, ?_⟩
      rw [List.filterMap_append, List.flatten_cons, rest]

theorem reliable_exists (shown : ∃ time, clock time) : ∃ e, Reliable clock e := by
  obtain ⟨time, shown⟩ := shown
  exact ⟨{ Env.plain with utcNow := time }, ⟨⟨by simp [Env.plain], rfl, shown⟩, rfl⟩⟩

theorem inTurn_exists (shown : ∃ time, clock time) (singles : List (List UInt8)) (s : State) :
    ∃ os s', InTurn crates profile conf clock remote singles s os s' := by
  induction singles generalizing s with
  | nil => exact ⟨[], s, rfl, rfl⟩
  | cons data rest ih =>
      obtain ⟨first, middle, result, handled⟩ := Prog.exec_exists (reliable_exists shown)
        (handlePushData crates profile conf data remote) s
      obtain ⟨last, s', later⟩ := ih middle
      exact ⟨_, s', first, middle, result, last, handled, rfl, later⟩

/-! ## When a batch is lossless -/

theorem lossless_of_converts (parsed : PushData.fromSlice crates profile data = .ok pl)
    (split : Split crates profile pl singles) (converts : ∀ rx ∈ pl.payload.rxpk, rx.Converts) :
    Lossless crates profile conf clock remote data singles := by
  intro s os s' result t os' t' handled inTurn
  obtain ⟨parts', each', published'⟩ := inTurn_published split inTurn
  rcases relayed_of_exec parsed handled with ⟨_, ⟨parts, each, rfl⟩, forwarded⟩ |
    ⟨⟨rx, member, fails⟩, _⟩
  · rw [forwarded.published, published', List.filter_flatten]
    generalize pl.payload.rxpk = rxpk at each each'
    clear published' forwarded
    induction each generalizing parts' with
    | nil =>
        obtain rfl := List.forall₂_nil_left_iff.mp each'
        exact .nil
    | cons now _ ih =>
        obtain ⟨part', rest', now', later', rfl⟩ := List.forall₂_cons_left_iff.mp each'
        exact List.rel_append (now'.alike now) (ih rest' later')
  · exact absurd (converts rx member) fails

theorem lossless_of_unwanted (parsed : PushData.fromSlice crates profile data = .ok pl)
    (split : Split crates profile pl singles)
    (unwanted : ∀ rx ∈ pl.payload.rxpk, rx.Converts → ¬ rx.Wanted crates conf) :
    Lossless crates profile conf clock remote data singles := by
  intro s os s' result t os' t' handled inTurn
  obtain ⟨parts', each', published'⟩ := inTurn_published split inTurn
  have nothing : os.filterMap Effect.up? = [] := by
    rcases relayed_of_exec parsed handled with ⟨frames, expands, forwarded⟩ | ⟨_, nothing⟩
    · obtain ⟨parts, each, published⟩ := expands.publishes
      rw [forwarded.published, published]
      exact (published_eq_nil_iff each).mpr unwanted
    · exact nothing
  rw [nothing, published', (published_eq_nil_iff each').mpr unwanted]
  exact .nil

/-- A batch with an object that fails to convert publishes nothing. -/
theorem unwanted_of_lossless (parsed : PushData.fromSlice crates profile data = .ok pl)
    (split : Split crates profile pl singles) (shown : ∃ time, clock time)
    (lossless : Lossless crates profile conf clock remote data singles)
    (fails : ¬ ∀ rx ∈ pl.payload.rxpk, rx.Converts) :
    ∀ rx ∈ pl.payload.rxpk, rx.Converts → ¬ rx.Wanted crates conf := by
  obtain ⟨os, s', result, handled⟩ := Prog.exec_exists (reliable_exists shown)
    (handlePushData crates profile conf data remote) (State.init conf)
  obtain ⟨os', t', inTurn⟩ : ∃ os t', InTurn crates profile conf clock remote singles
    (State.init conf) os t' := inTurn_exists shown singles _
  obtain ⟨parts', each', published'⟩ := inTurn_published split inTurn
  have nothing : os.filterMap Effect.up? = [] := by
    rcases relayed_of_exec parsed handled with ⟨frames, expands, _⟩ | ⟨_, nothing⟩
    · exact absurd expands.converts fails
    · exact nothing
  have alike := lossless _ _ _ _ _ _ _ handled inTurn
  rw [nothing, published'] at alike
  exact (published_eq_nil_iff each').mp (List.forall₂_nil_left_iff.mp alike)

/-- A batch is lossless exactly if all of its objects convert, or none that converts is wanted. -/
theorem batch_lossless_iff (parsed : PushData.fromSlice crates profile data = .ok pl)
    (split : Split crates profile pl singles) (shown : ∃ time, clock time) :
    Lossless crates profile conf clock remote data singles ↔
      (∀ rx ∈ pl.payload.rxpk, rx.Converts) ∨
        ∀ rx ∈ pl.payload.rxpk, rx.Converts → ¬ rx.Wanted crates conf := by
  constructor
  · intro lossless
    rw [or_iff_not_imp_left]
    exact unwanted_of_lossless parsed split shown lossless
  · rintro (converts | unwanted)
    · exact lossless_of_converts parsed split converts
    · exact lossless_of_unwanted parsed split unwanted

end

/-! ## A batch that loses an uplink -/

def fskText : List UInt8 :=
  ascii "\x7b\"modu\":\"Fsk\",\"datr\":50000," ++
    ascii "\"tmst\":1,\"freq\":868,\"stat\":1,\"size\":1,\"data\":\"AA==\"\x7d"

/-- A LoRa object without coding rate. -/
def loraText : List UInt8 :=
  ascii "\x7b\"modu\":\"LORA\",\"datr\":\"SF7BW125\"," ++
    ascii "\"tmst\":1,\"freq\":868,\"stat\":1,\"size\":1,\"data\":\"AA==\"\x7d"

def objectJson (modu : String) (datr : Json) : Json :=
  let nat (value : UInt64) : Json := .number (.posInt value)
  .object [("modu", jsonStr modu), ("datr", datr), ("tmst", nat 1), ("freq", nat 868),
    ("stat", nat 1), ("size", nat 1), ("data", jsonStr "AA==")]

def rxpkJson (objects : List Json) : Document := ⟨.object [("rxpk", .array objects)], false⟩

def fskJson : Json := objectJson "Fsk" (.number (.posInt 50000))

def loraJson : Json := objectJson "LORA" (jsonStr "SF7BW125")

/-- Crates that read the two objects, alone and together. -/
def fskAndLora : Crates :=
  { Crates.plain with
    readJson := fun text =>
      if text = rxpkText fskText then rxpkJson [fskJson]
      else if text = rxpkText loraText then rxpkJson [loraJson]
      else rxpkJson [fskJson, loraJson]
    base64Decode := fun _ => some [0] }

def datagramOf (objects : List UInt8) : List UInt8 :=
  [protocolVersion, 0, 0, 0x00] ++ [0, 0, 0, 0, 0, 0, 0, 1] ++ rxpkText objects

def fskRxPk : RxPk where
  tmst := 1
  freq := (868 : UInt64).toFloat
  stat := .ok
  modu := .fsk
  datr := .fsk 50000
  size := 1
  data := [0]

def loraRxPk : RxPk := { fskRxPk with modu := .lora, datr := .lora 7 125000 }

def pushDataOf (rxpk : List RxPk) : PushData where
  randomToken := 0
  gatewayId := [0, 0, 0, 0, 0, 0, 0, 1]
  payload := { rxpk, stat := none }

theorem fskAndLora_readJson (text : List UInt8) :
    fskAndLora.readJson text =
      if text = rxpkText fskText then rxpkJson [fskJson]
      else if text = rxpkText loraText then rxpkJson [loraJson]
      else rxpkJson [fskJson, loraJson] := rfl

theorem rxpkText_injective : Function.Injective rxpkText := fun first second same => by
  rw [rxpkText, rxpkText] at same
  exact List.append_cancel_left (List.append_cancel_right same)

/-- The texts differ in the tenth letter. -/
theorem loraText_ne (rest : List UInt8) : loraText ≠ fskText ++ rest := by
  intro same
  have letters : some (76 : UInt8) = some 70 := congrArg (fun text : List UInt8 => text[9]?) same
  exact absurd letters (by decide)

theorem fsk_parsed :
    PushData.fromSlice fskAndLora .release (datagramOf fskText) = .ok (pushDataOf [fskRxPk]) := by
  rw [datagramOf, PushData.fromSlice_layout rfl (two_le_rxpkText _), fskAndLora_readJson,
    if_pos rfl]
  rfl

theorem lora_parsed :
    PushData.fromSlice fskAndLora .release (datagramOf loraText) = .ok (pushDataOf [loraRxPk]) := by
  have other : rxpkText loraText ≠ rxpkText fskText := by
    intro same
    apply loraText_ne []
    rw [List.append_nil, rxpkText_injective same]
  rw [datagramOf, PushData.fromSlice_layout rfl (two_le_rxpkText _), fskAndLora_readJson,
    if_neg other, if_pos rfl]
  rfl

theorem batch_parsed :
    PushData.fromSlice fskAndLora .release (datagramOf (fskText ++ ascii "," ++ loraText)) =
      .ok (pushDataOf [fskRxPk, loraRxPk]) := by
  have other : rxpkText (fskText ++ ascii "," ++ loraText) ≠ rxpkText fskText := by
    intro same
    have lengths := congrArg List.length (rxpkText_injective same)
    have comma : (ascii ",").length = 1 := by decide
    rw [List.length_append, List.length_append] at lengths
    omega
  have other' : rxpkText (fskText ++ ascii "," ++ loraText) ≠ rxpkText loraText := by
    intro same
    apply loraText_ne (ascii "," ++ loraText)
    rw [← List.append_assoc, rxpkText_injective same]
  rw [datagramOf, PushData.fromSlice_layout rfl (two_le_rxpkText _), fskAndLora_readJson,
    if_neg other, if_neg other']
  rfl

theorem batch_split :
    Split fskAndLora .release (pushDataOf [fskRxPk, loraRxPk])
      [datagramOf fskText, datagramOf loraText] :=
  .cons ⟨_, fsk_parsed, rfl, rfl⟩ (.cons ⟨_, lora_parsed, rfl, rfl⟩ .nil)

theorem batch_lossless_iff_fsk_and_lora :
    Lossless fskAndLora .release {} (fun _ => True) ⟨[127, 0, 0, 1], 1700⟩
        (datagramOf (fskText ++ ascii "," ++ loraText)) [datagramOf fskText, datagramOf loraText] ↔
      (∀ rx ∈ [fskRxPk, loraRxPk], rx.Converts) ∨
        ∀ rx ∈ [fskRxPk, loraRxPk], rx.Converts → ¬ rx.Wanted fskAndLora {} :=
  batch_lossless_iff batch_parsed batch_split ⟨⟨0, 0⟩, trivial⟩

/-- A LoRa object without coding rate makes the batch lose the FSK object. -/
theorem batch_loses_uplink :
    ¬ ∀ (crates : Crates) (profile : Profile) (conf : Conf) (clock : Gw.Timestamp → Prop)
      (remote : SocketAddr) (batch : List UInt8) (pl : PushData) (singles : List (List UInt8)),
      PushData.fromSlice crates profile batch = .ok pl → Split crates profile pl singles →
      Lossless crates profile conf clock remote batch singles := by
  intro separable
  have lossless := separable fskAndLora .release {} (fun _ => True) ⟨[127, 0, 0, 1], 1700⟩
    _ _ _ batch_parsed batch_split
  have fails : ¬ ∀ rx ∈ [fskRxPk, loraRxPk], rx.Converts := by
    intro converts
    obtain ⟨parameters, impossible⟩ := converts loraRxPk (by simp)
    cases impossible
  exact unwanted_of_lossless batch_parsed batch_split ⟨⟨0, 0⟩, trivial⟩ lossless fails fskRxPk
    (by simp [pushDataOf]) ⟨_, rfl⟩ ⟨rfl, rfl⟩

end MqttForwarder.SemtechUdp
