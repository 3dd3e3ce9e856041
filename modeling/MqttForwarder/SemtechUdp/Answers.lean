import MqttForwarder.SemtechUdp.Actions

/-!
# Acknowledgements and tokens

The receive loop acknowledges a PUSH_DATA and a PULL_DATA with the two bytes of
their token, and nothing else.  The token under which a downlink is cached goes
out in two bytes of its PULL_RESP, and comes back from the same two bytes of a
TX_ACK.
-/

namespace MqttForwarder.SemtechUdp

open MqttForwarder.Rust

/-! ## Headers -/

/-- The two bytes that a token is read from are those that it is written to. -/
theorem u16ToLe_u16FromLe (low high : UInt8) : u16ToLe (u16FromLe [low, high]) = [low, high] := by
  have lowBound := low.toNat_lt
  have highBound := high.toNat_lt
  have token : (u16FromLe [low, high]).toNat = low.toNat + 256 * high.toNat :=
    UInt16.toNat_ofNat_of_lt' (by rw [UInt16.size]; omega)
  rw [u16ToLe, token]
  have lowByte : (low.toNat + 256 * high.toNat) % 256 = low.toNat := by omega
  have highByte : (low.toNat + 256 * high.toNat) / 256 = high.toNat := by omega
  rw [lowByte, highByte, UInt8.ofNat_toNat, UInt8.ofNat_toNat]

section

variable {crates : Crates} {profile : Profile} {data : List UInt8}

/-- A header of at least twelve bytes is accepted exactly if it has the version and the
identifier. -/
theorem header_eq_ok (long : 12 ≤ data.length) {identifier : UInt8}
    {fields : UInt16 × List UInt8} :
    header data identifier = .ok fields ↔
      data[0]? = some protocolVersion ∧ data[3]? = some identifier ∧
        fields = (tokenOf data, (data.drop 4).take 8) := by
  rw [header_eq long, List.getElem?_eq_getElem (by omega), List.getElem?_eq_getElem (by omega)]
  by_cases version : data[0] = protocolVersion
  · by_cases cid : data[3] = identifier
    · simp [version, cid, tokenOf, eq_comm]
    · simp [version, cid]
  · simp [version]

/-- The parts of a datagram that its acknowledgement depends on. -/
structure Headed (data : List UInt8) (identifier : UInt8) (token : UInt16) : Prop where
  long : 12 ≤ data.length
  identifier : data[3]? = some identifier
  token : token = tokenOf data

theorem PushData.headed {pl : PushData} (read : PushData.fromSlice crates profile data = .ok pl) :
    Headed data 0x00 pl.randomToken := by
  unfold PushData.fromSlice at read
  by_cases short : data.length < 14
  · rw [if_pos short] at read
    cases read
  · rw [if_neg short] at read
    obtain ⟨fields, parsed, read⟩ := Outcome.bind_eq_ok.mp read
    obtain ⟨_, identifier, rfl⟩ := (header_eq_ok (by omega)).mp parsed
    obtain ⟨_, _, read⟩ := Outcome.bind_eq_ok.mp read
    obtain ⟨_, _, read⟩ := Outcome.bind_eq_ok.mp read
    cases read
    exact ⟨by omega, identifier, rfl⟩

theorem PullData.headed {pl : PullData} (read : PullData.fromSlice data = .ok pl) :
    Headed data 0x02 pl.randomToken := by
  unfold PullData.fromSlice at read
  by_cases exact : data.length = 12
  · rw [if_neg (by omega)] at read
    obtain ⟨fields, parsed, read⟩ := Outcome.bind_eq_ok.mp read
    obtain ⟨_, identifier, rfl⟩ := (header_eq_ok (by omega)).mp parsed
    cases read
    exact ⟨by omega, identifier, rfl⟩
  · rw [if_pos exact] at read
    cases read

theorem TxAck.headed {ack : TxAck} (read : TxAck.fromSlice crates data = .ok ack) :
    Headed data 0x05 ack.randomToken := by
  unfold TxAck.fromSlice at read
  by_cases short : data.length < 12
  · rw [if_pos short] at read
    cases read
  · rw [if_neg short] at read
    obtain ⟨fields, parsed, read⟩ := Outcome.bind_eq_ok.mp read
    obtain ⟨_, identifier, rfl⟩ := (header_eq_ok (by omega)).mp parsed
    refine ⟨by omega, identifier, ?_⟩
    by_cases payload : 14 ≤ data.length
    · simp only [payload, if_true] at read
      obtain ⟨_, _, read⟩ := Outcome.bind_eq_ok.mp read
      obtain ⟨_, _, read⟩ := Outcome.bind_eq_ok.mp read
      cases read
      rfl
    · simp only [payload, if_false] at read
      cases read
      rfl

/-- The token goes out in the bytes that it came from. -/
theorem Headed.bytes {identifier : UInt8} {token : UInt16} (headed : Headed data identifier token) :
    ∃ low high, data[1]? = some low ∧ data[2]? = some high ∧ u16ToLe token = [low, high] := by
  obtain ⟨long, _, rfl⟩ := headed
  match data, long with
  | _ :: low :: high :: _, _ => exact ⟨low, high, rfl, rfl, u16ToLe_u16FromLe low high⟩

end

/-! ## Acknowledgements -/

/-- The bytes and the receiver of an acknowledgement. -/
def Effect.answer? : Effect → Option (List UInt8 × SocketAddr)
  | .pushAck bytes remote => some (bytes, remote)
  | .pullAck bytes remote => some (bytes, remote)
  | _ => none

/-- The acknowledgements among the effects are those that the datagram is owed. -/
structure Answered (crates : Crates) (profile : Profile) (data : List UInt8)
    (remote : SocketAddr) (os : List Effect) : Prop where
  pushData : ∀ pl, PushData.fromSlice crates profile data = .ok pl →
    ∃ low high, data[1]? = some low ∧ data[2]? = some high ∧
      os.filterMap Effect.answer? = [([2, low, high, 0x01], remote)]
  pullData : ∀ pl, PullData.fromSlice data = .ok pl →
    ∃ low high, data[1]? = some low ∧ data[2]? = some high ∧
      os.filterMap Effect.answer? = [([2, low, high, 0x04], remote)]
  other : (∀ pl, PushData.fromSlice crates profile data ≠ .ok pl) →
    (∀ pl, PullData.fromSlice data ≠ .ok pl) → os.filterMap Effect.answer? = []

/-- The acknowledgements are those that the datagram is owed, unless the socket refused one. -/
def AnsweredUnlessRefused (E : Env → Prop) (crates : Crates) (profile : Profile)
    (data : List UInt8) (remote : SocketAddr) (os : List Effect) : Prop :=
  Answered crates profile data remote os ∨
    os.filterMap Effect.answer? = [] ∧ ∃ e, E e ∧ e.socketSends = false

/-- No action has an acknowledgement as its effect. -/
abbrev Silent (_ : Env) (_ _ : State) (os : List Effect) : Prop :=
  os.filterMap Effect.answer? = []

section

variable {crates : Crates} {profile : Profile} {conf : Conf} {data : List UInt8}
  {remote : SocketAddr} {E : Env → Prop}

theorem trySend_silent (message : MqttMessage) : (trySend message).Guarantees Silent :=
  trySend_guarantees (fun _ _ => rfl) fun _ _ _ => rfl

theorem countUplink_silent (pl : Gw.UplinkFrame) :
    (State.countUplink crates pl).Guarantees Silent :=
  Prog.guarantees_attempt fun _ _ => rfl

theorem forwardPushData_silent (pl : PushData) :
    (forwardPushData crates conf pl).Guarantees Silent := by
  apply Prog.guarantees_bind (toProtoFrames_guarantees (fun _ _ => rfl) _ _ _)
  intro frames
  apply Prog.guarantees_bind (Prog.guarantees_done _)
  intro stats
  apply Prog.guarantees_bind
  · exact forwardFrames_guarantees fun pl _ _ _ => ⟨countUplink_silent pl, trySend_silent _⟩
  · intro _
    exact forwardStats_guarantees (fun _ _ => rfl) (Prog.guarantees_attempt fun _ _ => rfl)
      fun _ pl _ _ => trySend_silent _

theorem txAck_silent : TxAckActions crates Silent where
  idle := fun _ _ => rfl
  setDownlinkCache := fun _ _ => Prog.guarantees_atomically fun _ _ => rfl
  pullResp := fun _ _ _ _ => sendTo_guarantees (fun _ _ => rfl) fun _ _ => rfl
  cleanDownlinkCache := Prog.guarantees_atomically fun _ _ => rfl
  readDownlinkCache := fun _ => Prog.guarantees_atomically fun _ _ => rfl
  countDownlink := fun _ _ => Prog.guarantees_attempt fun _ _ => rfl
  ack := fun _ => trySend_silent _

/-- A program that acknowledges first does nothing of the kind later. -/
theorem sendTo_bind_upholds {datagram : Effect} (answer : List UInt8 × SocketAddr)
    (acknowledges : datagram.answer? = some answer) {rest : Unit → Task Unit}
    (silent : (rest ()).Guarantees Silent) :
    (sendTo datagram >>= rest).Upholds E (fun _ _ => True) (fun _ _ _ _ => True)
      (fun os _ => os.filterMap Effect.answer? = [answer] ∨
        os.filterMap Effect.answer? = [] ∧ ∃ e, E e ∧ e.socketSends = false) [] := by
  intro e log s he hs
  refine ⟨trivial, trivial, ?_⟩
  dsimp only
  cases sends : e.socketSends with
  | true =>
      rw [if_pos rfl]
      refine (silent.upholds_filterMap E [datagram]).mono fun os result same => .inl ?_
      rw [same, List.filterMap_cons_some acknowledges, List.filterMap_nil]
  | false =>
      rw [if_neg Bool.false_ne_true]
      exact .inr ⟨rfl, e, he, sends⟩

theorem answered_unread (pushData : ∀ pl, PushData.fromSlice crates profile data ≠ .ok pl)
    (pullData : ∀ pl, PullData.fromSlice data ≠ .ok pl) {os : List Effect}
    (none : os.filterMap Effect.answer? = []) : Answered crates profile data remote os :=
  ⟨fun pl read => absurd read (pushData pl), fun pl read => absurd read (pullData pl),
    fun _ _ => none⟩

/-- Datagrams without the identifiers of a PUSH_DATA and a PULL_DATA are owed nothing. -/
theorem answered_other (pushData : data[3]? ≠ some 0x00) (pullData : data[3]? ≠ some 0x02)
    {os : List Effect} (none : os.filterMap Effect.answer? = []) :
    Answered crates profile data remote os :=
  answered_unread (fun _ read => pushData (PushData.headed read).identifier)
    (fun _ read => pullData (PullData.headed read).identifier) none

theorem handlePushData_answers (crates : Crates) (profile : Profile) (conf : Conf)
    (remote : SocketAddr) (E : Env → Prop) (identifier : data[3]? = some 0x00) :
    (handlePushData crates profile conf data remote).Upholds E (fun _ _ => True)
      (fun _ _ _ _ => True)
      (fun os _ => AnsweredUnlessRefused E crates profile data remote os) [] := by
  have notPull : ∀ pl, PullData.fromSlice data ≠ .ok pl := by
    intro pl read
    cases identifier.symm.trans (PullData.headed read).identifier
  unfold handlePushData
  cases read : PushData.fromSlice crates profile data with
  | ok pl =>
      obtain ⟨low, high, first, second, bytes⟩ := (PushData.headed read).bytes
      refine (sendTo_bind_upholds ([2, low, high, 0x01], remote) ?_
        (forwardPushData_silent pl)).mono ?_
      · simp [Effect.answer?, PushAck.toVec, bytes, protocolVersion]
      · rintro os _ (sent | refused)
        · exact .inl ⟨fun _ _ => ⟨low, high, first, second, sent⟩,
            fun pl impossible => absurd impossible (notPull pl),
            fun impossible => absurd read (impossible pl)⟩
        · exact .inr refused
  | err message => exact .inl (answered_unread (fun pl => by rw [read]; nofun) notPull rfl)
  | panic cause => exact .inl (answered_unread (fun pl => by rw [read]; nofun) notPull rfl)

theorem handlePullData_answers (crates : Crates) (profile : Profile) (remote : SocketAddr)
    (E : Env → Prop) (identifier : data[3]? = some 0x02) :
    (handlePullData data remote).Upholds E (fun _ _ => True) (fun _ _ _ _ => True)
      (fun os _ => AnsweredUnlessRefused E crates profile data remote os) [] := by
  have notPush : ∀ pl, PushData.fromSlice crates profile data ≠ .ok pl := by
    intro pl read
    cases identifier.symm.trans (PushData.headed read).identifier
  unfold handlePullData
  cases read : PullData.fromSlice data with
  | ok pl =>
      obtain ⟨low, high, first, second, bytes⟩ := (PullData.headed read).bytes
      refine (sendTo_bind_upholds ([2, low, high, 0x04], remote) ?_ ?_).mono ?_
      · simp [Effect.answer?, PullAck.toVec, bytes, protocolVersion]
      · exact Prog.guarantees_bind (Prog.guarantees_atomically fun _ _ => rfl) fun _ =>
          Prog.guarantees_atomically fun _ _ => rfl
      · rintro os _ (sent | refused)
        · exact .inl ⟨fun pl impossible => absurd impossible (notPush pl),
            fun _ _ => ⟨low, high, first, second, sent⟩,
            fun _ impossible => absurd read (impossible pl)⟩
        · exact .inr refused
  | err message => exact .inl (answered_unread notPush (fun pl => by rw [read]; nofun) rfl)
  | panic cause => exact .inl (answered_unread notPush (fun pl => by rw [read]; nofun) rfl)

/-- However other tasks interfere, a datagram is acknowledged as it is owed. -/
theorem receive_answers (crates : Crates) (profile : Profile) (conf : Conf) (data : List UInt8)
    (remote : SocketAddr) (E : Env → Prop) :
    (receive crates profile conf data remote).Upholds E (fun _ _ => True) (fun _ _ _ _ => True)
      (fun os _ => AnsweredUnlessRefused E crates profile data remote os) [] := by
  unfold receive
  split
  · next short => exact .inl (answered_other (by simp [short]) (by simp [short]) rfl)
  · next identifier => exact handlePushData_answers crates profile conf remote E identifier
  · next identifier => exact handlePullData_answers crates profile remote E identifier
  · next identifier =>
      have silent : (handleTxAck crates profile data).Guarantees Silent :=
        handleTxAck_guarantees txAck_silent data
      exact (silent.upholds_filterMap E []).mono fun os _ none =>
        .inl (answered_other (by simp [identifier]) (by simp [identifier]) none)
  · next cid notPush notPull notTxAck identifier =>
      refine .inl (answered_other ?_ ?_ rfl)
      · rw [identifier]
        exact fun same => notPush (Option.some.inj same)
      · rw [identifier]
        exact fun same => notPull (Option.some.inj same)

end

/-! ## Tokens -/

/-- A TX_ACK with the token bytes of the PULL_RESP has the token; one of just a header is
accepted. -/
structure Echoes (crates : Crates) (token : UInt16) (bytes : List UInt8) : Prop where
  copied : ∀ data ack, (data.drop 1).take 2 = (bytes.drop 1).take 2 →
    TxAck.fromSlice crates data = .ok ack → ack.randomToken = token
  accepted : ∀ gatewayId : List UInt8, gatewayId.length = 8 →
    TxAck.fromSlice crates ([0x02] ++ (bytes.drop 1).take 2 ++ [0x05] ++ gatewayId) =
      .ok { randomToken := token, gatewayId, payload := none }

/-- Every PULL_RESP among the effects is one whose frame is cached under the token that its
TX_ACK echoes. -/
def EchoesCached (crates : Crates) (os : List Effect) : Prop :=
  ∀ frame i bytes addr, .pullResp frame i bytes addr ∈ os →
    ∃ token dc, .cached token dc ∈ os ∧ dc.frame = frame ∧ dc.index = i ∧
      Echoes crates token bytes

section

variable {crates : Crates} {profile : Profile} {E : Env → Prop}

theorem PullResp.echoes {resp : PullResp} {bytes : List UInt8}
    (written : resp.toVec crates = .ok bytes) : Echoes crates resp.randomToken bytes := by
  have token : tokenOf bytes = resp.randomToken := resp.tokenOf_toVec crates written
  have copied : (bytes.drop 1).take 2 = u16ToLe resp.randomToken := by
    cases written
    rfl
  refine ⟨fun data ack copies read => ?_, fun gatewayId eight => ?_⟩
  · rw [(TxAck.headed read).token, tokenOf, copies]
    exact token
  · have length : ([0x02] ++ u16ToLe resp.randomToken ++ [0x05] ++ gatewayId).length = 12 := by
      simp [u16ToLe, eight]
    have taken : gatewayId.take 8 = gatewayId := List.take_of_length_le (le_of_eq eight)
    have header : header ([0x02] ++ u16ToLe resp.randomToken ++ [0x05] ++ gatewayId) 0x05 =
        .ok (resp.randomToken, gatewayId) := by
      refine (header_eq_ok (by omega)).mpr ⟨rfl, rfl, ?_⟩
      exact Prod.ext (u16FromLe_u16ToLe resp.randomToken).symm taken.symm
    rw [copied, TxAck.fromSlice, if_neg (by omega), header, Outcome.ok_bind]
    simp only [length]
    rfl

/-- An entry alone is echoed by nothing. -/
theorem echoesCached_cached (token : UInt16) (dc : DownlinkCache) :
    EchoesCached crates [.cached token dc] :=
  fun _ _ _ _ member => by simp at member

theorem sendPullResp_echoes {pl : Gw.DownlinkFrame} {i : Nat} {dc : DownlinkCache}
    (frame : dc.frame = pl) (itemIndex : dc.index = i) :
    (sendPullResp crates profile pl i).Upholds E (fun _ _ => True) (fun _ _ _ _ => True)
      (fun os _ => EchoesCached crates os) [.cached (tokenFor pl) dc] := by
  unfold sendPullResp
  cases converted : PullResp.fromProto profile pl i (tokenFor pl) with
  | err message => exact echoesCached_cached _ _
  | panic cause => exact echoesCached_cached _ _
  | ok resp =>
      simp only [Prog.lift_eq, Prog.done_ok_bind, State.getPullAddr, Prog.attempt_bind]
      intro _ _ s _ _
      refine ⟨trivial, trivial, ?_⟩
      dsimp only
      cases s.pullAddr with
      | none => exact echoesCached_cached _ _
      | some addr =>
          intro e _ _ _ _
          refine ⟨trivial, trivial, ?_⟩
          dsimp only
          cases e.socketSends with
          | false => exact echoesCached_cached _ _
          | true =>
              intro frame' i' bytes' addr' member
              obtain ⟨rfl, rfl, rfl, rfl⟩ : frame' = pl ∧ i' = i ∧ bytes' = _ ∧ addr' = addr := by
                simpa using member
              have token := PullResp.fromProto_token converted
              exact ⟨resp.randomToken, dc, by simp [token], frame, itemIndex, PullResp.echoes rfl⟩

theorem sendDownlinkFrame_echoes (crates : Crates) (profile : Profile) (pl : Gw.DownlinkFrame)
    (acks : List Gw.DownlinkTxAckItem) (i : Nat) (E : Env → Prop) :
    (sendDownlinkFrame crates profile pl acks i).Upholds E (fun _ _ => True)
      (fun _ _ _ _ => True) (fun os _ => EchoesCached crates os) [] := by
  unfold sendDownlinkFrame
  rw [Prog.ask_bind]
  intro clock _ _ _ _
  refine ⟨trivial, trivial, ?_⟩
  intro _ _ _ _ _
  exact ⟨trivial, trivial, sendPullResp_echoes rfl rfl⟩

/-- Every datagram is acknowledged as it is owed, and every PULL_RESP has the token under which
its frame is cached, however other tasks interfere. -/
theorem acknowledgements_and_tokens (crates : Crates) (profile : Profile) (conf : Conf)
    (E : Env → Prop) :
    (∀ data remote, (receive crates profile conf data remote).Upholds E (fun _ _ => True)
      (fun _ _ _ _ => True)
      (fun os _ => AnsweredUnlessRefused E crates profile data remote os) []) ∧
    ∀ pl acks i, (sendDownlinkFrame crates profile pl acks i).Upholds E (fun _ _ => True)
      (fun _ _ _ _ => True) (fun os _ => EchoesCached crates os) [] :=
  ⟨fun data remote => receive_answers crates profile conf data remote E,
    fun pl acks i => sendDownlinkFrame_echoes crates profile pl acks i E⟩

end

end MqttForwarder.SemtechUdp
