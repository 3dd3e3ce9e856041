import MqttForwarder.SemtechUdp.System

/-!
# Requests that leave a token alone

Commands and TX_ACKs with other tokens, and all other datagrams, do not touch
the cache slot of a token and have no effect on it.  Only the receive loop may
drop the entry of the slot, when it has expired, and learn a new address of the
packet forwarder.
-/

namespace MqttForwarder.SemtechUdp

open MqttForwarder.Rust

/-- The effect concerns the downlinks with this token. -/
def Effect.about (token : UInt16) : Effect → Bool
  | .pullResp _ _ bytes _ => tokenOf bytes == token
  | .event (.ack ack) => ack.downlinkId.toUInt16 == token
  | .cached other _ => other == token
  | .looked other _ => other == token
  | .countedDownlink pl _ => tokenFor pl == token
  | _ => false

theorem Effect.about_of_aside {o : Effect} (aside : o.aside) (token : UInt16) :
    o.about token = false := by
  unfold Effect.aside at aside
  split at aside
  · rfl
  · rfl
  · rfl
  · rfl
  · rfl
  · rfl
  · exact absurd aside id

/-- Every cache entry is under the token of its frame. -/
def Keyed (s : State) : Prop :=
  ∀ token dc, s.downlinkCache token = some dc → token = tokenFor dc.frame

theorem Keyed.of_cache {s s' : State} (keyed : Keyed s)
    (same : s'.downlinkCache = s.downlinkCache) : Keyed s' :=
  fun token dc found => keyed token dc (same ▸ found)

theorem Keyed.retain {s : State} (keyed : Keyed s) (now : Nat) :
    Keyed { s with downlinkCache := State.retain now s.downlinkCache } :=
  fun token dc found => keyed token dc (Option.filter_eq_some_iff.mp found).1

theorem Keyed.set {s : State} (keyed : Keyed s) (dc : DownlinkCache) :
    Keyed { s with
      downlinkCache := Function.update s.downlinkCache (tokenFor dc.frame) (some dc) } := by
  intro token entry found
  by_cases same : token = tokenFor dc.frame
  · subst same
    simp only [Function.update_self, Option.some.injEq] at found
    rw [found]
  · simp only [Function.update_of_ne same] at found
    exact keyed token entry found

/-- What an action of thread `i` that leaves `token` alone may do. -/
structure Apart (token : UInt16) (i : Thread) (e : Env) (s s' : State) (os : List Effect) :
    Prop where
  slot : s'.downlinkCache token = s.downlinkCache token ∨
    i = .udp ∧ s'.downlinkCache token = State.retain e.now s.downlinkCache token
  addr : s'.pullAddr = s.pullAddr ∨ i = .udp ∧ ∃ addr, s'.pullAddr = some addr
  effects : ∀ o ∈ os, o.about token = false

/-- Whatever it still does after the effects `os`, the program of thread `i` leaves `token`
alone. -/
abbrev LeavesAlone (token : UInt16) (i : Thread) (os : List Effect) (p : Task Unit) : Prop :=
  p.Upholds (fun _ => True) (fun _ => Keyed) (Apart token i) (fun _ _ => True) os

def Foreign (token : UInt16) (i : Thread) (p : Task Unit) : Prop :=
  ∃ os, LeavesAlone token i os p

section

variable {token : UInt16} {i : Thread}

theorem foreign_done (result : Outcome Unit) : Foreign token i (.done result) :=
  ⟨[], trivial⟩

/-- One action of a program that leaves the token alone. -/
theorem Foreign.step {β : Type} {action : Env → State → Reply β State Effect}
    {next : β → Task Unit} (foreign : Foreign token i (.act action next)) (e : Env) {s : State}
    (keyed : Keyed s) :
    Keyed (action e s).state ∧ Apart token i e s (action e s).state (action e s).effects ∧
      Foreign token i (next (action e s).value) := by
  obtain ⟨os, upholds⟩ := foreign
  obtain ⟨keeps, apart, rest⟩ := upholds e [] s trivial keyed
  exact ⟨keeps, apart, _, rest⟩

end

/-! ## Programs that leave a token alone -/

section

variable {token : UInt16} {i : Thread} {crates : Crates} {profile : Profile} {conf : Conf}

theorem apart_of_same {e : Env} {s s' : State} {os : List Effect}
    (cache : s'.downlinkCache = s.downlinkCache) (addr : s'.pullAddr = s.pullAddr)
    (effects : ∀ o ∈ os, o.about token = false) : Apart token i e s s' os :=
  ⟨.inl (by rw [cache]), .inl addr, effects⟩

theorem sendTo_leavesAlone {datagram : Effect} (other : datagram.about token = false)
    (os : List Effect) : LeavesAlone token i os (sendTo datagram) := by
  intro e log s _ keyed
  dsimp only
  split
  · exact ⟨keyed, apart_of_same rfl rfl (by simpa using other), trivial⟩
  · exact ⟨keyed, apart_of_same rfl rfl (by simp), trivial⟩

theorem trySend_leavesAlone {message : MqttMessage}
    (other : (Effect.event message).about token = false) (os : List Effect) :
    LeavesAlone token i os (trySend message) := by
  intro e log s _ keyed
  dsimp only
  split
  · exact ⟨keyed, apart_of_same rfl rfl (by simp), trivial⟩
  · exact ⟨keyed, apart_of_same rfl rfl (by simp), trivial⟩
  · exact ⟨keyed, apart_of_same rfl rfl (by simpa using other), trivial⟩

theorem sendPullResp_leavesAlone {pl : Gw.DownlinkFrame} (other : tokenFor pl ≠ token) (k : Nat)
    (os : List Effect) : LeavesAlone token i os (sendPullResp crates profile pl k) := by
  unfold sendPullResp
  cases accepted : PullResp.fromProto profile pl k (tokenFor pl) with
  | err message => trivial
  | panic cause => trivial
  | ok resp =>
      intro e log s _ keyed
      refine ⟨keyed, apart_of_same rfl rfl (by simp), ?_⟩
      dsimp only
      cases s.pullAddr with
      | none => trivial
      | some addr =>
          have bytes : tokenOf ([protocolVersion] ++ u16ToLe resp.randomToken ++ [0x03] ++
              crates.writeJson (resp.payload.serialize crates)) = tokenFor pl := by
            rw [PullResp.tokenOf_toVec crates rfl,
              PullResp.fromProto_token accepted]
          refine sendTo_leavesAlone ?_ _
          simp only [Effect.about, bytes, beq_eq_false_iff_ne]
          exact other

theorem sendDownlinkFrame_leavesAlone {pl : Gw.DownlinkFrame} (other : tokenFor pl ≠ token)
    (acks : List Gw.DownlinkTxAckItem) (k : Nat) (os : List Effect) :
    LeavesAlone token i os (sendDownlinkFrame crates profile pl acks k) := by
  unfold sendDownlinkFrame
  intro e log s _ keyed
  refine ⟨keyed, apart_of_same rfl rfl (by simp), ?_⟩
  intro e' log' s' _ keyed'
  refine ⟨keyed'.set ⟨_, pl, acks, k⟩, ⟨.inl ?_, .inl rfl, ?_⟩, ?_⟩
  · exact Function.update_of_ne (Ne.symm other) _ _
  · simpa [Effect.about] using other
  · exact sendPullResp_leavesAlone other k _

theorem acknowledge_leavesAlone {pl : TxAck} {dc : DownlinkCache}
    (other : tokenFor dc.frame ≠ token) (os : List Effect) :
    LeavesAlone token i os (acknowledge crates profile pl dc) := by
  rcases Nat.lt_or_ge dc.index dc.ackItems.length with bound | beyond
  · rw [acknowledge_eq crates profile bound]
    split
    · intro e log s _ keyed
      refine ⟨keyed, apart_of_same rfl rfl ?_, ?_⟩
      · simpa [Effect.about] using other
      · dsimp only
        cases (Stats.countDownlink crates s.stats dc.frame (dc.ack pl)).1 with
        | err message => trivial
        | panic cause => trivial
        | ok value =>
            refine trySend_leavesAlone ?_ _
            simp only [Effect.about, DownlinkCache.ack, beq_eq_false_iff_ne]
            exact other
    · exact sendDownlinkFrame_leavesAlone other _ _ _
  · rw [acknowledge_of_le crates profile beyond]
    trivial

/-- A TX_ACK for another token leaves this one alone. -/
theorem handleTxAck_leavesAlone {data : List UInt8}
    (other : ∀ pl, TxAck.fromSlice crates data = .ok pl → pl.randomToken ≠ token) :
    LeavesAlone token .udp [] (handleTxAck crates profile data) := by
  unfold handleTxAck
  cases read : TxAck.fromSlice crates data with
  | err message => trivial
  | panic cause => trivial
  | ok pl =>
      intro e log s _ keyed
      refine ⟨keyed.retain _, ⟨.inr ⟨rfl, rfl⟩, .inl rfl, by simp⟩, ?_⟩
      intro e' log' s' _ keyed'
      refine ⟨keyed', apart_of_same rfl rfl ?_, ?_⟩
      · simpa [Effect.about] using other pl read
      · dsimp only
        cases found : s'.downlinkCache pl.randomToken with
        | none => trivial
        | some dc =>
            have token' := keyed' _ _ found
            exact acknowledge_leavesAlone (token' ▸ other pl read) _

theorem leavesAlone_of_aside {p : Task Unit} (aside : p.Guarantees (Aside crates))
    (os : List Effect) :
    LeavesAlone token .udp os p := by
  refine aside.upholds (fun e s s' os log _ action keyed => ?_) os
  refine ⟨keyed.of_cache action.cache, ⟨.inl (by rw [action.cache]), ?_, fun o member => ?_⟩⟩
  · exact action.addr.imp_right fun known => ⟨rfl, known⟩
  · exact Effect.about_of_aside (action.effects o member) token

/-- The request has nothing to do with `token`. -/
def Stray (crates : Crates) (token : UInt16) : Request → Prop
  | .command pl => tokenFor pl ≠ token
  | .datagram data _ => ∀ pl, TxAck.fromSlice crates data = .ok pl → pl.randomToken ≠ token

/-- The programs of stray requests leave the token alone. -/
theorem program_foreign {r : Request} (stray : Stray crates token r)
    (admitted : admits (fun _ => True) i r) :
    Foreign token i (program crates profile conf i r) := by
  cases i with
  | command n =>
      cases r with
      | command pl => exact ⟨[], sendDownlinkFrame_leavesAlone stray _ _ _⟩
      | datagram data remote => exact absurd admitted id
  | udp =>
      cases r with
      | command pl => exact absurd admitted id
      | datagram data remote =>
          rcases receive_cases crates profile conf data remote with ⟨_, same⟩ | ⟨_, aside⟩
          · refine ⟨[], ?_⟩
            simp only [program, same]
            exact handleTxAck_leavesAlone stray
          · exact ⟨[], leavesAlone_of_aside aside _⟩

end

end MqttForwarder.SemtechUdp
