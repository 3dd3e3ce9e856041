import MqttForwarder.Downlink.CacheInvariant

/-!
# How the handlers end

The effects and the result of a downlink command and of a TX_ACK, under any
interference that keeps the invariant of the backend.  Each way in which the
handler can end names its reason, so what cannot happen in a given
environment is a matter of the reasons.
-/

namespace MqttForwarder.SemtechUdp

open MqttForwarder.Rust

/-- The action does not forget the address of the packet forwarder. -/
def AddrKept (_ : Env) (s s' : State) (_ : List Effect) : Prop :=
  s.pullAddr ≠ none → s'.pullAddr ≠ none

section

variable (E : Env → Prop) (A : Option SocketAddr → Prop) (crates : Crates) (profile : Profile)

/-- How an attempt to send item `i` of `pl` ends, after its entry has been cached. -/
inductive Tried (pl : Gw.DownlinkFrame) (acks : List Gw.DownlinkTxAckItem) (i : Nat) :
    List Effect → Outcome Unit → Prop where
  | refused {expire : Nat} {message : String}
      (refused : PullResp.fromProto profile pl i (tokenFor pl) = .err message) :
      Tried pl acks i [.cached (tokenFor pl) ⟨expire, pl, acks, i⟩] (.err message)
  | panicked {expire : Nat} {cause : Panic}
      (panicked : PullResp.fromProto profile pl i (tokenFor pl) = .panic cause) :
      Tried pl acks i [.cached (tokenFor pl) ⟨expire, pl, acks, i⟩] (.panic cause)
  | unaddressed {expire : Nat} {message : String} (unknown : A none) :
      Tried pl acks i [.cached (tokenFor pl) ⟨expire, pl, acks, i⟩] (.err message)
  | unsent {expire : Nat} {message : String} {e : Env} (allowed : E e)
      (fails : e.socketSends = false) :
      Tried pl acks i [.cached (tokenFor pl) ⟨expire, pl, acks, i⟩] (.err message)
  | sent {expire : Nat} {resp : PullResp} {bytes : List UInt8} {addr : SocketAddr}
      (accepted : PullResp.fromProto profile pl i (tokenFor pl) = .ok resp) :
      Tried pl acks i
        [.cached (tokenFor pl) ⟨expire, pl, acks, i⟩, .pullResp pl i bytes addr] (.ok ())

/-- How the handling of the TX_ACK `pl` ends once it has found `dc`. -/
inductive Acknowledged (pl : TxAck) (dc : DownlinkCache) :
    List Effect → Outcome Unit → Prop where
  | empty (empty : dc.frame.items = []) :
      Acknowledged pl dc [] (.panic .indexOutOfBounds)
  | uncounted {message : String} (nonempty : dc.frame.items ≠ [])
      (final : dc.Final pl.toProtoTxAckStatus)
      (fails : (Stats.countDownlink crates {} dc.frame (dc.ack pl)).1 = .err message) :
      Acknowledged pl dc [.countedDownlink dc.frame (dc.ack pl)] (.err message)
  | unpublished {message : String} {e : Env} (nonempty : dc.frame.items ≠ []) (allowed : E e)
      (blocked : e.channel ≠ .room) :
      Acknowledged pl dc [.countedDownlink dc.frame (dc.ack pl)] (.err message)
  | published (nonempty : dc.frame.items ≠ []) (final : dc.Final pl.toProtoTxAckStatus)
      (counts : (Stats.countDownlink crates {} dc.frame (dc.ack pl)).1 = .ok ()) :
      Acknowledged pl dc
        [.countedDownlink dc.frame (dc.ack pl), .event (.ack (dc.ack pl))] (.ok ())
  | retried {os : List Effect} {result : Outcome Unit} (nonempty : dc.frame.items ≠ [])
      (more : ¬ dc.Final pl.toProtoTxAckStatus)
      (tried : Tried E A profile dc.frame (dc.answered pl.toProtoTxAckStatus) (dc.index + 1)
        os result) :
      Acknowledged pl dc os result

/-- How the handling of a datagram as a TX_ACK ends. -/
inductive Handled (F : Gw.DownlinkFrame → Prop) (data : List UInt8) :
    List Effect → Outcome Unit → Prop where
  | unreadable {message : String} (unreadable : TxAck.fromSlice crates data = .err message) :
      Handled F data [] (.err message)
  | unknown {pl : TxAck} {message : String} (read : TxAck.fromSlice crates data = .ok pl) :
      Handled F data [.looked pl.randomToken none] (.err message)
  | found {pl : TxAck} {dc : DownlinkCache} {os : List Effect} {result : Outcome Unit}
      (read : TxAck.fromSlice crates data = .ok pl) (good : dc.Good F pl.randomToken)
      (acknowledged : Acknowledged E A crates profile pl dc os result) :
      Handled F data (.looked pl.randomToken (some dc) :: os) result

end

section

variable {E : Env → Prop} {F : Gw.DownlinkFrame → Prop} {A : Option SocketAddr → Prop}
  {crates : Crates} {profile : Profile}

theorem sendPullResp_upholds (pl : Gw.DownlinkFrame) (acks : List Gw.DownlinkTxAckItem)
    (i : Nat) (expire : Nat) :
    (sendPullResp crates profile pl i).Upholds E (Holds F A) AddrKept
      (Tried E A profile pl acks i) [.cached (tokenFor pl) ⟨expire, pl, acks, i⟩] := by
  unfold sendPullResp
  cases accepted : PullResp.fromProto profile pl i (tokenFor pl) with
  | err message => exact .refused accepted
  | panic cause => exact .panicked accepted
  | ok resp =>
      simp only [Prog.lift_eq, Prog.done_ok_bind, State.getPullAddr, Prog.attempt_bind]
      intro e log s _ holds
      refine ⟨holds.frame rfl holds.addr (by simp), id, ?_⟩
      dsimp only
      cases known : s.pullAddr with
      | none => exact Tried.unaddressed (known ▸ holds.addr)
      | some addr =>
          intro e' log' s' allowed holds'
          dsimp only
          cases sends : e'.socketSends with
          | false => exact ⟨holds'.frame rfl holds'.addr (by simp), id, .unsent allowed sends⟩
          | true => exact ⟨holds'.frame rfl holds'.addr (by simp), id, .sent accepted⟩

/-- Sending an item of a frame keeps the invariant if its entry is good. -/
theorem sendDownlinkFrame_upholds {pl : Gw.DownlinkFrame} {acks : List Gw.DownlinkTxAckItem}
    {i : Nat} (good : ∀ expire, DownlinkCache.Good F (tokenFor pl) ⟨expire, pl, acks, i⟩) :
    (sendDownlinkFrame crates profile pl acks i).Upholds E (Holds F A) AddrKept
      (Tried E A profile pl acks i) [] := by
  unfold sendDownlinkFrame
  rw [Prog.ask_bind]
  intro e log s _ holds
  refine ⟨holds.frame rfl holds.addr (by simp), id, ?_⟩
  intro e' log' s' _ holds'
  exact ⟨holds'.set (good _), id, sendPullResp_upholds pl acks i _⟩

theorem DownlinkCache.Good.honest {pl : TxAck} {dc : DownlinkCache}
    (good : dc.Good F pl.randomToken) (nonempty : dc.frame.items ≠ [])
    (final : dc.Final pl.toProtoTxAckStatus) : Honest F (dc.ack pl) :=
  ⟨dc.frame, good.commanded, rfl,
    by rw [DownlinkCache.ack, DownlinkCache.answered, List.length_set, good.length],
    good.ackShape (good.bound nonempty) pl.toProtoTxAckStatus_ne_ignored final⟩

/-- Handling an answer for a good entry keeps the invariant. -/
theorem acknowledge_upholds {pl : TxAck} {dc : DownlinkCache}
    (good : dc.Good F pl.randomToken) :
    (acknowledge crates profile pl dc).Upholds E (Holds F A) AddrKept
      (Acknowledged E A crates profile pl dc) [] := by
  by_cases empty : dc.frame.items = []
  · have beyond : dc.ackItems.length ≤ dc.index := by
      rw [good.length, empty]
      exact Nat.zero_le _
    rw [acknowledge_of_le crates profile beyond]
    exact .empty empty
  · rw [acknowledge_eq crates profile (good.bound empty)]
    by_cases final : dc.Final pl.toProtoTxAckStatus
    · rw [if_pos final]
      intro e log s _ holds
      refine ⟨holds.frame rfl holds.addr (by simp), id, ?_⟩
      have same := Stats.countDownlink_fst crates s.stats {} dc.frame (dc.ack pl)
      have calm := Stats.countDownlink_calm crates s.stats dc.frame (dc.ack pl)
      dsimp only
      cases counted : (Stats.countDownlink crates s.stats dc.frame (dc.ack pl)).1 with
      | err message => exact .uncounted empty final (same ▸ counted)
      | panic cause => exact absurd counted (calm cause)
      | ok value =>
          intro e' log' s' allowed holds'
          dsimp only
          cases channel : e'.channel with
          | unset =>
              exact ⟨holds'.frame rfl holds'.addr (by simp), id,
                .unpublished empty allowed (by simp [channel])⟩
          | full =>
              exact ⟨holds'.frame rfl holds'.addr (by simp), id,
                .unpublished empty allowed (by simp [channel])⟩
          | room =>
              exact ⟨holds'.publish (good.honest empty final), id,
                .published empty final (same ▸ counted)⟩
    · rw [if_neg final]
      have unsent : pl.toProtoTxAckStatus ≠ .ok := fun sent => final (.inl sent)
      have more : dc.index + 1 < dc.ackItems.length := by
        by_contra last
        exact final (.inr (Nat.not_lt.mp last))
      refine (sendDownlinkFrame_upholds fun expire =>
        good.next unsent pl.toProtoTxAckStatus_ne_ignored more expire).mono ?_
      exact fun os result tried => .retried empty final tried

/-- Handling any datagram as a TX_ACK keeps the invariant. -/
theorem handleTxAck_upholds (data : List UInt8) :
    (handleTxAck crates profile data).Upholds E (Holds F A) AddrKept
      (Handled E A crates profile F data) [] := by
  unfold handleTxAck
  cases read : TxAck.fromSlice crates data with
  | err message => exact .unreadable read
  | panic cause => exact absurd read (TxAck.fromSlice_calm crates data cause)
  | ok pl =>
      simp only [Prog.lift_eq, Prog.done_ok_bind]
      intro e log s _ holds
      refine ⟨?_, id, ?_⟩
      · simpa using holds.clean e.now
      · intro e' log' s' _ holds'
        refine ⟨holds'.frame rfl holds'.addr (by simp), id, ?_⟩
        dsimp only
        cases found : s'.downlinkCache pl.randomToken with
        | none => exact .unknown read
        | some dc =>
            have good := holds'.cache _ _ found
            have upholds : (acknowledge crates profile pl dc).Upholds E (Holds F A) AddrKept
                (Acknowledged E A crates profile pl dc) [] := acknowledge_upholds good
            refine (upholds.after [.looked pl.randomToken (some dc)]).mono fun os result => ?_
            rintro ⟨tail, rfl, acknowledged⟩
            exact .found read good acknowledged

/-- Handling a downlink command keeps the invariant. -/
theorem backend_sendDownlinkFrame_upholds {pl : Gw.DownlinkFrame} (commanded : F pl) :
    (Backend.sendDownlinkFrame crates profile pl).Upholds E (Holds F A) AddrKept
      (Tried E A profile pl (pl.items.map fun _ => .ofStatus .ignored) 0) [] :=
  sendDownlinkFrame_upholds fun expire => DownlinkCache.good_first commanded expire

end

end MqttForwarder.SemtechUdp
