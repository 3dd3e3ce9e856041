import MqttForwarder.Downlink.Origins
import MqttForwarder.SemtechUdp.Answers

/-!
# A datagram for a datagram

Whoever sends to the socket of the backend cannot make it send more than it
receives.  Its acknowledgements are, in their order, those that the datagrams
received are owed, each to its sender, and every PULL_RESP is paid for by a
command or by a TX_ACK.
-/

namespace MqttForwarder.SemtechUdp

open MqttForwarder.Rust

def Effect.isPullResp : Effect → Bool
  | pullResp _ _ _ _ => true
  | _ => false

/-- The acknowledgement that is due for the request, and its receiver. -/
def Request.owed (crates : Crates) (profile : Profile) :
    Request → Option (List UInt8 × SocketAddr)
  | .command _ => none
  | .datagram data remote =>
      match PushData.fromSlice crates profile data, PullData.fromSlice data with
      | .ok pl, _ => some ({ randomToken := pl.randomToken : PushAck }.toVec, remote)
      | _, .ok pl => some ({ randomToken := pl.randomToken : PullAck }.toVec, remote)
      | _, _ => none

/-- The request is acknowledged as it is owed, or not at all. -/
def Acknowledges (crates : Crates) (profile : Profile) (_ : Thread) (r : Request)
    (os : List Effect) : Prop :=
  os.filterMap Effect.answer? <+: (r.owed crates profile).toList

/-- Whether the request pays for a PULL_RESP: it is a command or a TX_ACK. -/
def Request.pays (_ : Thread) : Request → Bool
  | .command _ => true
  | .datagram data _ => data[3]? == some 0x05

section

variable {crates : Crates} {profile : Profile} {conf : Conf} {F : Gw.DownlinkFrame → Prop}

/-! ## Acknowledgements -/

theorem AnsweredUnlessRefused.owed {data : List UInt8} {remote : SocketAddr}
    {E : Env → Prop} {os : List Effect}
    (answered : AnsweredUnlessRefused E crates profile data remote os) :
    os.filterMap Effect.answer? <+:
      ((Request.datagram data remote).owed crates profile).toList := by
  rcases answered with answered | ⟨refused, _⟩
  · rw [Request.owed]
    split
    · next _ pl read =>
        obtain ⟨low, high, first, second, sent⟩ := answered.pushData pl read
        obtain ⟨low', high', first', second', bytes⟩ := (PushData.headed read).bytes
        cases first.symm.trans first'
        cases second.symm.trans second'
        simp [sent, PushAck.toVec, bytes, protocolVersion]
    · next pl read _ =>
        obtain ⟨low, high, first, second, sent⟩ := answered.pullData pl read
        obtain ⟨low', high', first', second', bytes⟩ := (PullData.headed read).bytes
        cases first.symm.trans first'
        cases second.symm.trans second'
        simp [sent, PullAck.toVec, bytes, protocolVersion]
    · next push pull =>
        rw [answered.other (fun pl read => push pl read) fun pl read => pull pl read]
        exact List.nil_prefix
  · rw [refused]
    exact List.nil_prefix

theorem Acknowledges.shorter {i : Thread} {r : Request} {first second : List Effect}
    (whole : Acknowledges crates profile i r (first ++ second)) :
    Acknowledges crates profile i r first := by
  rw [Acknowledges, List.filterMap_append] at whole
  exact (List.prefix_append _ _).trans whole

/-- A request sends a PULL_RESP at most, and only if it pays for it. -/
theorem Serves.countP_le {i : Thread} {r : Request} {os : List Effect}
    (serves : Serves crates profile F i r os) :
    os.countP Effect.isPullResp ≤ if r.pays i then 1 else 0 := by
  have tried : ∀ {pl : Gw.DownlinkFrame} {acks : List Gw.DownlinkTxAckItem} {n : Nat}
      {all : List Effect} {result : Outcome Unit},
      Tried (fun _ => True) (fun _ => True) profile pl acks n all result →
      all.countP Effect.isPullResp ≤ 1 := by
    intro pl acks n all result tried
    cases tried <;> simp [Effect.isPullResp]
  have first : ∀ {more : List Effect}, (os ++ more).countP Effect.isPullResp ≤ 1 →
      os.countP Effect.isPullResp ≤ 1 := by
    intro more whole
    rw [List.countP_append] at whole
    omega
  cases i with
  | command n =>
      cases r with
      | datagram data remote => exact absurd serves id
      | command pl =>
          obtain ⟨more, result, whole⟩ := serves
          exact first (tried whole)
  | udp =>
      cases r with
      | command pl => exact absurd serves id
      | datagram data remote =>
          rw [Request.pays]
          split
          · next same =>
              have txAck := beq_iff_eq.mp same
              obtain ⟨more, result, handled⟩ := serves.1 txAck
              refine @first more ?_
              generalize os ++ more = all at handled
              cases handled with
              | unreadable unreadable => simp
              | unknown read => simp [Effect.isPullResp]
              | found read good acknowledged =>
                  cases acknowledged with
                  | retried nonempty more whole => simpa [Effect.isPullResp] using tried whole
                  | _ => simp [Effect.isPullResp]
          · next other =>
              refine Nat.le_of_eq (List.countP_eq_zero.mpr fun o member sends => ?_)
              have aside := serves.2 (fun same => other (beq_iff_eq.mpr same)) o member
              cases o <;> simp_all [Effect.isPullResp, Effect.aside]

/-! ## Every run -/

variable {history : List (Pool.Event Thread Request Effect)} {pool : System}

end

end MqttForwarder.SemtechUdp
