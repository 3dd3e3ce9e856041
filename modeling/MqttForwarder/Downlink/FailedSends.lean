import MqttForwarder.Downlink.Acceptance
import MqttForwarder.SemtechUdp.Backend

/-!
# Downlinks that are never sent

`send_downlink_frame` caches the frame before it knows whether a PULL_RESP can
be made of its item and where that would go.  If it then fails, the new entry
stays, and what was in flight under the token is forgotten.
-/

namespace MqttForwarder.SemtechUdp

open MqttForwarder.Rust

/-- The entry that is cached at the time. -/
def entryFor (now : Nat) (pl : Gw.DownlinkFrame) (acks : List Gw.DownlinkTxAckItem) (i : Nat) :
    DownlinkCache where
  expire := now + lifetime
  frame := pl
  ackItems := acks
  index := i

/-- The state with an entry under the token. -/
def State.withEntry (s : State) (token : UInt16) (dc : DownlinkCache) : State :=
  { s with downlinkCache := Function.update s.downlinkCache token (some dc) }

/-- The item is refused, or its PULL_RESP would have no address. -/
def Unsendable (profile : Profile) (s : State) (pl : Gw.DownlinkFrame) (i : Nat) : Prop :=
  (∃ message, PullResp.fromProto profile pl i (tokenFor pl) = .err message) ∨
    (∃ resp, PullResp.fromProto profile pl i (tokenFor pl) = .ok resp) ∧ s.pullAddr = none

/-- Every run of the call at the time ends with the cache that it began with. -/
def KeepsCache (crates : Crates) (profile : Profile) (now : Nat) (s : State)
    (pl : Gw.DownlinkFrame) (acks : List Gw.DownlinkTxAckItem) (i : Nat) : Prop :=
  ∀ os s' r, (sendDownlinkFrame crates profile pl acks i).Exec (fun e => e.now = now) s os s' r →
    s'.downlinkCache = s.downlinkCache

section

variable {crates : Crates} {profile : Profile} {E : Env → Prop} {now : Nat} {s s' : State}
  {pl : Gw.DownlinkFrame} {acks : List Gw.DownlinkTxAckItem} {i : Nat} {os : List Effect}
  {r : Outcome Unit}

/-- After the entry has been cached, an item that cannot be sent changes nothing more. -/
theorem sendPullResp_unsendable (unsendable : Unsendable profile s pl i)
    (run : (sendPullResp crates profile pl i).Exec E s os s' r) :
    os = [] ∧ s' = s ∧ ∃ message, r = .err message := by
  rcases unsendable with ⟨message, refused⟩ | ⟨⟨resp, accepted⟩, unknown⟩
  · rw [sendPullResp, refused] at run
    obtain ⟨rfl, rfl, rfl⟩ := run
    exact ⟨rfl, rfl, message, rfl⟩
  · rw [sendPullResp, accepted] at run
    obtain ⟨e, _, rest, rfl, run⟩ := run
    simp only [unknown, Outcome.okOr_none] at run
    obtain ⟨rfl, rfl, rfl⟩ := run
    exact ⟨rfl, rfl, _, rfl⟩

/-- A call for an item that cannot be sent caches the entry and fails. -/
theorem sendDownlinkFrame_unsendable (unsendable : Unsendable profile s pl i)
    (run : (sendDownlinkFrame crates profile pl acks i).Exec (fun e => e.now = now) s os s' r) :
    os = [.cached (tokenFor pl) (entryFor now pl acks i)] ∧
      s' = s.withEntry (tokenFor pl) (entryFor now pl acks i) ∧ ∃ message, r = .err message := by
  obtain ⟨clock, rfl, rest, rfl, run⟩ := run
  obtain ⟨_, _, rest, rfl, run⟩ := run
  obtain ⟨rfl, rfl, failed⟩ := sendPullResp_unsendable
    (s := s.withEntry (tokenFor pl) (entryFor clock.now pl acks i)) unsendable run
  exact ⟨rfl, rfl, failed⟩

/-- A call for an item that cannot be sent keeps the cache exactly if the very entry that it
caches was there before. -/
theorem sendDownlinkFrame_keepsCache_iff (unsendable : Unsendable profile s pl i)
    (crates : Crates) (now : Nat) (acks : List Gw.DownlinkTxAckItem) :
    KeepsCache crates profile now s pl acks i ↔
      s.downlinkCache (tokenFor pl) = some (entryFor now pl acks i) := by
  constructor
  · intro keeps
    obtain ⟨os, s', r, run⟩ := Prog.exec_exists (E := fun e : Env => e.now = now)
      ⟨{ Env.plain with now }, rfl⟩ (sendDownlinkFrame crates profile pl acks i) s
    have kept := keeps os s' r run
    obtain ⟨_, rfl, _⟩ := sendDownlinkFrame_unsendable unsendable run
    exact (Function.update_eq_self_iff.mp kept).symm
  · intro already os s' r run
    obtain ⟨_, rfl, _⟩ := sendDownlinkFrame_unsendable unsendable run
    exact Function.update_eq_self_iff.mpr already.symm

end

/-! ## A frame without items -/

/-- A frame of another downlink with the same token. -/
def emptyFrame : Gw.DownlinkFrame := ⟨65537, [], "0000000000000001"⟩

/-- The first downlink is in flight. -/
def inFlight : State :=
  { State.init {} with pullAddr := some ⟨[127, 0, 0, 1], 1700⟩ }.withEntry 1
    (entryFor 0 (delayedFrame [0, 0, 0, 0]) [.ofStatus .ignored] 0)

theorem emptyFrame_unsendable : Unsendable .release inFlight emptyFrame 0 :=
  .inl ⟨_, rfl⟩

theorem sendDownlinkFrame_keepsCache_iff_empty :
    KeepsCache .plain .release 0 inFlight emptyFrame [] 0 ↔
      inFlight.downlinkCache (tokenFor emptyFrame) = some (entryFor 0 emptyFrame [] 0) :=
  sendDownlinkFrame_keepsCache_iff emptyFrame_unsendable .plain 0 []

/-- The frame is refused, but the downlink in flight has lost its entry. -/
theorem refused_frame_replaces_entry :
    ¬ ∀ (crates : Crates) (profile : Profile) (now : Nat) (s : State) (pl : Gw.DownlinkFrame)
      (acks : List Gw.DownlinkTxAckItem) (i : Nat), Unsendable profile s pl i →
      KeepsCache crates profile now s pl acks i := by
  intro harmless
  obtain ⟨os, s', r, run⟩ := Prog.exec_exists (E := fun e : Env => e.now = 0)
    ⟨.plain, rfl⟩ (sendDownlinkFrame .plain .release emptyFrame [] 0) inFlight
  have kept := harmless .plain .release 0 inFlight emptyFrame [] 0 emptyFrame_unsendable os s' r run
  obtain ⟨_, rfl, _⟩ := sendDownlinkFrame_unsendable emptyFrame_unsendable run
  have entry := congrFun kept 1
  exact absurd entry (by decide)

end MqttForwarder.SemtechUdp
