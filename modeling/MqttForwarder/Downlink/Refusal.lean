import MqttForwarder.Downlink.Safety

/-!
# Refusals and what the network server learns of them

A TX_ACK that finds a live entry should lead to one output, the PULL_RESP for
the next item or the ack of the downlink.  When the next item cannot be
converted, or the transmission of the item cannot be counted, it leads to none.
-/

namespace MqttForwarder.SemtechUdp

open MqttForwarder.Rust

/-! ## Outputs -/

/-- A PULL_RESP, or a message on the publish channel. -/
def Effect.isOutput : Effect → Bool
  | .pullResp _ _ _ _ => true
  | .event _ => true
  | _ => false

/-- The only output is a PULL_RESP for a later item of the frame, or an ack of the frame. -/
def AnsweredOnce (dc : DownlinkCache) (os : List Effect) : Prop :=
  (∃ j bytes addr, os.filter Effect.isOutput = [.pullResp dc.frame j bytes addr] ∧
    dc.index < j ∧ j < dc.frame.items.length) ∨
  ∃ ack, os.filter Effect.isOutput = [.event (.ack ack)] ∧ ack.downlinkId = dc.frame.downlinkId

/-- The socket sends and the publish channel has room. -/
def Works (e : Env) : Prop := e.socketSends = true ∧ e.channel = .room

section

variable (crates : Crates) (profile : Profile)

/-- The item that was sent names its transmit parameters and its modulation; after a refusal
there is no other item, or the next one can be converted. -/
def DownlinkCache.Answerable (dc : DownlinkCache) (status : Gw.TxAckStatus) : Prop :=
  if status = .ok then ∃ keys, Stats.downlinkKeys crates dc.frame dc.index = .ok keys
  else dc.index + 1 = dc.frame.items.length ∨
    ∃ resp, PullResp.fromProto profile dc.frame (dc.index + 1) (tokenFor dc.frame) = .ok resp

end

section

variable {E : Env → Prop} {A : Option SocketAddr → Prop} {crates : Crates} {profile : Profile}
  {conf : Conf} {F : Gw.DownlinkFrame → Prop}

/-- A final answer can be counted if and only if the transmission it reports, if any, can. -/
theorem DownlinkCache.Good.counts_iff {pl : TxAck} {dc : DownlinkCache}
    (good : dc.Good F pl.randomToken) (nonempty : dc.frame.items ≠ [])
    (final : dc.Final pl.toProtoTxAckStatus) :
    (Stats.countDownlink crates {} dc.frame (dc.ack pl)).1 = .ok () ↔
      (pl.toProtoTxAckStatus = .ok →
        ∃ keys, Stats.downlinkKeys crates dc.frame dc.index = .ok keys) := by
  have bound := good.bound nonempty
  by_cases sent : pl.toProtoTxAckStatus = .ok
  · have taken : (dc.ackItems.take dc.index).length = dc.index := by
      rw [List.length_take]
      exact Nat.min_eq_left (Nat.le_of_lt bound)
    have items : (dc.ack pl).items = dc.ackItems.take dc.index ++
        .ofStatus .ok :: dc.ackItems.drop (dc.index + 1) := by
      rw [DownlinkCache.ack, dc.answered_eq bound, sent]
    rw [Stats.countDownlink_sent crates {} dc.frame items good.before (by simp) good.ignored
      (by rw [taken]; exact good.index nonempty), taken]
    cases keys : Stats.downlinkKeys crates dc.frame dc.index with
    | ok value => simp
    | err message => simp [sent]
    | panic cause => simp [sent]
  · have refused := good.answered_refusal bound sent pl.toProtoTxAckStatus_ne_ignored final
    rw [Stats.countDownlink_refused crates {} dc.frame refused]
    simp [sent]

theorem Tried.answeredOnce_iff {dc : DownlinkCache} {acks : List Gw.DownlinkTxAckItem}
    {os : List Effect} {result : Outcome Unit}
    (tried : Tried Works (· ≠ none) profile dc.frame acks (dc.index + 1) os result) :
    AnsweredOnce dc os ↔
      ∃ resp, PullResp.fromProto profile dc.frame (dc.index + 1) (tokenFor dc.frame) =
        .ok resp := by
  cases tried with
  | refused refused => simp [AnsweredOnce, Effect.isOutput, refused]
  | panicked panicked => simp [AnsweredOnce, Effect.isOutput, panicked]
  | unaddressed unknown => exact absurd rfl unknown
  | unsent allowed fails => exact absurd (fails.symm.trans allowed.1) (by decide)
  | @sent expire resp bytes addr accepted =>
      refine iff_of_true (.inl ⟨dc.index + 1, bytes, addr, ?_, Nat.lt_add_one _, ?_⟩)
        ⟨resp, accepted⟩
      · simp [Effect.isOutput]
      · exact PullResp.fromProto_lt accepted

/-- With a working environment, the handling of an answer has one output for the frame
exactly when the answer can be answered. -/
theorem Acknowledged.answeredOnce_iff {pl : TxAck} {dc : DownlinkCache} {os : List Effect}
    {result : Outcome Unit} (good : dc.Good F pl.randomToken) (nonempty : dc.frame.items ≠ [])
    (acknowledged : Acknowledged Works (· ≠ none) crates profile pl dc os result) :
    AnsweredOnce dc os ↔ dc.Answerable crates profile pl.toProtoTxAckStatus := by
  cases acknowledged with
  | empty empty => exact absurd empty nonempty
  | unpublished _ allowed blocked => exact absurd allowed.2 blocked
  | @uncounted message _ final fails =>
      have uncounted : (Stats.countDownlink crates {} dc.frame (dc.ack pl)).1 ≠ .ok () := by
        rw [fails]
        exact fun impossible => by cases impossible
      rw [ne_eq, good.counts_iff nonempty final, Classical.not_imp] at uncounted
      refine iff_of_false (by simp [AnsweredOnce, Effect.isOutput]) ?_
      rw [DownlinkCache.Answerable, if_pos uncounted.1]
      exact uncounted.2
  | published _ final counts =>
      refine iff_of_true (.inr ⟨dc.ack pl, by simp [Effect.isOutput], rfl⟩) ?_
      unfold DownlinkCache.Answerable
      split
      · next sent => exact (good.counts_iff nonempty final).mp counts sent
      · next unsent =>
          have last := final.resolve_left unsent
          have bound := good.index nonempty
          rw [good.length] at last
          exact .inl (by omega)
  | retried _ more tried =>
      have unsent : pl.toProtoTxAckStatus ≠ .ok := fun sent => more (.inl sent)
      have left : dc.index + 1 ≠ dc.frame.items.length := by
        intro last
        exact more (.inr (by rw [good.length]; exact Nat.le_of_eq last.symm))
      rw [tried.answeredOnce_iff, DownlinkCache.Answerable, if_neg unsent, or_iff_right left]

/-- From a reachable pool that knows the address of the packet forwarder on, a working
environment bounds how the receive loop ends its requests. -/
theorem sound_of_working {before pool : System}
    (reachable : Reachable crates profile conf F before) (known : before.state.pullAddr ≠ none)
    {request : Request} (admitted : admits F .udp request)
    (run : Pool.Run (program crates profile conf) (admits F) Works
      (before.start .udp request (program crates profile conf .udp request)) pool) :
    Pool.Sound Works (Holds F (· ≠ none)) (fun _ => AddrKept) (fun i r os result =>
      i = .udp → Ends Works (· ≠ none) crates profile F i r os result) pool := by
  have serves : ∀ i r, admits F i r → (program crates profile conf i r).Upholds Works
      (Holds F (· ≠ none)) AddrKept (Ends Works (· ≠ none) crates profile F i r) [] :=
    program_upholds fun a b known kept => kept known
  have sound := reachable_sound reachable
  have holds : Holds F (· ≠ none) before.log before.state :=
    ⟨sound.holds.cache, sound.holds.acks, known⟩
  have restricted : Pool.Sound Works (Holds F (· ≠ none)) (fun _ => AddrKept)
      (Ends (fun _ => True) (fun _ => True) crates profile F) before :=
    sound.restrict holds (fun _ _ => trivial)
    (fun log s stronger => ⟨stronger.cache, stronger.acks, trivial⟩)
    (fun _ e s s' os log stronger kept addr => ⟨kept.cache, kept.acks, addr stronger.addr⟩)
  refine (restricted.restart .udp (fun j _ _ _ other _ udp => absurd udp other) ?_).run ?_ run
  · exact (serves .udp request admitted).mono fun os result ends _ => ends
  · intro i r admits
    exact (serves i r admits).mono fun os result ends _ => ends

/-- From any reachable pool that knows the address of the packet forwarder, in a run with a
working socket and room in the publish channel: the handling of a TX_ACK that found a live
entry of a frame with items has exactly one output for that frame if and only if the entry is
answerable. -/
theorem handleTxAck_answeredOnce_iff {before pool : System}
    (reachable : Reachable crates profile conf F before) (known : before.state.pullAddr ≠ none)
    {request : Request}
    (run : Pool.Run (program crates profile conf) (admits F) Works
      (before.start .udp request (program crates profile conf .udp request)) pool)
    (admitted : admits F .udp request) {data : List UInt8} {remote : SocketAddr}
    (job : pool.job .udp = some (.datagram data remote)) (txAck : data[3]? = some 0x05)
    {result : Outcome Unit} (ended : pool.threads .udp = .done result) {pl : TxAck}
    (read : TxAck.fromSlice crates data = .ok pl) {dc : DownlinkCache}
    (live : .looked pl.randomToken (some dc) ∈ pool.trail .udp)
    (nonempty : dc.frame.items ≠ []) :
    AnsweredOnce dc (pool.trail .udp) ↔ dc.Answerable crates profile pl.toProtoTxAckStatus := by
  have handled := (sound_of_working reachable known admitted run).threads .udp _ job
  rw [ended] at handled
  have handled := handled rfl txAck
  generalize pool.trail .udp = os at handled live
  cases handled with
  | unreadable unreadable => simp at live
  | unknown read' => simp at live
  | @found pl' entry rest _ read' good acknowledged =>
      have samePl : pl' = pl := Outcome.ok.inj (read'.symm.trans read)
      subst samePl
      have sameEntry : dc = entry := by
        rcases List.mem_cons.mp live with now | later
        · simp only [Effect.looked.injEq, Option.some.injEq] at now
          exact now.2
        · exact absurd later (acknowledged.not_looked _ _)
      subst sameEntry
      have filtered : AnsweredOnce dc (.looked pl'.randomToken (some dc) :: rest) ↔
          AnsweredOnce dc rest := by
        simp [AnsweredOnce, Effect.isOutput]
      rw [filtered]
      exact acknowledged.answeredOnce_iff good nonempty

end

/-! ## A next item that cannot be converted -/

/-- A frame whose second item has no transmit parameters. -/
def halfFrame : Gw.DownlinkFrame := ⟨1, [loraItem, ⟨[1], none⟩], ""⟩

/-- The pool in which the first item of the frame has been sent. -/
def firstItemSent : System :=
  let known := serve tooLateCrates .release {} (Pool.idle (State.init {})) .udp
    (.datagram pullDataDatagram forwarderAddr) 3
  serve tooLateCrates .release {} known (.command 0) (.command halfFrame) 4

/-- The pool in which the refusal of the first item has been handled. -/
def firstItemRefused : System :=
  serve tooLateCrates .release {} firstItemSent .udp (.datagram tooLateDatagram forwarderAddr) 4

theorem firstItemSent_reachable :
    Reachable tooLateCrates .release {} (fun _ => True) firstItemSent := by
  have known := run_serve trivial (Reachable.init : Reachable tooLateCrates .release {}
    (fun _ => True) _) .udp (.datagram pullDataDatagram forwarderAddr) 3 trivial trivial
  exact run_serve trivial known (.command 0) (.command halfFrame) 4 trivial trivial

/-- The entry that the refusal finds. -/
def firstItemEntry : DownlinkCache where
  expire := Env.plain.now + lifetime
  frame := halfFrame
  ackItems := [.ofStatus .ignored, .ofStatus .ignored]
  index := 0

def tooLateAck : TxAck where
  randomToken := 1
  gatewayId := [0, 0, 0, 0, 0, 0, 0, 0]
  payload := some ⟨⟨"TOO_LATE"⟩⟩

theorem firstItemRefused_run :
    Pool.Run (program tooLateCrates .release {}) (admits fun _ => True) Works
      (firstItemSent.start .udp (.datagram tooLateDatagram forwarderAddr)
        (program tooLateCrates .release {} .udp (.datagram tooLateDatagram forwarderAddr)))
      firstItemRefused :=
  run_serve_of_start ⟨rfl, rfl⟩ firstItemSent .udp _ 4

theorem firstItemRefused_trail : firstItemRefused.trail .udp =
    [.looked 1 (some firstItemEntry),
      .cached 1 ⟨Env.plain.now + lifetime, halfFrame,
        [.ofStatus .tooLate, .ofStatus .ignored], 1⟩] := by
  decide

theorem firstItemRefused_looked :
    .looked tooLateAck.randomToken (some firstItemEntry) ∈ firstItemRefused.trail .udp := by
  rw [firstItemRefused_trail]
  exact List.mem_cons_self

/-- The refusal of the first item leads to no output when the second item cannot be
converted. -/
theorem handleTxAck_swallows_refusal :
    ¬ ∀ (crates : Crates) (profile : Profile) (conf : Conf) (before pool : System)
        (request : Request) (data : List UInt8) (remote : SocketAddr) (result : Outcome Unit)
        (pl : TxAck) (dc : DownlinkCache) (resp : PullResp),
      Reachable crates profile conf (fun _ => True) before → before.state.pullAddr ≠ none →
      Pool.Run (program crates profile conf) (admits fun _ => True) Works
        (before.start .udp request (program crates profile conf .udp request)) pool →
      admits (fun _ => True) .udp request →
      pool.job .udp = some (.datagram data remote) → data[3]? = some 0x05 →
      pool.threads .udp = .done result → TxAck.fromSlice crates data = .ok pl →
      .looked pl.randomToken (some dc) ∈ pool.trail .udp → dc.frame.items ≠ [] →
      PullResp.fromProto profile dc.frame 0 (tokenFor dc.frame) = .ok resp →
      AnsweredOnce dc (pool.trail .udp) := by
  intro answered
  have once := answered tooLateCrates .release {} firstItemSent firstItemRefused _ tooLateDatagram
    forwarderAddr (.err "tx_info is missing") tooLateAck firstItemEntry _ firstItemSent_reachable
    (by decide) firstItemRefused_run trivial rfl rfl rfl rfl firstItemRefused_looked (by decide) rfl
  rw [firstItemRefused_trail] at once
  simp [AnsweredOnce, Effect.isOutput] at once

/-- That refusal is answered once if and only if the entry is answerable; it is neither. -/
theorem handleTxAck_answeredOnce_iff_half_frame :
    AnsweredOnce firstItemEntry (firstItemRefused.trail .udp) ↔
      firstItemEntry.Answerable tooLateCrates .release tooLateAck.toProtoTxAckStatus := by
  have job : firstItemRefused.job .udp = some (.datagram tooLateDatagram forwarderAddr) := rfl
  have read : TxAck.fromSlice tooLateCrates tooLateDatagram = .ok tooLateAck := rfl
  exact handleTxAck_answeredOnce_iff firstItemSent_reachable (by decide) firstItemRefused_run
    trivial job rfl rfl read firstItemRefused_looked (by decide)

end MqttForwarder.SemtechUdp
