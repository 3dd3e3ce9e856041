import MqttForwarder.Downlink.Network

/-!
# The course of one downlink

An abstract machine for one downlink frame: which action on it comes next, what
the cache holds under its token, what has been answered and what has been seen
from outside.  Nothing else of the forwarder is part of it.  The machine says
what the handlers are for: items are tried one after the other until one is
sent, and then the answers to all of them are published.
-/

namespace MqttForwarder.SemtechUdp

open MqttForwarder.Rust

/-! ## Entries, acks and datagrams of a frame -/

/-- The ack items after the first items have been answered with `statuses`. -/
def acksOf (f : Gw.DownlinkFrame) (statuses : List Gw.TxAckStatus) :
    List Gw.DownlinkTxAckItem :=
  statuses.map Gw.DownlinkTxAckItem.ofStatus ++
    List.replicate (f.items.length - statuses.length) (.ofStatus .ignored)

/-- The cache entry after the first items have been refused. -/
def entryOf (f : Gw.DownlinkFrame) (refusals : List Gw.TxAckStatus) (expire : Nat) :
    DownlinkCache where
  expire
  frame := f
  ackItems := acksOf f refusals
  index := refusals.length

/-- The ack that the TX_ACK `pl` leads to after some refusals. -/
def ackOf (f : Gw.DownlinkFrame) (refusals : List Gw.TxAckStatus) (pl : TxAck) :
    Gw.DownlinkTxAck where
  gatewayId := hexEncode pl.gatewayId
  downlinkId := f.downlinkId
  items := acksOf f (refusals ++ [pl.toProtoTxAckStatus])

theorem acksOf_nil (f : Gw.DownlinkFrame) :
    acksOf f [] = f.items.map fun _ => Gw.DownlinkTxAckItem.ofStatus .ignored := by
  simp [acksOf, List.map_const']

theorem acksOf_length {f : Gw.DownlinkFrame} {statuses : List Gw.TxAckStatus}
    (within : statuses.length ≤ f.items.length) :
    (acksOf f statuses).length = f.items.length := by
  simp only [acksOf, List.length_append, List.length_map, List.length_replicate]
  omega

/-- One more answer is written to the slot of the item that was tried. -/
theorem answered_entryOf {f : Gw.DownlinkFrame} {refusals : List Gw.TxAckStatus}
    (within : refusals.length < f.items.length) (expire : Nat) (status : Gw.TxAckStatus) :
    (entryOf f refusals expire).answered status = acksOf f (refusals ++ [status]) := by
  have left : f.items.length - refusals.length =
      f.items.length - (refusals ++ [status]).length + 1 := by
    rw [List.length_append, List.length_singleton]
    omega
  simp only [DownlinkCache.answered, entryOf, acksOf, left, List.replicate_succ]
  rw [List.set_append_right _ _ (by rw [List.length_map])]
  simp

theorem ack_entryOf {f : Gw.DownlinkFrame} {refusals : List Gw.TxAckStatus}
    (within : refusals.length < f.items.length) (expire : Nat) (pl : TxAck) :
    (entryOf f refusals expire).ack pl = ackOf f refusals pl := by
  rw [DownlinkCache.ack, answered_entryOf within]
  rfl

theorem final_entryOf {f : Gw.DownlinkFrame} {refusals : List Gw.TxAckStatus}
    (within : refusals.length < f.items.length) (expire : Nat) (status : Gw.TxAckStatus) :
    (entryOf f refusals expire).Final status ↔
      status = .ok ∨ f.items.length ≤ refusals.length + 1 := by
  rw [DownlinkCache.Final, entryOf, acksOf_length (Nat.le_of_lt within)]

section

variable (crates : Crates) (profile : Profile) (f : Gw.DownlinkFrame)

/-- The datagram of item `j`. -/
def pullRespBytes (j : Nat) : List UInt8 :=
  match PullResp.fromProto profile f j (tokenFor f) with
  | .ok resp => match resp.toVec crates with
    | .ok bytes => bytes
    | _ => []
  | _ => []

/-- The PULL_RESPs of the first items, sent to these addresses. -/
def pullResps (addrs : List SocketAddr) : List Effect :=
  addrs.mapIdx fun j addr => .pullResp f j (pullRespBytes crates profile f j) addr

end

/-- The effect is more than an access to the cache. -/
def Effect.visible : Effect → Bool
  | .cached _ _ => false
  | .looked _ _ => false
  | _ => true

/-- What a trace shows apart from the accesses to the cache. -/
def visible (trace : List Effect) : List Effect := trace.filter Effect.visible

/-! ## The machine -/

/-- Where a downlink is: the thread that works on it and what that thread does next, or what
the downlink waits for. -/
inductive Phase where
  | idle
  | attempt (i : Thread) (refusals : List Gw.TxAckStatus)
  | insert (i : Thread) (refusals : List Gw.TxAckStatus) (expire : Nat)
  | address (i : Thread) (refusals : List Gw.TxAckStatus) (resp : PullResp)
  | send (i : Thread) (refusals : List Gw.TxAckStatus) (addr : SocketAddr)
  | waiting (refusals : List Gw.TxAckStatus)
  | answered (refusals : List Gw.TxAckStatus) (answer : Answer)
  | clean (refusals : List Gw.TxAckStatus) (pl : TxAck)
  | look (refusals : List Gw.TxAckStatus) (pl : TxAck)
  | count (refusals : List Gw.TxAckStatus) (pl : TxAck)
  | publish (refusals : List Gw.TxAckStatus) (pl : TxAck)
  | ended (published : Bool)

/-- The state of the machine. -/
structure Course where
  phase : Phase
  /-- What the cache holds under the token. -/
  slot : Option DownlinkCache
  /-- The address of the packet forwarder. -/
  addr : Option SocketAddr
  /-- The answers of the packet forwarder. -/
  answers : List Answer
  /-- What has happened with the token. -/
  trace : List Effect

/-- The entry unless it has expired. -/
def unexpired (now : Nat) (slot : Option DownlinkCache) : Option DownlinkCache :=
  slot.filter fun v => !decide (v.expire < now)

section

variable (crates : Crates) (profile : Profile) (f : Gw.DownlinkFrame)

/-- The thread that works on the downlink, and what it still does. -/
def Phase.owner : Phase → Option (Thread × Task Unit)
  | attempt i rs => some (i, sendDownlinkFrame crates profile f (acksOf f rs) rs.length)
  | insert i rs expire => some (i, do
      State.setDownlinkCache (tokenFor f) (entryOf f rs expire)
      sendPullResp crates profile f rs.length)
  | address i rs resp => some (i, do
      let pullAddr ← State.getPullAddr
      let bytes ← resp.toVec crates
      sendTo (.pullResp f rs.length bytes pullAddr))
  | send i rs addr =>
      some (i, sendTo (.pullResp f rs.length (pullRespBytes crates profile f rs.length) addr))
  | clean _ pl => some (.udp, answerTxAck crates profile pl)
  | look _ pl => some (.udp, do
      let downlinkCache ← State.readDownlinkCache pl.randomToken
      answerFound crates profile pl downlinkCache)
  | count rs pl => some (.udp, do
      State.countDownlink crates f (ackOf f rs pl)
      sendTxAck (ackOf f rs pl))
  | publish rs pl => some (.udp, sendTxAck (ackOf f rs pl))
  | _ => none

/-- The next action of the thread that works on the downlink. -/
def Course.exec (e : Env) (c : Course) : Course :=
  match c.phase with
  | .attempt i rs => { c with phase := .insert i rs (e.now + lifetime) }
  | .insert i rs expire =>
      { c with
        slot := some (entryOf f rs expire)
        trace := c.trace ++ [.cached (tokenFor f) (entryOf f rs expire)]
        phase := match PullResp.fromProto profile f rs.length (tokenFor f) with
          | .ok resp => .address i rs resp
          | _ => .ended false }
  | .address i rs _ =>
      { c with
        phase := match c.addr with
          | some addr => .send i rs addr
          | none => .ended false }
  | .send _ rs addr =>
      if e.socketSends then
        { c with
          trace := c.trace ++
            [.pullResp f rs.length (pullRespBytes crates profile f rs.length) addr]
          phase := .waiting rs }
      else { c with phase := .ended false }
  | .clean rs pl => { c with slot := unexpired e.now c.slot, phase := .look rs pl }
  | .look rs pl =>
      { c with
        trace := c.trace ++ [.looked (tokenFor f) c.slot]
        phase := match c.slot with
          | some dc =>
              if dc.Final pl.toProtoTxAckStatus then .count rs pl
              else .attempt .udp (rs ++ [pl.toProtoTxAckStatus])
          | none => .ended false }
  | .count rs pl =>
      { c with
        trace := c.trace ++ [.countedDownlink f (ackOf f rs pl)]
        phase := match (Stats.countDownlink crates {} f (ackOf f rs pl)).1 with
          | .ok () => .publish rs pl
          | _ => .ended false }
  | .publish rs pl =>
      if e.channel = .room then
        { c with
          trace := c.trace ++ [.event (.ack (ackOf f rs pl))]
          phase := .ended true }
      else { c with phase := .ended false }
  | _ => c

/-- The steps of the machine, when `A` allows answers of the environment and datagrams may be
lost if `L` holds. -/
inductive Course.Step (A : Course → Env → Prop) (L : Prop) (c : Course) : Course → Prop where
  | start (n : Nat) (idle : c.phase = .idle) :
      Step A L c { c with phase := .attempt (.command n) [] }
  | exec (e : Env) (owned : (c.phase.owner crates profile f).isSome) (allowed : A c e) :
      Step A L c (c.exec crates profile f e)
  | answer {rs : List Gw.TxAckStatus} (answer : Answer) (waiting : c.phase = .waiting rs)
      (shot : answer.shot = ⟨f, rs.length⟩)
      (answers : Answers crates (tokenFor f) answer.data answer.status) :
      Step A L c { c with phase := .answered rs answer, answers := c.answers ++ [answer] }
  | deliver {rs : List Gw.TxAckStatus} {answer : Answer} (pl : TxAck)
      (arrives : c.phase = .answered rs answer) (marked : answer.data[3]? = some 0x05)
      (read : TxAck.fromSlice crates answer.data = .ok pl)
      (token : pl.randomToken = tokenFor f) (status : pl.toProtoTxAckStatus = answer.status) :
      Step A L c { c with phase := .clean rs pl }
  | lose (lost : (∃ rs, c.phase = .waiting rs) ∨ ∃ rs answer, c.phase = .answered rs answer)
      (allowed : L) : Step A L c { c with phase := .ended false }
  | drift (e : Env) (slot : Option DownlinkCache) (addr : Option SocketAddr)
      (outside : ∀ p, c.phase.owner crates profile f ≠ some (.udp, p)) (allowed : A c e)
      (kept : slot = c.slot ∨ slot = unexpired e.now c.slot)
      (known : addr = c.addr ∨ ∃ known, addr = some known) :
      Step A L c { c with slot, addr }
  | stay : Step A L c c

end

/-! ## The invariant -/

section

variable (crates : Crates) (profile : Profile) (f : Gw.DownlinkFrame)

/-- The items before the one that is tried have been refused. -/
def Refused (statuses : List Gw.TxAckStatus) : Prop :=
  ∀ status ∈ statuses, status ≠ .ok ∧ status ≠ .ignored

/-- The packet forwarder has given the answers `given` to the first items, in order, and the
trace shows the PULL_RESPs of the first `sent` items and then `tail`. -/
structure Booked (c : Course) (given : List Gw.TxAckStatus) (sent : Nat) (tail : List Effect) :
    Prop where
  answers : c.answers.map (fun answer => (answer.shot, answer.status)) =
    given.mapIdx fun j status => ((⟨f, j⟩ : Shot), status)
  shown : ∃ addrs, addrs.length = sent ∧
    visible c.trace = pullResps crates profile f addrs ++ tail

/-- The cache holds the entry after these refusals, or has dropped it. -/
def Held (c : Course) (refusals : List Gw.TxAckStatus) : Prop :=
  c.slot = none ∨ ∃ expire, c.slot = some (entryOf f refusals expire)

/-- The answer to the item after these refusals is the last one. -/
structure Concluded (refusals : List Gw.TxAckStatus) (pl : TxAck) : Prop where
  refused : Refused refusals
  within : refusals.length < f.items.length
  final : pl.toProtoTxAckStatus = .ok ∨ f.items.length ≤ refusals.length + 1

/-- How a course that is over has ended: with an ack, or before it. -/
inductive Ending : Bool → List Gw.TxAckStatus → Nat → List Effect → Prop where
  | silent (given : List Gw.TxAckStatus) (sent : Nat) : Ending false given sent []
  | unpublished {refusals : List Gw.TxAckStatus} {pl : TxAck}
      (concluded : Concluded f refusals pl) :
      Ending false (refusals ++ [pl.toProtoTxAckStatus]) (refusals.length + 1)
        [.countedDownlink f (ackOf f refusals pl)]
  | published {refusals : List Gw.TxAckStatus} {pl : TxAck}
      (concluded : Concluded f refusals pl) :
      Ending true (refusals ++ [pl.toProtoTxAckStatus]) (refusals.length + 1)
        [.countedDownlink f (ackOf f refusals pl), .event (.ack (ackOf f refusals pl))]

/-- What holds of a course in each of its phases. -/
def Course.Inv (c : Course) : Prop :=
  match c.phase with
  | .idle => Booked crates profile f c [] 0 []
  | .attempt _ rs => Refused rs ∧ (rs = [] ∨ rs.length < f.items.length) ∧
      Booked crates profile f c rs rs.length []
  | .insert _ rs _ => Refused rs ∧ (rs = [] ∨ rs.length < f.items.length) ∧
      Booked crates profile f c rs rs.length []
  | .address _ rs resp => Refused rs ∧ rs.length < f.items.length ∧
      Booked crates profile f c rs rs.length [] ∧ Held f c rs ∧
      PullResp.fromProto profile f rs.length (tokenFor f) = .ok resp
  | .send _ rs _ => Refused rs ∧ rs.length < f.items.length ∧
      Booked crates profile f c rs rs.length [] ∧ Held f c rs ∧
      ∃ resp, PullResp.fromProto profile f rs.length (tokenFor f) = .ok resp
  | .waiting rs => Refused rs ∧ rs.length < f.items.length ∧
      Booked crates profile f c rs (rs.length + 1) [] ∧ Held f c rs
  | .answered rs answer => Refused rs ∧ rs.length < f.items.length ∧
      Booked crates profile f c (rs ++ [answer.status]) (rs.length + 1) [] ∧ Held f c rs
  | .clean rs pl => Refused rs ∧ rs.length < f.items.length ∧
      Booked crates profile f c (rs ++ [pl.toProtoTxAckStatus]) (rs.length + 1) [] ∧
      Held f c rs ∧ pl.randomToken = tokenFor f
  | .look rs pl => Refused rs ∧ rs.length < f.items.length ∧
      Booked crates profile f c (rs ++ [pl.toProtoTxAckStatus]) (rs.length + 1) [] ∧
      Held f c rs ∧ pl.randomToken = tokenFor f
  | .count rs pl => Concluded f rs pl ∧
      Booked crates profile f c (rs ++ [pl.toProtoTxAckStatus]) (rs.length + 1) []
  | .publish rs pl => Concluded f rs pl ∧
      Booked crates profile f c (rs ++ [pl.toProtoTxAckStatus]) (rs.length + 1)
        [.countedDownlink f (ackOf f rs pl)]
  | .ended published => ∃ given sent tail, Booked crates profile f c given sent tail ∧
      Ending f published given sent tail

end

section

variable {crates : Crates} {profile : Profile} {f : Gw.DownlinkFrame}

theorem visible_append (first second : List Effect) :
    visible (first ++ second) = visible first ++ visible second :=
  List.filter_append ..

theorem pullResps_concat (addrs : List SocketAddr) (addr : SocketAddr) :
    pullResps crates profile f (addrs ++ [addr]) = pullResps crates profile f addrs ++
      [.pullResp f addrs.length (pullRespBytes crates profile f addrs.length) addr] := by
  simp [pullResps, List.mapIdx_append]

/-- The bookkeeping does not depend on the phase, the slot and the address. -/
theorem Booked.of_same {c c' : Course} {given : List Gw.TxAckStatus} {sent : Nat}
    {tail : List Effect} (booked : Booked crates profile f c given sent tail)
    (answers : c'.answers = c.answers) (trace : visible c'.trace = visible c.trace) :
    Booked crates profile f c' given sent tail :=
  ⟨by rw [answers, booked.answers], by rw [trace]; exact booked.shown⟩

/-- One more PULL_RESP. -/
theorem Booked.sent {c c' : Course} {given : List Gw.TxAckStatus} {sent : Nat}
    (booked : Booked crates profile f c given sent []) (answers : c'.answers = c.answers)
    {addr : SocketAddr} (trace : c'.trace = c.trace ++
      [.pullResp f sent (pullRespBytes crates profile f sent) addr]) :
    Booked crates profile f c' given (sent + 1) [] := by
  obtain ⟨addrs, length, shown⟩ := booked.shown
  refine ⟨by rw [answers, booked.answers], addrs ++ [addr], ?_, ?_⟩
  · rw [List.length_append, length, List.length_singleton]
  · rw [trace, visible_append, shown, pullResps_concat, length, List.append_nil, List.append_nil]
    rfl

/-- One more effect at the end. -/
theorem Booked.append {c c' : Course} {given : List Gw.TxAckStatus} {sent : Nat}
    {tail longer : List Effect} {o : Effect} (booked : Booked crates profile f c given sent tail)
    (answers : c'.answers = c.answers) (trace : c'.trace = c.trace ++ [o])
    (seen : o.visible = true) (extended : longer = tail ++ [o]) :
    Booked crates profile f c' given sent longer := by
  obtain ⟨addrs, length, shown⟩ := booked.shown
  refine ⟨by rw [answers, booked.answers], addrs, length, ?_⟩
  rw [trace, visible_append, shown, extended, List.append_assoc]
  simp [visible, seen]

/-- One more answer. -/
theorem Booked.given {c c' : Course} {given : List Gw.TxAckStatus} {sent : Nat}
    {tail : List Effect} (booked : Booked crates profile f c given sent tail) {answer : Answer}
    (answers : c'.answers = c.answers ++ [answer]) (shot : answer.shot = ⟨f, given.length⟩)
    (trace : c'.trace = c.trace) :
    Booked crates profile f c' (given ++ [answer.status]) sent tail := by
  refine ⟨?_, by rw [trace]; exact booked.shown⟩
  rw [answers, List.map_append, booked.answers, List.mapIdx_append]
  simp [shot]

theorem Held.unexpired {c c' : Course} {refusals : List Gw.TxAckStatus}
    (held : Held f c refusals) {now : Nat}
    (kept : c'.slot = c.slot ∨ c'.slot = SemtechUdp.unexpired now c.slot) :
    Held f c' refusals := by
  rcases kept with same | dropped
  · rw [Held, same]
    exact held
  · rw [Held, dropped]
    rcases held with gone | ⟨expire, held⟩
    · left
      rw [gone]
      rfl
    · rw [held, SemtechUdp.unexpired, Option.filter_some]
      split
      · exact .inr ⟨expire, rfl⟩
      · exact .inl rfl

section

variable {c : Course} {rs : List Gw.TxAckStatus} {pl : TxAck}

/-- An access to the cache is not visible. -/
theorem visible_concat (trace : List Effect) {o : Effect} (hidden : o.visible = false) :
    visible (trace ++ [o]) = visible trace := by
  rw [visible_append]
  simp [visible, hidden]

theorem Course.Inv.exec_insert {i : Thread} {expire : Nat} (inv : c.Inv crates profile f)
    (here : c.phase = .insert i rs expire) (e : Env) :
    (c.exec crates profile f e).Inv crates profile f := by
  obtain ⟨phase, slot, addr, answers, trace⟩ := c
  subst here
  obtain ⟨refused, _, booked⟩ := inv
  have same : visible (trace ++ [.cached (tokenFor f) (entryOf f rs expire)]) = visible trace :=
    visible_concat trace rfl
  simp only [Course.exec]
  cases accepted : PullResp.fromProto profile f rs.length (tokenFor f) with
  | ok resp =>
      exact ⟨refused, PullResp.fromProto_lt accepted, booked.of_same rfl same,
        .inr ⟨expire, rfl⟩, accepted⟩
  | err message => exact ⟨_, _, _, booked.of_same rfl same, .silent _ _⟩
  | panic cause => exact ⟨_, _, _, booked.of_same rfl same, .silent _ _⟩

theorem Course.Inv.exec_send {i : Thread} {target : SocketAddr} (inv : c.Inv crates profile f)
    (here : c.phase = .send i rs target) (e : Env) :
    (c.exec crates profile f e).Inv crates profile f := by
  obtain ⟨phase, slot, addr, answers, trace⟩ := c
  subst here
  obtain ⟨refused, within, booked, held, _⟩ := inv
  cases sends : e.socketSends with
  | true =>
      simp only [Course.exec, sends, if_true]
      exact ⟨refused, within, booked.sent rfl rfl, held⟩
  | false =>
      simp only [Course.exec, sends, Bool.false_eq_true, if_false]
      exact ⟨_, _, _, booked.of_same rfl rfl, .silent _ _⟩

/-- One more item has been refused, and there is another one to be tried. -/
theorem Refused.snoc (refused : Refused rs) (within : rs.length < f.items.length) {expire : Nat}
    (goesOn : ¬ (entryOf f rs expire).Final pl.toProtoTxAckStatus) :
    Refused (rs ++ [pl.toProtoTxAckStatus]) ∧ rs.length + 1 < f.items.length := by
  rw [final_entryOf within] at goesOn
  have unsent : pl.toProtoTxAckStatus ≠ .ok := fun sent => goesOn (.inl sent)
  refine ⟨fun status member => ?_, Nat.lt_of_not_le fun last => goesOn (.inr last)⟩
  rcases List.mem_append.mp member with earlier | now
  · exact refused status earlier
  · rw [List.mem_singleton.mp now]
    exact ⟨unsent, pl.toProtoTxAckStatus_ne_ignored⟩

theorem Course.Inv.exec_look (inv : c.Inv crates profile f) (here : c.phase = .look rs pl)
    (e : Env) : (c.exec crates profile f e).Inv crates profile f := by
  obtain ⟨phase, slot, addr, answers, trace⟩ := c
  subst here
  obtain ⟨refused, within, booked, held, token⟩ := inv
  have same : visible (trace ++ [.looked (tokenFor f) slot]) = visible trace :=
    visible_concat trace rfl
  rcases held with gone | ⟨expire, found⟩
  · subst gone
    exact ⟨_, _, _, booked.of_same rfl same, .silent _ _⟩
  · subst found
    simp only [Course.exec]
    by_cases final : (entryOf f rs expire).Final pl.toProtoTxAckStatus
    · rw [if_pos final]
      exact ⟨⟨refused, within, (final_entryOf within _ _).mp final⟩, booked.of_same rfl same⟩
    · rw [if_neg final]
      obtain ⟨refused', more⟩ := refused.snoc within final
      refine ⟨refused', .inr ?_, ?_⟩
      · rw [List.length_append]
        exact more
      · rw [List.length_append]
        exact booked.of_same rfl same

theorem Course.Inv.exec_count (inv : c.Inv crates profile f) (here : c.phase = .count rs pl)
    (e : Env) : (c.exec crates profile f e).Inv crates profile f := by
  obtain ⟨phase, slot, addr, answers, trace⟩ := c
  subst here
  obtain ⟨concluded, booked⟩ := inv
  have counted : Booked crates profile f
      ⟨.count rs pl, slot, addr, answers, trace ++ [.countedDownlink f (ackOf f rs pl)]⟩
      (rs ++ [pl.toProtoTxAckStatus]) (rs.length + 1)
      [.countedDownlink f (ackOf f rs pl)] := booked.append rfl rfl rfl rfl
  simp only [Course.exec]
  split
  · exact ⟨concluded, counted.of_same rfl rfl⟩
  · exact ⟨_, _, _, counted.of_same rfl rfl, .unpublished concluded⟩

theorem Course.Inv.exec_publish (inv : c.Inv crates profile f) (here : c.phase = .publish rs pl)
    (e : Env) : (c.exec crates profile f e).Inv crates profile f := by
  obtain ⟨phase, slot, addr, answers, trace⟩ := c
  subst here
  obtain ⟨concluded, booked⟩ := inv
  by_cases room : e.channel = .room
  · simp only [Course.exec, room, if_true]
    exact ⟨_, _, _, booked.append rfl rfl rfl rfl, .published concluded⟩
  · simp only [Course.exec, room, if_false]
    exact ⟨_, _, _, booked.of_same rfl rfl, .unpublished concluded⟩

/-- The next action of the downlink keeps the invariant. -/
theorem Course.Inv.exec (inv : c.Inv crates profile f) (e : Env) :
    (c.exec crates profile f e).Inv crates profile f := by
  cases here : c.phase with
  | insert i rs expire => exact inv.exec_insert here e
  | send i rs target => exact inv.exec_send here e
  | look rs pl => exact inv.exec_look here e
  | count rs pl => exact inv.exec_count here e
  | publish rs pl => exact inv.exec_publish here e
  | attempt i rs =>
      obtain ⟨phase, slot, addr, answers, trace⟩ := c
      subst here
      obtain ⟨refused, within, booked⟩ := inv
      exact ⟨refused, within, booked.of_same rfl rfl⟩
  | address i rs resp =>
      obtain ⟨phase, slot, addr, answers, trace⟩ := c
      subst here
      obtain ⟨refused, within, booked, held, accepted⟩ := inv
      cases addr with
      | some addr => exact ⟨refused, within, booked.of_same rfl rfl, held, resp, accepted⟩
      | none => exact ⟨_, _, _, booked.of_same rfl rfl, .silent _ _⟩
  | clean rs pl =>
      obtain ⟨phase, slot, addr, answers, trace⟩ := c
      subst here
      obtain ⟨refused, within, booked, held, token⟩ := inv
      exact ⟨refused, within, booked.of_same rfl rfl, held.unexpired (.inr rfl), token⟩
  | _ =>
      simp only [Course.exec, here]
      exact inv

end

/-- A change of the slot or of the address from outside keeps the invariant. -/
theorem Course.Inv.drift {c : Course} (inv : c.Inv crates profile f) {now : Nat}
    {slot : Option DownlinkCache} (addr : Option SocketAddr)
    (kept : slot = c.slot ∨ slot = SemtechUdp.unexpired now c.slot) :
    Course.Inv crates profile f { c with slot, addr } := by
  obtain ⟨phase, slot', addr', answers, trace⟩ := c
  have held : ∀ {rs}, Held f ⟨phase, slot', addr', answers, trace⟩ rs →
      Held f ⟨phase, slot, addr, answers, trace⟩ rs := fun held => held.unexpired kept
  cases phase with
  | idle => exact Booked.of_same inv rfl rfl
  | attempt i rs => exact ⟨inv.1, inv.2.1, inv.2.2.of_same rfl rfl⟩
  | insert i rs expire => exact ⟨inv.1, inv.2.1, inv.2.2.of_same rfl rfl⟩
  | address i rs resp =>
      obtain ⟨refused, within, booked, before, accepted⟩ := inv
      exact ⟨refused, within, booked.of_same rfl rfl, held before, accepted⟩
  | send i rs addr =>
      obtain ⟨refused, within, booked, before, accepted⟩ := inv
      exact ⟨refused, within, booked.of_same rfl rfl, held before, accepted⟩
  | waiting rs =>
      obtain ⟨refused, within, booked, before⟩ := inv
      exact ⟨refused, within, booked.of_same rfl rfl, held before⟩
  | answered rs answer =>
      obtain ⟨refused, within, booked, before⟩ := inv
      exact ⟨refused, within, booked.of_same rfl rfl, held before⟩
  | clean rs pl =>
      obtain ⟨refused, within, booked, before, token⟩ := inv
      exact ⟨refused, within, booked.of_same rfl rfl, held before, token⟩
  | look rs pl =>
      obtain ⟨refused, within, booked, before, token⟩ := inv
      exact ⟨refused, within, booked.of_same rfl rfl, held before, token⟩
  | count rs pl => exact ⟨inv.1, inv.2.of_same rfl rfl⟩
  | publish rs pl => exact ⟨inv.1, inv.2.of_same rfl rfl⟩
  | ended published =>
      obtain ⟨given, sent, tail, booked, ending⟩ := inv
      exact ⟨given, sent, tail, booked.of_same rfl rfl, ending⟩

/-- Every step of the machine keeps the invariant. -/
theorem Course.Inv.step {A : Course → Env → Prop} {L : Prop} {c c' : Course}
    (inv : c.Inv crates profile f) (step : Course.Step crates profile f A L c c') :
    c'.Inv crates profile f := by
  cases step with
  | exec e owned allowed => exact inv.exec e
  | drift e slot addr outside allowed kept known => exact inv.drift addr kept
  | stay => exact inv
  | start n idle =>
      simp only [Course.Inv, idle] at inv
      exact ⟨fun status member => absurd member List.not_mem_nil, .inl rfl, inv.of_same rfl rfl⟩
  | answer answer waiting shot answers =>
      simp only [Course.Inv, waiting] at inv
      obtain ⟨refused, within, booked, held⟩ := inv
      exact ⟨refused, within, booked.given rfl shot rfl, held⟩
  | deliver pl arrives marked read token status =>
      simp only [Course.Inv, arrives] at inv
      obtain ⟨refused, within, booked, held⟩ := inv
      rw [← status] at booked
      exact ⟨refused, within, booked.of_same rfl rfl, held, token⟩
  | lose lost allowed =>
      rcases lost with ⟨rs, waiting⟩ | ⟨rs, answer, answered⟩
      · simp only [Course.Inv, waiting] at inv
        exact ⟨_, _, _, inv.2.2.1.of_same rfl rfl, .silent _ _⟩
      · simp only [Course.Inv, answered] at inv
        exact ⟨_, _, _, inv.2.2.1.of_same rfl rfl, .silent _ _⟩

/-- In every phase the trace is that of some ending, of a downlink that has not been answered
or of one that has. -/
theorem Course.Inv.ending {c : Course} (inv : c.Inv crates profile f) :
    ∃ published given sent tail, Booked crates profile f c given sent tail ∧
      Ending f published given sent tail := by
  obtain ⟨phase, slot, addr, answers, trace⟩ := c
  cases phase with
  | idle => exact ⟨_, _, _, _, inv, .silent _ _⟩
  | attempt i rs => exact ⟨_, _, _, _, inv.2.2, .silent _ _⟩
  | insert i rs expire => exact ⟨_, _, _, _, inv.2.2, .silent _ _⟩
  | address i rs resp => exact ⟨_, _, _, _, inv.2.2.1, .silent _ _⟩
  | send i rs target => exact ⟨_, _, _, _, inv.2.2.1, .silent _ _⟩
  | waiting rs => exact ⟨_, _, _, _, inv.2.2.1, .silent _ _⟩
  | answered rs answer => exact ⟨_, _, _, _, inv.2.2.1, .silent _ _⟩
  | clean rs pl => exact ⟨_, _, _, _, inv.2.2.1, .silent _ _⟩
  | look rs pl => exact ⟨_, _, _, _, inv.2.2.1, .silent _ _⟩
  | count rs pl => exact ⟨_, _, _, _, inv.2, .silent _ _⟩
  | publish rs pl => exact ⟨_, _, _, _, inv.2, .unpublished inv.1⟩
  | ended published => exact ⟨published, inv⟩

end

end MqttForwarder.SemtechUdp
