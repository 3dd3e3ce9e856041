import MqttForwarder.Downlink.Protocol

/-!
# What the network does to the answers

When TX_ACKs may be late, reordered or lost, each downlink leads to at most one
ack, and the ack reports what the packet forwarder has answered.  A TX_ACK that
arrives twice breaks both: the cache entry outlives the last answer, and every
item of a frame is answered under the same token.
-/

namespace MqttForwarder.SemtechUdp

open MqttForwarder.Rust

/-! ## Acks and counts -/

/-- The publication of an ack. -/
def Effect.isAck : Effect → Bool
  | .event (.ack _) => true
  | _ => false

/-- The count of a downlink. -/
def Effect.isCount : Effect → Bool
  | .countedDownlink _ _ => true
  | _ => false

/-- Every status of the ack that is not `Ignored` has been given for that item of `f`. -/
def Attributed (f : Gw.DownlinkFrame) (produced : List Answer) (ack : Gw.DownlinkTxAck) : Prop :=
  ∀ i item, ack.items[i]? = some item → item.getStatus ≠ .ignored →
    ∃ answer ∈ produced, answer.shot = ⟨f, i⟩ ∧ answer.status = item.getStatus

section

variable {crates : Crates} {profile : Profile} {conf : Conf} {f : Gw.DownlinkFrame}
  {c : Course} {net : Net}

theorem countP_visible {p : Effect → Bool} (seen : ∀ o, p o = true → o.visible = true)
    (trace : List Effect) : (visible trace).countP p = trace.countP p := by
  rw [visible, List.countP_filter]
  congr 1
  funext o
  cases holds : p o with
  | false => rfl
  | true => rw [seen o holds]; rfl

theorem pullResps_countP {p : Effect → Bool}
    (other : ∀ frame index bytes remote, p (.pullResp frame index bytes remote) = false)
    (addrs : List SocketAddr) : (pullResps crates profile f addrs).countP p = 0 := by
  rw [List.countP_eq_zero, pullResps]
  intro o member
  obtain ⟨j, within, rfl⟩ := List.mem_mapIdx.mp member
  simp [other]

/-- Whatever is shown of a downlink, its ack and its count are each shown at most once. -/
theorem Ending.countP_le {published : Bool} {given : List Gw.TxAckStatus} {sent : Nat}
    {tail : List Effect} (ending : Ending f published given sent tail) :
    tail.countP Effect.isAck ≤ 1 ∧ tail.countP Effect.isCount ≤ 1 := by
  cases ending with
  | silent given sent => exact ⟨Nat.zero_le 1, Nat.zero_le 1⟩
  | unpublished concluded => exact ⟨Nat.zero_le 1, Nat.le_refl 1⟩
  | published concluded => exact ⟨Nat.le_refl 1, Nat.le_refl 1⟩

/-- The only ack that an ending shows is the ack for the answers that were given. -/
theorem Ending.ack_eq {published : Bool} {given : List Gw.TxAckStatus} {sent : Nat}
    {tail : List Effect} (ending : Ending f published given sent tail) {ack : Gw.DownlinkTxAck}
    (shown : .event (.ack ack) ∈ tail) :
    ack.downlinkId = f.downlinkId ∧ ack.items = acksOf f given := by
  cases ending with
  | silent given sent => cases shown
  | unpublished concluded =>
      rw [List.mem_singleton] at shown
      cases shown
  | published concluded =>
      rcases List.mem_cons.mp shown with counted | shown
      · cases counted
      · obtain rfl := MqttMessage.ack.inj (Effect.event.inj (List.mem_singleton.mp shown))
        exact ⟨rfl, rfl⟩

theorem acksOf_attributed {given : List Gw.TxAckStatus} {produced : List Answer}
    (answers : produced.map (fun answer => (answer.shot, answer.status)) =
      given.mapIdx fun j status => ((⟨f, j⟩ : Shot), status)) {ack : Gw.DownlinkTxAck}
    (items : ack.items = acksOf f given) : Attributed f produced ack := by
  intro i item found tried
  rw [items, acksOf, List.getElem?_append] at found
  split at found
  · rw [List.getElem?_map, Option.map_eq_some_iff] at found
    obtain ⟨status, given', rfl⟩ := found
    have same := congrArg (fun answers => answers[i]?) answers
    simp only [List.getElem?_map, List.getElem?_mapIdx, given', Option.map_some,
      Option.map_eq_some_iff, Prod.mk.injEq] at same
    obtain ⟨answer, member, shot, reported⟩ := same
    refine ⟨answer, List.mem_of_getElem? member, shot, ?_⟩
    rw [reported, Gw.DownlinkTxAckItem.getStatus_ofStatus]
  · rw [List.getElem?_replicate] at found
    split at found
    · cases found
      exact absurd (Gw.DownlinkTxAckItem.getStatus_ofStatus _) tried
    · cases found

/-! ## One ack, for the answers that were given -/

/-- What can be seen of a downlink has at most one ack and at most one count. -/
theorem Sim.countP_le (sim : Sim crates profile f c net) (inv : c.Inv crates profile f) :
    (net.trace (tokenFor f)).countP Effect.isAck ≤ 1 ∧
      (net.trace (tokenFor f)).countP Effect.isCount ≤ 1 := by
  obtain ⟨published, given, sent, tail, booked, ending⟩ := inv.ending
  obtain ⟨addrs, _, shown⟩ := booked.shown
  have acks : ∀ o, Effect.isAck o = true → o.visible = true := by
    intro o ack
    cases o <;> first | rfl | cases ack
  have counts : ∀ o, Effect.isCount o = true → o.visible = true := by
    intro o count
    cases o <;> first | rfl | cases count
  constructor
  · rw [sim.trace, ← countP_visible acks, shown, List.countP_append,
      pullResps_countP (fun _ _ _ _ => rfl), Nat.zero_add]
    exact ending.countP_le.1
  · rw [sim.trace, ← countP_visible counts, shown, List.countP_append,
      pullResps_countP (fun _ _ _ _ => rfl), Nat.zero_add]
    exact ending.countP_le.2

/-- When UDP may delay, reorder or lose datagrams but not duplicate them, a downlink leads to at
most one ack and is counted at most once; and the counters account for the whole log. -/
theorem downlink_acknowledged_once
    (run : Net.Run crates profile conf (tokenFor f) (Rules.lossy f) (Net.init conf) net) :
    (net.trace (tokenFor f)).countP Effect.isAck ≤ 1 ∧
      (net.trace (tokenFor f)).countP Effect.isCount ≤ 1 ∧
      net.pool.state.stats = replay crates {} net.pool.log := by
  obtain ⟨c, inv, sim⟩ := (Net.init_quiet crates conf f).inv_sim (fun _ _ => id) id run
  obtain ⟨acks, counts⟩ := sim.countP_le inv
  exact ⟨acks, counts, run.recorded (Pool.guarantees_idle _) rfl⟩

/-- When UDP may delay, reorder or lose datagrams but not duplicate them, every ack of a downlink
reports what the packet forwarder has answered for each item. -/
theorem downlink_attributed
    (run : Net.Run crates profile conf (tokenFor f) (Rules.lossy f) (Net.init conf) net)
    {ack : Gw.DownlinkTxAck} (published : .event (.ack ack) ∈ net.trace (tokenFor f)) :
    ack.downlinkId = f.downlinkId ∧ Attributed f net.produced ack := by
  obtain ⟨c, inv, sim⟩ := (Net.init_quiet crates conf f).inv_sim (fun _ _ => id) id run
  obtain ⟨_, given, sent, tail, booked, ending⟩ := inv.ending
  obtain ⟨addrs, _, shown⟩ := booked.shown
  have seen : .event (.ack ack) ∈ visible c.trace := by
    rw [← sim.trace]
    exact List.mem_filter.mpr ⟨published, rfl⟩
  rw [shown, pullResps] at seen
  rcases List.mem_append.mp seen with sending | last
  · obtain ⟨_, _, impossible⟩ := List.mem_mapIdx.mp sending
    cases impossible
  · obtain ⟨downlinkId, items⟩ := ending.ack_eq last
    rw [sim.answers]
    exact ⟨downlinkId, acksOf_attributed booked.answers items⟩

end

/-! ## A refusal and then an ack -/

/-- The forwarder knows the address of the packet forwarder. -/
def netKnown (crates : Crates) : Net :=
  (Net.init {}).serve crates .release {} 1 .udp (.datagram pullDataDatagram forwarderAddr) 3

theorem netKnown_run (crates : Crates) {rules : Rules}
    (allows : ∀ net, rules.allows net Env.plain)
    (allowed : rules.others (.datagram pullDataDatagram forwarderAddr)) :
    Net.Run crates .release {} 1 rules (Net.init {}) (netKnown crates) := by
  have stray : Stray crates 1 (.datagram pullDataDatagram forwarderAddr) :=
    fun _ impossible => by cases impossible
  exact Net.run_serve allows .refl .udp _ 3 trivial trivial stray allowed

def refusedAnswer : Answer := ⟨⟨twoItems, 0⟩, .tooLate, tooLateDatagram⟩

theorem refusedAnswer_answers :
    Answers tooLateCrates (tokenFor twoItems) refusedAnswer.data refusedAnswer.status :=
  ⟨rfl, _, rfl, rfl, rfl⟩

def secondAnswer : Answer := ⟨⟨twoItems, 1⟩, .ok, txAckDatagram⟩

theorem secondAnswer_answers :
    Answers tooLateCrates (tokenFor twoItems) secondAnswer.data secondAnswer.status :=
  ⟨rfl, _, rfl, rfl, rfl⟩

/-- The net in which the first item of the frame has been refused, and the second sent and
acknowledged. -/
def netRefusedThenSent : Net :=
  let answered := ((netKnown tooLateCrates).order tooLateCrates .release {} 1 0 twoItems 4).reply
    refusedAnswer
  let retried := answered.receive tooLateCrates .release {} 1 refusedAnswer 6
  (retried.reply secondAnswer).receive tooLateCrates .release {} 1 secondAnswer 4

theorem netRefusedThenSent_run :
    Net.Run tooLateCrates .release {} (tokenFor twoItems) (Rules.lossy twoItems) (Net.init {})
      netRefusedThenSent := by
  have allows : ∀ net, (Rules.lossy twoItems).allows net Env.plain := fun _ => trivial
  have known := netKnown_run tooLateCrates allows trivial
  have ordered := Net.run_order allows known 0 twoItems 4 trivial rfl List.not_mem_nil rfl
  have answered := Net.run_reply ordered refusedAnswer rfl refusedAnswer_answers trivial
  have retried := Net.run_receive allows answered refusedAnswer 6 rfl trivial
  have again := Net.run_reply retried secondAnswer rfl secondAnswer_answers trivial
  exact Net.run_receive allows again secondAnswer 4 rfl trivial

/-- A frame of which one item was refused and the next one sent is acknowledged once. -/
theorem downlink_acknowledged_once_two_items :
    (netRefusedThenSent.trace (tokenFor twoItems)).countP Effect.isAck ≤ 1 ∧
      (netRefusedThenSent.trace (tokenFor twoItems)).countP Effect.isCount ≤ 1 ∧
      netRefusedThenSent.pool.state.stats =
        replay tooLateCrates {} netRefusedThenSent.pool.log :=
  downlink_acknowledged_once netRefusedThenSent_run

/-- Its ack reports the refusal of the first item and that the second has been sent. -/
theorem downlink_attributed_two_items :
    refusedThenSentAck.downlinkId = twoItems.downlinkId ∧
      Attributed twoItems netRefusedThenSent.produced refusedThenSentAck := by
  have published : .event (.ack refusedThenSentAck) ∈
      netRefusedThenSent.trace (tokenFor twoItems) := by decide
  exact downlink_attributed netRefusedThenSent_run published

/-! ## A TX_ACK that arrives twice -/

def oneItem : Gw.DownlinkFrame := ⟨1, [loraItem], ""⟩

def sentAnswer : Answer := ⟨⟨oneItem, 0⟩, .ok, txAckDatagram⟩

theorem sentAnswer_answers :
    Answers Crates.plain (tokenFor oneItem) sentAnswer.data sentAnswer.status :=
  ⟨rfl, _, rfl, rfl, rfl⟩

/-- The net in which the only item has been sent and answered. -/
def netAnswered : Net :=
  ((netKnown Crates.plain).order Crates.plain .release {} 1 0 oneItem 4).reply sentAnswer

theorem netAnswered_run {rules : Rules} (allows : ∀ net, rules.allows net Env.plain)
    (allowed : rules.others (.datagram pullDataDatagram forwarderAddr))
    (commands : rules.commands oneItem) (gives : rules.gives sentAnswer) :
    Net.Run Crates.plain .release {} 1 rules (Net.init {}) netAnswered := by
  have known := netKnown_run Crates.plain allows allowed
  have ordered := Net.run_order allows known 0 oneItem 4 trivial rfl List.not_mem_nil commands
  exact Net.run_reply ordered sentAnswer rfl sentAnswer_answers gives

/-- The net in which the answer has been handled twice. -/
def netTwice : Net :=
  let doubled := { netAnswered with inFlight := netAnswered.inFlight ++ [sentAnswer] }
  let once := doubled.receive Crates.plain .release {} 1 sentAnswer 4
  once.receive Crates.plain .release {} 1 sentAnswer 4

theorem netTwice_run :
    Net.Run Crates.plain .release {} 1 (Rules.duplicating oneItem) (Net.init {}) netTwice := by
  have allows : ∀ net, (Rules.duplicating oneItem).allows net Env.plain := fun _ => trivial
  have answered := netAnswered_run allows trivial rfl trivial
  have doubled := answered.tail (.duplicate sentAnswer List.mem_cons_self trivial)
  have once := Net.run_receive allows doubled sentAnswer 4 rfl trivial
  exact Net.run_receive allows once sentAnswer 4 rfl trivial

/-- When the TX_ACK of a frame with one item arrives twice, two acks are published and the frame
is counted twice. -/
theorem downlink_acknowledged_twice :
    ¬ ∀ (crates : Crates) (profile : Profile) (conf : Conf) (f : Gw.DownlinkFrame) (net : Net),
      Net.Run crates profile conf (tokenFor f) (Rules.duplicating f) (Net.init conf) net →
        (net.trace (tokenFor f)).countP Effect.isAck ≤ 1 ∧
          (net.trace (tokenFor f)).countP Effect.isCount ≤ 1 := by
  intro once
  have bound := (once Crates.plain .release {} oneItem netTwice netTwice_run).1
  revert bound
  decide

/-! ## A refusal that arrives twice -/

/-- The net in which the refusal of the first of two items has been handled twice. -/
def netRefusedTwice : Net :=
  let answered := ((netKnown tooLateCrates).order tooLateCrates .release {} 1 0 twoItems 4).reply
    refusedAnswer
  let doubled := { answered with inFlight := answered.inFlight ++ [refusedAnswer] }
  let retried := doubled.receive tooLateCrates .release {} 1 refusedAnswer 6
  retried.receive tooLateCrates .release {} 1 refusedAnswer 4

theorem netRefusedTwice_run :
    Net.Run tooLateCrates .release {} 1 (Rules.duplicating twoItems) (Net.init {})
      netRefusedTwice := by
  have allows : ∀ net, (Rules.duplicating twoItems).allows net Env.plain := fun _ => trivial
  have known := netKnown_run tooLateCrates allows trivial
  have ordered := Net.run_order allows known 0 twoItems 4 trivial rfl List.not_mem_nil rfl
  have answered := Net.run_reply ordered refusedAnswer rfl refusedAnswer_answers trivial
  have doubled := answered.tail (.duplicate refusedAnswer List.mem_cons_self trivial)
  have retried := Net.run_receive allows doubled refusedAnswer 6 rfl trivial
  exact Net.run_receive allows retried refusedAnswer 4 rfl trivial

def refusedAck : Gw.DownlinkTxAck :=
  ⟨"0000000000000000", 1, [.ofStatus .tooLate, .ofStatus .tooLate]⟩

/-- When the refusal of the first item arrives twice, the ack reports it for both items, although
the packet forwarder has not answered the second. -/
theorem downlink_misattributed :
    ¬ ∀ (crates : Crates) (profile : Profile) (conf : Conf) (f : Gw.DownlinkFrame) (net : Net)
        (ack : Gw.DownlinkTxAck),
      Net.Run crates profile conf (tokenFor f) (Rules.duplicating f) (Net.init conf) net →
        .event (.ack ack) ∈ net.trace (tokenFor f) → Attributed f net.produced ack := by
  intro attributed
  have published : .event (.ack refusedAck) ∈ netRefusedTwice.trace (tokenFor twoItems) := by
    decide
  have produced : netRefusedTwice.produced = [refusedAnswer] := rfl
  obtain ⟨answer, given, shot, _⟩ := attributed tooLateCrates .release {} twoItems _ refusedAck
    netRefusedTwice_run published 1 (.ofStatus .tooLate) rfl (by decide)
  rw [produced, List.mem_singleton] at given
  subst given
  cases shot

end MqttForwarder.SemtechUdp
