import MqttForwarder.SemtechUdp.System

/-!
# The downlink cache

An entry of the cache remembers the answers to the items of a frame that have
been tried.  The invariant of the cache says that these are refusals, one for
each item before the index, and that nothing is known about the others.  It
holds for every interleaving of commands with arbitrary datagrams, and with it
every published ack has the shape that the network server expects.
-/

namespace MqttForwarder.SemtechUdp

open MqttForwarder.Rust

/-! ## The invariant -/

/-- The entry under `token` belongs to a frame in `F` whose items before the index have been
refused and whose other items have not been tried. -/
structure DownlinkCache.Good (F : Gw.DownlinkFrame → Prop) (token : UInt16)
    (dc : DownlinkCache) : Prop where
  commanded : F dc.frame
  token : token = tokenFor dc.frame
  length : dc.ackItems.length = dc.frame.items.length
  index : dc.frame.items ≠ [] → dc.index < dc.frame.items.length
  before : ∀ item ∈ dc.ackItems.take dc.index, refusal item
  after : ∀ item ∈ dc.ackItems.drop dc.index, item.getStatus = .ignored

/-- The items of an ack: refusals up to an item that was sent and nothing behind it, or at
least one refusal and nothing else. -/
def AckShape (items : List Gw.DownlinkTxAckItem) : Prop :=
  (∃ errors sent ignored, items = errors ++ sent :: ignored ∧
    (∀ item ∈ errors, refusal item) ∧ sent.getStatus = .ok ∧
    ∀ item ∈ ignored, item.getStatus = .ignored) ∨
  (items ≠ [] ∧ ∀ item ∈ items, refusal item)

/-- The ack answers a frame in `F`. -/
def Honest (F : Gw.DownlinkFrame → Prop) (ack : Gw.DownlinkTxAck) : Prop :=
  ∃ pl, F pl ∧ ack.downlinkId = pl.downlinkId ∧ ack.items.length = pl.items.length ∧
    AckShape ack.items

/-- The invariant of the backend: every cache entry is good, every published ack is honest,
and the address of the packet forwarder satisfies `A`. -/
structure Holds (F : Gw.DownlinkFrame → Prop) (A : Option SocketAddr → Prop)
    (log : List Effect) (s : State) : Prop where
  cache : ∀ token dc, s.downlinkCache token = some dc → dc.Good F token
  acks : ∀ ack, .event (.ack ack) ∈ log → Honest F ack
  addr : A s.pullAddr

section

variable {F : Gw.DownlinkFrame → Prop} {A : Option SocketAddr → Prop}

theorem Holds.init {conf : Conf} (addr : A none) : Holds F A [] (State.init conf) where
  cache := fun _ _ found => by cases found
  acks := fun _ impossible => by cases impossible
  addr := addr

/-- An action that does not write to the cache and publishes no ack keeps the invariant. -/
theorem Holds.frame {log os : List Effect} {s s' : State} (holds : Holds F A log s)
    (cache : s'.downlinkCache = s.downlinkCache) (addr : A s'.pullAddr)
    (quiet : ∀ ack, .event (.ack ack) ∉ os) : Holds F A (log ++ os) s' where
  cache := fun token dc found => holds.cache token dc (cache ▸ found)
  acks := fun ack published =>
    (List.mem_append.mp published).elim (holds.acks ack) fun now => absurd now (quiet ack)
  addr := addr

theorem Holds.publish {log : List Effect} {s : State} (holds : Holds F A log s)
    {ack : Gw.DownlinkTxAck} (honest : Honest F ack) :
    Holds F A (log ++ [.event (.ack ack)]) s where
  cache := holds.cache
  acks := by
    intro other published
    simp only [List.mem_append, List.mem_singleton, Effect.event.injEq,
      MqttMessage.ack.injEq] at published
    rcases published with earlier | rfl
    · exact holds.acks other earlier
    · exact honest
  addr := holds.addr

theorem Holds.set {log : List Effect} {s : State} (holds : Holds F A log s) {token : UInt16}
    {dc : DownlinkCache} (good : dc.Good F token) :
    Holds F A (log ++ [.cached token dc])
      { s with downlinkCache := Function.update s.downlinkCache token (some dc) } where
  cache := by
    intro other entry found
    by_cases same : other = token
    · subst same
      simp only [Function.update_self, Option.some.injEq] at found
      exact found ▸ good
    · simp only [Function.update_of_ne same] at found
      exact holds.cache other entry found
  acks := by
    intro ack published
    simp only [List.mem_append, List.mem_singleton, reduceCtorEq, or_false] at published
    exact holds.acks ack published
  addr := holds.addr

theorem retain_eq_some {now : Nat} {cache : UInt16 → Option DownlinkCache} {token : UInt16}
    {dc : DownlinkCache} :
    State.retain now cache token = some dc ↔ cache token = some dc ∧ now ≤ dc.expire := by
  simp [State.retain, Option.filter_eq_some_iff]

theorem Holds.clean {log : List Effect} {s : State} (holds : Holds F A log s) (now : Nat) :
    Holds F A log { s with downlinkCache := State.retain now s.downlinkCache } where
  cache := fun token dc found => holds.cache token dc (retain_eq_some.mp found).1
  acks := holds.acks
  addr := holds.addr

/-! ## Entries and their successors -/

/-- The entry of a new command is good. -/
theorem DownlinkCache.good_first {pl : Gw.DownlinkFrame} (commanded : F pl) (expire : Nat) :
    DownlinkCache.Good F (tokenFor pl)
      ⟨expire, pl, pl.items.map fun _ => Gw.DownlinkTxAckItem.ofStatus .ignored, 0⟩ where
  commanded := commanded
  token := rfl
  length := List.length_map _
  index := fun nonempty => List.length_pos_iff.mpr nonempty
  before := by simp
  after := by simp

theorem DownlinkCache.Good.bound {token : UInt16} {dc : DownlinkCache} (good : dc.Good F token)
    (nonempty : dc.frame.items ≠ []) : dc.index < dc.ackItems.length := by
  rw [good.length]
  exact good.index nonempty

theorem DownlinkCache.answered_eq {dc : DownlinkCache} (bound : dc.index < dc.ackItems.length)
    (status : Gw.TxAckStatus) :
    dc.answered status = dc.ackItems.take dc.index ++
      Gw.DownlinkTxAckItem.ofStatus status :: dc.ackItems.drop (dc.index + 1) := by
  rw [DownlinkCache.answered, List.set_eq_take_append_cons_drop, if_pos bound]

theorem DownlinkCache.Good.ignored {token : UInt16} {dc : DownlinkCache}
    (good : dc.Good F token) :
    ∀ item ∈ dc.ackItems.drop (dc.index + 1), item.getStatus = .ignored := by
  intro item member
  rw [← List.drop_drop] at member
  exact good.after item (List.mem_of_mem_drop member)

/-- The entry for the next item after a refusal is good. -/
theorem DownlinkCache.Good.next {token : UInt16} {dc : DownlinkCache} (good : dc.Good F token)
    {status : Gw.TxAckStatus} (unsent : status ≠ .ok) (given : status ≠ .ignored)
    (more : dc.index + 1 < dc.ackItems.length) (expire : Nat) :
    DownlinkCache.Good F (tokenFor dc.frame)
      ⟨expire, dc.frame, dc.answered status, dc.index + 1⟩ where
  commanded := good.commanded
  token := rfl
  length := by rw [DownlinkCache.answered, List.length_set, good.length]
  index := fun _ => good.length ▸ more
  before := by
    intro item member
    have taken : (dc.answered status).take (dc.index + 1) =
        dc.ackItems.take dc.index ++ [.ofStatus status] := by
      rw [dc.answered_eq (by omega), List.take_append, List.length_take,
        Nat.min_eq_left (by omega), Nat.add_sub_cancel_left,
        List.take_of_length_le (by rw [List.length_take]; omega)]
      rfl
    simp only [taken, List.mem_append, List.mem_singleton] at member
    rcases member with earlier | rfl
    · exact good.before item earlier
    · exact refusal_ofStatus unsent given
  after := by
    intro item member
    rw [DownlinkCache.answered, List.drop_set_of_lt (Nat.lt_add_one _)] at member
    exact good.ignored item member

/-- After a final answer that is a refusal every item has been refused. -/
theorem DownlinkCache.Good.answered_refusal {token : UInt16} {dc : DownlinkCache}
    (good : dc.Good F token) (bound : dc.index < dc.ackItems.length) {status : Gw.TxAckStatus}
    (unsent : status ≠ .ok) (given : status ≠ .ignored) (final : dc.Final status) :
    ∀ item ∈ dc.answered status, refusal item := by
  intro item member
  rw [dc.answered_eq bound, List.drop_of_length_le (final.resolve_left unsent)] at member
  rcases List.mem_append.mp member with earlier | now
  · exact good.before item earlier
  · rw [List.mem_singleton.mp now]
    exact refusal_ofStatus unsent given

/-- The items published after the last answer have the shape of an ack. -/
theorem DownlinkCache.Good.ackShape {token : UInt16} {dc : DownlinkCache}
    (good : dc.Good F token) (bound : dc.index < dc.ackItems.length) {status : Gw.TxAckStatus}
    (given : status ≠ .ignored) (final : dc.Final status) :
    AckShape (dc.answered status) := by
  by_cases sent : status = .ok
  · exact .inl ⟨_, _, _, dc.answered_eq bound status, good.before, by simp [sent], good.ignored⟩
  · refine .inr ⟨?_, good.answered_refusal bound sent given final⟩
    rw [dc.answered_eq bound]
    simp

end

end MqttForwarder.SemtechUdp
