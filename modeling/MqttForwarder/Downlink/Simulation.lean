import MqttForwarder.Downlink.Course
import MqttForwarder.Downlink.Safety

/-!
# The forwarder refines the course of a downlink

Every step of the forwarder, of the packet forwarder or of the network is a
step of the abstract machine of the watched downlink, whatever the other tasks
do in between.
-/

namespace MqttForwarder.SemtechUdp

open MqttForwarder.Rust

/-- The PULL_RESP that has not been answered. -/
def Phase.pending (f : Gw.DownlinkFrame) : Phase → List Shot
  | waiting rs => [⟨f, rs.length⟩]
  | _ => []

/-- The TX_ACK that has not been received. -/
def Phase.inFlight : Phase → List Answer
  | answered _ answer => [answer]
  | _ => []

/-- The net is in the state `c` as far as the downlink `f` is concerned: one thread at most
works on it and does what the phase says, and every other thread leaves its token alone. -/
structure Sim (crates : Crates) (profile : Profile) (f : Gw.DownlinkFrame) (c : Course)
    (net : Net) : Prop where
  slot : net.pool.state.downlinkCache (tokenFor f) = c.slot
  addr : net.pool.state.pullAddr = c.addr
  answers : net.produced = c.answers
  trace : net.trace (tokenFor f) = c.trace
  keyed : Keyed net.pool.state
  commanded : f ∈ net.commanded ↔ c.phase ≠ .idle
  pending : net.pending = c.phase.pending f
  inFlight : net.inFlight = c.phase.inFlight
  datagrams : ∀ answer ∈ net.inFlight, Answers crates (tokenFor f) answer.data answer.status
  owner : ∀ i p, c.phase.owner crates profile f = some (i, p) → net.pool.threads i = p
  job : ∀ i p, c.phase.owner crates profile f = some (i, p) →
    ∃ r, net.pool.job i = some r ∧ ¬ Stray crates (tokenFor f) r
  others : ∀ i, (∀ p, c.phase.owner crates profile f ≠ some (i, p)) →
    Foreign (tokenFor f) i (net.pool.threads i)
  /-- A thread that has done its part has returned, if the downlink still goes on. -/
  rests : ∀ i r, net.pool.job i = some r → ¬ Stray crates (tokenFor f) r →
    (∀ p, c.phase.owner crates profile f ≠ some (i, p)) →
      ∃ result, net.pool.threads i = .done result ∧
        (c.phase ≠ .ended false → (net.pool.threads i).Finished)

section

variable {crates : Crates} {profile : Profile} {conf : Conf} {f : Gw.DownlinkFrame}
  {rules : Rules} {c c' : Course} {net net' : Net}

/-! ## Actions on the downlink -/

/-- The thread that works on the downlink has an action left. -/
theorem Phase.owner_act {phase : Phase} {i : Thread} {p : Task Unit}
    (owned : phase.owner crates profile f = some (i, p)) (result : Outcome Unit) :
    p ≠ .done result := by
  cases phase <;> simp only [Phase.owner, Option.some.injEq, Prod.mk.injEq, reduceCtorEq] at owned
  all_goals
    obtain ⟨-, rfl⟩ := owned
    exact fun impossible => by cases impossible

theorem Phase.owner_not_finished {phase : Phase} {i : Thread} {p : Task Unit}
    (owned : phase.owner crates profile f = some (i, p)) : ¬ p.Finished := by
  intro finished
  cases p with
  | act action next => exact finished
  | done result => exact Phase.owner_act owned result rfl

theorem Phase.ne_idle_of_owner {phase : Phase} {i : Thread} {p : Task Unit}
    (owned : phase.owner crates profile f = some (i, p)) : phase ≠ .idle := by
  rintro rfl
  cases owned

theorem Phase.ne_over_of_owner {phase : Phase} {i : Thread} {p : Task Unit} {published : Bool}
    (owned : phase.owner crates profile f = some (i, p)) : phase ≠ .ended published := by
  rintro rfl
  cases owned

/-- What an action of the thread that works on the downlink must do. -/
theorem Sim.own {β : Type} {i : Thread} {p : Task Unit}
    {action : Env → State → Reply β State Effect} {next : β → Task Unit} {e : Env}
    (sim : Sim crates profile f c net) (owned : c.phase.owner crates profile f = some (i, p))
    (begun : c'.phase ≠ .idle)
    (slot : (action e net.pool.state).state.downlinkCache (tokenFor f) = c'.slot)
    (addr : (action e net.pool.state).state.pullAddr = c'.addr)
    (answers : c'.answers = c.answers)
    (trace : c'.trace = c.trace ++
      (action e net.pool.state).effects.filter (Effect.about (tokenFor f)))
    (keyed : Keyed (action e net.pool.state).state)
    (pending : c'.phase.pending f =
      c.phase.pending f ++ shots (tokenFor f) (action e net.pool.state).effects)
    (inFlight : c'.phase.inFlight = c.phase.inFlight)
    (goes : c'.phase.owner crates profile f = some (i, next (action e net.pool.state).value) ∨
      c'.phase.owner crates profile f = none ∧
        ∃ result, next (action e net.pool.state).value = .done result ∧
          (result = .ok () ∨ c'.phase = .ended false)) :
    Sim crates profile f c' (net.exec (tokenFor f) i action next e) where
  slot := slot
  addr := addr
  answers := by rw [answers]; exact sim.answers
  trace := by
    rw [trace, ← sim.trace]
    exact List.filter_append ..
  keyed := keyed
  commanded := iff_of_true (sim.commanded.mpr (Phase.ne_idle_of_owner owned)) begun
  pending := by
    rw [pending, ← sim.pending]
    rfl
  inFlight := by rw [inFlight]; exact sim.inFlight
  datagrams := sim.datagrams
  owner := by
    intro j q owned'
    rcases goes with goes | ⟨free, _⟩
    · rw [goes, Option.some.injEq, Prod.mk.injEq] at owned'
      obtain ⟨rfl, rfl⟩ := owned'
      exact Pool.exec_threads_self
    · rw [free] at owned'
      cases owned'
  job := by
    intro j q owned'
    rcases goes with goes | ⟨free, _⟩
    · rw [goes, Option.some.injEq, Prod.mk.injEq] at owned'
      obtain ⟨rfl, rfl⟩ := owned'
      exact sim.job i p owned
    · rw [free] at owned'
      cases owned'
  others := by
    intro j unowned
    by_cases same : j = i
    · subst same
      rcases goes with goes | ⟨_, result, ended, _⟩
      · exact absurd goes (unowned _)
      · simp only [Net.exec, Pool.exec_threads_self, ended]
        exact foreign_done result
    · simp only [Net.exec, Pool.exec_threads_of_ne same]
      refine sim.others j fun q owned' => same ?_
      rw [owned, Option.some.injEq, Prod.mk.injEq] at owned'
      exact owned'.1.symm
  rests := by
    intro j r job own unowned
    by_cases same : j = i
    · subst same
      rcases goes with goes | ⟨_, result, ended, good⟩
      · exact absurd goes (unowned _)
      · simp only [Net.exec, Pool.exec_threads_self, ended]
        refine ⟨result, rfl, fun goesOn => ?_⟩
        rw [good.resolve_right goesOn]
        trivial
    · simp only [Net.exec, Pool.exec_threads_of_ne same]
      have rests := sim.rests j r job own fun q owned' => same (by
        rw [owned, Option.some.injEq, Prod.mk.injEq] at owned'
        exact owned'.1.symm)
      obtain ⟨result, done, finished⟩ := rests
      exact ⟨result, done, fun _ => finished (Phase.ne_over_of_owner owned)⟩

theorem pullRespBytes_eq {resp : PullResp} {j : Nat} {bytes : List UInt8}
    (accepted : PullResp.fromProto profile f j (tokenFor f) = .ok resp)
    (written : resp.toVec crates = .ok bytes) : pullRespBytes crates profile f j = bytes := by
  rw [pullRespBytes, accepted]
  simp only [written]

variable (crates) in
theorem tokenOf_pullRespBytes {resp : PullResp} {j : Nat}
    (accepted : PullResp.fromProto profile f j (tokenFor f) = .ok resp) :
    tokenOf (pullRespBytes crates profile f j) = tokenFor f := by
  rw [pullRespBytes_eq accepted rfl, PullResp.tokenOf_toVec crates rfl,
    PullResp.fromProto_token accepted]

variable (crates profile) in
/-- What is done with the answer to the item after some refusals. -/
theorem acknowledge_entryOf {rs : List Gw.TxAckStatus} (within : rs.length < f.items.length)
    (pl : TxAck) (expire : Nat) :
    acknowledge crates profile pl (entryOf f rs expire) =
      if (entryOf f rs expire).Final pl.toProtoTxAckStatus then do
        State.countDownlink crates f (ackOf f rs pl)
        sendTxAck (ackOf f rs pl)
      else sendDownlinkFrame crates profile f (acksOf f (rs ++ [pl.toProtoTxAckStatus]))
        (rs.length + 1) := by
  have bound : (entryOf f rs expire).index < (entryOf f rs expire).ackItems.length := by
    rw [entryOf, acksOf_length (Nat.le_of_lt within)]
    exact within
  rw [acknowledge_eq crates profile bound, ack_entryOf within, answered_entryOf within]
  rfl

section

variable {β : Type} {i : Thread} {action : Env → State → Reply β State Effect}
  {next : β → Task Unit} {rs : List Gw.TxAckStatus} {pl : TxAck} {e : Env}

attribute [local simp] Course.exec Phase.owner shots Phase.pending Phase.inFlight
  Effect.about Effect.shot? Prog.bind

/-- The entry goes into the cache. -/
theorem Sim.exec_insert {j : Thread} {expire : Nat} (sim : Sim crates profile f c net)
    (here : c.phase = .insert j rs expire)
    (acts : c.phase.owner crates profile f = some (i, .act action next)) :
    Sim crates profile f (c.exec crates profile f e)
      (net.exec (tokenFor f) i action next e) := by
  have addr := sim.addr
  have keyed := sim.keyed.set (entryOf f rs expire)
  obtain ⟨phase, slot', addr', answers, trace⟩ := c
  subst here
  cases acts
  cases accepted : PullResp.fromProto profile f rs.length (tokenFor f) with
  | ok resp =>
      refine sim.own rfl ?_ ?_ addr ?_ ?_ keyed ?_ ?_ (.inl ?_)
      all_goals simp [accepted, sendPullResp]
  | err message =>
      refine sim.own rfl ?_ ?_ addr ?_ ?_ keyed ?_ ?_ (.inr ?_)
      all_goals simp [accepted, sendPullResp]
  | panic cause =>
      refine sim.own rfl ?_ ?_ addr ?_ ?_ keyed ?_ ?_ (.inr ?_)
      all_goals simp [accepted, sendPullResp]

/-- The address of the packet forwarder is read. -/
theorem Sim.exec_address {j : Thread} {resp : PullResp} (sim : Sim crates profile f c net)
    (here : c.phase = .address j rs resp)
    (accepted : PullResp.fromProto profile f rs.length (tokenFor f) = .ok resp)
    (acts : c.phase.owner crates profile f = some (i, .act action next)) :
    Sim crates profile f (c.exec crates profile f e)
      (net.exec (tokenFor f) i action next e) := by
  have slot := sim.slot
  have addr := sim.addr
  have bytes : pullRespBytes crates profile f rs.length = _ := pullRespBytes_eq accepted rfl
  obtain ⟨phase, slot', addr', answers, trace⟩ := c
  subst here
  cases acts
  cases addr' with
  | some known =>
      refine sim.own rfl ?_ slot addr ?_ ?_ sim.keyed ?_ ?_ (.inl ?_)
      all_goals simp [addr, Outcome.okOr, bytes, PullResp.toVec]
  | none =>
      refine sim.own rfl ?_ slot addr ?_ ?_ sim.keyed ?_ ?_ (.inr ?_)
      all_goals simp [addr, Outcome.okOr]

/-- The PULL_RESP is sent. -/
theorem Sim.exec_send {j : Thread} {target : SocketAddr} {resp : PullResp}
    (sim : Sim crates profile f c net) (here : c.phase = .send j rs target)
    (accepted : PullResp.fromProto profile f rs.length (tokenFor f) = .ok resp)
    (acts : c.phase.owner crates profile f = some (i, .act action next)) :
    Sim crates profile f (c.exec crates profile f e)
      (net.exec (tokenFor f) i action next e) := by
  have slot := sim.slot
  have addr := sim.addr
  have token := tokenOf_pullRespBytes crates accepted
  obtain ⟨phase, slot', addr', answers, trace⟩ := c
  subst here
  cases acts
  cases sends : e.socketSends with
  | true =>
      refine sim.own rfl ?_ ?_ ?_ ?_ ?_ ?_ ?_ ?_ (.inr ?_)
      all_goals simp [sends, slot, addr, token, sim.keyed]
  | false =>
      refine sim.own rfl ?_ ?_ ?_ ?_ ?_ ?_ ?_ ?_ (.inr ?_)
      all_goals simp [sends, slot, addr, sim.keyed]

/-- The cache entry is looked up, and what is done next depends on it. -/
theorem Sim.exec_look (sim : Sim crates profile f c net) (here : c.phase = .look rs pl)
    (within : rs.length < f.items.length) (held : Held f c rs)
    (token : pl.randomToken = tokenFor f)
    (acts : c.phase.owner crates profile f = some (i, .act action next)) :
    Sim crates profile f (c.exec crates profile f e)
      (net.exec (tokenFor f) i action next e) := by
  have slot := sim.slot
  have addr := sim.addr
  obtain ⟨phase, slot', addr', answers, trace⟩ := c
  subst here
  cases acts
  rcases held with gone | ⟨expire, found⟩
  · subst gone
    refine sim.own rfl ?_ ?_ addr ?_ ?_ sim.keyed ?_ ?_ (.inr ?_)
    all_goals simp [slot, token, answerFound, Outcome.okOr]
  · subst found
    have acknowledged := acknowledge_entryOf crates profile within pl expire
    by_cases final : (entryOf f rs expire).Final pl.toProtoTxAckStatus
    · rw [if_pos final] at acknowledged
      refine sim.own rfl ?_ ?_ addr ?_ ?_ sim.keyed ?_ ?_ (.inl ?_)
      all_goals simp [slot, token, answerFound, Outcome.okOr, final, acknowledged]
    · rw [if_neg final] at acknowledged
      refine sim.own rfl ?_ ?_ addr ?_ ?_ sim.keyed ?_ ?_ (.inl ?_)
      all_goals simp [slot, token, answerFound, Outcome.okOr, final, acknowledged]

/-- The downlink is counted. -/
theorem Sim.exec_count (sim : Sim crates profile f c net) (here : c.phase = .count rs pl)
    (acts : c.phase.owner crates profile f = some (i, .act action next)) :
    Sim crates profile f (c.exec crates profile f e)
      (net.exec (tokenFor f) i action next e) := by
  have slot := sim.slot
  have addr := sim.addr
  have counts := Stats.countDownlink_fst crates net.pool.state.stats {} f (ackOf f rs pl)
  obtain ⟨phase, slot', addr', answers, trace⟩ := c
  subst here
  cases acts
  cases counted : (Stats.countDownlink crates {} f (ackOf f rs pl)).1 with
  | ok value =>
      refine sim.own rfl ?_ slot addr ?_ ?_ (sim.keyed.of_cache rfl) ?_ ?_ (.inl ?_)
      all_goals simp [counts, counted]
  | err message =>
      refine sim.own rfl ?_ slot addr ?_ ?_ (sim.keyed.of_cache rfl) ?_ ?_ (.inr ?_)
      all_goals simp [counts, counted]
  | panic cause =>
      refine sim.own rfl ?_ slot addr ?_ ?_ (sim.keyed.of_cache rfl) ?_ ?_ (.inr ?_)
      all_goals simp [counts, counted]

/-- The ack is published. -/
theorem Sim.exec_publish (sim : Sim crates profile f c net) (here : c.phase = .publish rs pl)
    (acts : c.phase.owner crates profile f = some (i, .act action next)) :
    Sim crates profile f (c.exec crates profile f e)
      (net.exec (tokenFor f) i action next e) := by
  have slot := sim.slot
  have addr := sim.addr
  have token : (ackOf f rs pl).downlinkId.toUInt16 = tokenFor f := rfl
  obtain ⟨phase, slot', addr', answers, trace⟩ := c
  subst here
  cases acts
  cases room : e.channel with
  | room =>
      refine sim.own rfl ?_ ?_ ?_ ?_ ?_ ?_ ?_ ?_ (.inr ?_)
      all_goals simp [room, slot, addr, sim.keyed, token]
  | full =>
      refine sim.own rfl ?_ ?_ ?_ ?_ ?_ ?_ ?_ ?_ (.inr ?_)
      all_goals simp [room, slot, addr, sim.keyed]
  | unset =>
      refine sim.own rfl ?_ ?_ ?_ ?_ ?_ ?_ ?_ ?_ (.inr ?_)
      all_goals simp [room, slot, addr, sim.keyed]

/-- The next action of the thread that works on the downlink is the next action of the
machine. -/
theorem Sim.exec {p : Task Unit} (sim : Sim crates profile f c net) (inv : c.Inv crates profile f)
    (owned : c.phase.owner crates profile f = some (i, p))
    (current : net.pool.threads i = .act action next) (e : Env) :
    Sim crates profile f (c.exec crates profile f e)
      (net.exec (tokenFor f) i action next e) := by
  rw [sim.owner i p owned] at current
  subst current
  unfold Course.Inv at inv
  cases here : c.phase with
  | attempt j rs =>
      obtain ⟨phase, slot', addr', answers, trace⟩ := c
      subst here
      cases owned
      exact sim.own rfl (by simp) sim.slot sim.addr rfl (List.append_nil _).symm sim.keyed
        rfl rfl (.inl rfl)
  | insert j rs expire => exact sim.exec_insert here owned
  | address j rs resp =>
      rw [here] at inv
      exact sim.exec_address here inv.2.2.2.2 owned
  | send j rs target =>
      rw [here] at inv
      obtain ⟨resp, accepted⟩ := inv.2.2.2.2
      exact sim.exec_send here accepted owned
  | clean rs pl =>
      have slot := sim.slot
      have keyed := sim.keyed.retain e.now
      obtain ⟨phase, slot', addr', answers, trace⟩ := c
      subst here
      cases owned
      refine sim.own rfl ?_ ?_ sim.addr ?_ ?_ keyed ?_ ?_ (.inl rfl)
      all_goals simp [State.retain, slot, unexpired]
  | look rs pl =>
      rw [here] at inv
      exact sim.exec_look here inv.2.1 inv.2.2.2.1 inv.2.2.2.2 owned
  | count rs pl => exact sim.exec_count here owned
  | publish rs pl => exact sim.exec_publish here owned
  | _ =>
      rw [here] at owned
      cases owned

end

/-! ## Other steps -/

/-- An action of any other thread at most drops the entry or changes the address. -/
theorem Sim.exec_other {β : Type} {i : Thread} {action : Env → State → Reply β State Effect}
    {next : β → Task Unit} {e : Env} (sim : Sim crates profile f c net)
    (current : net.pool.threads i = .act action next)
    (other : ∀ p, c.phase.owner crates profile f ≠ some (i, p))
    (keyed : Keyed (action e net.pool.state).state)
    (apart : Apart (tokenFor f) i e net.pool.state (action e net.pool.state).state
      (action e net.pool.state).effects)
    (rest : Foreign (tokenFor f) i (next (action e net.pool.state).value)) :
    Sim crates profile f
      { c with
        slot := (action e net.pool.state).state.downlinkCache (tokenFor f)
        addr := (action e net.pool.state).state.pullAddr }
      (net.exec (tokenFor f) i action next e) := by
  have nothing : (action e net.pool.state).effects.filter (Effect.about (tokenFor f)) = [] :=
    List.filter_eq_nil_iff.mpr fun o member => by simp [apart.effects o member]
  have elsewhere : ∀ j p, c.phase.owner crates profile f = some (j, p) → j ≠ i := by
    rintro j p owned rfl
    exact other p owned
  refine ⟨rfl, rfl, sim.answers, ?_, keyed, sim.commanded, ?_, sim.inFlight, sim.datagrams,
    ?_, sim.job, ?_, ?_⟩
  · exact (List.filter_append ..).trans (by rw [nothing, List.append_nil]; exact sim.trace)
  · simp only [Net.exec, shots, nothing, List.filterMap_nil, List.append_nil]
    exact sim.pending
  · intro j p owned
    simp only [Net.exec, Pool.exec_threads_of_ne (elsewhere j p owned)]
    exact sim.owner j p owned
  · intro j unowned
    by_cases same : j = i
    · subst same
      simp only [Net.exec, Pool.exec_threads_self]
      exact rest
    · simp only [Net.exec, Pool.exec_threads_of_ne same]
      exact sim.others j unowned
  · intro j r job own unowned
    by_cases same : j = i
    · subst same
      obtain ⟨result, done, _⟩ := sim.rests j r job own unowned
      rw [current] at done
      cases done
    · simp only [Net.exec, Pool.exec_threads_of_ne same]
      exact sim.rests j r job own unowned

/-- A request that has nothing to do with the downlink. -/
theorem Sim.start_other {i : Thread} {r : Request} (sim : Sim crates profile f c net)
    (free : (net.pool.threads i).Finished) (admitted : admits (fun _ => True) i r)
    (stray : Stray crates (tokenFor f) r) :
    Sim crates profile f c (net.start i r (program crates profile conf i r)) := by
  have elsewhere : ∀ j p, c.phase.owner crates profile f = some (j, p) → j ≠ i := by
    rintro j p owned rfl
    rw [sim.owner j p owned] at free
    exact Phase.owner_not_finished owned free
  refine ⟨sim.slot, sim.addr, sim.answers, sim.trace, sim.keyed, sim.commanded, sim.pending,
    sim.inFlight, sim.datagrams, ?_, ?_, ?_, ?_⟩
  · intro j p owned
    simp only [Net.start, Pool.start_threads_of_ne (elsewhere j p owned)]
    exact sim.owner j p owned
  · intro j p owned
    simp only [Net.start, Pool.start, Function.update_of_ne (elsewhere j p owned)]
    exact sim.job j p owned
  · intro j unowned
    by_cases same : j = i
    · subst same
      simp only [Net.start, Pool.start_threads_self]
      exact program_foreign stray admitted
    · simp only [Net.start, Pool.start_threads_of_ne same]
      exact sim.others j unowned
  · intro j q job own unowned
    by_cases same : j = i
    · subst same
      simp only [Net.start, Pool.start, Function.update_self, Option.some.injEq] at job
      exact absurd (job ▸ stray) own
    · simp only [Net.start, Pool.start, Function.update_of_ne same] at job ⊢
      exact sim.rests j q job own unowned

/-- A request that makes a free thread work on the downlink. -/
theorem Sim.start_own {i : Thread} {r : Request} {p : Task Unit} {inFlight : List Answer}
    (sim : Sim crates profile f c net) {phase : Phase}
    (free : c.phase.owner crates profile f = none) (goesOn : c.phase ≠ .ended false)
    (owned : phase.owner crates profile f = some (i, p))
    (own : ¬ Stray crates (tokenFor f) r) (pending : c.phase.pending f = [])
    (none : phase.pending f = []) (empty : inFlight = phase.inFlight)
    (fewer : ∀ answer ∈ inFlight, answer ∈ net.inFlight)
    {commanded : List Gw.DownlinkFrame} (asked : f ∈ commanded) :
    Sim crates profile f { c with phase } { net.start i r p with commanded, inFlight } := by
  have unowned : ∀ j q, c.phase.owner crates profile f ≠ some (j, q) := by simp [free]
  refine ⟨sim.slot, sim.addr, sim.answers, sim.trace, sim.keyed, ?_, ?_, empty, ?_, ?_, ?_, ?_, ?_⟩
  · exact iff_of_true asked (Phase.ne_idle_of_owner owned)
  · exact sim.pending.trans (pending.trans none.symm)
  · exact fun answer member => sim.datagrams answer (fewer answer member)
  · intro j q owned'
    rw [owned, Option.some.injEq, Prod.mk.injEq] at owned'
    obtain ⟨rfl, rfl⟩ := owned'
    exact Pool.start_threads_self
  · intro j q owned'
    rw [owned, Option.some.injEq, Prod.mk.injEq] at owned'
    obtain ⟨rfl, rfl⟩ := owned'
    exact ⟨r, Function.update_self .., own⟩
  · intro j unowned'
    have other : j ≠ i := fun same => unowned' p (same ▸ owned)
    simp only [Net.start, Pool.start_threads_of_ne other]
    exact sim.others j (unowned j)
  · intro j q job own unowned'
    have other : j ≠ i := fun same => unowned' p (same ▸ owned)
    simp only [Net.start, Pool.start, Function.update_of_ne other] at job ⊢
    obtain ⟨result, done, finished⟩ := sim.rests j q job own (unowned j)
    exact ⟨result, done, fun _ => finished goesOn⟩

/-- A datagram is answered or lost while no thread works on the downlink. -/
theorem Sim.await {phase : Phase} {answers produced inFlight : List Answer}
    {pending : List Shot} (sim : Sim crates profile f c net)
    (free : c.phase.owner crates profile f = none) (begun : c.phase ≠ .idle)
    (goesOn : c.phase ≠ .ended false)
    (still : phase.owner crates profile f = none) (goes : phase ≠ .idle)
    (same : produced = answers) (waiting : pending = phase.pending f)
    (arriving : inFlight = phase.inFlight)
    (datagrams : ∀ answer ∈ inFlight, Answers crates (tokenFor f) answer.data answer.status) :
    Sim crates profile f { c with phase, answers } { net with pending, inFlight, produced } := by
  refine ⟨sim.slot, sim.addr, same, sim.trace, sim.keyed, ?_, waiting, arriving, datagrams,
    ?_, ?_, ?_, ?_⟩
  · exact iff_of_true (sim.commanded.mpr begun) goes
  · intro j q owned
    rw [still] at owned
    cases owned
  · intro j q owned
    rw [still] at owned
    cases owned
  · exact fun j _ => sim.others j (by simp [free])
  · intro j r job own _
    obtain ⟨result, done, finished⟩ := sim.rests j r job own (by simp [free])
    exact ⟨result, done, fun _ => finished goesOn⟩

theorem Phase.pending_eq {phase : Phase} {before after : List Shot} {shot : Shot}
    (waiting : phase.pending f = before ++ shot :: after) :
    ∃ rs, phase = .waiting rs ∧ shot = ⟨f, rs.length⟩ ∧ before ++ after = [] := by
  cases phase with
  | waiting rs =>
      cases before with
      | nil =>
          simp only [Phase.pending, List.nil_append, List.cons.injEq] at waiting
          exact ⟨rs, rfl, waiting.1.symm, waiting.2.symm⟩
      | cons first rest => simp [Phase.pending] at waiting
  | _ => simp [Phase.pending] at waiting

theorem Phase.inFlight_eq {phase : Phase} {before after : List Answer} {answer : Answer}
    (arrives : phase.inFlight = before ++ answer :: after) :
    ∃ rs, phase = .answered rs answer ∧ before ++ after = [] := by
  cases phase with
  | answered rs answer =>
      cases before with
      | nil =>
          simp only [Phase.inFlight, List.nil_append, List.cons.injEq] at arrives
          exact ⟨rs, arrives.1 ▸ rfl, arrives.2.symm⟩
      | cons first rest => simp [Phase.inFlight] at arrives
  | _ => simp [Phase.inFlight] at arrives

/-- A task takes the command. -/
theorem Sim.command (sim : Sim crates profile f c net) (idle : c.phase = .idle) (n : Nat) :
    Sim crates profile f { c with phase := .attempt (.command n) [] }
      { net.start (.command n) (.command f)
          (program crates profile conf (.command n) (.command f)) with
        commanded := net.commanded ++ [f] } := by
  have owned : Phase.owner crates profile f (.attempt (.command n) []) =
      some (.command n, program crates profile conf (.command n) (.command f)) := by
    simp only [Phase.owner, acksOf_nil]
    rfl
  have own : ¬ Stray crates (tokenFor f) (.command f) := fun stray => stray rfl
  have quiet := sim.inFlight
  rw [idle] at quiet
  refine sim.start_own ?_ ?_ owned own ?_ rfl quiet (fun _ => id) ?_
  · rw [idle]
    rfl
  · simp [idle]
  · rw [idle]
    rfl
  · simp

/-- The packet forwarder answers the PULL_RESP. -/
theorem Sim.answer {rs : List Gw.TxAckStatus} {answer : Answer} {left : List Shot}
    (sim : Sim crates profile f c net) (waits : c.phase = .waiting rs)
    (answers : Answers crates (tokenFor f) answer.data answer.status) (none : left = []) :
    Sim crates profile f
      { c with phase := .answered rs answer, answers := c.answers ++ [answer] }
      { net with
        pending := left
        inFlight := net.inFlight ++ [answer]
        produced := net.produced ++ [answer] } := by
  have quiet := sim.inFlight
  rw [waits] at quiet
  refine sim.await ?_ ?_ ?_ rfl ?_ ?_ none ?_ ?_
  · rw [waits]
    rfl
  · simp [waits]
  · simp [waits]
  · simp
  · rw [sim.answers]
  · rw [quiet]
    rfl
  · rw [quiet]
    intro other member
    rw [List.mem_singleton.mp member]
    exact answers

/-- The receive loop receives the TX_ACK. -/
theorem Sim.deliver {rs : List Gw.TxAckStatus} {answer : Answer} {left : List Answer}
    (sim : Sim crates profile f c net) (answered : c.phase = .answered rs answer)
    (marked : answer.data[3]? = some 0x05) {pl : TxAck}
    (read : TxAck.fromSlice crates answer.data = .ok pl) (token : pl.randomToken = tokenFor f)
    (remote : SocketAddr) (none : left = []) :
    Sim crates profile f { c with phase := .clean rs pl }
      { net.start .udp (.datagram answer.data remote)
          (program crates profile conf .udp (.datagram answer.data remote)) with
        inFlight := left } := by
  have owned : Phase.owner crates profile f (.clean rs pl) = some (.udp,
      program crates profile conf .udp (.datagram answer.data remote)) := by
    simp only [Phase.owner, program, receive, marked, handleTxAck, read]
    rfl
  have own : ¬ Stray crates (tokenFor f) (.datagram answer.data remote) :=
    fun stray => stray pl read token
  refine sim.start_own ?_ ?_ owned own ?_ rfl none ?_ ?_
  · rw [answered]
    rfl
  · simp [answered]
  · rw [answered]
    rfl
  · rw [none]
    exact fun _ member => absurd member List.not_mem_nil
  · exact sim.commanded.mpr (by simp [answered])

/-- Every step of the net is a step of the machine. -/
theorem Sim.step {A : Course → Env → Prop} (sim : Sim crates profile f c net)
    (inv : c.Inv crates profile f) (only : ∀ g, tokenFor g = tokenFor f → rules.commands g → g = f)
    (single : ¬ rules.duplicates)
    (allows : ∀ e, rules.allows net e → A c e)
    (step : Net.Step crates profile conf (tokenFor f) rules net net') :
    ∃ c', Course.Step crates profile f A rules.loses c c' ∧ Sim crates profile f c' net' := by
  cases step with
  | @exec β i action next e current allowed =>
      by_cases owned : ∃ p, c.phase.owner crates profile f = some (i, p)
      · obtain ⟨p, owned⟩ := owned
        exact ⟨_, .exec e (by rw [owned]; rfl) (allows e allowed), sim.exec inv owned current e⟩
      · have other : ∀ p, c.phase.owner crates profile f ≠ some (i, p) :=
          fun p same => owned ⟨p, same⟩
        have foreign := sim.others i other
        rw [current] at foreign
        obtain ⟨keyed, apart, rest⟩ := foreign.step e sim.keyed
        have after := sim.exec_other current other keyed apart rest
        cases i with
        | udp =>
            refine ⟨_, .drift e _ _ other (allows e allowed) ?_ ?_, after⟩
            · rw [← sim.slot]
              exact apart.slot.imp_right fun retained => retained.2
            · rw [← sim.addr]
              exact apart.addr.imp_right fun new => new.2
        | command n =>
            refine ⟨c, .stay, ?_⟩
            have slot := apart.slot.resolve_right fun udp => by cases udp.1
            have addr := apart.addr.resolve_right fun udp => by cases udp.1
            rw [slot, addr, sim.slot, sim.addr] at after
            exact after
  | command n g free own once allowed =>
      obtain rfl : g = f := only g own allowed
      have idle : c.phase = .idle := by
        by_contra begun
        exact once (sim.commanded.mpr begun)
      exact ⟨_, .start n idle, sim.command idle n⟩
  | other i r free admitted stray allowed =>
      exact ⟨c, .stay, sim.start_other free admitted stray⟩
  | @answer before after answer waiting answers allowed =>
      rw [sim.pending] at waiting
      obtain ⟨rs, waits, shot, rest⟩ := Phase.pending_eq waiting
      obtain ⟨marked, pl, read, token, status⟩ := answers
      refine ⟨_, .answer answer waits shot ⟨marked, pl, read, token, status⟩, ?_⟩
      exact sim.answer waits ⟨marked, pl, read, token, status⟩ rest
  | @deliver before after answer remote arrives free =>
      obtain ⟨marked, pl, read, token, status⟩ := sim.datagrams answer (arrives ▸ by simp)
      rw [sim.inFlight] at arrives
      obtain ⟨rs, answered, rest⟩ := Phase.inFlight_eq arrives
      exact ⟨_, .deliver pl answered marked read token status,
        sim.deliver answered marked read token remote rest⟩
  | @losePullResp before after shot waiting allowed =>
      rw [sim.pending] at waiting
      obtain ⟨rs, waits, _, rest⟩ := Phase.pending_eq waiting
      refine ⟨_, .lose (.inl ⟨rs, waits⟩) allowed, ?_⟩
      refine sim.await ?_ ?_ ?_ rfl ?_ sim.answers rest ?_ sim.datagrams
      · rw [waits]
        rfl
      · simp [waits]
      · simp [waits]
      · simp
      · rw [sim.inFlight, waits]
        rfl
  | @loseTxAck before after answer arrives allowed =>
      rw [sim.inFlight] at arrives
      obtain ⟨rs, answered, rest⟩ := Phase.inFlight_eq arrives
      refine ⟨_, .lose (.inr ⟨rs, answer, answered⟩) allowed, ?_⟩
      refine sim.await ?_ ?_ ?_ rfl ?_ sim.answers ?_ rest ?_
      · rw [answered]
        rfl
      · simp [answered]
      · simp [answered]
      · simp
      · rw [sim.pending, answered]
        rfl
      · rw [rest]
        exact fun _ member => absurd member List.not_mem_nil
  | duplicate answer arrives allowed => exact absurd allowed single

/-- Every run of the net is a run of the machine. -/
theorem Sim.run {A : Course → Env → Prop} (sim : Sim crates profile f c net)
    (inv : c.Inv crates profile f) (only : ∀ g, tokenFor g = tokenFor f → rules.commands g → g = f)
    (single : ¬ rules.duplicates)
    (allows : ∀ c net e, Sim crates profile f c net → rules.allows net e → A c e)
    (run : Net.Run crates profile conf (tokenFor f) rules net net') :
    ∃ c', Relation.ReflTransGen (Course.Step crates profile f A rules.loses) c c' ∧
      c'.Inv crates profile f ∧ Sim crates profile f c' net' := by
  induction run with
  | refl => exact ⟨c, .refl, inv, sim⟩
  | tail _ step ih =>
      obtain ⟨c', before, inv', sim'⟩ := ih
      obtain ⟨c'', now, sim''⟩ := sim'.step inv' only single (fun e => allows c' _ e sim') step
      exact ⟨c'', before.tail now, inv'.step now, sim''⟩

/-! ## Where a run may begin -/

/-- No downlink with the token of `f` is in flight; anything else may be. -/
structure Net.Quiet (crates : Crates) (f : Gw.DownlinkFrame) (net : Net) : Prop where
  commanded : net.commanded = []
  pending : net.pending = []
  inFlight : net.inFlight = []
  produced : net.produced = []
  log : net.pool.log = []
  keyed : Keyed net.pool.state
  others : ∀ i, Foreign (tokenFor f) i (net.pool.threads i)
  rests : ∀ i r, net.pool.job i = some r → ¬ Stray crates (tokenFor f) r →
    (net.pool.threads i).Finished

theorem exists_done {p : Task Unit} (finished : p.Finished) : ∃ result, p = .done result := by
  cases p with
  | done result => exact ⟨result, rfl⟩
  | act action next => exact absurd finished id

/-- The machine before the command. -/
def Course.start (f : Gw.DownlinkFrame) (net : Net) : Course where
  phase := .idle
  slot := net.pool.state.downlinkCache (tokenFor f)
  addr := net.pool.state.pullAddr
  answers := []
  trace := []

theorem Course.inv_start (net : Net) : (Course.start f net).Inv crates profile f :=
  ⟨rfl, [], rfl, rfl⟩

theorem Net.Quiet.sim (quiet : net.Quiet crates f) :
    Sim crates profile f (Course.start f net) net where
  slot := rfl
  addr := rfl
  answers := quiet.produced
  trace := by
    rw [Net.trace, quiet.log]
    rfl
  keyed := quiet.keyed
  commanded := by simp [quiet.commanded, Course.start]
  pending := quiet.pending
  inFlight := quiet.inFlight
  datagrams := by
    rw [quiet.inFlight]
    exact fun _ member => absurd member List.not_mem_nil
  owner := fun _ _ owned => by cases owned
  job := fun _ _ owned => by cases owned
  others := fun i _ => quiet.others i
  rests := by
    intro i r job own _
    have finished := quiet.rests i r job own
    obtain ⟨result, done⟩ := exists_done finished
    exact ⟨result, done, fun _ => finished⟩

/-- A pool seen from now on. -/
def Net.watch (pool : System) : Net where
  pool := { pool with log := [] }
  commanded := []
  pending := []
  inFlight := []
  produced := []

theorem Reachable.keyed {F : Gw.DownlinkFrame → Prop} {pool : System}
    (reachable : Reachable crates profile conf F pool) : Keyed pool.state :=
  fun token dc found => ((reachable_sound reachable).holds.cache token dc found).token

/-- In a reachable pool, the threads with other requests leave a token alone. -/
theorem Reachable.foreign {F : Gw.DownlinkFrame → Prop} {pool : System} (token : UInt16)
    (reachable : Reachable crates profile conf F pool) {i : Thread} {r : Request}
    (job : pool.job i = some r) (stray : Stray crates token r) :
    Foreign token i (pool.threads i) := by
  induction reachable generalizing i r with
  | refl => cases job
  | tail before step ih =>
      cases step with
      | start j q free admitted =>
          by_cases same : i = j
          · subst same
            simp only [Pool.start, Function.update_self, Option.some.injEq] at job ⊢
            subst job
            refine program_foreign stray ?_
            cases i <;> cases q <;> simp_all [admits]
          · simp only [Pool.start, Function.update_of_ne same] at job ⊢
            exact ih job stray
      | exec j action next e current answer =>
          by_cases same : i = j
          · subst same
            have foreign := ih job stray
            rw [current] at foreign
            rw [Pool.exec_threads_self]
            exact (foreign.step e (Reachable.keyed before)).2.2
          · rw [Pool.exec_threads_of_ne same]
            exact ih job stray

/-- A reachable pool is quiet if every request for the token has been dealt with. -/
theorem Reachable.quiet {F : Gw.DownlinkFrame → Prop} {pool : System}
    (reachable : Reachable crates profile conf F pool)
    (done : ∀ i r, pool.job i = some r → ¬ Stray crates (tokenFor f) r →
      (pool.threads i).Finished) : (Net.watch pool).Quiet crates f where
  commanded := rfl
  pending := rfl
  inFlight := rfl
  produced := rfl
  log := rfl
  keyed := reachable.keyed
  rests := done
  others := by
    intro i
    cases job : pool.job i with
    | none =>
        have jobless := (reachable_sound reachable).jobless i job
        simp only [Net.watch, jobless]
        exact foreign_done _
    | some r =>
        by_cases stray : Stray crates (tokenFor f) r
        · exact reachable.foreign _ job stray
        · have finished := done i r job stray
          obtain ⟨result, ended⟩ := exists_done finished
          simp only [Net.watch, ended]
          exact foreign_done result

variable (crates conf f) in
theorem Net.init_quiet : (Net.init conf).Quiet crates f :=
  (Reachable.init : Reachable crates .release conf (fun _ => True) _).quiet
    fun _ _ impossible => by cases impossible

/-- A run from a quiet net is a run of the machine. -/
theorem Net.Quiet.inv_sim {start : Net} (quiet : start.Quiet crates f)
    (only : ∀ g, tokenFor g = tokenFor f → rules.commands g → g = f) (single : ¬ rules.duplicates)
    (run : Net.Run crates profile conf (tokenFor f) rules start net) :
    ∃ c, c.Inv crates profile f ∧ Sim crates profile f c net := by
  obtain ⟨c, _, inv, sim⟩ := quiet.sim.run (A := fun _ _ => True) (Course.inv_start start) only
    single (fun _ _ _ _ _ => trivial) run
  exact ⟨c, inv, sim⟩

end

end MqttForwarder.SemtechUdp
