import MqttForwarder.Downlink.Delivery
import MqttForwarder.Downlink.Histories
import MqttForwarder.SemtechUdp.Answers

/-!
# Downlinks in flight together

What happens to a downlink between others with other tokens also happens to it
alone.  Erase from a history what the forwarder does for the other requests:
what is left is a history again, with the same answers of the environment at
the same times.  The only trace of the others is an expired entry that is
dropped earlier.  Two frames with the same token are not independent: they
share one cache entry.
-/

namespace MqttForwarder.SemtechUdp

open MqttForwarder.Rust

instance (crates : Crates) (token : UInt16) : (r : Request) → Decidable (Stray crates token r)
  | .command pl => inferInstanceAs (Decidable (tokenFor pl ≠ token))
  | .datagram data _ =>
      match read : TxAck.fromSlice crates data with
      | .ok pl => decidable_of_iff (pl.randomToken ≠ token) (by simp [Stray, read])
      | .err _ => .isTrue fun _ impossible => by simp [read] at impossible
      | .panic _ => .isTrue fun _ impossible => by simp [read] at impossible

/-- The request is a datagram with the identifier of a PULL_DATA. -/
def Request.isPullData : Request → Bool
  | .command _ => false
  | .datagram data _ => data[3]? == some 0x02

/-- The request is the command of the downlink, a TX_ACK with its token, or a PULL_DATA. -/
def Request.concerns (crates : Crates) (f : Gw.DownlinkFrame) (r : Request) : Bool :=
  !decide (Stray crates (tokenFor f) r) || r.isPullData

/-- The event is one of the downlink, of its packet forwarder, or of a PULL_DATA. -/
def Net.Event.concerns (crates : Crates) (f : Gw.DownlinkFrame) : Net.Event → Bool
  | .acted _ serving _ => serving.any (Request.concerns crates f)
  | .took _ r => r.concerns crates f
  | .answered _ => true
  | .received _ _ => true

/-- Only `f` is in flight: apart from its command and the answers to it, the forwarder only
receives PULL_DATA. -/
def Rules.solo (f : Gw.DownlinkFrame) : Rules :=
  { Rules.faithful f with others := fun r => r.isPullData = true }

/-- The frames `f` and `g` may both be commanded, also when they have the same token. -/
def Rules.pair (f g : Gw.DownlinkFrame) : Rules :=
  { Rules.faithful f with commands := fun h => h = f ∨ h = g }

/-- A PULL_RESP for the frame, or its ack. -/
def Effect.isOutputOf (f : Gw.DownlinkFrame) : Effect → Bool
  | .pullResp frame _ _ _ => frame == f
  | .event (.ack ack) => ack.downlinkId == f.downlinkId
  | _ => false

/-- The PULL_RESPs that have been sent for the frame, and the acks published for it. -/
def Net.outputs (f : Gw.DownlinkFrame) (net : Net) : List Effect :=
  (net.trace (tokenFor f)).filter (Effect.isOutputOf f)

section

variable {crates : Crates} {profile : Profile} {conf : Conf} {f : Gw.DownlinkFrame} {r : Request}

theorem Request.stray_of_isPullData (pullData : r.isPullData = true) (token : UInt16) :
    Stray crates token r := by
  cases r with
  | command pl => cases pullData
  | datagram data remote =>
      intro pl read
      have identifier := (TxAck.headed read).identifier
      rw [Request.isPullData, identifier] at pullData
      cases pullData

theorem Request.concerns_of_own (own : ¬ Stray crates (tokenFor f) r) :
    r.concerns crates f = true := by
  simp [Request.concerns, own]

theorem Request.concerns_of_isPullData (pullData : r.isPullData = true) :
    r.concerns crates f = true := by
  simp [Request.concerns, pullData]

theorem Request.isPullData_of_concerns (concerns : r.concerns crates f = true)
    (stray : Stray crates (tokenFor f) r) : r.isPullData = true := by
  simpa [Request.concerns, stray] using concerns

/-! ## What others do to the address -/

/-- The action leaves the address of the packet forwarder as it is. -/
def KeepsAddr (_ : Env) (s s' : State) (_ : List Effect) : Prop := s'.pullAddr = s.pullAddr

theorem pushData_keepsAddr : PushDataActions crates KeepsAddr where
  idle := fun _ _ => rfl
  pushAck := fun _ _ => sendTo_guarantees (fun _ _ => rfl) fun _ _ => rfl
  countUplink := fun _ => Prog.guarantees_attempt fun _ _ => rfl
  up := fun _ => trySend_guarantees (fun _ _ => rfl) fun _ _ _ => rfl
  exportStats := Prog.guarantees_attempt fun _ _ => rfl
  stats := fun _ => trySend_guarantees (fun _ _ => rfl) fun _ _ _ => rfl

theorem txAck_keepsAddr : TxAckActions crates KeepsAddr where
  idle := fun _ _ => rfl
  setDownlinkCache := fun _ _ => Prog.guarantees_atomically fun _ _ => rfl
  pullResp := fun _ _ _ _ => sendTo_guarantees (fun _ _ => rfl) fun _ _ => rfl
  cleanDownlinkCache := Prog.guarantees_atomically fun _ _ => rfl
  readDownlinkCache := fun _ => Prog.guarantees_atomically fun _ _ => rfl
  countDownlink := fun _ _ => Prog.guarantees_attempt fun _ _ => rfl
  ack := fun _ => trySend_guarantees (fun _ _ => rfl) fun _ _ _ => rfl

/-- Only a PULL_DATA changes the address. -/
theorem program_keepsAddr (i : Thread) (other : r.isPullData = false) :
    (program crates profile conf i r).Guarantees KeepsAddr := by
  cases r with
  | command pl =>
      have actions : TxAckActions crates KeepsAddr := txAck_keepsAddr
      exact sendDownlinkFrame_guarantees actions.toDownlinkActions _ _ _
  | datagram data remote =>
      have handled : (receive crates profile conf data remote).Guarantees KeepsAddr := by
        unfold receive
        split
        · trivial
        · exact handlePushData_guarantees pushData_keepsAddr data remote
        · next pullData => simp [Request.isPullData, pullData] at other
        · exact handleTxAck_guarantees txAck_keepsAddr data
        · trivial
      exact handled

/-- Whatever else is in the state, the program does the same, and leaves the cache as it is. -/
def Blind : Task Unit → Prop
  | .done _ => True
  | .act action next => ∀ e s s', s'.pullAddr = s.pullAddr →
      (action e s').value = (action e s).value ∧
        (action e s').state.pullAddr = (action e s).state.pullAddr ∧
        (action e s).state.downlinkCache = s.downlinkCache ∧ Blind (next (action e s).value)

/-- A PULL_DATA is handled in the same way in every state. -/
theorem program_blind (i : Thread) (pullData : r.isPullData = true) :
    Blind (program crates profile conf i r) := by
  cases r with
  | command pl => cases pullData
  | datagram data remote =>
      have identifier : data[3]? = some 0x02 := by simpa [Request.isPullData] using pullData
      simp only [program, receive, identifier, handlePullData]
      cases PullData.fromSlice data with
      | err message => trivial
      | panic cause => trivial
      | ok pl =>
          intro e s s' addr
          cases sends : e.socketSends with
          | false =>
              simp only [sends, Bool.false_eq_true, if_false]
              exact ⟨trivial, addr, trivial, trivial⟩
          | true =>
              simp only [sends, if_true]
              exact ⟨trivial, addr, trivial, fun _ _ _ addr => ⟨rfl, addr, rfl, fun _ _ _ _ =>
                ⟨rfl, rfl, rfl, trivial⟩⟩⟩

end

/-! ## A course followed alone -/

/-- The forwarder alone may still hold an entry that the others have dropped, but one that has
expired by now, and not when the entry is about to be read. -/
structure Course.Lag (c : Course) (now : Nat) (slot : Option DownlinkCache) : Prop where
  behind : c.slot = slot ∨ c.slot = none ∧ unexpired now slot = none
  look : ∀ rs pl, c.phase = .look rs pl → c.slot = slot

/-- The actions that use the entry in the cache. -/
def Phase.usesSlot : Phase → Bool
  | insert _ _ _ => true
  | clean _ _ => true
  | look _ _ => true
  | _ => false

/-- What concerns the downlink is done in `pool'` as in `pool`, and the rest is not done there. -/
structure Erased (crates : Crates) (f : Gw.DownlinkFrame) (pool pool' : System) : Prop where
  kept : ∀ i r, pool.job i = some r → r.concerns crates f = true →
    pool'.job i = some r ∧ pool'.threads i = pool.threads i
  blind : ∀ i r, pool.job i = some r → r.isPullData = true → Blind (pool.threads i)
  gone : ∀ i, (∀ r, pool.job i = some r → r.concerns crates f = false) →
    (pool.threads i).Guarantees KeepsAddr ∧ (pool'.threads i).Finished

/-- A history has led to `net`, and what in it concerns the downlink has led to `net'`. -/
structure Alone (crates : Crates) (profile : Profile) (f : Gw.DownlinkFrame) (c : Course)
    (now : Nat) (slot : Option DownlinkCache) (net net' : Net) : Prop where
  sim : Sim crates profile f c net
  inv : c.Inv crates profile f
  sim' : Sim crates profile f { c with slot } net'
  inv' : Course.Inv crates profile f { c with slot }
  lag : c.Lag now slot
  erased : Erased crates f net.pool net'.pool

section

variable {crates : Crates} {profile : Profile} {conf : Conf} {f g : Gw.DownlinkFrame}
  {c : Course} {slot : Option DownlinkCache} {net net' : Net} {now time : Nat} {r : Request}

theorem unexpired_none_of_le {slot : Option DownlinkCache} (gone : unexpired now slot = none)
    (le : now ≤ time) : unexpired time slot = none := by
  cases slot with
  | none => rfl
  | some dc =>
      have expired : dc.expire < now := by simpa [unexpired, Option.filter_some] using gone
      simp [unexpired, Option.filter_some, Nat.lt_of_lt_of_le expired le]

theorem Course.Lag.mono (lag : c.Lag now slot) (le : now ≤ time) : c.Lag time slot :=
  ⟨lag.behind.imp_right fun gone => ⟨gone.1, unexpired_none_of_le gone.2 le⟩, lag.look⟩

/-- An action that does not use the entry goes on in the same way without the others. -/
theorem Course.exec_unused (unused : c.phase.usesSlot = false) (e : Env)
    (slot : Option DownlinkCache) :
    Course.exec crates profile f e { c with slot } =
        { c.exec crates profile f e with slot } ∧
      (c.exec crates profile f e).slot = c.slot ∧
      ∀ rs pl, (c.exec crates profile f e).phase = .look rs pl → c.phase = .look rs pl := by
  obtain ⟨phase, held, addr, answers, trace⟩ := c
  cases phase with
  | insert i rs expire => cases unused
  | clean rs pl => cases unused
  | look rs pl => cases unused
  | idle => exact ⟨rfl, rfl, fun _ _ look => look⟩
  | waiting rs => exact ⟨rfl, rfl, fun _ _ look => look⟩
  | answered rs answer => exact ⟨rfl, rfl, fun _ _ look => look⟩
  | ended published => exact ⟨rfl, rfl, fun _ _ look => look⟩
  | attempt i rs => exact ⟨rfl, rfl, fun _ _ look => by cases look⟩
  | address i rs resp =>
      refine ⟨rfl, rfl, fun rs' pl look => ?_⟩
      cases addr with
      | some known => cases look
      | none => cases look
  | send i rs target =>
      cases sends : e.socketSends with
      | true => simp [Course.exec, sends]
      | false => simp [Course.exec, sends]
  | count rs pl =>
      refine ⟨rfl, rfl, fun rs' pl' look => ?_⟩
      simp only [Course.exec] at look
      split at look
      · cases look
      · cases look
  | publish rs pl =>
      by_cases room : e.channel = .room
      · simp [Course.exec, room]
      · simp [Course.exec, room]

/-- The next action goes on in the same way without the others, with the same answer of the
environment. -/
theorem Course.Lag.exec (lag : c.Lag now slot) {e : Env} (le : now ≤ e.now) :
    ∃ slot', Course.exec crates profile f e { c with slot } =
        { c.exec crates profile f e with slot := slot' } ∧
      (c.exec crates profile f e).Lag e.now slot' := by
  cases used : c.phase.usesSlot with
  | false =>
      obtain ⟨same, kept, unread⟩ := Course.exec_unused used e slot
      refine ⟨slot, same, kept ▸ (lag.mono le).behind, fun rs pl look => ?_⟩
      rw [kept]
      exact lag.look rs pl (unread rs pl look)
  | true =>
      obtain ⟨phase, held, addr, answers, trace⟩ := c
      have behind := (lag.mono le).behind
      cases phase with
      | insert i rs expire => exact ⟨_, rfl, .inl rfl, fun _ _ _ => rfl⟩
      | clean rs pl =>
          have cleaned : unexpired e.now held = unexpired e.now slot := by
            rcases behind with same | ⟨none, gone⟩
            · exact congrArg (unexpired e.now) same
            · dsimp only at none
              rw [none, gone]
              rfl
          exact ⟨_, rfl, .inl cleaned, fun _ _ _ => cleaned⟩
      | look rs pl =>
          have same : held = slot := lag.look rs pl rfl
          subst same
          exact ⟨_, rfl, .inl rfl, fun _ _ _ => rfl⟩
      | _ => cases used

/-- What the next action on the downlink gives to its thread depends on the address and on the
entry that is read, and on nothing else in the state. -/
theorem Phase.owner_value {phase : Phase} {i : Thread} {β : Type}
    {action : Env → State → Reply β State Effect} {next : β → Task Unit}
    (owned : phase.owner crates profile f = some (i, .act action next)) (e : Env) {s s' : State}
    (addr : s'.pullAddr = s.pullAddr)
    (read : ∀ rs pl, phase = .look rs pl →
      s'.downlinkCache pl.randomToken = s.downlinkCache pl.randomToken) :
    (action e s').value = (action e s).value := by
  cases phase with
  | idle => cases owned
  | waiting rs => cases owned
  | answered rs answer => cases owned
  | ended published => cases owned
  | attempt j rs =>
      cases owned
      rfl
  | insert j rs expire =>
      cases owned
      rfl
  | clean rs pl =>
      cases owned
      rfl
  | address j rs resp =>
      cases owned
      simp [addr]
  | send j rs target =>
      cases owned
      cases sends : e.socketSends with
      | true => simp [sends]
      | false => simp [sends]
  | look rs pl =>
      cases owned
      exact read rs pl rfl
  | count rs pl =>
      cases owned
      have counts := Stats.countDownlink_fst crates
      simp [counts s.stats s'.stats]
  | publish rs pl =>
      cases owned
      cases room : e.channel with
      | room => simp [room]
      | full => simp [room]
      | unset => simp [room]

section

variable {pool pool' : System} {i : Thread} {p : Task Unit}

variable (crates conf f) in
theorem erased_init : Erased crates f (Net.init conf).pool (Net.init conf).pool where
  kept := fun _ _ job => by cases job
  blind := fun _ _ job => by cases job
  gone := fun _ _ => ⟨trivial, trivial⟩

/-- A thread that is free in the pool with the others is free in the other one. -/
theorem Erased.free (erased : Erased crates f pool pool') (free : (pool.threads i).Finished) :
    (pool'.threads i).Finished := by
  by_cases works : ∃ r, pool.job i = some r ∧ r.concerns crates f = true
  · obtain ⟨r, job, concerns⟩ := works
    rw [(erased.kept i r job concerns).2]
    exact free
  · refine (erased.gone i fun r job => ?_).2
    exact Bool.eq_false_iff.mpr fun concerns => works ⟨r, job, concerns⟩

/-- A thread that concerns the downlink does the same action in both pools. -/
theorem Erased.both {β : Type} {action : Env → State → Reply β State Effect}
    {next : β → Task Unit} {e : Env} (erased : Erased crates f pool pool')
    (job : pool.job i = some r) (concerns : r.concerns crates f = true)
    (value : (action e pool'.state).value = (action e pool.state).value)
    (blind : r.isPullData = true → Blind (next (action e pool.state).value)) :
    Erased crates f (pool.exec i action next e) (pool'.exec i action next e) := by
  refine ⟨fun j q job' concerns' => ?_, fun j q job' pullData => ?_, fun j unconcerned => ?_⟩
  · by_cases here : j = i
    · subst here
      refine ⟨(erased.kept j q job' concerns').1, ?_⟩
      simp only [Pool.exec_threads_self, value]
    · simp only [Pool.exec_threads_of_ne here]
      exact erased.kept j q job' concerns'
  · by_cases here : j = i
    · subst here
      obtain rfl : r = q := Option.some.inj (job.symm.trans job')
      rw [Pool.exec_threads_self]
      exact blind pullData
    · simp only [Pool.exec_threads_of_ne here]
      exact erased.blind j q job' pullData
  · by_cases here : j = i
    · subst here
      simp [unconcerned r job] at concerns
    · simp only [Pool.exec_threads_of_ne here]
      exact erased.gone j unconcerned

/-- A thread that does not concern the downlink does an action in one pool only. -/
theorem Erased.left {β : Type} {action : Env → State → Reply β State Effect}
    {next : β → Task Unit} {e : Env} (erased : Erased crates f pool pool')
    (unconcerned : ∀ r, pool.job i = some r → r.concerns crates f = false)
    (later : (next (action e pool.state).value).Guarantees KeepsAddr) :
    Erased crates f (pool.exec i action next e) pool' := by
  have elsewhere : ∀ j q, pool.job j = some q → q.concerns crates f = true → j ≠ i := by
    rintro j q job concerns rfl
    simp [unconcerned q job] at concerns
  refine ⟨fun j q job concerns => ?_, fun j q job pullData => ?_, fun j unconcerned' => ?_⟩
  · simp only [Pool.exec_threads_of_ne (elsewhere j q job concerns)]
    exact erased.kept j q job concerns
  · have concerns := @Request.concerns_of_isPullData crates f q pullData
    simp only [Pool.exec_threads_of_ne (elsewhere j q job concerns)]
    exact erased.blind j q job pullData
  · refine ⟨?_, (erased.gone j unconcerned').2⟩
    by_cases here : j = i
    · subst here
      rw [Pool.exec_threads_self]
      exact later
    · rw [Pool.exec_threads_of_ne here]
      exact (erased.gone j unconcerned').1

/-- A request that concerns the downlink is taken in both pools. -/
theorem Erased.start_both (erased : Erased crates f pool pool')
    (concerns : r.concerns crates f = true) (blind : r.isPullData = true → Blind p) :
    Erased crates f (pool.start i r p) (pool'.start i r p) := by
  refine ⟨fun j q job concerns' => ?_, fun j q job pullData => ?_, fun j unconcerned => ?_⟩
  · by_cases here : j = i
    · subst here
      simp only [Pool.start, Function.update_self] at job ⊢
      exact ⟨job, trivial⟩
    · simp only [Pool.start, Function.update_of_ne here] at job ⊢
      exact erased.kept j q job concerns'
  · by_cases here : j = i
    · subst here
      simp only [Pool.start, Function.update_self, Option.some.injEq] at job ⊢
      exact blind (job ▸ pullData)
    · simp only [Pool.start, Function.update_of_ne here] at job ⊢
      exact erased.blind j q job pullData
  · by_cases here : j = i
    · subst here
      have wrong := unconcerned r (Function.update_self ..)
      simp [wrong] at concerns
    · simp only [Pool.start, Function.update_of_ne here] at unconcerned ⊢
      exact erased.gone j unconcerned

/-- A request that does not concern the downlink is taken in one pool only. -/
theorem Erased.start_left (erased : Erased crates f pool pool')
    (unconcerned : r.concerns crates f = false) (free : (pool.threads i).Finished)
    (guarantees : p.Guarantees KeepsAddr) : Erased crates f (pool.start i r p) pool' := by
  refine ⟨fun j q job concerns => ?_, fun j q job pullData => ?_, fun j unconcerned' => ?_⟩
  · by_cases here : j = i
    · subst here
      simp only [Pool.start, Function.update_self, Option.some.injEq] at job
      simp [← job, unconcerned] at concerns
    · simp only [Pool.start, Function.update_of_ne here] at job ⊢
      exact erased.kept j q job concerns
  · by_cases here : j = i
    · subst here
      simp only [Pool.start, Function.update_self, Option.some.injEq] at job
      subst job
      simp [Request.concerns_of_isPullData pullData] at unconcerned
    · simp only [Pool.start, Function.update_of_ne here] at job ⊢
      exact erased.blind j q job pullData
  · by_cases here : j = i
    · subst here
      refine ⟨?_, erased.free free⟩
      rw [Pool.start_threads_self]
      exact guarantees
    · simp only [Pool.start, Function.update_of_ne here] at unconcerned' ⊢
      exact erased.gone j unconcerned'

end

/-- The thread that works on the downlink does its next action, in both nets. -/
theorem Alone.own {β : Type} {i : Thread} {action : Env → State → Reply β State Effect}
    {next : β → Task Unit} {e : Env} {p : Task Unit}
    (alone : Alone crates profile f c now slot net net')
    (owned : c.phase.owner crates profile f = some (i, p))
    (current : net.pool.threads i = .act action next)
    (current' : net'.pool.threads i = .act action next) (le : now ≤ e.now) :
    ∃ slot', Alone crates profile f (c.exec crates profile f e) e.now slot'
      (net.exec (tokenFor f) i action next e) (net'.exec (tokenFor f) i action next e) := by
  obtain ⟨slot', same, lag⟩ := alone.lag.exec le
  obtain ⟨r, job, own⟩ := alone.sim.job i p owned
  have sim := alone.sim.exec alone.inv owned current e
  have sim' := alone.sim'.exec alone.inv' owned current' e
  have inv' := alone.inv'.exec e
  rw [same] at sim' inv'
  refine ⟨slot', sim, alone.inv.exec e, sim', inv', lag,
    alone.erased.both job (Request.concerns_of_own own) ?_ fun pullData => ?_⟩
  · have acts : c.phase.owner crates profile f = some (i, .act action next) := by
      rw [owned, ← current, alone.sim.owner i p owned]
    refine Phase.owner_value acts e (alone.sim'.addr.trans alone.sim.addr.symm) ?_
    intro rs pl look
    have inv := alone.inv
    rw [Course.Inv, look] at inv
    rw [inv.2.2.2.2, alone.sim.slot, alone.sim'.slot, alone.lag.look rs pl look]
  · exact absurd (Request.stray_of_isPullData pullData _) own

/-- An entry that the others may drop lags, if the clock does not run backwards. -/
theorem Course.Lag.drop (lag : c.Lag now slot) (le : now ≤ time) {i : Thread}
    {held : Option DownlinkCache} {addr : Option SocketAddr}
    (other : ∀ p, c.phase.owner crates profile f ≠ some (i, p))
    (kept : held = c.slot ∨ i = .udp ∧ held = unexpired time c.slot) :
    Course.Lag { c with slot := held, addr } time slot := by
  rcases kept with rfl | ⟨rfl, rfl⟩
  · exact ⟨(lag.mono le).behind, lag.look⟩
  · refine ⟨?_, fun rs pl look => ?_⟩
    · rcases lag.behind with same | ⟨none, gone⟩
      · cases left : unexpired time c.slot with
        | none => exact .inr ⟨rfl, by rw [← same, left]⟩
        | some dc =>
            have whole := (Option.filter_eq_some_iff.mp left).1
            exact .inl (whole.symm.trans same)
      · refine .inr ⟨?_, unexpired_none_of_le gone le⟩
        rw [none]
        rfl
    · dsimp only at look
      exact absurd (by rw [look]; rfl) (other _)

/-- A thread handles a PULL_DATA, in both nets. -/
theorem Alone.pullData {β : Type} {i : Thread} {action : Env → State → Reply β State Effect}
    {next : β → Task Unit} {e : Env} (alone : Alone crates profile f c now slot net net')
    (other : ∀ p, c.phase.owner crates profile f ≠ some (i, p))
    (current : net.pool.threads i = .act action next)
    (current' : net'.pool.threads i = .act action next) (le : now ≤ e.now)
    (job : net.pool.job i = some r) (pullData : r.isPullData = true) :
    ∃ c', Alone crates profile f c' e.now slot
      (net.exec (tokenFor f) i action next e) (net'.exec (tokenFor f) i action next e) := by
  have foreign := alone.sim.others i other
  have foreign' := alone.sim'.others i other
  have blind := alone.erased.blind i r job pullData
  rw [current] at foreign blind
  rw [current'] at foreign'
  obtain ⟨keyed, apart, rest⟩ := foreign.step e alone.sim.keyed
  obtain ⟨keyed', apart', rest'⟩ := foreign'.step e alone.sim'.keyed
  obtain ⟨value, addr, cache, later⟩ := blind e net.pool.state net'.pool.state
    (alone.sim'.addr.trans alone.sim.addr.symm)
  have cache' := (blind e net'.pool.state net'.pool.state rfl).2.2.1
  have sim := alone.sim.exec_other current other keyed apart rest
  have sim' := alone.sim'.exec_other current' other keyed' apart' rest'
  rw [cache, alone.sim.slot] at sim
  rw [cache', addr, alone.sim'.slot] at sim'
  exact ⟨_, sim, @Course.Inv.drift _ _ _ _ alone.inv e.now _ _ (.inl rfl), sim',
    @Course.Inv.drift _ _ _ _ alone.inv' e.now _ _ (.inl rfl),
    ⟨(alone.lag.mono le).behind, alone.lag.look⟩,
    alone.erased.both job (Request.concerns_of_isPullData pullData) value fun _ => later⟩

/-- A thread works for something else, in the net with the others only. -/
theorem Alone.foreign {β : Type} {i : Thread} {action : Env → State → Reply β State Effect}
    {next : β → Task Unit} {e : Env} (alone : Alone crates profile f c now slot net net')
    (current : net.pool.threads i = .act action next) (le : now ≤ e.now)
    (unconcerned : ∀ r, net.pool.job i = some r → r.concerns crates f = false) :
    ∃ c', Alone crates profile f c' e.now slot (net.exec (tokenFor f) i action next e) net' := by
  have other : ∀ p, c.phase.owner crates profile f ≠ some (i, p) := by
    intro p owned
    obtain ⟨r, job, own⟩ := alone.sim.job i p owned
    simpa [unconcerned r job] using Request.concerns_of_own own
  obtain ⟨guarantees, _⟩ := alone.erased.gone i unconcerned
  have foreign := alone.sim.others i other
  rw [current] at foreign guarantees
  obtain ⟨keyed, apart, rest⟩ := foreign.step e alone.sim.keyed
  obtain ⟨addr, later⟩ := guarantees e net.pool.state
  have sim := alone.sim.exec_other current other keyed apart rest
  have addr' : (action e net.pool.state).state.pullAddr = c.addr := addr.trans alone.sim.addr
  have kept : (action e net.pool.state).state.downlinkCache (tokenFor f) = c.slot ∨
      i = .udp ∧ (action e net.pool.state).state.downlinkCache (tokenFor f) =
        unexpired e.now c.slot := by
    rw [← alone.sim.slot]
    exact apart.slot
  rw [addr'] at sim
  exact ⟨_, sim, alone.inv.drift _ (kept.imp_right And.right), alone.sim', alone.inv',
    alone.lag.drop le other kept, alone.erased.left unconcerned later⟩

/-- A thread does an action: in both nets if it concerns the downlink, else in one. -/
theorem Alone.acted {β : Type} {i : Thread} {action : Env → State → Reply β State Effect}
    {next : β → Task Unit} {e : Env} (alone : Alone crates profile f c now slot net net')
    (current : net.pool.threads i = .act action next) (le : now ≤ e.now) :
    ∃ c' slot' after, Net.History crates profile conf (tokenFor f) (Rules.solo f) net'
        ([Net.Event.acted i (net.pool.job i) e].filter (Net.Event.concerns crates f)) after ∧
      Alone crates profile f c' e.now slot' (net.exec (tokenFor f) i action next e) after := by
  by_cases works : ∃ r, net.pool.job i = some r ∧ r.concerns crates f = true
  · obtain ⟨r, job, concerns⟩ := works
    obtain ⟨job', same⟩ := alone.erased.kept i r job concerns
    have current' := same.trans current
    have move : Net.History crates profile conf (tokenFor f) (Rules.solo f) net' _ _ :=
      .snoc .nil (.acted i action next e current' trivial)
    rw [job'] at move
    simp only [job, Net.Event.concerns, Option.any_some, concerns, List.filter_cons_of_pos,
      List.filter_nil]
    by_cases owned : ∃ p, c.phase.owner crates profile f = some (i, p)
    · obtain ⟨p, owned⟩ := owned
      obtain ⟨slot', after⟩ := alone.own owned current current' le
      exact ⟨_, slot', _, move, after⟩
    · have other : ∀ p, c.phase.owner crates profile f ≠ some (i, p) :=
        fun p same => owned ⟨p, same⟩
      have stray : Stray crates (tokenFor f) r := by
        by_contra own
        obtain ⟨result, done, _⟩ := alone.sim.rests i r job own other
        rw [current] at done
        cases done
      obtain ⟨c', after⟩ := alone.pullData other current current' le job
        (Request.isPullData_of_concerns concerns stray)
      exact ⟨c', slot, _, move, after⟩
  · have unconcerned : ∀ r, net.pool.job i = some r → r.concerns crates f = false :=
      fun r job => Bool.eq_false_iff.mpr fun concerns => works ⟨r, job, concerns⟩
    obtain ⟨c', after⟩ := alone.foreign current le unconcerned
    refine ⟨c', slot, net', ?_, after⟩
    have erased : (net.pool.job i).any (Request.concerns crates f) = false := by
      cases job : net.pool.job i with
      | none => rfl
      | some r => exact unconcerned r job
    simp only [Net.Event.concerns, erased, Bool.false_eq_true, not_false_eq_true,
      List.filter_cons_of_neg, List.filter_nil]
    exact .nil

/-- The frame is commanded, in both nets. -/
theorem Alone.commanded (alone : Alone crates profile f c now slot net net') {n : Nat}
    (free : (net.pool.threads (.command n)).Finished) (once : f ∉ net.commanded) :
    ∃ c' after, Net.Move crates profile conf (tokenFor f) (Rules.solo f) net'
        (.took (.command n) (.command f)) after ∧
      Alone crates profile f c' now slot { net.start (.command n) (.command f)
        (program crates profile conf (.command n) (.command f)) with
          commanded := net.commanded ++ [f] } after := by
  have idle : c.phase = .idle := by
    by_contra begun
    exact once (alone.sim.commanded.mpr begun)
  have once' : f ∉ net'.commanded := fun asked => alone.sim'.commanded.mp asked idle
  have step : Course.Step crates profile f (fun _ _ => True) False c _ := .start n idle
  have step' : Course.Step crates profile f (fun _ _ => True) False { c with slot } _ :=
    .start n idle
  have own : ¬ Stray crates (tokenFor f) (.command f) := fun stray => stray rfl
  exact ⟨_, _, .commanded n f (alone.erased.free free) rfl once' rfl, alone.sim.command idle n,
    alone.inv.step step, alone.sim'.command idle n, alone.inv'.step step',
    ⟨alone.lag.behind, fun _ _ look => by cases look⟩,
    alone.erased.start_both (Request.concerns_of_own own) fun pullData => by cases pullData⟩

/-- Another request is taken: in both nets if it is a PULL_DATA, else in one. -/
theorem Alone.took (alone : Alone crates profile f c now slot net net') {i : Thread}
    (free : (net.pool.threads i).Finished) (admitted : admits (fun _ => True) i r)
    (stray : Stray crates (tokenFor f) r) :
    ∃ after, Net.History crates profile conf (tokenFor f) (Rules.solo f) net'
        ([Net.Event.took i r].filter (Net.Event.concerns crates f)) after ∧
      Alone crates profile f c now slot (net.start i r (program crates profile conf i r))
        after := by
  have sim : Sim crates profile f c (net.start i r (program crates profile conf i r)) :=
    alone.sim.start_other free admitted stray
  cases concerns : r.concerns crates f with
  | true =>
      have pullData := Request.isPullData_of_concerns concerns stray
      have free' := alone.erased.free free
      simp only [Net.Event.concerns, concerns, List.filter_cons_of_pos, List.filter_nil]
      exact ⟨_, .snoc .nil (.took i r free' admitted stray pullData), sim, alone.inv,
        alone.sim'.start_other free' admitted stray, alone.inv', alone.lag,
        alone.erased.start_both concerns fun _ => program_blind i pullData⟩
  | false =>
      have other : r.isPullData = false := by
        cases pullData : r.isPullData with
        | false => rfl
        | true => simp [Request.concerns_of_isPullData pullData] at concerns
      simp only [Net.Event.concerns, concerns, Bool.false_eq_true, not_false_eq_true,
        List.filter_cons_of_neg, List.filter_nil]
      exact ⟨net', .nil, sim, alone.inv, alone.sim', alone.inv', alone.lag,
        alone.erased.start_left concerns free (program_keepsAddr i other)⟩

/-- The packet forwarder answers, in both nets. -/
theorem Alone.answered (alone : Alone crates profile f c now slot net net') {answer : Answer}
    {before after : List Shot} (waiting : net.pending = before ++ answer.shot :: after)
    (answers : Answers crates (tokenFor f) answer.data answer.status) :
    ∃ c' after', Net.Move crates profile conf (tokenFor f) (Rules.solo f) net'
        (.answered answer) after' ∧
      Alone crates profile f c' now slot { net with
        pending := before ++ after
        inFlight := net.inFlight ++ [answer]
        produced := net.produced ++ [answer] } after' := by
  have waiting' := alone.sim'.pending.trans (alone.sim.pending.symm.trans waiting)
  rw [alone.sim.pending] at waiting
  obtain ⟨rs, waits, shot, rest⟩ := Phase.pending_eq waiting
  have step : Course.Step crates profile f (fun _ _ => True) False c _ :=
    .answer answer waits shot answers
  have step' : Course.Step crates profile f (fun _ _ => True) False { c with slot } _ :=
    .answer answer waits shot answers
  exact ⟨_, _, .answered answer waiting' answers trivial, alone.sim.answer waits answers rest,
    alone.inv.step step, alone.sim'.answer waits answers rest, alone.inv'.step step',
    ⟨alone.lag.behind, fun _ _ look => by cases look⟩, alone.erased⟩

/-- The TX_ACK is received, in both nets. -/
theorem Alone.received (alone : Alone crates profile f c now slot net net') {answer : Answer}
    {before after : List Answer} (remote : SocketAddr)
    (arrives : net.inFlight = before ++ answer :: after)
    (free : (net.pool.threads .udp).Finished) :
    ∃ c' after', Net.Move crates profile conf (tokenFor f) (Rules.solo f) net'
        (.received answer remote) after' ∧
      Alone crates profile f c' now slot { net.start .udp (.datagram answer.data remote)
        (program crates profile conf .udp (.datagram answer.data remote)) with
          inFlight := before ++ after } after' := by
  have arrives' := alone.sim'.inFlight.trans (alone.sim.inFlight.symm.trans arrives)
  obtain ⟨marked, pl, read, token, status⟩ := alone.sim.datagrams answer (arrives ▸ by simp)
  rw [alone.sim.inFlight] at arrives
  obtain ⟨rs, answered, rest⟩ := Phase.inFlight_eq arrives
  have step : Course.Step crates profile f (fun _ _ => True) False c _ :=
    .deliver pl answered marked read token status
  have step' : Course.Step crates profile f (fun _ _ => True) False { c with slot } _ :=
    .deliver pl answered marked read token status
  have own : ¬ Stray crates (tokenFor f) (.datagram answer.data remote) :=
    fun stray => stray pl read token
  exact ⟨_, _, .received answer remote arrives' (alone.erased.free free),
    alone.sim.deliver answered marked read token remote rest, alone.inv.step step,
    alone.sim'.deliver answered marked read token remote rest, alone.inv'.step step',
    ⟨alone.lag.behind, fun _ _ look => by cases look⟩,
    alone.erased.start_both (Request.concerns_of_own own) fun pullData =>
      absurd (Request.stray_of_isPullData pullData _) own⟩

/-- What concerns the downlink in a step of a net can be done without the rest. -/
theorem Alone.step {event : Net.Event} {next : Net} (differ : tokenFor f ≠ tokenFor g)
    (alone : Alone crates profile f c now slot net net')
    (move : Net.Move crates profile conf (tokenFor f) (Rules.pair f g) net event next)
    (le : ∀ time ∈ event.now?, now ≤ time) :
    ∃ c' slot' after, Net.History crates profile conf (tokenFor f) (Rules.solo f) net'
        ([event].filter (Net.Event.concerns crates f)) after ∧
      Alone crates profile f c' (event.now?.getD now) slot' next after := by
  cases move with
  | acted i action next e current allowed => exact alone.acted current (le e.now rfl)
  | commanded n h free own once allowed =>
      obtain rfl : h = f := allowed.resolve_right fun same => differ (same ▸ own.symm)
      obtain ⟨c', after, move, alone'⟩ := alone.commanded free once
      have concerns : Net.Event.concerns crates h (.took (.command n) (.command h)) = true :=
        Request.concerns_of_own fun stray => stray rfl
      rw [List.filter_cons_of_pos concerns]
      exact ⟨c', slot, after, .snoc .nil move, alone'⟩
  | took i r free admitted stray allowed =>
      obtain ⟨after, moves, alone'⟩ := alone.took free admitted stray
      exact ⟨c, slot, after, moves, alone'⟩
  | answered answer waiting answers allowed =>
      obtain ⟨c', after, move, alone'⟩ := alone.answered waiting answers
      exact ⟨c', slot, after, .snoc .nil move, alone'⟩
  | received answer remote arrives free =>
      obtain ⟨c', after, move, alone'⟩ := alone.received remote arrives free
      exact ⟨c', slot, after, .snoc .nil move, alone'⟩

/-- What concerns the downlink in a history can be done without the rest. -/
theorem Alone.history {history : List Net.Event} (differ : tokenFor f ≠ tokenFor g)
    (told : Net.History crates profile conf (tokenFor f) (Rules.pair f g) (Net.init conf)
      history net) (clocked : Net.Clocked history) :
    ∃ c now slot net', Net.History crates profile conf (tokenFor f) (Rules.solo f) (Net.init conf)
        (history.filter (Net.Event.concerns crates f)) net' ∧
      Alone crates profile f c now slot net net' ∧
      (now = 0 ∨ now ∈ history.filterMap Net.Event.now?) := by
  induction told with
  | nil =>
      refine ⟨Course.start f (Net.init conf), 0, none, Net.init conf, .nil, ?_, .inl rfl⟩
      have sim := @Net.Quiet.sim crates profile f _ (Net.init_quiet crates conf f)
      have inv : (Course.start f (Net.init conf)).Inv crates profile f := Course.inv_start _
      exact ⟨sim, inv, sim, inv, ⟨.inl rfl, fun _ _ _ => rfl⟩, erased_init crates conf f⟩
  | @snoc before net next event _ move ih =>
      obtain ⟨clocked, order⟩ := Net.clocked_snoc.mp clocked
      obtain ⟨c, now, slot, net', told', alone, reached⟩ := ih clocked
      have le : ∀ time ∈ event.now?, now ≤ time := by
        rcases reached with rfl | member
        · exact fun time _ => Nat.zero_le time
        · exact order now member
      obtain ⟨c', slot', after, moves, alone'⟩ := alone.step differ move le
      refine ⟨c', _, slot', after, ?_, alone', ?_⟩
      · rw [List.filter_append]
        exact told'.append moves
      · cases time : event.now? with
        | none => simpa [time] using reached
        | some time => simp [time]

/-! ## Different tokens, and equal ones -/

/-- For two frames whose ids differ modulo 2^16, in any interleaving with each other and with
anything else that has another token than `f`, while the clock does not run backwards: erase all
events of the others except PULL_DATA.  What is left is a history in which only `f` is in flight,
with the same answers of the environment and of the packet forwarder.  The PULL_RESPs that are
sent for `f` and the ack that is published for it are the same in both, and if `f` is complete in
one it is complete in the other. -/
theorem downlink_independent {history : List Net.Event} (differ : tokenFor f ≠ tokenFor g)
    (told : Net.History crates profile conf (tokenFor f) (Rules.pair f g) (Net.init conf)
      history net) (clocked : Net.Clocked history) :
    ∃ net', Net.History crates profile conf (tokenFor f) (Rules.solo f) (Net.init conf)
        (history.filter (Net.Event.concerns crates f)) net' ∧
      net'.outputs f = net.outputs f ∧ net'.produced = net.produced ∧
      (net'.Complete crates f ↔ net.Complete crates f) := by
  obtain ⟨c, now, slot, net', solo, alone, _⟩ := Alone.history differ told clocked
  refine ⟨net', solo, ?_, alone.sim'.answers.trans alone.sim.answers.symm, ?_, ?_⟩
  · rw [Net.outputs, Net.outputs, alone.sim'.trace, alone.sim.trace]
  · intro complete
    obtain ⟨published, ended⟩ := alone.sim'.over_of_complete complete
    exact alone.sim.complete_of_over ended
  · intro complete
    obtain ⟨published, ended⟩ := alone.sim.over_of_complete complete
    exact alone.sim'.complete_of_over ended

end

/-- A frame whose id differs from that of `oneItem` by 2^16. -/
def farItem : Gw.DownlinkFrame := ⟨65537, [loraItem], ""⟩

/-- A frame with another token. -/
def otherItem : Gw.DownlinkFrame := ⟨2, [loraItem], ""⟩

def farAnswer : Answer := ⟨⟨farItem, 0⟩, .ok, txAckDatagram⟩

/-- The net in which two frames with the same token have been sent and answered, one after the
other, and both answers have been handled. -/
def netShared : Net :=
  let first := (netKnown Crates.plain).order Crates.plain .release {} 1 0 oneItem 4
  let second := first.order Crates.plain .release {} 1 1 farItem 4
  let answered := (second.reply sentAnswer).reply farAnswer
  (answered.receive Crates.plain .release {} 1 sentAnswer 4).receive Crates.plain .release {} 1
    farAnswer 4

theorem netShared_run :
    Net.Run Crates.plain .release {} 1 ((Rules.pair farItem oneItem).always Env.plain)
      (Net.init {}) netShared := by
  have allows : ∀ net, ((Rules.pair farItem oneItem).always Env.plain).allows net Env.plain :=
    fun _ => ⟨trivial, rfl⟩
  have known := netKnown_run Crates.plain allows trivial
  have first := Net.run_order allows known 0 oneItem 4 trivial rfl List.not_mem_nil (.inr rfl)
  have fresh : farItem ∉ [oneItem] := by decide
  have second := Net.run_order allows first 1 farItem 4 trivial rfl fresh (.inl rfl)
  have answered := Net.run_reply second sentAnswer rfl sentAnswer_answers trivial
  have both := Net.run_reply answered farAnswer rfl sentAnswer_answers trivial
  have handled := Net.run_receive allows both sentAnswer 4 rfl trivial
  exact Net.run_receive allows handled farAnswer 4 rfl trivial

/-- Two frames whose ids are equal modulo 2^16 are not independent: the second takes the cache
entry of the first, and both answers are published as acks of the second. -/
theorem downlink_interferes :
    ¬ ∀ (crates : Crates) (profile : Profile) (conf : Conf) (f g : Gw.DownlinkFrame)
        (history : List Net.Event) (net : Net),
      f.downlinkId ≠ g.downlinkId →
      Net.History crates profile conf (tokenFor f) (Rules.pair f g) (Net.init conf) history net →
      Net.Clocked history →
        ∃ net', Net.Run crates profile conf (tokenFor f) (Rules.solo f) (Net.init conf) net' ∧
          net'.outputs f = net.outputs f := by
  intro independent
  obtain ⟨history, told, still⟩ := netShared_run.exists_history id id
  obtain ⟨net', solo, same⟩ := independent Crates.plain .release {} farItem oneItem history
    netShared (by decide) told (Net.clocked_of_still still)
  obtain ⟨c, inv, sim⟩ := (Net.init_quiet Crates.plain {} farItem).inv_sim (fun _ _ => id) id solo
  have once := (sim.countP_le inv).1
  have twice : (netShared.outputs farItem).countP Effect.isAck = 2 := by decide
  rw [← same, Net.outputs, List.countP_filter] at twice
  have fewer : (net'.trace (tokenFor farItem)).countP
      (fun o => o.isAck && Effect.isOutputOf farItem o) ≤
        (net'.trace (tokenFor farItem)).countP Effect.isAck :=
    List.countP_mono_left fun o _ both => (Bool.and_eq_true_iff.mp both).1
  omega

/-- The net in which a frame has been sent and answered while a frame with another token was in
flight. -/
def netApart : Net :=
  let first := (netKnown Crates.plain).order Crates.plain .release {} 1 0 oneItem 4
  let second := first.serve Crates.plain .release {} 1 (.command 1) (.command otherItem) 4
  (second.reply sentAnswer).receive Crates.plain .release {} 1 sentAnswer 4

theorem netApart_run :
    Net.Run Crates.plain .release {} (tokenFor oneItem)
      ((Rules.pair oneItem otherItem).always Env.plain) (Net.init {}) netApart := by
  have allows : ∀ net, ((Rules.pair oneItem otherItem).always Env.plain).allows net Env.plain :=
    fun _ => ⟨trivial, rfl⟩
  have known := netKnown_run Crates.plain allows trivial
  have first := Net.run_order allows known 0 oneItem 4 trivial rfl List.not_mem_nil (.inl rfl)
  have other : tokenFor otherItem ≠ 1 := by decide
  have stray : Stray Crates.plain 1 (.command otherItem) := other
  have second := Net.run_serve allows first (.command 1) (.command otherItem) 4 trivial trivial
    stray trivial
  have answered := Net.run_reply second sentAnswer rfl sentAnswer_answers trivial
  exact Net.run_receive allows answered sentAnswer 4 rfl trivial

/-- A frame that was in flight with one of another token has the outputs that it has alone. -/
theorem downlink_independent_other_token :
    ∃ history net', Net.History Crates.plain .release {} (tokenFor oneItem)
        (Rules.pair oneItem otherItem) (Net.init {}) history netApart ∧
      Net.History Crates.plain .release {} (tokenFor oneItem) (Rules.solo oneItem) (Net.init {})
        (history.filter (Net.Event.concerns Crates.plain oneItem)) net' ∧
      net'.outputs oneItem = netApart.outputs oneItem ∧ net'.produced = netApart.produced ∧
      (net'.Complete Crates.plain oneItem ↔ netApart.Complete Crates.plain oneItem) := by
  have differ : tokenFor oneItem ≠ tokenFor otherItem := by decide
  obtain ⟨history, told, still⟩ := netApart_run.exists_history id id
  obtain ⟨net', alone⟩ := downlink_independent differ told (Net.clocked_of_still still)
  exact ⟨history, net', told, alone⟩

end MqttForwarder.SemtechUdp
