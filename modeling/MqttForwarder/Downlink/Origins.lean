import MqttForwarder.Downlink.Protocol
import MqttForwarder.Rust.History

/-!
# Where downlinks come from

Anyone may send a TX_ACK with any token.  Whoever did, the backend never makes
up a status: the statuses that an entry of the cache remembers are, in their
order, among those that datagrams have reported for its token.  So an item
behind the first is sent only after that many refusals, and an ack tells only
what has been reported.
-/

namespace MqttForwarder.SemtechUdp

open MqttForwarder.Rust

/-! ## Reported statuses -/

/-- The status that the datagram reports for `token`, if it is a TX_ACK with that token. -/
def reportedStatus (crates : Crates) (token : UInt16) (data : List UInt8) :
    Option Gw.TxAckStatus :=
  if data[3]? = some 0x05 then
    match TxAck.fromSlice crates data with
    | .ok pl => if pl.randomToken = token then some pl.toProtoTxAckStatus else none
    | _ => none
  else none

def Request.status? (crates : Crates) (token : UInt16) : Request → Option Gw.TxAckStatus
  | .datagram data _ => reportedStatus crates token data
  | .command _ => none

/-- The statuses that some requests report for `token`, in order. -/
def reported (crates : Crates) (token : UInt16) (requests : List Request) :
    List Gw.TxAckStatus :=
  requests.filterMap (Request.status? crates token)

/-- The statuses that an entry remembers. -/
def DownlinkCache.tried (dc : DownlinkCache) : List Gw.TxAckStatus :=
  (dc.ackItems.take dc.index).map Gw.DownlinkTxAckItem.getStatus

/-- The entry for the next item remembers one more status. -/
theorem DownlinkCache.tried_next {dc : DownlinkCache} (bound : dc.index < dc.ackItems.length)
    (status : Gw.TxAckStatus) (expire : Nat) :
    DownlinkCache.tried ⟨expire, dc.frame, dc.answered status, dc.index + 1⟩ =
      dc.tried ++ [status] := by
  have taken : (dc.answered status).take (dc.index + 1) =
      dc.ackItems.take dc.index ++ [.ofStatus status] := by
    rw [dc.answered_eq bound, List.take_append, List.length_take, Nat.min_eq_left (by omega),
      Nat.add_sub_cancel_left, List.take_of_length_le (by rw [List.length_take]; omega)]
    rfl
  rw [tried, taken, List.map_append, ← tried]
  simp

/-! ## What an action does to the cache -/

/-- The effect is a writing or a reading of the cache. -/
def Effect.caches : Effect → Prop
  | cached _ _ => True
  | looked _ _ => True
  | _ => False

/-- The action writes an entry, or reads one, or leaves the entries or drops some. -/
inductive CacheMove (s s' : State) : List Effect → Prop where
  | cached (token : UInt16) (dc : DownlinkCache)
      (written : s'.downlinkCache = Function.update s.downlinkCache token (some dc)) :
      CacheMove s s' [.cached token dc]
  | looked (token : UInt16) (same : s'.downlinkCache = s.downlinkCache) :
      CacheMove s s' [.looked token (s.downlinkCache token)]
  | other {os : List Effect} (neither : ∀ o ∈ os, ¬ o.caches)
      (fewer : ∀ token dc, s'.downlinkCache token = some dc →
        s.downlinkCache token = some dc) :
      CacheMove s s' os

theorem CacheMove.of_same {s s' : State} {os : List Effect}
    (same : s'.downlinkCache = s.downlinkCache) (neither : ∀ o ∈ os, ¬ o.caches) :
    CacheMove s s' os :=
  .other neither fun _ _ found => same ▸ found

section

variable {crates : Crates} {profile : Profile} {conf : Conf}

theorem pushData_cacheMove : PushDataActions crates fun _ => CacheMove where
  idle := fun _ _ => .of_same rfl (by simp)
  pushAck := fun _ _ => sendTo_guarantees (fun _ _ => .of_same rfl (by simp))
    fun _ _ => .of_same rfl (by simp [Effect.caches])
  countUplink := fun _ => Prog.guarantees_attempt fun _ _ =>
    .of_same rfl (by simp [Effect.caches])
  up := fun _ => trySend_guarantees (fun _ _ => .of_same rfl (by simp))
    fun _ _ _ => .of_same rfl (by simp [Effect.caches])
  exportStats := Prog.guarantees_attempt fun _ _ => .of_same rfl (by simp [Effect.caches])
  stats := fun _ => trySend_guarantees (fun _ _ => .of_same rfl (by simp))
    fun _ _ _ => .of_same rfl (by simp [Effect.caches])

theorem pullData_cacheMove : PullDataActions fun _ => CacheMove where
  pullAck := fun _ _ => sendTo_guarantees (fun _ _ => .of_same rfl (by simp))
    fun _ _ => .of_same rfl (by simp [Effect.caches])
  setGatewayId := fun _ => Prog.guarantees_atomically fun _ _ => .of_same rfl (by simp)
  setPullAddr := fun _ => Prog.guarantees_atomically fun _ _ => .of_same rfl (by simp)

theorem txAck_cacheMove : TxAckActions crates fun _ => CacheMove where
  idle := fun _ _ => .of_same rfl (by simp)
  setDownlinkCache := fun token dc => Prog.guarantees_atomically fun _ _ => .cached token dc rfl
  pullResp := fun _ _ _ _ => sendTo_guarantees (fun _ _ => .of_same rfl (by simp))
    fun _ _ => .of_same rfl (by simp [Effect.caches])
  cleanDownlinkCache := Prog.guarantees_atomically fun _ _ =>
    .other (by simp) fun _ _ found => (retain_eq_some.mp found).1
  readDownlinkCache := fun token => Prog.guarantees_atomically fun _ _ => .looked token rfl
  countDownlink := fun _ _ => Prog.guarantees_attempt fun _ _ =>
    .of_same rfl (by simp [Effect.caches])
  ack := fun _ => trySend_guarantees (fun _ _ => .of_same rfl (by simp))
    fun _ _ _ => .of_same rfl (by simp [Effect.caches])

theorem program_cacheMove (i : Thread) (r : Request) :
    (program crates profile conf i r).Guarantees fun _ => CacheMove :=
  program_guarantees pushData_cacheMove pullData_cacheMove txAck_cacheMove i r

end

/-! ## The part of a request -/

section

variable (crates : Crates) (profile : Profile) (F : Gw.DownlinkFrame → Prop)

/-- The effects of a command so far are the first of an attempt to send its first item, those of
a TX_ACK the first of its handling, and those of other datagrams have nothing to do with
downlinks. -/
def Serves (i : Thread) (r : Request) (os : List Effect) : Prop :=
  match i, r with
  | .command _, .command pl => ∃ more result, Tried (fun _ => True) (fun _ => True) profile pl
      (pl.items.map fun _ => .ofStatus .ignored) 0 (os ++ more) result
  | .udp, .datagram data _ =>
      (data[3]? = some 0x05 → ∃ more result,
        Handled (fun _ => True) (fun _ => True) crates profile F data (os ++ more) result) ∧
      (data[3]? ≠ some 0x05 → ∀ o ∈ os, o.aside)
  | _, _ => False

end

section

variable {crates : Crates} {profile : Profile} {conf : Conf} {F : Gw.DownlinkFrame → Prop}

theorem Serves.shorter {i : Thread} {r : Request} {first second : List Effect}
    (serves : Serves crates profile F i r (first ++ second)) :
    Serves crates profile F i r first := by
  unfold Serves at serves ⊢
  split at serves
  · obtain ⟨more, result, tried⟩ := serves
    exact ⟨second ++ more, result, List.append_assoc .. ▸ tried⟩
  · obtain ⟨txAck, other⟩ := serves
    refine ⟨fun same => ?_, fun differs o member => other differs o (List.mem_append_left _ member)⟩
    obtain ⟨more, result, handled⟩ := txAck same
    exact ⟨second ++ more, result, List.append_assoc .. ▸ handled⟩
  · exact serves

/-- What has nothing to do with downlinks leaves the cache as it should be. -/
theorem aside_upholds {p : Task Unit} {Q : List Effect → Outcome Unit → Prop}
    (aside : p.Guarantees (Aside crates))
    (upholds : p.Upholds (fun _ => True) (fun _ _ => True) (fun _ _ _ _ => True) Q []) :
    p.Upholds (fun _ => True) (Holds F fun _ => True) AddrKept Q [] := by
  refine (aside.mono fun e s s' os action => action.known).strengthen
    (aside.keeping (fun e s s' os log holds action => ?_) upholds)
  exact holds.frame action.cache trivial fun ack published => action.effects _ published

/-- However other tasks interfere, every request is served so. -/
theorem program_serves (i : Thread) (r : Request) (admitted : admits F i r) :
    (program crates profile conf i r).Upholds (fun _ => True) (Holds F fun _ => True) AddrKept
      (fun os _ => Serves crates profile F i r os) [] := by
  cases i with
  | command n =>
      cases r with
      | command pl =>
          refine (backend_sendDownlinkFrame_upholds admitted).mono fun os result tried => ?_
          exact ⟨[], result, (List.append_nil os).symm ▸ tried⟩
      | datagram data remote => exact absurd admitted id
  | udp =>
      cases r with
      | command pl => exact absurd admitted id
      | datagram data remote =>
          rcases receive_cases crates profile conf data remote with ⟨txAck, same⟩ | ⟨other, aside⟩
          · simp only [program, same]
            refine (handleTxAck_upholds data).mono fun os result handled => ?_
            refine ⟨fun _ => ⟨[], result, (List.append_nil os).symm ▸ handled⟩, ?_⟩
            exact fun differs => absurd txAck differs
          · have effects := (aside.mono fun e s s' os action => action.effects).each
              (E := fun _ => True) (List.forall_mem_nil _)
            refine (aside_upholds aside effects).mono fun os _ each => ?_
            exact ⟨fun txAck => absurd txAck other, fun _ => each⟩

/-! ## What the effects of a request tell -/

variable {E : Env → Prop} {A : Option SocketAddr → Prop} {data : List UInt8} {os : List Effect}
  {result : Outcome Unit}

/-- An attempt to send an item writes one entry, as the first thing that it does. -/
theorem Tried.of_cached {pl : Gw.DownlinkFrame} {acks : List Gw.DownlinkTxAckItem} {i : Nat}
    {first more : List Effect} {token : UInt16} {dc : DownlinkCache}
    (tried : Tried E A profile pl acks i (first ++ .cached token dc :: more) result) :
    first = [] ∧ token = tokenFor pl ∧ ∃ expire, dc = ⟨expire, pl, acks, i⟩ := by
  generalize whole : first ++ .cached token dc :: more = os at tried
  have writes : ∃ expire rest, os = .cached (tokenFor pl) ⟨expire, pl, acks, i⟩ :: rest ∧
      ∀ token dc, .cached token dc ∉ rest := by
    cases tried <;> exact ⟨_, _, rfl, by simp⟩
  obtain ⟨expire, rest, rfl, once⟩ := writes
  cases first with
  | nil =>
      cases whole
      exact ⟨rfl, rfl, expire, rfl⟩
  | cons o first =>
      have member : .cached token dc ∈ rest := by
        rw [← (List.cons.inj whole).2]
        simp
      exact absurd member (once token dc)

/-- The handling of a TX_ACK that writes an entry has read one before: the new entry is for the
next item of the same frame. -/
theorem Handled.of_cached {first more : List Effect} {token : UInt16} {dc : DownlinkCache}
    (handled : Handled E A crates profile F data (first ++ .cached token dc :: more) result) :
    ∃ pl found expire, TxAck.fromSlice crates data = .ok pl ∧ found.Good F pl.randomToken ∧
      found.index < found.ackItems.length ∧ first = [.looked pl.randomToken (some found)] ∧
      token = pl.randomToken ∧
      dc = ⟨expire, found.frame, found.answered pl.toProtoTxAckStatus, found.index + 1⟩ := by
  generalize whole : first ++ .cached token dc :: more = os at handled
  cases handled with
  | unreadable unreadable => simp at whole
  | unknown read =>
      rcases first with _ | ⟨o, first⟩
      · cases whole
      · simp at whole
  | @found pl found os _ read good acknowledged =>
      rcases first with _ | ⟨o, first⟩
      · cases whole
      · obtain ⟨rfl, rest⟩ := List.cons.inj whole
        have member : .cached token dc ∈ os := by
          rw [← rest]
          simp
        cases acknowledged with
        | empty empty => cases member
        | uncounted nonempty final fails => simp at member
        | unpublished nonempty allowed blocked => simp at member
        | published nonempty final counts => simp at member
        | retried nonempty more tried =>
            rw [← rest] at tried
            obtain ⟨rfl, rfl, expire, rfl⟩ := tried.of_cached
            exact ⟨pl, found, expire, read, good, good.bound nonempty, rfl, good.token.symm, rfl⟩

/-- The handling of a TX_ACK reads the cache before it does anything else. -/
theorem Handled.of_looked {first more : List Effect} {token : UInt16}
    {found : Option DownlinkCache}
    (handled : Handled E A crates profile F data (first ++ .looked token found :: more) result) :
    first = [] := by
  generalize whole : first ++ .looked token found :: more = os at handled
  rcases first with _ | ⟨o, first⟩
  · rfl
  · cases handled with
    | unreadable unreadable => cases whole
    | unknown read => simp at whole
    | @found pl dc os _ read good acknowledged =>
        have member : .looked token found ∈ os := by
          rw [← (List.cons.inj whole).2]
          simp
        exact absurd member (acknowledged.not_looked token found)

theorem Tried.of_pullResp {pl : Gw.DownlinkFrame} {acks : List Gw.DownlinkTxAckItem} {i : Nat}
    (tried : Tried E A profile pl acks i os result) {frame : Gw.DownlinkFrame} {index : Nat}
    {bytes : List UInt8} {addr : SocketAddr} (sent : .pullResp frame index bytes addr ∈ os) :
    frame = pl ∧ index = i := by
  cases tried with
  | sent accepted =>
      simp only [List.mem_cons, List.not_mem_nil, or_false, reduceCtorEq, false_or,
        Effect.pullResp.injEq] at sent
      exact ⟨sent.1, sent.2.1⟩
  | _ => simp at sent

theorem Tried.not_event {pl : Gw.DownlinkFrame} {acks : List Gw.DownlinkTxAckItem} {i : Nat}
    (tried : Tried E A profile pl acks i os result) (msg : MqttMessage) : .event msg ∉ os := by
  cases tried <;> simp

/-- The handling of a TX_ACK that sends an item has first found the entry for the item before. -/
theorem Handled.of_pullResp {frame : Gw.DownlinkFrame} {index : Nat} {bytes : List UInt8}
    {addr : SocketAddr} (handled : Handled E A crates profile F data os result)
    (sent : .pullResp frame index bytes addr ∈ os) :
    ∃ pl found, TxAck.fromSlice crates data = .ok pl ∧ found.Good F pl.randomToken ∧
      os.head? = some (.looked pl.randomToken (some found)) ∧
      ¬ found.Final pl.toProtoTxAckStatus ∧ frame = found.frame ∧ index = found.index + 1 := by
  cases handled with
  | unreadable unreadable => cases sent
  | unknown read => simp at sent
  | @found pl found os _ read good acknowledged =>
      refine ⟨pl, found, read, good, rfl, ?_⟩
      cases acknowledged with
      | empty empty => simp at sent
      | uncounted nonempty final fails => simp at sent
      | unpublished nonempty allowed blocked => simp at sent
      | published nonempty final counts => simp at sent
      | retried nonempty more tried =>
          exact ⟨more, tried.of_pullResp (by simpa using sent)⟩

theorem Handled.of_ack {ack : Gw.DownlinkTxAck}
    (handled : Handled E A crates profile F data os result) (sent : .event (.ack ack) ∈ os) :
    ∃ pl found, TxAck.fromSlice crates data = .ok pl ∧ found.Good F pl.randomToken ∧
      os.head? = some (.looked pl.randomToken (some found)) ∧
      found.index < found.ackItems.length ∧ ack = found.ack pl := by
  cases handled with
  | unreadable unreadable => cases sent
  | unknown read => simp at sent
  | @found pl found os _ read good acknowledged =>
      refine ⟨pl, found, read, good, rfl, ?_⟩
      cases acknowledged with
      | empty empty => simp at sent
      | uncounted nonempty final fails => simp at sent
      | unpublished nonempty allowed blocked => simp at sent
      | published nonempty final counts => exact ⟨good.bound nonempty, by simpa using sent⟩
      | retried nonempty more tried => exact absurd (by simpa using sent) (tried.not_event _)

end

/-! ## What the cache remembers -/

/-- What the entries of the cache remember has been reported, before the present datagram unless
its handling has written an entry; and so has what the entry remembers that it has found. -/
structure Remembers (crates : Crates) (history : List (Pool.Event Thread Request Effect))
    (pool : System) : Prop where
  cache : ∀ token dc, pool.state.downlinkCache token = some dc →
    dc.tried.Sublist (reported crates token (Pool.requests .udp history))
  earlier : (∀ token dc, .cached token dc ∉ pool.trail .udp) → ∀ token dc,
    pool.state.downlinkCache token = some dc →
      dc.tried.Sublist (reported crates token (Pool.requests .udp history).dropLast)
  found : ∀ token dc, .looked token (some dc) ∈ pool.trail .udp →
    dc.tried.Sublist (reported crates token (Pool.requests .udp history).dropLast)

section

variable {crates : Crates} {profile : Profile} {conf : Conf} {F : Gw.DownlinkFrame → Prop}
  {history : List (Pool.Event Thread Request Effect)} {pool : System}

theorem reported_append (token : UInt16) (first second : List Request) :
    reported crates token (first ++ second) =
      reported crates token first ++ reported crates token second := List.filterMap_append

theorem Remembers.init : Remembers crates [] (Pool.idle (State.init conf)) where
  cache := fun _ _ found => by cases found
  earlier := fun _ _ _ found => by cases found
  found := fun _ _ found => by cases found

/-- The receive loop takes a request: all requests before it are earlier ones. -/
theorem Remembers.took (remembers : Remembers crates history pool) (i : Thread) (r : Request)
    (p : Task Unit) : Remembers crates (history ++ [.took i r]) (pool.start i r p) := by
  cases i with
  | command n =>
      have same : Pool.requests .udp (history ++ [.took (.command n) r]) =
          Pool.requests .udp history := by simp [Pool.Event.request?]
      have trail : (pool.start (.command n) r p).trail .udp = pool.trail .udp :=
        Pool.start_trail_of_ne (by simp)
      constructor
      · rw [same]
        exact remembers.cache
      · rw [same, trail]
        exact remembers.earlier
      · rw [same, trail]
        exact remembers.found
  | udp =>
      have more : Pool.requests .udp (history ++ [.took .udp r]) =
          Pool.requests .udp history ++ [r] := by simp [Pool.Event.request?]
      constructor
      · intro token dc found
        rw [more, reported_append]
        exact (remembers.cache token dc found).trans (List.sublist_append_left _ _)
      · intro _ token dc found
        rw [more, List.dropLast_concat]
        exact remembers.cache token dc found
      · intro token dc found
        rw [Pool.start_trail_self] at found
        cases found

/-- What is so of all requests and all effects of the receive loop so far, stays so when another
task acts that drops entries or writes one that remembers nothing. -/
theorem Remembers.aside (remembers : Remembers crates history pool) {pool' : System}
    {event : Pool.Event Thread Request Effect} (same : event.request? .udp = none)
    (trail : pool'.trail .udp = pool.trail .udp)
    (entries : ∀ token dc, pool'.state.downlinkCache token = some dc →
      pool.state.downlinkCache token = some dc ∨ dc.tried = []) :
    Remembers crates (history ++ [event]) pool' := by
  have requests : Pool.requests .udp (history ++ [event]) = Pool.requests .udp history := by
    simp [same]
  constructor
  · intro token dc found
    rw [requests]
    rcases entries token dc found with before | nothing
    · exact remembers.cache token dc before
    · rw [nothing]
      exact List.nil_sublist _
  · intro unwritten token dc found
    rw [requests]
    rcases entries token dc found with before | nothing
    · exact remembers.earlier (trail ▸ unwritten) token dc before
    · rw [nothing]
      exact List.nil_sublist _
  · rw [requests, trail]
    exact remembers.found

theorem reported_of_read {token : UInt16} {data : List UInt8} {pl : TxAck}
    (txAck : data[3]? = some 0x05) (read : TxAck.fromSlice crates data = .ok pl)
    (own : token = pl.randomToken) :
    reportedStatus crates token data = some pl.toProtoTxAckStatus := by
  rw [reportedStatus, if_pos txAck, read]
  exact if_pos own.symm

/-- A TX_ACK has reported its status when it is handled. -/
theorem reported_now {requests : List Request} {token : UInt16} {data : List UInt8}
    {remote : SocketAddr} {status : Gw.TxAckStatus}
    (last : requests.getLast? = some (.datagram data remote))
    (told : reportedStatus crates token data = some status) :
    reported crates token requests = reported crates token requests.dropLast ++ [status] := by
  have whole := List.dropLast_append_getLast? _ last
  rw [← whole, reported_append, List.dropLast_concat]
  simp [reported, Request.status?, told]

/-- The receive loop acts. -/
theorem Remembers.received (remembers : Remembers crates history pool) {pool' : System}
    {os : List Effect} {r : Request} (last : (Pool.requests .udp history).getLast? = some r)
    (law : CacheMove pool.state pool'.state os)
    (trail : pool'.trail .udp = pool.trail .udp ++ os)
    (serves : Serves crates profile F .udp r (pool.trail .udp ++ os)) :
    Remembers crates (history ++ [.acted .udp os]) pool' := by
  have requests : Pool.requests .udp (history ++ [.acted .udp os]) =
      Pool.requests .udp history := by simp [Pool.Event.request?]
  cases r with
  | command pl => exact absurd serves id
  | datagram data remote =>
      obtain ⟨answers, asides⟩ := serves
      cases law with
      | cached token dc written =>
          have txAck : data[3]? = some 0x05 := by
            by_contra other
            exact asides other (.cached token dc) (by simp)
          obtain ⟨more, result, handled⟩ := answers txAck
          rw [List.append_assoc] at handled
          obtain ⟨pl, found, expire, read, good, bound, first, own, rfl⟩ := handled.of_cached
          constructor
          · intro other entry cached
            rw [requests]
            by_cases same : other = token
            · subst same
              rw [written, Function.update_self] at cached
              cases cached
              rw [reported_now last (reported_of_read txAck read own),
                DownlinkCache.tried_next bound]
              exact (remembers.found other found (by simp [first, own])).append_right _
            · rw [written, Function.update_of_ne same] at cached
              exact remembers.cache other entry cached
          · intro unwritten
            exact absurd (trail ▸ List.mem_append_right _ List.mem_cons_self) (unwritten _ _)
          · intro other entry looked
            rw [requests]
            rw [trail] at looked
            exact remembers.found other entry (by simpa using looked)
      | looked token same =>
          have txAck : data[3]? = some 0x05 := by
            by_contra other
            exact asides other (.looked token (pool.state.downlinkCache token)) (by simp)
          obtain ⟨more, result, handled⟩ := answers txAck
          rw [List.append_assoc] at handled
          have first := handled.of_looked
          have unwritten : ∀ token dc, .cached token dc ∉ pool.trail .udp := by simp [first]
          constructor
          · rw [requests, same]
            exact remembers.cache
          · rw [requests, same]
            exact fun _ => remembers.earlier unwritten
          · intro other entry looked
            rw [requests]
            rw [trail, first] at looked
            simp only [List.nil_append, List.mem_singleton, Effect.looked.injEq] at looked
            obtain ⟨rfl, read⟩ := looked
            exact remembers.earlier unwritten other entry read.symm
      | other neither fewer =>
          constructor
          · intro token dc cached
            rw [requests]
            exact remembers.cache token dc (fewer token dc cached)
          · intro unwritten token dc cached
            rw [requests]
            have before : ∀ token dc, .cached token dc ∉ pool.trail .udp := by
              intro other entry written
              exact unwritten other entry (trail ▸ List.mem_append_left _ written)
            exact remembers.earlier before token dc (fewer token dc cached)
          · intro token dc looked
            rw [requests]
            rw [trail] at looked
            rcases List.mem_append.mp looked with before | now
            · exact remembers.found token dc before
            · exact absurd trivial (neither _ now)

/-- The task of a command acts: the entry that it writes remembers nothing. -/
theorem Remembers.commanded (remembers : Remembers crates history pool) {pool' : System}
    {n : Nat} {os : List Effect} {r : Request} (law : CacheMove pool.state pool'.state os)
    (trail : pool'.trail .udp = pool.trail .udp)
    (serves : Serves crates profile F (.command n) r (pool.trail (.command n) ++ os)) :
    Remembers crates (history ++ [.acted (.command n) os]) pool' := by
  refine remembers.aside rfl trail fun token dc cached => ?_
  cases law with
  | cached other entry written =>
      by_cases same : token = other
      · subst same
        rw [written, Function.update_self] at cached
        cases cached
        cases r with
        | datagram data remote => exact absurd serves id
        | command pl =>
            obtain ⟨more, result, tried⟩ := serves
            rw [List.append_assoc] at tried
            obtain ⟨_, _, expire, rfl⟩ := tried.of_cached
            exact .inr rfl
      · rw [written, Function.update_of_ne same] at cached
        exact .inl cached
  | looked other same => exact .inl (same ▸ cached)
  | other neither fewer => exact .inl (fewer token dc cached)

/-- Every request of a pool is served so, whatever the tasks do. -/
theorem sound_serves (run : Pool.Run (program crates profile conf) (admits F) (fun _ => True)
    (Pool.idle (State.init conf)) pool) :
    Pool.Sound (fun _ => True) (Holds F fun _ => True) (fun _ => AddrKept)
      (fun i r os _ => Serves crates profile F i r os) pool :=
  (Pool.sound_idle (Holds.init trivial)).run program_serves run

theorem serves_of_job (run : Pool.Run (program crates profile conf) (admits F) (fun _ => True)
    (Pool.idle (State.init conf)) pool) {i : Thread} {r : Request} (job : pool.job i = some r) :
    Serves crates profile F i r (pool.trail i) :=
  (sound_serves run).trail (fun _ _ _ _ serves => serves.shorter) ⟨Env.plain, trivial⟩ job

/-- In every run, the cache remembers only what has been reported. -/
theorem remembers_of_history
    (told : Pool.History (program crates profile conf) (admits F) (fun _ => True)
      (State.init conf) history pool) : Remembers crates history pool := by
  induction told with
  | nil => exact .init
  | @snoc before s s' event told move ih =>
      have run := Pool.History.run (told.snoc move)
      cases move with
      | took i r free admitted => exact ih.took i r _
      | acted i action next e current answer =>
          have law := Pool.run_guarantees program_cacheMove (Pool.History.run told)
            (Pool.guarantees_idle _) i
          rw [current] at law
          obtain ⟨r, job, _⟩ := (sound_serves (Pool.History.run told)).serving current
          have serves := serves_of_job run (i := i) (r := r) job
          rw [Pool.exec_trail_self] at serves
          cases i with
          | udp =>
              exact ih.received ((Pool.History.job told .udp).symm.trans job) (law e _).1
                Pool.exec_trail_self serves
          | command n =>
              exact ih.commanded (law e _).1 (Pool.exec_trail_of_ne (by simp)) serves

end

/-! ## Bytes and addresses -/

/-- The address of the packet forwarder, if it is known, is in `K`. -/
def State.Addressed (K : SocketAddr → Prop) (s : State) : Prop :=
  ∀ addr, s.pullAddr = some addr → K addr

/-- A PULL_RESP has the bytes of its item, and goes to an address in `K`. -/
def Effect.Directed (crates : Crates) (profile : Profile) (K : SocketAddr → Prop) :
    Effect → Prop
  | pullResp frame index bytes addr =>
      (∃ resp, PullResp.fromProto profile frame index (tokenFor frame) = .ok resp ∧
        resp.toVec crates = .ok bytes) ∧ K addr
  | _ => True

section

variable {crates : Crates} {profile : Profile} {conf : Conf} {K : SocketAddr → Prop}

/-- The action leaves the address alone and sends no PULL_RESP. -/
def Undirected (_ : Env) (s s' : State) (os : List Effect) : Prop :=
  s'.pullAddr = s.pullAddr ∧ ∀ o ∈ os, ∀ frame index bytes addr,
    o ≠ .pullResp frame index bytes addr

theorem Undirected.idle {e : Env} {s : State} : Undirected e s s [] := ⟨rfl, by simp⟩

theorem shows_of_undirected {α : Type} {p : Task α} (guarantees : p.Guarantees Undirected) :
    p.Shows (State.Addressed K) (Effect.Directed crates profile K) := by
  refine (guarantees.mono fun e s s' os action => ?_).shows
  refine ⟨fun addressed addr known => addressed addr (action.1 ▸ known), fun o member => ?_⟩
  unfold Effect.Directed
  split
  · exact absurd rfl (action.2 _ member _ _ _ _)
  · trivial

theorem sendTo_undirected {datagram : Effect}
    (other : ∀ frame index bytes addr, datagram ≠ .pullResp frame index bytes addr) :
    (sendTo datagram).Guarantees Undirected :=
  sendTo_guarantees (fun _ _ => .idle) fun _ _ => ⟨rfl, by simpa using other⟩

theorem trySend_undirected (message : MqttMessage) :
    (trySend message).Guarantees Undirected :=
  trySend_guarantees (fun _ _ => .idle) fun _ _ _ => ⟨rfl, by simp⟩

theorem pushData_undirected : PushDataActions crates Undirected where
  idle := fun _ _ => .idle
  pushAck := fun _ _ => sendTo_undirected (by simp)
  countUplink := fun _ => Prog.guarantees_attempt fun _ _ => ⟨rfl, by simp⟩
  up := fun _ => trySend_undirected _
  exportStats := Prog.guarantees_attempt fun _ _ => ⟨rfl, by simp⟩
  stats := fun _ => trySend_undirected _

/-- The address of an accepted PULL_DATA is the one that is known from then on. -/
theorem handlePullData_shows {data : List UInt8} {remote : SocketAddr}
    (polls : ∀ pl, PullData.fromSlice data = .ok pl → K remote) :
    (handlePullData data remote).Shows (State.Addressed K)
      (Effect.Directed crates profile K) := by
  refine Prog.shows_lift fun pl read => ?_
  refine Prog.shows_bind (shows_of_undirected (sendTo_undirected (by simp))) fun _ => ?_
  refine Prog.shows_bind (shows_of_undirected
    (Prog.guarantees_atomically fun _ _ => ⟨rfl, by simp⟩)) fun _ => ?_
  refine Prog.shows_act fun e s _ => ⟨?_, by simp, Prog.shows_done _⟩
  rintro addr ⟨⟩
  exact polls pl read

/-- The item is sent as it is converted, to the address that is known when it is sent. -/
theorem sendPullResp_shows (pl : Gw.DownlinkFrame) (i : Nat) :
    (sendPullResp crates profile pl i).Shows (State.Addressed K)
      (Effect.Directed crates profile K) := by
  refine Prog.shows_lift fun resp accepted => ?_
  refine Prog.shows_act fun e s addressed => ⟨addressed, by simp, ?_⟩
  refine Prog.shows_lift fun addr known => ?_
  refine Prog.shows_lift fun bytes encoded => ?_
  refine Prog.Guarantees.shows (sendTo_guarantees (fun _ _ => ⟨id, by simp⟩) fun _ _ => ⟨id, ?_⟩)
  have directed : Effect.Directed crates profile K (.pullResp pl i bytes addr) :=
    ⟨⟨resp, accepted, encoded⟩, addressed addr (Outcome.okOr_eq_ok.mp known)⟩
  simpa using directed

theorem sendDownlinkFrame_shows (pl : Gw.DownlinkFrame) (acks : List Gw.DownlinkTxAckItem)
    (i : Nat) : (sendDownlinkFrame crates profile pl acks i).Shows (State.Addressed K)
      (Effect.Directed crates profile K) := by
  refine Prog.shows_bind (shows_of_undirected (ask_guarantees (fun _ _ => .idle) _)) fun now => ?_
  refine Prog.shows_bind (shows_of_undirected
    (Prog.guarantees_atomically fun _ _ => ⟨rfl, by simp⟩)) fun _ => ?_
  exact sendPullResp_shows pl i

theorem acknowledge_shows (pl : TxAck) (dc : DownlinkCache) :
    (acknowledge crates profile pl dc).Shows (State.Addressed K)
      (Effect.Directed crates profile K) := by
  rcases Nat.lt_or_ge dc.index dc.ackItems.length with bound | beyond
  · rw [acknowledge_eq crates profile bound]
    split
    · refine Prog.shows_bind (shows_of_undirected
        (Prog.guarantees_attempt fun _ _ => ⟨rfl, by simp⟩)) fun _ => ?_
      exact shows_of_undirected (trySend_undirected _)
    · exact sendDownlinkFrame_shows _ _ _
  · rw [acknowledge_of_le crates profile beyond]
    exact Prog.shows_done _

theorem handleTxAck_shows (data : List UInt8) :
    (handleTxAck crates profile data).Shows (State.Addressed K)
      (Effect.Directed crates profile K) := by
  refine Prog.shows_lift fun pl _ => ?_
  refine Prog.shows_bind (shows_of_undirected (getDownlinkCache_guarantees
    (Prog.guarantees_atomically fun _ _ => ⟨rfl, by simp⟩)
    (Prog.guarantees_atomically fun _ _ => ⟨rfl, by simp⟩))) fun found => ?_
  exact Prog.shows_lift fun dc _ => acknowledge_shows pl dc

/-- Every request shows PULL_RESPs to addresses in `K` only, if every PULL_DATA comes from `K`. -/
theorem program_shows (i : Thread) (r : Request)
    (polls : ∀ data remote, r = .datagram data remote → data[3]? = some 0x02 → ∀ pl,
      PullData.fromSlice data = .ok pl → K remote) :
    (program crates profile conf i r).Shows (State.Addressed K)
      (Effect.Directed crates profile K) := by
  cases r with
  | command pl => exact sendDownlinkFrame_shows _ _ _
  | datagram data remote =>
      have handled : (receive crates profile conf data remote).Shows (State.Addressed K)
          (Effect.Directed crates profile K) := by
        unfold receive
        split
        · exact Prog.shows_done _
        · exact shows_of_undirected (handlePushData_guarantees pushData_undirected data remote)
        · next pullData => exact handlePullData_shows (polls data remote rfl pullData)
        · exact handleTxAck_shows data
        · exact Prog.shows_done _
      exact handled

end

/-! ## A frame with two items -/

/-- A pool that has a history still has one after it has served some of a request. -/
theorem serve_told {crates : Crates} {profile : Profile} {conf : Conf} {pool : System}
    (told : ∃ history, Pool.History (program crates profile conf) (admits fun _ => True)
      (fun _ => True) (State.init conf) history pool) (i : Thread) (r : Request) (n : Nat)
    (free : (pool.threads i).Finished) (admitted : admits (fun _ => True) i r) :
    ∃ history, Pool.History (program crates profile conf) (admits fun _ => True) (fun _ => True)
      (State.init conf) history (serve crates profile conf pool i r n) := by
  unfold serve
  induction n with
  | zero =>
      obtain ⟨history, told⟩ := told
      exact ⟨_, told.snoc (.took i r free admitted)⟩
  | succ n ih =>
      obtain ⟨history, told⟩ := ih
      rw [Function.iterate_succ_apply']
      obtain ⟨events, told⟩ := told.advance i (e := Env.plain) trivial
      exact ⟨_, told⟩

/-- The frame with two items has been commanded, and its first item sent. -/
def oneOfTwoSent : System :=
  serve tooLateCrates .release {} addressKnown (.command 0) (.command twoItems) 4

/-- A datagram has come in then, and the receive loop has done some of its handling. -/
def oneOfTwoHandled (data : List UInt8) (n : Nat) : System :=
  serve tooLateCrates .release {} oneOfTwoSent .udp (.datagram data forwarderAddr) n

theorem oneOfTwoHandled_told (data : List UInt8) (n : Nat) :
    ∃ history, Pool.History (program tooLateCrates .release {}) (admits fun _ => True)
      (fun _ => True) (State.init {}) history (oneOfTwoHandled data n) := by
  have idle : ∃ history, Pool.History (program tooLateCrates .release {})
      (admits fun _ => True) (fun _ => True) (State.init {}) history
      (Pool.idle (State.init {})) := ⟨[], .nil⟩
  have known := serve_told idle .udp (.datagram pullDataDatagram forwarderAddr) 3 trivial trivial
  have sent := serve_told known (.command 0) (.command twoItems) 4 trivial trivial
  exact serve_told sent .udp (.datagram data forwarderAddr) n trivial trivial

/-! ## Every run -/

/-- A readable PULL_DATA has come from the address. -/
def Polled (before : List (Pool.Event Thread Request Effect)) (addr : SocketAddr) : Prop :=
  ∃ i data pl, .took i (.datagram data addr) ∈ before ∧ data[3]? = some 0x02 ∧
    PullData.fromSlice data = .ok pl

/-- What the PULL_RESP of an item goes back to: a command of its frame, a PULL_DATA from the
address that it is sent to, and as many refusals with its token, from anyone, as there are items
before it. -/
structure Sourced (crates : Crates) (profile : Profile)
    (before : List (Pool.Event Thread Request Effect)) (frame : Gw.DownlinkFrame) (index : Nat)
    (bytes : List UInt8) (addr : SocketAddr) : Prop where
  commanded : ∃ n, .took (.command n) (.command frame) ∈ before
  encoded : ∃ resp, PullResp.fromProto profile frame index (tokenFor frame) = .ok resp ∧
    resp.toVec crates = .ok bytes
  polled : Polled before addr
  refused : ∃ refusals : List Gw.TxAckStatus, refusals.length = index ∧
    (∀ status ∈ refusals, status ≠ .ok) ∧
    refusals.Sublist (reported crates (tokenFor frame) (Pool.requests .udp before))

/-- What an ack goes back to: a command of its frame, and for each status in it but those of the
items that have not been tried, a TX_ACK with the token of the frame, in the same order. -/
def Justified (crates : Crates) (before : List (Pool.Event Thread Request Effect))
    (ack : Gw.DownlinkTxAck) : Prop :=
  ∃ n frame statuses, .took (.command n) (.command frame) ∈ before ∧
    ack.downlinkId = frame.downlinkId ∧
    statuses.Sublist (reported crates (tokenFor frame) (Pool.requests .udp before)) ∧
    ack.items.map Gw.DownlinkTxAckItem.getStatus =
      statuses ++ List.replicate (frame.items.length - statuses.length) .ignored

section

variable {crates : Crates} {profile : Profile} {conf : Conf}
  {before : List (Pool.Event Thread Request Effect)} {i : Thread} {os : List Effect}
  {pool : System}

/-- The frame has been commanded. -/
def CommandedIn (before : List (Pool.Event Thread Request Effect)) (frame : Gw.DownlinkFrame) :
    Prop :=
  ∃ n, .took (.command n) (.command frame) ∈ before

/-- Every frame that a history is about has been commanded in it. -/
theorem commanded_of_history
    (told : Pool.History (program crates profile conf) (admits fun _ => True) (fun _ => True)
      (State.init conf) (before ++ [.acted i os]) pool) :
    Pool.History (program crates profile conf) (admits (CommandedIn before)) (fun _ => True)
      (State.init conf) (before ++ [.acted i os]) pool := by
  refine told.restrict fun j r requested => ?_
  have admitted := told.admitted requested
  cases j with
  | udp =>
      cases r with
      | command pl => exact admitted
      | datagram data remote => trivial
  | command n =>
      cases r with
      | command pl => exact ⟨n, by simpa using requested⟩
      | datagram data remote => exact admitted

theorem directed_of_history
    (told : Pool.History (program crates profile conf) (admits fun _ => True) (fun _ => True)
      (State.init conf) (before ++ [.acted i os]) pool) :
    ∀ o ∈ os, o.Directed crates profile (Polled before) := by
  have requested : ∀ j r, .took j r ∈ before ++ [.acted i os] → ∀ data remote,
      r = .datagram data remote → data[3]? = some 0x02 → ∀ pl,
        PullData.fromSlice data = .ok pl → Polled before remote := by
    rintro j _ requested data remote rfl pullData pl read
    exact ⟨j, data, pl, by simpa using requested, pullData, read⟩
  have polls := told.restrict requested
  intro o member
  refine (Pool.run_shows program_shows ?_ polls.run).2 o ?_
  · rintro addr ⟨⟩
  · rw [told.log]
    simp [Pool.Event.effects, member]

/-- The thread that has just acted serves a request, and the effects of the action are the last
ones in its trail. -/
theorem acted_of_history {F : Gw.DownlinkFrame → Prop}
    (told : Pool.History (program crates profile conf) (admits F) (fun _ => True)
      (State.init conf) (before ++ [.acted i os]) pool) :
    ∃ r, Serves crates profile F i r (pool.trail i) ∧ (∀ o ∈ os, o ∈ pool.trail i) ∧
      (Pool.requests i before).getLast? = some r := by
  obtain ⟨middle, earlier, last⟩ := Trace.split told
  obtain ⟨after, move, rest⟩ := last.uncons
  obtain rfl := rest.eq_of_nil
  cases move with
  | acted i action next e current answer =>
      obtain ⟨r, job, _⟩ := (sound_serves (Pool.History.run earlier)).serving current
      refine ⟨r, serves_of_job (Pool.History.run told) (i := i) job, ?_,
        (Pool.History.job earlier i).symm.trans job⟩
      intro o member
      rw [Pool.exec_trail_self]
      exact List.mem_append_right _ member

/-- The statuses of an entry that has been found, and the one that has been reported for it. -/
theorem told_of_found {data : List UInt8} {remote : SocketAddr}
    {more : List Effect} {o : Effect} {pl : TxAck} {found : DownlinkCache}
    (remembers : Remembers crates (before ++ [.acted .udp os]) pool)
    (within : o ∈ pool.trail .udp)
    (head : (pool.trail .udp ++ more).head? = some (.looked pl.randomToken (some found)))
    (last : (Pool.requests .udp before).getLast? = some (.datagram data remote))
    (txAck : data[3]? = some 0x05) (read : TxAck.fromSlice crates data = .ok pl) :
    (found.tried ++ [pl.toProtoTxAckStatus]).Sublist
      (reported crates pl.randomToken (Pool.requests .udp before)) := by
  have looked : .looked pl.randomToken (some found) ∈ pool.trail .udp := by
    cases trail : pool.trail .udp with
    | nil => simp [trail] at within
    | cons first rest =>
        rw [trail] at head
        cases head
        exact List.mem_cons_self
  have earlier := remembers.found _ _ looked
  rw [Pool.requests_snoc] at earlier
  rw [reported_now last (reported_of_read txAck read rfl)]
  simpa [Pool.Event.request?] using earlier.append_right [pl.toProtoTxAckStatus]

/-- In every run, whatever datagrams come in, a PULL_RESP is that of a commanded frame, goes to an
address that a PULL_DATA has come from, and is for the first item, or for a later one after as many
refusals as there are items before it. -/
theorem pullResp_sourced
    (told : Pool.History (program crates profile conf) (admits fun _ => True) (fun _ => True)
      (State.init conf) (before ++ [.acted i os]) pool)
    {frame : Gw.DownlinkFrame} {index : Nat} {bytes : List UInt8} {addr : SocketAddr}
    (sent : .pullResp frame index bytes addr ∈ os) :
    Sourced crates profile before frame index bytes addr := by
  have told' := commanded_of_history told
  obtain ⟨r, serves, within, last⟩ := acted_of_history told'
  obtain ⟨encoded, polled⟩ := directed_of_history told _ sent
  have trail := within _ sent
  cases i with
  | command n =>
      cases r with
      | datagram data remote => exact absurd serves id
      | command pl =>
          obtain ⟨more, result, tried⟩ := serves
          obtain ⟨rfl, rfl⟩ := tried.of_pullResp (List.mem_append_left more trail)
          have commanded := Pool.took_of_mem_requests (List.mem_of_getLast? last)
          exact ⟨⟨n, commanded⟩, encoded, polled, [], rfl, by simp, List.nil_sublist _⟩
  | udp =>
      cases r with
      | command pl => exact absurd serves id
      | datagram data remote =>
          have txAck : data[3]? = some 0x05 := by
            by_contra other
            exact serves.2 other _ trail
          obtain ⟨more, result, handled⟩ := serves.1 txAck
          obtain ⟨pl, found, read, good, head, more', rfl, rfl⟩ :=
            handled.of_pullResp (List.mem_append_left more trail)
          have unsent : pl.toProtoTxAckStatus ≠ .ok := fun ok => more' (.inl ok)
          have bound : found.index + 1 < found.ackItems.length :=
            Nat.lt_of_not_le fun beyond => more' (.inr beyond)
          refine ⟨good.commanded, encoded, polled, found.tried ++ [pl.toProtoTxAckStatus], ?_, ?_,
            ?_⟩
          · simp only [DownlinkCache.tried, List.length_append, List.length_map, List.length_take,
              List.length_singleton]
            omega
          · intro status member
            rcases List.mem_append.mp member with earlier | now
            · obtain ⟨item, inside, rfl⟩ := List.mem_map.mp earlier
              exact (good.before item inside).1
            · rw [List.mem_singleton.mp now]
              exact unsent
          · rw [← good.token]
            exact told_of_found (remembers_of_history told') trail head last txAck read

/-- The second of two items is sent after a refusal of the first. -/
theorem pullResp_sourced_second_item :
    ∃ before bytes, Sourced tooLateCrates .release before twoItems 1 bytes forwarderAddr := by
  obtain ⟨before, told⟩ := oneOfTwoHandled_told tooLateDatagram 5
  have sends := told.act .udp (e := Env.plain) trivial (List.cons_ne_nil _ _)
    (rfl : (Pool.advance (oneOfTwoHandled tooLateDatagram 5) .udp Env.plain).trail .udp =
      (oneOfTwoHandled tooLateDatagram 5).trail .udp ++
        [.pullResp twoItems 1 _ forwarderAddr])
  exact ⟨before, _, pullResp_sourced sends List.mem_cons_self⟩

/-- In every run, whatever datagrams come in, an ack is for a commanded frame, and its statuses
have been reported for the token of the frame, in the same order. -/
theorem ack_justified
    (told : Pool.History (program crates profile conf) (admits fun _ => True) (fun _ => True)
      (State.init conf) (before ++ [.acted i os]) pool)
    {ack : Gw.DownlinkTxAck} (sent : .event (.ack ack) ∈ os) : Justified crates before ack := by
  have told' := commanded_of_history told
  obtain ⟨r, serves, within, last⟩ := acted_of_history told'
  have trail := within _ sent
  cases i with
  | command n =>
      cases r with
      | datagram data remote => exact absurd serves id
      | command pl =>
          obtain ⟨more, result, tried⟩ := serves
          exact absurd (List.mem_append_left more trail) (tried.not_event _)
  | udp =>
      cases r with
      | command pl => exact absurd serves id
      | datagram data remote =>
          have txAck : data[3]? = some 0x05 := by
            by_contra other
            exact serves.2 other _ trail
          obtain ⟨more, result, handled⟩ := serves.1 txAck
          obtain ⟨pl, found, read, good, head, bound, rfl⟩ :=
            handled.of_ack (List.mem_append_left more trail)
          obtain ⟨n, commanded⟩ := good.commanded
          refine ⟨n, found.frame, found.tried ++ [pl.toProtoTxAckStatus], commanded, rfl, ?_, ?_⟩
          · rw [← good.token]
            exact told_of_found (remembers_of_history told') trail head last txAck read
          · have untried : (found.ackItems.drop (found.index + 1)).map
                Gw.DownlinkTxAckItem.getStatus =
                List.replicate (found.ackItems.length - (found.index + 1)) .ignored := by
              rw [← List.length_drop]
              exact List.map_eq_replicate_iff.mpr good.ignored
            have length : (found.tried ++ [pl.toProtoTxAckStatus]).length = found.index + 1 := by
              simp only [DownlinkCache.tried, List.length_append, List.length_map,
                List.length_take, List.length_singleton]
              omega
            rw [length, ← good.length, DownlinkCache.ack, found.answered_eq bound, List.map_append,
              List.map_cons, untried, ← DownlinkCache.tried]
            simp

/-- One of two items is sent at once. -/
def sentOfTwoAck : Gw.DownlinkTxAck :=
  ⟨"0000000000000000", 1, [.ofStatus .ok, .ofStatus .ignored]⟩

theorem ack_justified_two_items : ∃ before, Justified tooLateCrates before sentOfTwoAck := by
  obtain ⟨before, told⟩ := oneOfTwoHandled_told txAckDatagram 3
  have offers := told.act .udp (e := Env.plain) trivial (List.cons_ne_nil _ _)
    (by decide : (Pool.advance (oneOfTwoHandled txAckDatagram 3) .udp Env.plain).trail .udp =
      (oneOfTwoHandled txAckDatagram 3).trail .udp ++ [.event (.ack sentOfTwoAck)])
  exact ⟨before, ack_justified offers List.mem_cons_self⟩

end

end MqttForwarder.SemtechUdp
