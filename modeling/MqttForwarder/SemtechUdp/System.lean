import Mathlib.Logic.Function.Iterate
import MqttForwarder.SemtechUdp.Actions

/-!
# The tasks of the forwarder

One task runs the receive loop.  Every downlink command is handled in a task
of its own.  The packet forwarder and anyone else may send any datagram at any
time, so a reachable pool is the result of any interleaving of commands,
datagrams and actions.
-/

namespace MqttForwarder.SemtechUdp

open MqttForwarder.Rust

inductive Thread where
  | udp
  | command (n : Nat)
  deriving DecidableEq, Repr

inductive Request where
  | command (pl : Gw.DownlinkFrame)
  | datagram (data : List UInt8) (remote : SocketAddr)

/-- A pool of the tasks of the backend. -/
abbrev System := Pool Thread Request Env State Effect

section

variable (crates : Crates) (profile : Profile) (conf : Conf)

/-- What a request makes its thread do. -/
def program : Thread → Request → Task Unit
  | _, .command pl => Backend.sendDownlinkFrame crates profile pl
  | _, .datagram data remote => receive crates profile conf data remote

/-- Datagrams go to the receive loop, and commands with a frame in `F` to the other tasks. -/
def admits (F : Gw.DownlinkFrame → Prop) : Thread → Request → Prop
  | .command _, .command pl => F pl
  | .udp, .datagram _ _ => True
  | _, _ => False

/-- The pools that can be reached when every commanded frame is in `F`. -/
def Reachable (F : Gw.DownlinkFrame → Prop) (pool : System) : Prop :=
  Pool.Run (program crates profile conf) (admits F) (fun _ => True)
    (Pool.idle (State.init conf)) pool

end

section

variable {crates : Crates} {profile : Profile} {conf : Conf} {F : Gw.DownlinkFrame → Prop}
  {pool : System}

theorem Reachable.init : Reachable crates profile conf F (Pool.idle (State.init conf)) := .refl

variable (crates profile conf) in
/-- Thread `i` takes the request `r` and does `n` actions, in the plain environment. -/
def serve (pool : System) (i : Thread) (r : Request) (n : Nat) : System :=
  (fun pool => pool.advance i Env.plain)^[n] (pool.start i r (program crates profile conf i r))

theorem run_serve_of_start {E : Env → Prop} (plain : E Env.plain) (pool : System) (i : Thread)
    (r : Request) (n : Nat) :
    Pool.Run (program crates profile conf) (admits F) E
      (pool.start i r (program crates profile conf i r))
      (serve crates profile conf pool i r n) := by
  unfold serve
  induction n with
  | zero => exact .refl
  | succ n ih =>
      rw [Function.iterate_succ_apply']
      exact Pool.run_advance ih i plain

theorem run_serve {E : Env → Prop} (plain : E Env.plain) {before : System}
    (run : Pool.Run (program crates profile conf) (admits F) E before pool) (i : Thread)
    (r : Request) (n : Nat) (free : (pool.threads i).Finished) (admitted : admits F i r) :
    Pool.Run (program crates profile conf) (admits F) E before
      (serve crates profile conf pool i r n) :=
  (run.tail (.start i r free admitted)).trans (run_serve_of_start plain pool i r n)

end

section

variable {crates : Crates} {profile : Profile} {conf : Conf}
  {G : Env → State → State → List Effect → Prop}

/-- What the elementary actions guarantee, every program guarantees. -/
theorem program_guarantees (pushData : PushDataActions crates G) (pullData : PullDataActions G)
    (txAck : TxAckActions crates G) (i : Thread) (r : Request) :
    (program crates profile conf i r).Guarantees G := by
  cases r with
  | command pl => exact sendDownlinkFrame_guarantees txAck.toDownlinkActions _ _ _
  | datagram data remote =>
      have handled : (receive crates profile conf data remote).Guarantees G := by
        unfold receive
        split
        · trivial
        · exact handlePushData_guarantees pushData data remote
        · exact handlePullData_guarantees pullData data remote
        · exact handleTxAck_guarantees txAck data
        · trivial
      exact handled

end

/-! ## Effects on the counters -/

/-- What the effect did to the counters. -/
def Effect.count (crates : Crates) (stats : Stats) : Effect → Stats
  | .countedUplink pl => (stats.countUplink crates pl).2
  | .countedDownlink pl ack => (stats.countDownlink crates pl ack).2
  | .exported => (stats.exportStats crates).2
  | _ => stats

/-- The counters after some effects. -/
def replay (crates : Crates) (stats : Stats) (os : List Effect) : Stats :=
  os.foldl (Effect.count crates) stats

/-- The effects of the action account for what it does to the counters. -/
def Recorded (crates : Crates) (_ : Env) (s s' : State) (os : List Effect) : Prop :=
  s'.stats = replay crates s.stats os

theorem replay_append (crates : Crates) (stats : Stats) (first second : List Effect) :
    replay crates stats (first ++ second) =
      replay crates (replay crates stats first) second :=
  List.foldl_append

/-! ## Handlers that leave the downlinks alone -/

/-- The effect has nothing to do with a downlink. -/
def Effect.aside : Effect → Prop
  | .pushAck _ _ => True
  | .pullAck _ _ => True
  | .event (.up _) => True
  | .event (.stats _) => True
  | .countedUplink _ => True
  | .exported => True
  | _ => False

/-- The action leaves the downlink cache as it is, has no effect on a downlink, and leaves the
address of the packet forwarder or sets a new one. -/
structure Aside (crates : Crates) (e : Env) (s s' : State) (os : List Effect) : Prop where
  cache : s'.downlinkCache = s.downlinkCache
  addr : s'.pullAddr = s.pullAddr ∨ ∃ addr, s'.pullAddr = some addr
  effects : ∀ o ∈ os, o.aside
  recorded : Recorded crates e s s' os

theorem Aside.unchanged {crates : Crates} {e : Env} {s : State} : Aside crates e s s [] :=
  ⟨rfl, .inl rfl, by simp, rfl⟩

theorem Aside.known {crates : Crates} {e : Env} {s s' : State} {os : List Effect}
    (aside : Aside crates e s s' os) (known : s.pullAddr ≠ none) : s'.pullAddr ≠ none := by
  rcases aside.addr with same | ⟨addr, new⟩
  · rw [same]
    exact known
  · simp [new]

section

variable {crates : Crates} {profile : Profile} {conf : Conf}

theorem pushData_aside : PushDataActions crates (Aside crates) where
  idle := fun _ _ => Aside.unchanged
  pushAck := fun _ _ => sendTo_guarantees (fun _ _ => Aside.unchanged) fun _ _ =>
    ⟨rfl, .inl rfl, by simp [Effect.aside], rfl⟩
  countUplink := fun _ => Prog.guarantees_attempt fun _ _ =>
    ⟨rfl, .inl rfl, by simp [Effect.aside], rfl⟩
  up := fun _ => trySend_guarantees (fun _ _ => Aside.unchanged) fun _ _ _ =>
    ⟨rfl, .inl rfl, by simp [Effect.aside], rfl⟩
  exportStats := Prog.guarantees_attempt fun _ _ =>
    ⟨rfl, .inl rfl, by simp [Effect.aside], rfl⟩
  stats := fun _ => trySend_guarantees (fun _ _ => Aside.unchanged) fun _ _ _ =>
    ⟨rfl, .inl rfl, by simp [Effect.aside], rfl⟩

theorem pullData_aside : PullDataActions (Aside crates) where
  pullAck := fun _ _ => sendTo_guarantees (fun _ _ => Aside.unchanged) fun _ _ =>
    ⟨rfl, .inl rfl, by simp [Effect.aside], rfl⟩
  setGatewayId := fun _ => Prog.guarantees_atomically fun _ _ => ⟨rfl, .inl rfl, by simp, rfl⟩
  setPullAddr := fun addr => Prog.guarantees_atomically fun _ _ =>
    ⟨rfl, .inr ⟨addr, rfl⟩, by simp, rfl⟩

/-- Only a TX_ACK makes the receive loop touch a downlink. -/
theorem receive_cases (crates : Crates) (profile : Profile) (conf : Conf) (data : List UInt8)
    (remote : SocketAddr) :
    (data[3]? = some 0x05 ∧
      receive crates profile conf data remote = handleTxAck crates profile data) ∨
    (data[3]? ≠ some 0x05 ∧
      (receive crates profile conf data remote).Guarantees (Aside crates)) := by
  unfold receive
  split
  · exact .inr ⟨by simp_all, trivial⟩
  · exact .inr ⟨by simp_all, handlePushData_guarantees pushData_aside data remote⟩
  · exact .inr ⟨by simp_all, handlePullData_guarantees pullData_aside data remote⟩
  · exact .inl ⟨by simp_all, rfl⟩
  · exact .inr ⟨by simp_all, trivial⟩

/-! ## The counters account for every action -/

theorem pushData_recorded : PushDataActions crates (Recorded crates) where
  idle := fun _ _ => rfl
  pushAck := fun _ _ => sendTo_guarantees (fun _ _ => rfl) fun _ _ => rfl
  countUplink := fun _ => Prog.guarantees_attempt fun _ _ => rfl
  up := fun _ => trySend_guarantees (fun _ _ => rfl) fun _ _ _ => rfl
  exportStats := Prog.guarantees_attempt fun _ _ => rfl
  stats := fun _ => trySend_guarantees (fun _ _ => rfl) fun _ _ _ => rfl

theorem pullData_recorded : PullDataActions (Recorded crates) where
  pullAck := fun _ _ => sendTo_guarantees (fun _ _ => rfl) fun _ _ => rfl
  setGatewayId := fun _ => Prog.guarantees_atomically fun _ _ => rfl
  setPullAddr := fun _ => Prog.guarantees_atomically fun _ _ => rfl

theorem txAck_recorded : TxAckActions crates (Recorded crates) where
  idle := fun _ _ => rfl
  setDownlinkCache := fun _ _ => Prog.guarantees_atomically fun _ _ => rfl
  pullResp := fun _ _ _ _ => sendTo_guarantees (fun _ _ => rfl) fun _ _ => rfl
  cleanDownlinkCache := Prog.guarantees_atomically fun _ _ => rfl
  readDownlinkCache := fun _ => Prog.guarantees_atomically fun _ _ => rfl
  countDownlink := fun _ _ => Prog.guarantees_attempt fun _ _ => rfl
  ack := fun _ => trySend_guarantees (fun _ _ => rfl) fun _ _ _ => rfl

/-- Whatever a thread does, its effects account for what it does to the counters. -/
theorem program_recorded (i : Thread) (r : Request) :
    (program crates profile conf i r).Guarantees (Recorded crates) :=
  program_guarantees pushData_recorded pullData_recorded txAck_recorded i r

end

end MqttForwarder.SemtechUdp
