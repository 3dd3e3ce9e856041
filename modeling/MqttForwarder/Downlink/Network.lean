import MqttForwarder.Downlink.Apart

/-!
# The packet forwarder and the network

A run is watched for one token.  The packet forwarder answers each PULL_RESP
with that token by one TX_ACK, after any delay and with any outcome; the
datagrams between the two may be reordered, and by the rules of the run lost or
duplicated.  Everything that has another token is arbitrary.
-/

namespace MqttForwarder.SemtechUdp

open MqttForwarder.Rust

/-- One item of a frame, as it was sent to the packet forwarder. -/
structure Shot where
  frame : Gw.DownlinkFrame
  index : Nat
  deriving DecidableEq

/-- A TX_ACK of the packet forwarder: what it answers, with what outcome, in which datagram. -/
structure Answer where
  shot : Shot
  status : Gw.TxAckStatus
  data : List UInt8
  deriving DecidableEq

/-- The tasks of the forwarder with the datagrams in flight. -/
structure Net : Type 1 where
  pool : System
  /-- The frames with the watched token that have been commanded. -/
  commanded : List Gw.DownlinkFrame
  /-- The PULL_RESPs that have not been answered. -/
  pending : List Shot
  /-- The TX_ACKs that have not been received. -/
  inFlight : List Answer
  /-- All TX_ACKs, in the order in which the packet forwarder gave them. -/
  produced : List Answer

/-- The datagram is a TX_ACK that reports `status` for `token`. -/
def Answers (crates : Crates) (token : UInt16) (data : List UInt8) (status : Gw.TxAckStatus) :
    Prop :=
  data[3]? = some 0x05 ∧ ∃ pl, TxAck.fromSlice crates data = .ok pl ∧
    pl.randomToken = token ∧ pl.toProtoTxAckStatus = status

def Effect.shot? : Effect → Option Shot
  | .pullResp frame index _ _ => some ⟨frame, index⟩
  | _ => none

/-- The items that the effects have sent with this token. -/
def shots (token : UInt16) (os : List Effect) : List Shot :=
  (os.filter (Effect.about token)).filterMap Effect.shot?

/-- What is allowed to happen in a run. -/
structure Rules : Type 1 where
  /-- Frames with the watched token that may be commanded, each once. -/
  commands : Gw.DownlinkFrame → Prop
  /-- Requests that have nothing to do with the watched token. -/
  others : Request → Prop
  /-- Answers of the environment to the next action. -/
  allows : Net → Env → Prop
  /-- TX_ACKs that the packet forwarder may give. -/
  gives : Answer → Prop
  loses : Prop
  duplicates : Prop

/-- Only `f` has the watched token.  Anything may happen with other tokens and in the
environment, but no datagram of the watched downlink is lost or duplicated. -/
def Rules.faithful (f : Gw.DownlinkFrame) : Rules where
  commands := fun g => g = f
  others := fun _ => True
  allows := fun _ _ => True
  gives := fun _ => True
  loses := False
  duplicates := False

/-- As `faithful`, but datagrams may be lost. -/
def Rules.lossy (f : Gw.DownlinkFrame) : Rules := { Rules.faithful f with loses := True }

/-- As `faithful`, but datagrams may be duplicated. -/
def Rules.duplicating (f : Gw.DownlinkFrame) : Rules :=
  { Rules.faithful f with duplicates := True }

namespace Net

/-- A net before anything has been asked of the forwarder. -/
def init (conf : Conf) : Net where
  pool := Pool.idle (State.init conf)
  commanded := []
  pending := []
  inFlight := []
  produced := []

/-- What has happened with a token. -/
def trace (token : UInt16) (net : Net) : List Effect :=
  net.pool.log.filter (Effect.about token)

/-- Thread `i` takes a request. -/
def start (net : Net) (i : Thread) (r : Request) (p : Task Unit) : Net :=
  { net with pool := net.pool.start i r p }

/-- Thread `i` does an action; the packet forwarder receives what it sends. -/
def exec (token : UInt16) {β : Type} (net : Net) (i : Thread)
    (action : Env → State → Reply β State Effect) (next : β → Task Unit) (e : Env) : Net :=
  { net with
    pool := net.pool.exec i action next e
    pending := net.pending ++ shots token (action e net.pool.state).effects }

section

variable (crates : Crates) (profile : Profile) (conf : Conf) (token : UInt16) (rules : Rules)

inductive Step : Net → Net → Prop where
  | exec {net : Net} {β : Type} (i : Thread) (action : Env → State → Reply β State Effect)
      (next : β → Task Unit) (e : Env) (current : net.pool.threads i = .act action next)
      (allowed : rules.allows net e) : Step net (net.exec token i action next e)
  | command {net : Net} (n : Nat) (g : Gw.DownlinkFrame)
      (free : (net.pool.threads (.command n)).Finished) (own : tokenFor g = token)
      (once : g ∉ net.commanded) (allowed : rules.commands g) :
      Step net { net.start (.command n) (.command g)
        (program crates profile conf (.command n) (.command g)) with
          commanded := net.commanded ++ [g] }
  | other {net : Net} (i : Thread) (r : Request) (free : (net.pool.threads i).Finished)
      (admitted : admits (fun _ => True) i r) (stray : Stray crates token r)
      (allowed : rules.others r) :
      Step net (net.start i r (program crates profile conf i r))
  | answer {net : Net} {before after : List Shot} (answer : Answer)
      (waiting : net.pending = before ++ answer.shot :: after)
      (answers : Answers crates token answer.data answer.status)
      (allowed : rules.gives answer) :
      Step net { net with
        pending := before ++ after
        inFlight := net.inFlight ++ [answer]
        produced := net.produced ++ [answer] }
  | deliver {net : Net} {before after : List Answer} (answer : Answer) (remote : SocketAddr)
      (arrives : net.inFlight = before ++ answer :: after)
      (free : (net.pool.threads .udp).Finished) :
      Step net { net.start .udp (.datagram answer.data remote)
        (program crates profile conf .udp (.datagram answer.data remote)) with
          inFlight := before ++ after }
  | losePullResp {net : Net} {before after : List Shot} (shot : Shot)
      (waiting : net.pending = before ++ shot :: after) (allowed : rules.loses) :
      Step net { net with pending := before ++ after }
  | loseTxAck {net : Net} {before after : List Answer} (answer : Answer)
      (arrives : net.inFlight = before ++ answer :: after) (allowed : rules.loses) :
      Step net { net with inFlight := before ++ after }
  | duplicate {net : Net} (answer : Answer) (arrives : answer ∈ net.inFlight)
      (allowed : rules.duplicates) :
      Step net { net with inFlight := net.inFlight ++ [answer] }

/-- Any number of steps. -/
abbrev Run : Net → Net → Prop := Relation.ReflTransGen (Step crates profile conf token rules)

end

section

variable {crates : Crates} {profile : Profile} {conf : Conf} {token : UInt16} {rules : Rules}
  {net net' : Net}

/-- The tasks of a net take the steps of the forwarder. -/
theorem Step.pool (step : Step crates profile conf token rules net net') :
    Pool.Run (program crates profile conf) (admits fun _ => True) (fun _ => True)
      net.pool net'.pool := by
  cases step with
  | exec i action next e current allowed => exact .single (.exec i action next e current trivial)
  | command n g free own once allowed =>
      exact .single (.start (Thread.command n) (Request.command g) free trivial)
  | other i r free admitted stray allowed => exact .single (.start i r free admitted)
  | answer answer waiting answers allowed => exact .refl
  | deliver answer remote arrives free =>
      exact .single (.start Thread.udp (Request.datagram answer.data remote) free trivial)
  | losePullResp shot waiting allowed => exact .refl
  | loseTxAck answer arrives allowed => exact .refl
  | duplicate answer arrives allowed => exact .refl

theorem Run.pool (run : Run crates profile conf token rules net net') :
    Pool.Run (program crates profile conf) (admits fun _ => True) (fun _ => True)
      net.pool net'.pool := by
  induction run with
  | refl => exact .refl
  | tail _ step ih => exact ih.trans step.pool

/-- The effects of a run account for what it does to the counters. -/
theorem Run.recorded (run : Run crates profile conf token rules net net')
    (guarantees : ∀ i, (net.pool.threads i).Guarantees (Recorded crates))
    (fresh : net.pool.log = []) :
    net'.pool.state.stats = replay crates net.pool.state.stats net'.pool.log := by
  have base : net.pool.state.stats = replay crates net.pool.state.stats net.pool.log := by
    rw [fresh]
    rfl
  refine Pool.run_preserves (I := fun log s => s.stats = replay crates net.pool.state.stats log)
    program_recorded ?_ run.pool guarantees base
  intro e s s' os log action same
  rw [action, same, replay_append]

end

/-! ## Runs in the plain environment -/

section

variable (crates : Crates) (profile : Profile) (conf : Conf) (token : UInt16)

/-- Thread `i` does its next action, if it has one left. -/
def advance (net : Net) (i : Thread) : Net :=
  match net.pool.threads i with
  | .act action next => net.exec token i action next Env.plain
  | .done _ => net

/-- Thread `i` does `n` actions. -/
def work (net : Net) (i : Thread) (n : Nat) : Net := (fun net => net.advance token i)^[n] net

/-- Thread `i` takes a request and does `n` actions. -/
def serve (net : Net) (i : Thread) (r : Request) (n : Nat) : Net :=
  (net.start i r (program crates profile conf i r)).work token i n

/-- The frame `g` is commanded, and its thread does `k` actions. -/
def order (net : Net) (n : Nat) (g : Gw.DownlinkFrame) (k : Nat) : Net :=
  work token
    { net.start (.command n) (.command g) (program crates profile conf (.command n) (.command g))
      with commanded := net.commanded ++ [g] } (.command n) k

/-- The packet forwarder gives an answer to the oldest PULL_RESP. -/
def reply (net : Net) (answer : Answer) : Net :=
  { net with
    pending := [] ++ net.pending.tail
    inFlight := net.inFlight ++ [answer]
    produced := net.produced ++ [answer] }

/-- The oldest TX_ACK in flight is received, and the receive loop does `n` actions. -/
def receive (net : Net) (answer : Answer) (n : Nat) : Net :=
  work token
    { net.start .udp (.datagram answer.data ⟨[127, 0, 0, 1], 1700⟩)
        (program crates profile conf .udp (.datagram answer.data ⟨[127, 0, 0, 1], 1700⟩))
      with inFlight := [] ++ net.inFlight.tail } .udp n

end

section

variable {crates : Crates} {profile : Profile} {conf : Conf} {token : UInt16} {rules : Rules}
  {net start : Net}

theorem run_work (allows : ∀ net, rules.allows net Env.plain)
    (run : Run crates profile conf token rules start net) (i : Thread) (n : Nat) :
    Run crates profile conf token rules start (net.work token i n) := by
  unfold work
  induction n with
  | zero => exact run
  | succ n ih =>
      rw [Function.iterate_succ_apply']
      generalize (fun net => net.advance token i)^[n] net = net' at ih
      unfold advance
      split
      · next action next current => exact ih.tail (.exec i action next _ current (allows _))
      · exact ih

theorem run_serve (allows : ∀ net, rules.allows net Env.plain)
    (run : Run crates profile conf token rules start net) (i : Thread) (r : Request) (n : Nat)
    (free : (net.pool.threads i).Finished) (admitted : admits (fun _ => True) i r)
    (stray : Stray crates token r) (allowed : rules.others r) :
    Run crates profile conf token rules start (net.serve crates profile conf token i r n) :=
  run_work allows (run.tail (.other i r free admitted stray allowed)) i n

theorem run_order (allows : ∀ net, rules.allows net Env.plain)
    (run : Run crates profile conf token rules start net) (n : Nat) (g : Gw.DownlinkFrame)
    (k : Nat) (free : (net.pool.threads (.command n)).Finished) (own : tokenFor g = token)
    (once : g ∉ net.commanded) (allowed : rules.commands g) :
    Run crates profile conf token rules start (net.order crates profile conf token n g k) :=
  run_work allows (run.tail (.command n g free own once allowed)) (.command n) k

theorem run_reply (run : Run crates profile conf token rules start net) (answer : Answer)
    (waiting : net.pending = answer.shot :: net.pending.tail)
    (answers : Answers crates token answer.data answer.status) (allowed : rules.gives answer) :
    Run crates profile conf token rules start (net.reply answer) :=
  run.tail (.answer answer waiting answers allowed)

theorem run_receive (allows : ∀ net, rules.allows net Env.plain)
    (run : Run crates profile conf token rules start net) (answer : Answer) (n : Nat)
    (arrives : net.inFlight = answer :: net.inFlight.tail)
    (free : (net.pool.threads .udp).Finished) :
    Run crates profile conf token rules start (net.receive crates profile conf token answer n) :=
  run_work allows (run.tail (.deliver answer ⟨[127, 0, 0, 1], 1700⟩ arrives free)) .udp n

end

end Net

end MqttForwarder.SemtechUdp
