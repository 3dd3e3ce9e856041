import MqttForwarder.Concentratord.Setup
import MqttForwarder.Main.Lifecycle
import MqttForwarder.Mqtt.Downlinks

/-!
# From the start to the sessions

`main` sets up the logger, the commands, the metadata and the backend one after
the other, and does not go on before the backend has a gateway id.  Only then
there are signals and sessions.  The packet forwarder may send datagrams all
the while, and a PULL_DATA may bring another gateway id at any time.
-/

namespace MqttForwarder.Main.Startup

open MqttForwarder.Rust
open MqttForwarder.SemtechUdp (System Thread Request Effect)
open MqttForwarder.Mqtt.Sessions (pullDataId)

/-! ## Logging -/

inductive Level where
  | error
  | warn
  | info
  | debug
  | trace
  deriving DecidableEq, Repr

/-- Setting the logger of the process, if it has none; a logger is its level here. -/
def setLogger (level : Level) : Option Level → Outcome Unit × Option Level
  | none => (.ok (), some level)
  | some earlier =>
      (.err "attempted to set a logger after the logging system was already initialized",
        some earlier)

/-- `logging::setup`; `unix` is what `syslog::unix` answers. -/
def setupLogging (level : Level) (syslog : Bool) (unix : Outcome Unit) (logger : Option Level) :
    Outcome Unit × Option Level :=
  if syslog then
    match unix with
    | .ok () => setLogger level logger
    | other => (other, logger)
  else setLogger level logger

/-! ## The process -/

structure Setting where
  config : Config.Configuration
  /-- `log::Level::from_str`. -/
  parseLevel : String → Option Level
  crates : Crates
  profile : Profile
  codec : Concentratord.Codec
  /-- `gw::GetGatewayIdResponse::decode`, for the gateway id in it. -/
  decodeGatewayId : List UInt8 → Outcome String

def semtechConf (backend : Config.Backend) : SemtechUdp.Conf where
  gatewayId := backend.gatewayId
  timeFallbackEnabled := backend.semtechUdp.timeFallbackEnabled
  forwardCrcOk := backend.filters.forwardCrcOk
  forwardCrcInvalid := backend.filters.forwardCrcInvalid
  forwardCrcMissing := backend.filters.forwardCrcMissing
  filters := {
    devAddrPrefixes := backend.filters.devAddrPrefixes
    joinEuiPrefixes := backend.filters.joinEuiPrefixes
    lorawanOnly := backend.filters.lorawanOnly }

inductive Backend where
  | semtechUdp
  | concentratord (backend : Concentratord.Backend)

/-- The `match` of `backend::setup`.  The first call that the Semtech UDP backend makes binds its
socket. -/
def setupBackend (set : Setting) : Concentratord.Setup Backend :=
  match set.config.backend.enabled with
  | "semtech_udp" => Concentratord.configure .semtechUdp
  | "concentratord" => do
      let backend ← Concentratord.Backend.setup set.codec set.decodeGatewayId
        set.config.backend.concentratord
      pure (.concentratord backend)
  | other => .done (.err ("Unexpected backend: " ++ other))

inductive Cause where
  /-- The level of the logs has not been read. -/
  | logLevel
  /-- `COMMANDS` had been set. -/
  | commandsCell
  /-- `backend::setup` has returned this error. -/
  | backend (error : String)
  /-- `BACKEND` had been set. -/
  | backendCell
  /-- `mpsc::channel` has panicked. -/
  | channel
  deriving DecidableEq, Repr

inductive Phase where
  /-- At `log::Level::from_str`. -/
  | starting
  /-- At `logging::setup`. -/
  | logging (level : Level)
  /-- At `commands::setup`. -/
  | commands
  /-- At `metadata::setup`. -/
  | metadata
  /-- At the `match` of `backend::setup`. -/
  | backend
  /-- In the loop of `backend::setup`. -/
  | waiting
  /-- After `backend::setup`. -/
  | serving (process : Main.State)
  | panicked (cause : Cause)

inductive Session where
  /-- At `PUB_CHANNEL_TX.get()`. -/
  | entered
  /-- At `get_gateway_id().await?`. -/
  | opened
  | identified (result : Outcome String)

structure State where
  phase : Phase
  logger : Option Level
  /-- `COMMANDS` of `commands.rs`. -/
  commands : Option (HashMap String (List String))
  /-- The statics of `metadata.rs`. -/
  metadata : Config.Metadata
  backend : Option Backend
  /-- The tasks of the Semtech UDP backend. -/
  pool : System
  /-- The capacity of the publish channel. -/
  channel : Option Nat
  session : Session

def State.init (set : Setting) : State where
  phase := .starting
  logger := none
  commands := none
  metadata := { static := ∅, commands := ∅, splitDelimiter := "" }
  backend := none
  pool := Pool.idle (SemtechUdp.State.init (semtechConf set.config.backend))
  channel := none
  session := .entered

def State.getGatewayId (s : State) : Outcome String :=
  match s.backend with
  | none => .err "BACKEND is not set"
  | some (.concentratord backend) => .ok backend.gatewayId
  | some .semtechUdp =>
      if s.pool.state.gatewayId = "" then .err "Gateway ID not yet set"
      else .ok s.pool.state.gatewayId

/-- `mpsc::channel` panics for other capacities. -/
def IsCapacity (capacity : Nat) : Prop := 0 < capacity ∧ capacity ≤ (USize.size - 1) / 8

inductive Occurrence where
  | levelRead (level : Level)
  /-- `logging::setup` has failed, and is tried again. -/
  | unlogged
  | logged
  | commandsSet
  | metadataSet
  /-- `BACKEND` has been set, after these exchanges with the Concentratord. -/
  | backendSet (exchanges : List Concentratord.Exchange)
  /-- `backend::setup` has asked the backend for the gateway id. -/
  | polled (result : Outcome String)
  /-- A session has asked the backend for the gateway id. -/
  | identified (result : Outcome String)
  /-- A session has found the publish channel set, or has set it. -/
  | opened
  /-- A step of signals and sessions. -/
  | signalled (o : Main.Occurrence)
  /-- A step of the tasks of the Semtech UDP backend. -/
  | worked (event : Pool.Event Thread Request Effect)
  | panicked (cause : Cause)

def answers (channel : Option Nat) (e : Env) : Prop := channel = none ↔ e.channel = .unset

/-- The steps of `main`, of the sessions up to their gateway id and of the tasks of the backend. -/
inductive Step (set : Setting) : State → Occurrence → State → Prop where
  | levelRead {s : State} {level : Level} (starting : s.phase = .starting)
      (read : set.parseLevel set.config.logging.level = some level) :
      Step set s (.levelRead level) { s with phase := .logging level }
  | unreadable {s : State} (starting : s.phase = .starting)
      (refused : set.parseLevel set.config.logging.level = none) :
      Step set s (.panicked .logLevel) { s with phase := .panicked .logLevel }
  | unlogged {s : State} {level : Level} {unix : Outcome Unit} {message : String}
      {logger : Option Level} (logging : s.phase = .logging level)
      (failed : setupLogging level set.config.logging.logToSyslog unix s.logger =
        (.err message, logger)) :
      Step set s .unlogged { s with logger }
  | logged {s : State} {level : Level} {unix : Outcome Unit} {logger : Option Level}
      (logging : s.phase = .logging level)
      (done : setupLogging level set.config.logging.logToSyslog unix s.logger =
        (.ok (), logger)) :
      Step set s .logged { s with phase := .commands, logger }
  | commandsSet {s : State} (setting : s.phase = .commands) (free : s.commands = none) :
      Step set s .commandsSet
        { s with phase := .metadata, commands := some set.config.commands }
  | commandsTaken {s : State} (setting : s.phase = .commands) (taken : s.commands ≠ none) :
      Step set s (.panicked .commandsCell) { s with phase := .panicked .commandsCell }
  | metadataSet {s : State} (setting : s.phase = .metadata) :
      Step set s .metadataSet { s with phase := .backend, metadata := set.config.metadata }
  | backendSet {s : State} {exchanges : List Concentratord.Exchange} {backend : Backend}
      (setting : s.phase = .backend)
      (built : (setupBackend set).Exec (fun _ => True) () exchanges () (.ok backend))
      (free : s.backend = none) :
      Step set s (.backendSet exchanges) { s with phase := .waiting, backend := some backend }
  | backendRefused {s : State} {exchanges : List Concentratord.Exchange} {error : String}
      (setting : s.phase = .backend)
      (refused : (setupBackend set).Exec (fun _ => True) () exchanges () (.err error)) :
      Step set s (.panicked (.backend error)) { s with phase := .panicked (.backend error) }
  | backendTaken {s : State} {exchanges : List Concentratord.Exchange} {backend : Backend}
      (setting : s.phase = .backend)
      (built : (setupBackend set).Exec (fun _ => True) () exchanges () (.ok backend))
      (taken : s.backend ≠ none) :
      Step set s (.panicked .backendCell) { s with phase := .panicked .backendCell }
  | polledAgain {s : State} (waiting : s.phase = .waiting) {message : String}
      (none : s.getGatewayId = .err message) : Step set s (.polled s.getGatewayId) s
  | polled {s : State} (waiting : s.phase = .waiting) {gatewayId : String}
      (known : s.getGatewayId = .ok gatewayId) :
      Step set s (.polled s.getGatewayId) { s with phase := .serving .init }
  | opened {s : State} {process : Main.State} {rx : Broadcast.Receiver}
      (serving : s.phase = .serving process) (starts : process.main = .session rx .settingUp)
      (entered : s.session = .entered)
      (size : s.channel = none → IsCapacity set.config.mqtt.publishChannelSize.toNat) :
      Step set s .opened
        { s with
          channel := some (s.channel.getD set.config.mqtt.publishChannelSize.toNat)
          session := .opened }
  | unopened {s : State} {process : Main.State} {rx : Broadcast.Receiver}
      (serving : s.phase = .serving process) (starts : process.main = .session rx .settingUp)
      (entered : s.session = .entered) (free : s.channel = none)
      (refused : ¬ IsCapacity set.config.mqtt.publishChannelSize.toNat) :
      Step set s (.panicked .channel) { s with phase := .panicked .channel }
  | identified {s : State} {process : Main.State} {rx : Broadcast.Receiver}
      (serving : s.phase = .serving process) (starts : process.main = .session rx .settingUp)
      (opened : s.session = .opened) :
      Step set s (.identified s.getGatewayId) { s with session := .identified s.getGatewayId }
  | signalled {s : State} {process process' : Main.State} {o : Main.Occurrence}
      (serving : s.phase = .serving process) (taken : Main.Step set.profile process o process')
      (built : o = .started → ∃ gatewayId, s.session = .identified (.ok gatewayId)) :
      Step set s (.signalled o)
        { s with
          phase := .serving process'
          session := if o = .subscribed then .entered else s.session }
  -- The receive loop has been spawned just before `BACKEND` is set.
  | worked {s : State} {event : Pool.Event Thread Request Effect} {pool : System}
      (runs : s.backend = some .semtechUdp)
      (taken : Pool.Move
        (SemtechUdp.program set.crates set.profile (semtechConf set.config.backend))
        (SemtechUdp.admits fun _ => True) (answers s.channel) s.pool event pool) :
      Step set s (.worked event) { s with pool }

abbrev Run (set : Setting) : List Occurrence → State → Prop := Trace (Step set) (State.init set)

/-! ## What the backend is -/

section

variable {set : Setting} {labels : List Occurrence} {s s' : State} {o : Occurrence}
  {gatewayId : String}

/-- A readable PULL_DATA has brought the id. -/
def Reported (labels : List Occurrence) (gatewayId : String) : Prop :=
  ∃ data remote, .worked (.took .udp (.datagram data remote)) ∈ labels ∧ data[3]? = some 0x02 ∧
    pullDataId data = some gatewayId

/-- The backend of the configuration has had the id: the Concentratord has answered it to the only
request of the set-up, or it has been configured, or a PULL_DATA has brought it. -/
def Told (set : Setting) (labels : List Occurrence) (gatewayId : String) : Prop :=
  (set.config.backend.enabled = "concentratord" ∧
    ∃ exchanges, ∃ backend : Concentratord.Backend,
      .backendSet exchanges ∈ labels ∧ backend.gatewayId = gatewayId ∧
        backend.Ready set.codec set.decodeGatewayId set.config.backend.concentratord exchanges) ∨
  (set.config.backend.enabled = "semtech_udp" ∧ gatewayId ≠ "" ∧
    (gatewayId = set.config.backend.gatewayId ∨ Reported labels gatewayId))

theorem setupBackend_ok {exchanges : List Concentratord.Exchange} {backend : Backend}
    (built : (setupBackend set).Exec (fun _ => True) () exchanges () (.ok backend)) :
    (backend = .semtechUdp ∧ set.config.backend.enabled = "semtech_udp") ∨
    ∃ own, backend = .concentratord own ∧ set.config.backend.enabled = "concentratord" ∧
      own.Ready set.codec set.decodeGatewayId set.config.backend.concentratord exchanges := by
  unfold setupBackend at built
  split at built
  · next enabled =>
      obtain ⟨_, same, _⟩ := Concentratord.exec_call built
      cases same
      exact .inl ⟨rfl, enabled⟩
  · next enabled =>
      obtain ⟨own, _, _, _, rfl, sets, rfl, _, same⟩ := Prog.exec_bind_ok built
      cases same
      rw [List.append_nil]
      exact .inr ⟨own, rfl, enabled, Concentratord.Backend.setup_ready sets⟩
  · cases built.2.2

/-- The backend has been set up in the run. -/
theorem Run.built (run : Run set labels s) {backend : Backend}
    (known : s.backend = some backend) : ∃ exchanges, .backendSet exchanges ∈ labels ∧
      (setupBackend set).Exec (fun _ => True) () exchanges () (.ok backend) := by
  induction run with
  | nil => cases known
  | @snoc before s s' o run taken ih =>
      have earlier : s.backend = some backend → ∃ exchanges, .backendSet exchanges ∈ before ++ [o] ∧
          (setupBackend set).Exec (fun _ => True) () exchanges () (.ok backend) := by
        intro known
        obtain ⟨exchanges, member, built⟩ := ih known
        exact ⟨exchanges, List.mem_append_left _ member, built⟩
      cases taken with
      | @backendSet exchanges _ setting built free =>
          cases known
          exact ⟨exchanges, by simp, built⟩
      | _ => exact earlier known

def Occurrence.event? : Occurrence → Option (Pool.Event Thread Request Effect)
  | worked event => some event
  | _ => none

theorem Run.history (run : Run set labels s) :
    Pool.History (SemtechUdp.program set.crates set.profile (semtechConf set.config.backend))
      (SemtechUdp.admits fun _ => True) (fun _ => True)
      (SemtechUdp.State.init (semtechConf set.config.backend))
      (labels.filterMap Occurrence.event?) s.pool := by
  apply Trace.project State.pool Occurrence.event? _ _ run
  · intro s label s' taken silent
    cases taken with
    | worked runs moved => cases silent
    | _ => rfl
  · intro s label s' seen taken observed
    cases taken with
    | worked runs moved =>
        cases observed
        cases moved with
        | took i r free admitted => exact .took i r free admitted
        | acted i action next e current answer => exact .acted i action next e current trivial
    | _ => cases observed

/-- What holds of the tasks of the backend in every pool that they can reach holds here. -/
theorem Run.reachable (run : Run set labels s) :
    SemtechUdp.Reachable set.crates set.profile (semtechConf set.config.backend) (fun _ => True)
      s.pool := (Run.history run).run

/-- The id of the backend is one that it has been told. -/
theorem Run.told (run : Run set labels s) (known : s.getGatewayId = .ok gatewayId) :
    Told set labels gatewayId := by
  unfold State.getGatewayId at known
  cases backed : s.backend with
  | none =>
      rw [backed] at known
      cases known
  | some backend =>
      obtain ⟨exchanges, member, built⟩ := Run.built run backed
      rw [backed] at known
      rcases setupBackend_ok built with ⟨rfl, enabled⟩ | ⟨own, rfl, enabled, ready⟩
      · dsimp only at known
        split at known
        · cases known
        · next present =>
            cases known
            refine .inr ⟨enabled, present, ?_⟩
            refine (Mqtt.Downlinks.gatewayId_brought (Run.history run)).imp_right ?_
            rintro ⟨data, remote, taken, brought⟩
            obtain ⟨o, told, same⟩ := List.mem_filterMap.mp taken
            cases o with
            | worked event =>
                cases same
                exact ⟨data, remote, told, brought⟩
            | _ => cases same
      · cases known
        exact .inl ⟨enabled, exchanges, own, member, rfl, ready⟩

end

/-! ## What the tasks of the backend leave -/

section

open SemtechUdp

def Keeps (e : Env) (s s' : SemtechUdp.State) (os : List Effect) : Prop :=
  (s.gatewayId ≠ "" → s'.gatewayId ≠ "") ∧ ∀ message, .event message ∈ os → e.channel ≠ .unset

theorem Keeps.same {e : Env} {s s' : SemtechUdp.State} {os : List Effect}
    (same : s'.gatewayId = s.gatewayId) (silent : ∀ message, .event message ∉ os) :
    Keeps e s s' os :=
  ⟨fun present => same ▸ present, fun message sent => absurd sent (silent message)⟩

theorem Keeps.idle (e : Env) (s : SemtechUdp.State) : Keeps e s s [] := .same rfl (by simp)

theorem trySend_keeps (message : MqttMessage) : (trySend message).Guarantees Keeps :=
  trySend_guarantees Keeps.idle fun e s room => ⟨id, fun _ _ => by rw [room]; nofun⟩

theorem sendTo_keeps {datagram : Effect} (silent : ∀ message, datagram ≠ .event message) :
    (sendTo datagram).Guarantees Keeps :=
  sendTo_guarantees Keeps.idle fun _ _ => .same rfl fun message sent =>
    silent message (List.mem_singleton.mp sent).symm

variable {crates : Crates} {profile : Profile} {conf : SemtechUdp.Conf}

theorem pushData_keeps : PushDataActions crates Keeps where
  idle := Keeps.idle
  pushAck := fun _ _ => sendTo_keeps (by simp)
  countUplink := fun _ => Prog.guarantees_attempt fun _ _ => .same rfl (by simp)
  up := fun _ => trySend_keeps _
  exportStats := Prog.guarantees_attempt fun _ _ => .same rfl (by simp)
  stats := fun _ => trySend_keeps _

theorem txAck_keeps : TxAckActions crates Keeps where
  idle := Keeps.idle
  setDownlinkCache := fun _ _ => Prog.guarantees_atomically fun _ _ => .same rfl (by simp)
  pullResp := fun _ _ _ _ => sendTo_keeps (by simp)
  cleanDownlinkCache := Prog.guarantees_atomically fun _ _ => .same rfl (by simp)
  readDownlinkCache := fun _ => Prog.guarantees_atomically fun _ _ => .same rfl (by simp)
  countDownlink := fun _ _ => Prog.guarantees_attempt fun _ _ => .same rfl (by simp)
  ack := fun _ => trySend_keeps _

/-- The id of an accepted PULL_DATA has two digits for each of eight bytes. -/
theorem length_of_fromSlice {data : List UInt8} {pl : PullData}
    (accepted : PullData.fromSlice data = .ok pl) : (hexEncode pl.gatewayId).length = 16 := by
  unfold PullData.fromSlice at accepted
  split at accepted
  · cases accepted
  · next exact =>
      obtain ⟨fields, read, accepted⟩ := Outcome.bind_eq_ok.mp accepted
      cases accepted
      rw [gatewayId_of_header (by omega) read, hexEncode, String.length_ofList]
      simp [List.length_flatMap]
      omega

theorem handlePullData_keeps (data : List UInt8) (remote : SocketAddr) :
    (handlePullData data remote).Guarantees Keeps := by
  unfold handlePullData
  cases read : PullData.fromSlice data with
  | err message => trivial
  | panic cause => trivial
  | ok pl =>
      have present : hexEncode pl.gatewayId ≠ "" := by
        intro empty
        have length := length_of_fromSlice read
        rw [empty] at length
        cases length
      rw [Prog.lift_eq, Prog.done_ok_bind]
      refine Prog.guarantees_bind (sendTo_keeps (by simp)) fun _ => ?_
      refine Prog.guarantees_bind (Prog.guarantees_atomically fun _ _ => ?_) fun _ => ?_
      · exact ⟨fun _ => present, by simp⟩
      · exact Prog.guarantees_atomically fun _ _ => .same rfl (by simp)

theorem program_keeps (i : Thread) (r : Request) :
    (program crates profile conf i r).Guarantees Keeps := by
  cases r with
  | command pl =>
      exact sendDownlinkFrame_guarantees (@txAck_keeps crates).toDownlinkActions _ _ _
  | datagram data remote =>
      change (receive crates profile conf data remote).Guarantees Keeps
      unfold receive
      split
      · trivial
      · exact handlePushData_guarantees pushData_keeps data remote
      · exact handlePullData_keeps data remote
      · exact handleTxAck_guarantees txAck_keeps data
      · trivial

end

/-! ## The order of the set-up -/

section

variable {set : Setting} {labels before after : List Occurrence} {s s' : State} {o : Occurrence}
  {gatewayId : String}

/-- A step of the tasks is one that they guarantee. -/
theorem Run.keeps (run : Run set labels s) {event : Pool.Event Thread Request Effect}
    {pool : System} (taken : Pool.Move
      (SemtechUdp.program set.crates set.profile (semtechConf set.config.backend))
      (SemtechUdp.admits fun _ => True) (answers s.channel) s.pool event pool) :
    (s.pool.state.gatewayId ≠ "" → pool.state.gatewayId ≠ "") ∧
      ∀ i os message, event = .acted i os → .event message ∈ os → s.channel ≠ none := by
  cases taken with
  | took i r free admitted => exact ⟨id, by simp⟩
  | acted i action next e current answer =>
      have guaranteed := Pool.run_guarantees program_keeps (Run.reachable run)
        (Pool.guarantees_idle _) i
      rw [current] at guaranteed
      obtain ⟨present, opened⟩ := (guaranteed e s.pool.state).1
      refine ⟨present, ?_⟩
      rintro _ _ message ⟨⟩ sent free
      exact opened message sent (answer.mp free)

def Logged (set : Setting) (s : State) : Prop :=
  ∃ level, set.parseLevel set.config.logging.level = some level ∧ s.logger = some level

/-- The configuration or the backend is the cause, and not a cell that had been set. -/
def Cause.Due (set : Setting) : Cause → Prop
  | logLevel => set.parseLevel set.config.logging.level = none
  | commandsCell => False
  | backend _ => True
  | backendCell => False
  | channel => ¬ IsCapacity set.config.mqtt.publishChannelSize.toNat

/-- What has been set, and what has not, when `main` has come to the phase. -/
def Staged (set : Setting) (s : State) : Phase → Prop
  | .starting => s.logger = none ∧ s.commands = none ∧ s.backend = none
  | .logging level => set.parseLevel set.config.logging.level = some level ∧ s.logger = none ∧
      s.commands = none ∧ s.backend = none
  | .commands => Logged set s ∧ s.commands = none ∧ s.backend = none
  | .metadata => Logged set s ∧ s.commands = some set.config.commands ∧ s.backend = none
  | .backend => Logged set s ∧ s.commands = some set.config.commands ∧
      s.metadata = set.config.metadata ∧ s.backend = none
  | .waiting => Logged set s ∧ s.commands = some set.config.commands ∧
      s.metadata = set.config.metadata
  | .serving _ => Logged set s ∧ s.commands = some set.config.commands ∧
      s.metadata = set.config.metadata ∧ ∃ gatewayId, s.getGatewayId = .ok gatewayId
  | .panicked cause => cause.Due set

/-- The first call that sets a logger succeeds. -/
theorem setupLogging_ok {level : Level} {syslog : Bool} {unix : Outcome Unit}
    {logger : Option Level} (done : setupLogging level syslog unix none = (.ok (), logger)) :
    logger = some level := by
  unfold setupLogging at done
  split at done
  · split at done
    · cases done
      rfl
    · next other =>
        cases done
        exact absurd rfl (other · )
  · cases done
    rfl

/-- A set-up that fails has not come to that call. -/
theorem setupLogging_err {level : Level} {syslog : Bool} {unix : Outcome Unit} {message : String}
    {logger : Option Level}
    (failed : setupLogging level syslog unix none = (.err message, logger)) : logger = none := by
  unfold setupLogging at failed
  split at failed
  · split at failed
    · cases failed
    · cases failed
      rfl
  · cases failed

theorem Staged.step (run : Run set labels s) (staged : Staged set s s.phase)
    (taken : Step set s o s') : Staged set s' s'.phase := by
  cases taken with
  | levelRead starting read =>
      rw [starting] at staged
      exact ⟨read, staged⟩
  | unreadable starting refused => exact refused
  | unlogged logging failed =>
      rw [logging] at staged
      obtain ⟨read, free, rest⟩ := staged
      rw [free] at failed
      dsimp only
      rw [logging]
      exact ⟨read, setupLogging_err failed, rest⟩
  | logged logging done =>
      rw [logging] at staged
      obtain ⟨read, free, rest⟩ := staged
      rw [free] at done
      exact ⟨⟨_, read, setupLogging_ok done⟩, rest⟩
  | commandsSet setting free =>
      rw [setting] at staged
      obtain ⟨logged, _, rest⟩ := staged
      exact ⟨logged, rfl, rest⟩
  | commandsTaken setting taken =>
      rw [setting] at staged
      exact absurd staged.2.1 taken
  | metadataSet setting =>
      rw [setting] at staged
      obtain ⟨logged, commands, rest⟩ := staged
      exact ⟨logged, commands, rfl, rest⟩
  | backendSet setting built free =>
      rw [setting] at staged
      obtain ⟨logged, commands, metadata, _⟩ := staged
      exact ⟨logged, commands, metadata⟩
  | backendRefused setting refused => exact trivial
  | backendTaken setting built taken =>
      rw [setting] at staged
      exact absurd staged.2.2.2 taken
  | polledAgain waiting none => exact staged
  | @polled waiting gatewayId known =>
      rw [waiting] at staged
      obtain ⟨logged, commands, metadata⟩ := staged
      exact ⟨logged, commands, metadata, gatewayId, known⟩
  | opened serving starts entered size =>
      dsimp only
      rw [serving] at staged ⊢
      exact staged
  | unopened serving starts entered free refused => exact refused
  | identified serving starts opened =>
      dsimp only
      rw [serving] at staged ⊢
      exact staged
  | signalled serving moved built =>
      rw [serving] at staged
      exact staged
  | @worked event pool runs moved =>
      dsimp only
      cases phase : s.phase with
      | serving process =>
          rw [phase] at staged
          obtain ⟨logged, commands, metadata, gatewayId, known⟩ := staged
          have present : s.pool.state.gatewayId ≠ "" := by
            intro empty
            rw [State.getGatewayId, runs] at known
            dsimp only at known
            rw [if_pos empty] at known
            cases known
          refine ⟨logged, commands, metadata, pool.state.gatewayId, ?_⟩
          rw [State.getGatewayId]
          dsimp only
          rw [runs]
          exact if_neg ((Run.keeps run moved).1 present)
      | _ =>
          rw [phase] at staged
          exact staged

theorem Run.staged (run : Run set labels s) : Staged set s s.phase := by
  induction run with
  | nil => exact ⟨rfl, rfl, rfl⟩
  | snoc run taken ih => exact Staged.step run ih taken

/-- `main` panics for nothing but its settings and the set-up of the backend: it finds no cell that
has been set. -/
theorem Run.due (run : Run set labels s) {cause : Cause} (panicked : s.phase = .panicked cause) :
    cause.Due set := by
  have staged := Run.staged run
  rw [panicked] at staged
  exact staged

/-- Whatever runs beside the sessions finds the commands and the metadata of the configuration. -/
theorem Run.configured (run : Run set labels s) {process : Main.State}
    (serving : s.phase = .serving process) : Logged set s ∧
      s.commands = some set.config.commands ∧ s.metadata = set.config.metadata := by
  have staged := Run.staged run
  rw [serving] at staged
  obtain ⟨logged, commands, metadata, _⟩ := staged
  exact ⟨logged, commands, metadata⟩

def Occurrence.signalled? : Occurrence → Option Main.Occurrence
  | signalled o => some o
  | _ => none

/-- Signals and sessions have a run of their own, which begins when the set-up has ended. -/
def Begun (set : Setting) (labels : List Occurrence) : Phase → Prop
  | .serving process => Main.Run set.profile (labels.filterMap Occurrence.signalled?) process
  | .panicked _ => True
  | _ => labels.filterMap Occurrence.signalled? = []

theorem Begun.same {phase : Phase} (begun : Begun set labels phase)
    (silent : o.signalled? = none) : Begun set (labels ++ [o]) phase := by
  have same : (labels ++ [o]).filterMap Occurrence.signalled? =
      labels.filterMap Occurrence.signalled? := by
    rw [filterMap_snoc, silent, Option.toList_none, List.append_nil]
  cases phase with
  | panicked cause => trivial
  | _ =>
      unfold Begun
      rw [same]
      exact begun

theorem Run.begun (run : Run set labels s) : Begun set labels s.phase := by
  induction run with
  | nil => rfl
  | @snoc before s s' o run taken ih =>
      have silent : o.signalled? = none → Begun set (before ++ [o]) s.phase := ih.same
      cases taken with
      | levelRead starting read =>
          rw [starting] at silent
          exact silent rfl
      | logged logging done =>
          rw [logging] at silent
          exact silent rfl
      | commandsSet setting free =>
          rw [setting] at silent
          exact silent rfl
      | metadataSet setting =>
          rw [setting] at silent
          exact silent rfl
      | backendSet setting built free =>
          rw [setting] at silent
          exact silent rfl
      | polled waiting known =>
          rw [waiting] at silent
          have none := silent rfl
          unfold Begun at none ⊢
          rw [none]
          exact .nil
      | signalled serving moved built =>
          rw [serving] at ih
          unfold Begun at ih ⊢
          rw [filterMap_snoc]
          exact ih.snoc moved
      | unlogged logging failed => exact silent rfl
      | polledAgain waiting none => exact silent rfl
      | opened serving starts entered size => exact silent rfl
      | identified serving starts opened => exact silent rfl
      | worked runs moved => exact silent rfl
      | _ => trivial

/-- What holds of every run of signals and sessions holds here. -/
theorem Run.process (run : Run set labels s) {process : Main.State}
    (serving : s.phase = .serving process) :
    Main.Run set.profile (labels.filterMap Occurrence.signalled?) process := by
  have begun := Run.begun run
  rw [serving] at begun
  exact begun

/-- A session asks only when there is an id. -/
theorem Run.known (run : Run set labels s) {process : Main.State}
    (serving : s.phase = .serving process) :
    ∃ gatewayId, s.getGatewayId = .ok gatewayId ∧ Told set labels gatewayId := by
  have staged := Run.staged run
  rw [serving] at staged
  obtain ⟨_, _, _, gatewayId, known⟩ := staged
  exact ⟨gatewayId, known, Run.told run known⟩

/-- The channel has been set by a session. -/
theorem Run.opened (run : Run set labels s) (present : s.channel ≠ none) :
    ∃ earlier later gatewayId, labels = earlier ++ .opened :: later ∧
      Told set earlier gatewayId := by
  induction run with
  | nil => exact absurd rfl present
  | @snoc before s s' o run taken ih =>
      have kept : s.channel ≠ none → ∃ earlier later gatewayId,
          before ++ [o] = earlier ++ .opened :: later ∧ Told set earlier gatewayId := by
        intro present
        obtain ⟨earlier, later, gatewayId, rfl, told⟩ := ih present
        exact ⟨earlier, later ++ [o], gatewayId, by simp, told⟩
      cases taken with
      | opened serving starts entered size =>
          obtain ⟨gatewayId, _, told⟩ := Run.known run serving
          exact ⟨before, [], gatewayId, rfl, told⟩
      | _ => exact kept present

end

/-! ## Sessions and events -/

section

variable {set : Setting} {labels before after : List Occurrence} {s : State}

/-- In every run of the process from its start, whatever comes in and however often sessions end: a
session that asks for the gateway id is given one that the backend has been told before. -/
theorem sessions_identified {result : Outcome String}
    (run : Run set (before ++ .identified result :: after) s) :
    ∃ gatewayId, result = .ok gatewayId ∧ Told set before gatewayId := by
  obtain ⟨middle, begins, rest⟩ := Trace.split run
  obtain ⟨_, taken, _⟩ := rest.uncons
  cases taken with
  | identified serving starts opened => exact Run.known begins serving

theorem isCapacity_default : IsCapacity ({} : Config.Mqtt).publishChannelSize.toNat := by
  have hundred : (100 : USize).toNat = 100 := USize.toNat_ofNat_of_lt_32 (by decide)
  have size := USize.le_size
  change IsCapacity (100 : USize).toNat
  rw [hundred, IsCapacity]
  omega

def defaultsFor (enabled : String) : Setting where
  config := { backend := { enabled } }
  parseLevel := fun _ => some .info
  crates := SemtechUdp.twoAntennas
  profile := .release
  codec := ⟨fun _ => [], fun _ => .err ""⟩
  decodeGatewayId := fun _ => .ok "0102030405060708"

def concentratordBackend : Concentratord.Backend where
  gatewayId := "0102030405060708"
  cmdUrl := "ipc:///tmp/concentratord_command"
  cmdSock := Zmq.Req.new.connect
  eventSock := ⟨some "ipc:///tmp/concentratord_event", [[]]⟩

theorem concentratord_exec : (setupBackend (defaultsFor "concentratord")).Exec (fun _ => True) ()
    [.requested [], .answered []] () (.ok (.concentratord concentratordBackend)) := by
  iterate 6 refine ⟨⟨none, none⟩, trivial, _, rfl, ?_⟩
  refine ⟨⟨none, some []⟩, trivial, _, rfl, ?_⟩
  refine ⟨⟨none, none⟩, trivial, _, rfl, ?_⟩
  exact ⟨rfl, rfl, rfl⟩

def waitingFor (enabled : String) (backend : Backend) : State :=
  { State.init (defaultsFor enabled) with
    phase := .waiting
    logger := some .info
    commands := some ∅
    metadata := {}
    backend := some backend }

theorem waiting_run {enabled : String} {exchanges : List Concentratord.Exchange}
    {backend : Backend} (built : (setupBackend (defaultsFor enabled)).Exec (fun _ => True) ()
      exchanges () (.ok backend)) :
    ∃ labels, Run (defaultsFor enabled) labels (waitingFor enabled backend) := by
  have logged : Run (defaultsFor enabled) _ _ :=
    (Trace.nil.snoc (.levelRead rfl rfl)).snoc (@Step.logged _ _ _ (.ok ()) _ rfl rfl)
  have metadata := (logged.snoc (.commandsSet rfl rfl)).snoc (.metadataSet rfl)
  exact ⟨_, metadata.snoc (.backendSet rfl built rfl)⟩

/-- From there to the first session that has opened the channel. -/
theorem opened_run {enabled : String} (waiting : Run (defaultsFor enabled) labels s)
    (phase : s.phase = .waiting) {gatewayId : String} (known : s.getGatewayId = .ok gatewayId) :
    ∃ labels' s' process rx, Run (defaultsFor enabled) labels' s' ∧
      s'.phase = .serving process ∧ process.main = .session rx .settingUp ∧
      s'.session = .opened ∧ s'.channel ≠ none ∧ s'.backend = s.backend ∧ s'.pool = s.pool := by
  have polled := waiting.snoc (.polled phase known)
  have subscribed := polled.snoc (.signalled rfl (.subscribed rfl) (by simp))
  have opened := subscribed.snoc (.opened rfl rfl rfl fun _ => isCapacity_default)
  exact ⟨_, _, _, _, opened, rfl, rfl, rfl, by simp, rfl, rfl⟩

theorem sessions_identified_concentratord : ∃ before s,
    Run (defaultsFor "concentratord") (before ++ [.identified (.ok "0102030405060708")]) s ∧
      Told (defaultsFor "concentratord") before "0102030405060708" := by
  obtain ⟨_, waiting⟩ := waiting_run concentratord_exec
  obtain ⟨labels, s, _, _, opened, serving, starts, asks, _, backend, _⟩ :=
    opened_run waiting rfl rfl
  have known : s.getGatewayId = .ok "0102030405060708" := by
    rw [State.getGatewayId, backend]
    rfl
  have identified := opened.snoc (.identified serving starts asks)
  rw [known] at identified
  obtain ⟨_, same, told⟩ := sessions_identified identified
  cases same
  exact ⟨labels, _, identified, told⟩

/-- A task that is at work can do all of its actions. -/
theorem Run.serves {E : Env → Prop} {i : Thread} {p : SemtechUdp.Task Unit} {os : List Effect}
    {state : SemtechUdp.State} {result : Outcome Unit}
    (run : Run set labels s) (runs : s.backend = some .semtechUdp)
    (exec : p.Exec E s.pool.state os state result) (sound : ∀ e, E e → answers s.channel e)
    (current : s.pool.threads i = p) :
    ∃ events pool, Run set (labels ++ events.map .worked) { s with pool } ∧
      pool.state = state ∧ pool.threads i = .done result ∧
      ∀ o ∈ os, ∃ first effects last, events = first ++ .acted i effects :: last ∧ o ∈ effects := by
  induction p generalizing labels s os with
  | done result' =>
      obtain ⟨rfl, rfl, rfl⟩ := exec
      refine ⟨[], s.pool, ?_, rfl, current, by simp⟩
      rw [List.map_nil, List.append_nil]
      exact run
  | act action next ih =>
      obtain ⟨e, answer, rest, rfl, exec⟩ := exec
      have acted := run.snoc (.worked runs (.acted i action next e current (sound e answer)))
      obtain ⟨events, pool, goes, same, returned, each⟩ :=
        ih _ acted runs exec sound Pool.exec_threads_self
      refine ⟨.acted i (action e s.pool.state).effects :: events, pool, ?_, same, returned,
        fun o member => ?_⟩
      · rw [List.map_cons, ← List.singleton_append, ← List.append_assoc]
        exact goes
      · rcases List.mem_append.mp member with now | later
        · exact ⟨[], _, events, rfl, now⟩
        · obtain ⟨first, effects, last, rfl, inside⟩ := each o later
          exact ⟨_ :: first, effects, last, rfl, inside⟩

section

open SemtechUdp
open MqttForwarder.Mqtt.Sessions

end

end

end MqttForwarder.Main.Startup
