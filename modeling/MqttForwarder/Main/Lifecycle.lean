import MqttForwarder.Rust.Broadcast
import MqttForwarder.Rust.Channel
import MqttForwarder.Rust.Outcome
import Mathlib.Logic.Function.Basic

/-!
# Signals and sessions

A task of its own handles the signals.  It tells the session about a SIGHUP
over a broadcast channel that each session subscribes to before it starts, and
panics if no session has.  The main loop runs one session after the other.  In
a release build a panic ends the process; in a debug build it ends the task.
-/

namespace MqttForwarder.Main

open MqttForwarder.Rust

/-! ## The process -/

/-- `SignalKind`. -/
inductive SignalKind where
  | hangup
  | interrupt
  | terminate
  deriving DecidableEq, Repr

inductive Handler where
  /-- At `signal(…).unwrap()` for the first of these kinds, or in the loop if none is left. -/
  | running (unregistered : List SignalKind)
  | panicked
  deriving DecidableEq, Repr

/-- The tasks that `mqtt::run` spawns on its `JoinSet`. -/
inductive SessionTask where
  | subscribeLoop
  | publishLoop
  | eventLoop
  deriving DecidableEq, Repr

/-- Where `mqtt::run` stands. -/
inductive Place where
  /-- Before the tasks have been spawned. -/
  | settingUp
  /-- At `tokio::select!`, with the tasks that run and those that have not been joined yet. -/
  | selecting (running ended : List SessionTask)
  /-- At `set.shutdown().await`. -/
  | shuttingDown
  deriving DecidableEq, Repr

inductive MainLoop where
  /-- At `terminate_tx.subscribe()`. -/
  | subscribing
  /-- In `mqtt::run`. -/
  | session (terminateRx : Broadcast.Receiver) (place : Place)
  /-- The process has exited. -/
  | exited
  deriving DecidableEq

structure State where
  main : MainLoop
  handler : Handler
  /-- Whether the process has a handler for the signal; one that is set stays so. -/
  listens : SignalKind → Bool
  /-- Whether the signal has arrived since the handler saw it last. -/
  arrived : SignalKind → Bool
  terminateTx : Broadcast Unit

/-- `main` after a panic of another task: with `panic = "abort"` the process has exited. -/
def MainLoop.afterPanic (profile : Profile) (main : MainLoop) : MainLoop :=
  match profile with
  | .debug => main
  | .release => .exited

@[simp] theorem MainLoop.afterPanic_debug (main : MainLoop) : main.afterPanic .debug = main := rfl

@[simp] theorem MainLoop.afterPanic_release (main : MainLoop) :
    main.afterPanic .release = .exited := rfl

theorem MainLoop.afterPanic_eq {profile : Profile} {main main' : MainLoop}
    (same : main.afterPanic profile = main') (runs : main' ≠ .exited) : main = main' := by
  cases profile with
  | debug => exact same
  | release => exact absurd same.symm runs

/-- The process when `main` has set up the backend. -/
def State.init : State where
  main := .subscribing
  handler := .running [.hangup, .interrupt, .terminate]
  listens := fun _ => false
  arrived := fun _ => false
  terminateTx := .new 1

inductive Occurrence where
  /-- The process has been sent a signal. -/
  | raised (kind : SignalKind)
  /-- A signal that nothing listens to has ended the process. -/
  | killed (kind : SignalKind)
  | registered (kind : SignalKind)
  /-- `signal(kind)` has failed. -/
  | unregistered (kind : SignalKind)
  /-- A SIGHUP has been handled. -/
  | hungUp
  /-- A SIGHUP has been handled while nothing was subscribed. -/
  | crashed
  /-- A SIGINT or SIGTERM has been handled. -/
  | quit (kind : SignalKind)
  /-- A panic of another task has aborted the process. -/
  | aborted
  | subscribed
  /-- `mqtt::run` has spawned its tasks. -/
  | started
  /-- `mqtt::run` has returned an error. -/
  | failed
  /-- A task of the session has ended by itself. -/
  | ended (task : SessionTask)
  | joined (task : SessionTask)
  /-- `join_next` has found no task left. -/
  | completed
  /-- `terminate_rx.recv()` has returned. -/
  | terminated
  /-- The tasks of the session have been aborted. -/
  | stopped
  deriving DecidableEq

/-- The steps of the operating system, of the signal handler and of the main loop. -/
inductive Step (profile : Profile) : State → Occurrence → State → Prop where
  | raised {s : State} (kind : SignalKind) (alive : s.main ≠ .exited)
      (listened : s.listens kind = true) :
      Step profile s (.raised kind) { s with arrived := Function.update s.arrived kind true }
  | killed {s : State} (kind : SignalKind) (alive : s.main ≠ .exited)
      (unlistened : s.listens kind = false) :
      Step profile s (.killed kind) { s with main := .exited }
  | registered {s : State} {kind : SignalKind} {rest : List SignalKind} (alive : s.main ≠ .exited)
      (registering : s.handler = .running (kind :: rest)) :
      Step profile s (.registered kind)
        { s with handler := .running rest, listens := Function.update s.listens kind true }
  | unregistered {s : State} {kind : SignalKind} {rest : List SignalKind}
      (alive : s.main ≠ .exited) (registering : s.handler = .running (kind :: rest)) :
      Step profile s (.unregistered kind)
        { s with handler := .panicked, main := s.main.afterPanic profile }
  | hungUp {s : State} {terminateTx : Broadcast Unit} (alive : s.main ≠ .exited)
      (waiting : s.handler = .running []) (arrived : s.arrived .hangup = true)
      (sent : s.terminateTx.send () = some terminateTx) :
      Step profile s .hungUp
        { s with arrived := Function.update s.arrived .hangup false, terminateTx }
  | crashed {s : State} (alive : s.main ≠ .exited) (waiting : s.handler = .running [])
      (arrived : s.arrived .hangup = true) (refused : s.terminateTx.send () = none) :
      Step profile s .crashed
        { s with
          arrived := Function.update s.arrived .hangup false
          handler := .panicked
          main := s.main.afterPanic profile }
  | quit {s : State} {kind : SignalKind} (alive : s.main ≠ .exited)
      (waiting : s.handler = .running []) (arrived : s.arrived kind = true)
      (ends : kind ≠ .hangup) : Step profile s (.quit kind) { s with main := .exited }
  | aborted {s : State} (alive : s.main ≠ .exited) (aborts : profile = .release) :
      Step profile s .aborted { s with main := .exited }
  | subscribed {s : State} (top : s.main = .subscribing) :
      Step profile s .subscribed
        { s with
          main := .session s.terminateTx.subscribe.1 .settingUp
          terminateTx := s.terminateTx.subscribe.2 }
  | started {s : State} {rx : Broadcast.Receiver} (starts : s.main = .session rx .settingUp) :
      Step profile s .started
        { s with
          main := .session rx (.selecting [.subscribeLoop, .publishLoop, .eventLoop] []) }
  | failed {s : State} {rx : Broadcast.Receiver} (starts : s.main = .session rx .settingUp) :
      Step profile s .failed { s with main := .exited }
  | ended {s : State} {rx : Broadcast.Receiver} {running ended : List SessionTask}
      (selects : s.main = .session rx (.selecting running ended)) (task : SessionTask)
      (runs : task ∈ running) :
      Step profile s (.ended task)
        { s with main := .session rx (.selecting (running.erase task) (ended ++ [task])) }
  | joined {s : State} {rx : Broadcast.Receiver} {running ended : List SessionTask}
      {task : SessionTask} (selects : s.main = .session rx (.selecting running (task :: ended))) :
      Step profile s (.joined task) { s with main := .session rx (.selecting running ended) }
  | completed {s : State} {rx : Broadcast.Receiver}
      (selects : s.main = .session rx (.selecting [] [])) :
      Step profile s .completed
        { s with main := .subscribing, terminateTx := s.terminateTx.unsubscribe }
  | terminated {s : State} {rx rx' : Broadcast.Receiver} {running ended : List SessionTask}
      {received : Broadcast.Received Unit}
      (selects : s.main = .session rx (.selecting running ended))
      (ready : s.terminateTx.recv rx = some (received, rx')) :
      Step profile s .terminated { s with main := .session rx' .shuttingDown }
  | stopped {s : State} {rx : Broadcast.Receiver} (stops : s.main = .session rx .shuttingDown) :
      Step profile s .stopped
        { s with main := .subscribing, terminateTx := s.terminateTx.unsubscribe }

/-- The occurrences of a run of the process, and its state after them. -/
abbrev Run (profile : Profile) : List Occurrence → State → Prop :=
  Trace (Step profile) State.init

section

variable {profile : Profile} {labels before after : List Occurrence} {o : Occurrence} {s s' : State}

/-! ## The session and its channel -/

/-- The session, as long as it has not been terminated. -/
def State.Open (s : State) (rx : Broadcast.Receiver) : Prop :=
  ∃ place, s.main = .session rx place ∧ place ≠ .shuttingDown

/-- An open session has been open before, unless it has just subscribed. -/
theorem Step.open_before (taken : Step profile s o s') (later : o ≠ .subscribed)
    {rx : Broadcast.Receiver} (open_ : s'.Open rx) : s.Open rx := by
  obtain ⟨place, session, running⟩ := open_
  cases taken with
  | subscribed top => exact absurd rfl later
  | started starts =>
      cases session
      exact ⟨_, starts, by simp⟩
  | ended selects task runs =>
      cases session
      exact ⟨_, selects, by simp⟩
  | joined selects =>
      cases session
      exact ⟨_, selects, by simp⟩
  | terminated selects ready =>
      cases session
      exact absurd rfl running
  | raised kind alive listened => exact ⟨place, session, running⟩
  | registered alive registering => exact ⟨place, session, running⟩
  | unregistered alive registering =>
      exact ⟨place, MainLoop.afterPanic_eq session nofun, running⟩
  | hungUp alive waiting arrived sent => exact ⟨place, session, running⟩
  | crashed alive waiting arrived refused =>
      exact ⟨place, MainLoop.afterPanic_eq session nofun, running⟩
  | _ => cases session

/-- Only the handling of a SIGHUP sends. -/
theorem Step.sent (taken : Step profile s o s') :
    s'.terminateTx.sent.length = s.terminateTx.sent.length + [o].count .hungUp := by
  cases taken with
  | hungUp alive waiting arrived sent =>
      obtain ⟨_, rfl⟩ := Broadcast.send_eq_some.mp sent
      simp
  | _ => rfl

/-- An open session has yet to receive what has been sent since it subscribed. -/
def Owed (after : List Occurrence) (s : State) : Prop :=
  .subscribed ∉ after → ∀ rx, s.Open rx →
    s.terminateTx.sent.length = rx.next + after.count .hungUp

theorem Owed.subscribed (taken : Step profile s .subscribed s') : Owed [] s' := by
  intro _ rx open_
  obtain ⟨place, session, _⟩ := open_
  cases taken with
  | subscribed top =>
      cases session
      rfl

theorem Owed.step (owed : Owed after s) (taken : Step profile s o s') : Owed (after ++ [o]) s' := by
  intro same rx open_
  rw [List.mem_append, List.mem_singleton, not_or] at same
  rw [taken.sent, List.count_append, owed same.1 rx (taken.open_before (Ne.symm same.2) open_)]
  omega

/-- In every run, a session that selects can be terminated exactly if a SIGHUP has been handled
since it subscribed: none that was meant for an earlier session counts, and none is missed. -/
theorem terminates_iff_hungUp (run : Run profile (before ++ .subscribed :: after) s)
    (same : .subscribed ∉ after) {rx : Broadcast.Receiver} {running ended : List SessionTask}
    (selects : s.main = .session rx (.selecting running ended)) :
    (∃ s', Step profile s .terminated s') ↔ .hungUp ∈ after := by
  have owed : Owed after s := run.since (fun _ _ => Owed.subscribed) fun _ _ _ _ => Owed.step
  have counted := owed same rx ⟨_, selects, by simp⟩
  have ready : (s.terminateTx.recv rx).isSome ↔ .hungUp ∈ after := by
    rw [Broadcast.recv_isSome, counted, ← List.count_pos_iff]
    omega
  rw [← ready, Option.isSome_iff_exists]
  constructor
  · rintro ⟨s', taken⟩
    cases taken with
    | terminated other received =>
        rw [selects] at other
        cases other
        exact ⟨_, received⟩
  · rintro ⟨⟨received, rx'⟩, taken⟩
    exact ⟨_, .terminated selects taken⟩

/-- The process listens to all signals, and no session has begun. -/
def State.listening : State :=
  { State.init with
    handler := .running []
    listens := fun _ => true }

def registrations : List Occurrence :=
  [.registered .hangup, .registered .interrupt, .registered .terminate]

theorem registrations_run (profile : Profile) : Run profile registrations .listening := by
  have registered : Run profile registrations _ := .cons (.registered (by decide) rfl)
    (.cons (.registered (by decide) rfl) (.cons (.registered (by decide) rfl) .nil))
  have all : Function.update (Function.update (Function.update (fun _ => false) .hangup true)
      .interrupt true) .terminate true = fun _ : SignalKind => true := by
    funext kind
    cases kind <;> rfl
  rw [State.listening, ← all]
  exact registered

/-- A session that has been told of a SIGHUP can be terminated. -/
theorem terminates_iff_hungUp_one_session : ∃ s s', Run .release (registrations ++
    .subscribed :: [.started, .raised .hangup, .hungUp]) s ∧ Step .release s .terminated s' := by
  have run := (registrations_run .release).append (.cons (.subscribed rfl) (.cons (.started rfl)
      (.cons (.raised .hangup (by decide) rfl) (.cons (.hungUp (by decide) rfl rfl rfl) .nil))))
  obtain ⟨s', taken⟩ := (terminates_iff_hungUp run (by decide) rfl).mpr (by decide)
  exact ⟨_, s', run, taken⟩

/-! ## A SIGHUP between two sessions -/

/-- While the process runs, a session is subscribed and nothing else is, and the signals that have
been registered are listened to. -/
structure Sound (s : State) : Prop where
  subscribing : s.main = .subscribing → s.terminateTx.receivers = 0
  session : ∀ rx place, s.main = .session rx place → s.terminateTx.receivers = 1
  listens : ∀ rest, s.handler = .running rest → ∀ kind ∉ rest, s.listens kind = true

theorem Sound.init : Sound State.init where
  subscribing := fun _ => rfl
  session := fun _ _ session => by cases session
  listens := by
    rintro rest ⟨⟩ kind other
    cases kind <;> simp at other

theorem Sound.step (sound : Sound s) (taken : Step profile s o s') : Sound s' := by
  obtain ⟨subscribing, session, listens⟩ := sound
  cases taken with
  | raised kind alive listened => exact ⟨subscribing, session, listens⟩
  | killed kind alive unlistened => exact ⟨by simp, by simp, listens⟩
  | @registered kind rest alive registering =>
      refine ⟨subscribing, session, ?_⟩
      rintro rest ⟨⟩ other left
      by_cases same : other = kind
      · rw [same]
        exact Function.update_self ..
      · have before := listens _ registering other (by simp [same, left])
        exact (Function.update_of_ne same ..).trans before
  | unregistered alive registering =>
      exact ⟨fun top => subscribing (MainLoop.afterPanic_eq top nofun),
        fun rx place open_ => session rx place (MainLoop.afterPanic_eq open_ nofun), by simp⟩
  | hungUp alive waiting arrived sent =>
      obtain ⟨_, rfl⟩ := Broadcast.send_eq_some.mp sent
      exact ⟨subscribing, session, listens⟩
  | crashed alive waiting arrived refused =>
      exact ⟨fun top => subscribing (MainLoop.afterPanic_eq top nofun),
        fun rx place open_ => session rx place (MainLoop.afterPanic_eq open_ nofun), by simp⟩
  | quit alive waiting arrived ends => exact ⟨by simp, by simp, listens⟩
  | aborted alive aborts => exact ⟨by simp, by simp, listens⟩
  | subscribed top =>
      have none := subscribing top
      exact ⟨by simp, fun _ _ _ => by simp [Broadcast.subscribe, none], listens⟩
  | started starts => exact ⟨by simp, fun _ _ _ => session _ _ starts, listens⟩
  | failed starts => exact ⟨by simp, by simp, listens⟩
  | ended selects task runs => exact ⟨by simp, fun _ _ _ => session _ _ selects, listens⟩
  | joined selects => exact ⟨by simp, fun _ _ _ => session _ _ selects, listens⟩
  | completed selects =>
      have one := session _ _ selects
      exact ⟨fun _ => by simp [Broadcast.unsubscribe, one], by simp, listens⟩
  | terminated selects ready => exact ⟨by simp, fun _ _ _ => session _ _ selects, listens⟩
  | stopped stops =>
      have one := session _ _ stops
      exact ⟨fun _ => by simp [Broadcast.unsubscribe, one], by simp, listens⟩

theorem Run.sound (run : Run profile labels s) : Sound s :=
  Trace.holds (I := fun _ => Sound) .init (fun _ _ _ _ => Sound.step) run

/-- The occurrence is the effect of a signal on a session or on the process. -/
def Occurrence.Obeys : Occurrence → Prop
  | killed _ => True
  | hungUp => True
  | crashed => True
  | quit _ => True
  | terminated => True
  | stopped => True
  | _ => False

/-- Nothing handles the signals any more, and no session has been told of one. -/
structure Deaf (s : State) : Prop where
  handler : s.handler = .panicked
  listens : ∀ kind, s.listens kind = true
  session : ∀ rx place, s.main = .session rx place →
    place ≠ .shuttingDown ∧ s.terminateTx.sent.length ≤ rx.next

theorem Deaf.crashed (sound : Sound s) (taken : Step .debug s .crashed s') : Deaf s' := by
  cases taken with
  | crashed alive waiting arrived refused =>
      refine ⟨rfl, fun kind => sound.listens [] waiting kind List.not_mem_nil, ?_⟩
      intro rx place session
      have one := sound.session rx place session
      rw [Broadcast.send_eq_none.mp refused] at one
      cases one

theorem Deaf.step (deaf : Deaf s) (taken : Step .debug s o s') : Deaf s' ∧ ¬ o.Obeys := by
  obtain ⟨handler, listens, session⟩ := deaf
  cases taken with
  | raised kind alive listened => exact ⟨⟨handler, listens, session⟩, id⟩
  | killed kind alive unlistened =>
      rw [listens kind] at unlistened
      cases unlistened
  | registered alive registering =>
      rw [handler] at registering
      cases registering
  | unregistered alive registering => exact ⟨⟨rfl, listens, session⟩, id⟩
  | hungUp alive waiting arrived sent =>
      rw [handler] at waiting
      cases waiting
  | crashed alive waiting arrived refused =>
      rw [handler] at waiting
      cases waiting
  | quit alive waiting arrived ends =>
      rw [handler] at waiting
      cases waiting
  | aborted alive aborts => cases aborts
  | subscribed top =>
      refine ⟨⟨handler, listens, ?_⟩, id⟩
      rintro rx place ⟨⟩
      exact ⟨by simp, Nat.le_refl _⟩
  | started starts =>
      refine ⟨⟨handler, listens, ?_⟩, id⟩
      rintro rx place ⟨⟩
      exact ⟨by simp, (session _ _ starts).2⟩
  | failed starts => exact ⟨⟨handler, listens, by simp⟩, id⟩
  | ended selects task runs =>
      refine ⟨⟨handler, listens, ?_⟩, id⟩
      rintro rx place ⟨⟩
      exact ⟨by simp, (session _ _ selects).2⟩
  | joined selects =>
      refine ⟨⟨handler, listens, ?_⟩, id⟩
      rintro rx place ⟨⟩
      exact ⟨by simp, (session _ _ selects).2⟩
  | completed selects => exact ⟨⟨handler, listens, by simp⟩, id⟩
  | @terminated rx rx' running ended received selects ready =>
      have behind : rx.next < s.terminateTx.sent.length :=
        Broadcast.recv_isSome.mp (Option.isSome_iff_exists.mpr ⟨_, ready⟩)
      exact absurd behind (Nat.not_lt.mpr (session _ _ selects).2)
  | stopped stops => exact absurd rfl (session _ _ stops).1

theorem Deaf.run (deaf : Deaf s) (run : Trace (Step .debug) s after s') :
    Deaf s' ∧ ∀ o ∈ after, ¬ o.Obeys := by
  refine Trace.holds (I := fun after s => Deaf s ∧ ∀ o ∈ after, ¬ o.Obeys) ⟨deaf, by simp⟩
    (fun after s o s' ih taken => ?_) run
  obtain ⟨deaf, disobeys⟩ := ih.1.step taken
  refine ⟨deaf, fun other member => ?_⟩
  rcases List.mem_append.mp member with earlier | now
  · exact ih.2 other earlier
  · rw [List.mem_singleton.mp now]
    exact disobeys

/-- Nothing happens in a process that has exited. -/
theorem Step.alive (taken : Step profile s o s') : s.main ≠ .exited := by
  cases taken with
  | subscribed top => simp [top]
  | started starts => simp [starts]
  | failed starts => simp [starts]
  | ended selects task runs => simp [selects]
  | joined selects => simp [selects]
  | completed selects => simp [selects]
  | terminated selects ready => simp [selects]
  | stopped stops => simp [stops]
  | _ => assumption

/-- In every run, a SIGHUP that is handled while no session is subscribed ends the process where a
panic aborts.  Where it does not, no signal ends a session or the process any more. -/
theorem deaf_after_crash (run : Run profile (before ++ .crashed :: after) s) :
    (profile = .debug → s.handler = .panicked ∧ ∀ o ∈ after, ¬ o.Obeys) ∧
      (profile = .release → s.main = .exited ∧ after = []) := by
  obtain ⟨middle, begins, rest⟩ := Trace.split run
  obtain ⟨crashed, taken, rest⟩ := rest.uncons
  constructor
  · rintro rfl
    obtain ⟨deaf, disobeys⟩ := (Deaf.crashed (Run.sound begins) taken).run rest
    exact ⟨deaf.handler, disobeys⟩
  · rintro rfl
    have exited : crashed.main = .exited := by
      cases taken
      rfl
    cases after with
    | nil =>
        rw [rest.eq_of_nil]
        exact ⟨exited, rfl⟩
    | cons o after =>
        obtain ⟨_, next, _⟩ := rest.uncons
        exact absurd exited next.alive

/-- A SIGHUP that arrives before the first session leaves that session to itself, or ends the
process. -/
theorem deaf_after_crash_before_session :
    (∃ s, Run .debug ((registrations ++ [.raised .hangup]) ++
        .crashed :: [.subscribed, .started, .raised .terminate]) s ∧ s.handler = .panicked ∧
      ∀ o ∈ [.subscribed, .started, .raised .terminate], ¬ Occurrence.Obeys o) ∧
    ∃ s, Run .release ((registrations ++ [.raised .hangup]) ++ .crashed :: []) s ∧
      s.main = .exited := by
  have raised : ∀ profile, Run profile (registrations ++ [.raised .hangup]) _ :=
    fun profile => (registrations_run profile).snoc (.raised .hangup (by decide) rfl)
  constructor
  · have run := (raised .debug).append (.cons (.crashed (by decide) rfl rfl rfl)
      (.cons (.subscribed rfl) (.cons (.started rfl)
        (.cons (.raised .terminate (by decide) rfl) .nil))))
    exact ⟨_, run, (deaf_after_crash run).1 rfl⟩
  · have run := (raised .release).append (.cons (.crashed (by decide) rfl rfl rfl) .nil)
    exact ⟨_, run, ((deaf_after_crash run).2 rfl).1⟩

/-! ## Terminations -/

/-- Whether the session has yet to be told of a SIGHUP. -/
def State.owes (s : State) : Nat :=
  match s.main with
  | .session _ .shuttingDown => 0
  | .session rx _ => if rx.next < s.terminateTx.sent.length then 1 else 0
  | _ => 0

theorem State.owes_le (s : State) : s.owes ≤ 1 := by
  unfold owes
  split
  · exact Nat.zero_le 1
  · split <;> simp
  · exact Nat.zero_le 1

/-- A step terminates a session only if that has been owed, and owes a termination only for a
SIGHUP that it handles. -/
theorem Step.owes (taken : Step profile s o s') :
    [o].count .terminated + s'.owes ≤ s.owes + [o].count .hungUp := by
  cases taken with
  | hungUp alive waiting arrived sent =>
      refine Nat.le_add_left_of_le ?_
      simpa using State.owes_le _
  | subscribed top => simp [State.owes, Broadcast.subscribe]
  | started starts => simp [State.owes, starts]
  | ended selects task runs => simp [State.owes, selects]
  | joined selects => simp [State.owes, selects]
  | @terminated rx rx' running ended received selects ready =>
      have behind : rx.next < s.terminateTx.sent.length :=
        Broadcast.recv_isSome.mp (Option.isSome_iff_exists.mpr ⟨_, ready⟩)
      simp [State.owes, selects, behind]
  | killed kind alive unlistened => exact Nat.zero_le _
  | quit alive waiting arrived ends => exact Nat.zero_le _
  | aborted alive aborts => exact Nat.zero_le _
  | failed starts => exact Nat.zero_le _
  | completed selects => exact Nat.zero_le _
  | stopped stops => exact Nat.zero_le _
  | raised kind alive listened => exact Nat.le_of_eq (Nat.add_comm ..)
  | registered alive registering => exact Nat.le_of_eq (Nat.add_comm ..)
  | unregistered alive registering =>
      cases profile with
      | debug => exact Nat.le_of_eq (Nat.add_comm ..)
      | release => exact Nat.zero_le _
  | crashed alive waiting arrived refused =>
      cases profile with
      | debug => exact Nat.le_of_eq (Nat.add_comm ..)
      | release => exact Nat.zero_le _

/-- A step handles a SIGHUP only if one has arrived. -/
theorem Step.arrived (taken : Step profile s o s') :
    [o].count .hungUp + (s'.arrived .hangup).toNat ≤
      (s.arrived .hangup).toNat + [o].count (.raised .hangup) := by
  cases taken with
  | raised kind alive listened => cases kind <;> simp [Function.update]
  | hungUp alive waiting arrived sent => simp [arrived]
  | crashed alive waiting arrived refused => simp
  | _ => exact Nat.le_of_eq (Nat.add_comm ..)

/-- In every run, a session is terminated at most once for each SIGHUP that the process has been
sent, less the one that it has yet to be told of. -/
theorem Run.terminated_le (run : Run profile labels s) :
    labels.count .terminated + s.owes ≤ labels.count (.raised .hangup) := by
  have both : labels.count .terminated + s.owes ≤ labels.count .hungUp ∧
      labels.count .hungUp + (s.arrived .hangup).toNat ≤ labels.count (.raised .hangup) := by
    induction run with
    | nil => exact ⟨Nat.le_refl _, Nat.le_refl _⟩
    | snoc _ taken ih =>
        have owes := taken.owes
        have arrived := taken.arrived
        simp only [List.count_append]
        omega
  omega

end

end MqttForwarder.Main
