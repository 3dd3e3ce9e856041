import MqttForwarder.Main.Lifecycle
import MqttForwarder.Mqtt.Publishing

/-!
# Restarts and events

The publish loop is one of the tasks of a session.  It begins with the
session, and it is aborted when a SIGHUP ends the session, while senders go on
to fill the channel.  So a SIGHUP costs at most the one event that the loop
has taken and not published yet.  When the process exits, the channel is gone
with it.
-/

namespace MqttForwarder.Main

open MqttForwarder.Rust
open MqttForwarder.Mqtt

/-! ## The forwarder -/

/-- The process, and the events between its senders and its client. -/
structure Forwarder where
  process : State
  events : Publishing.State

def Forwarder.init : Forwarder := ⟨.init, .init⟩

/-- The event in hand, and the events in the channel. -/
def Forwarder.held (f : Forwarder) : List Publishing.MqttMessage :=
  f.events.loop.inProgress.toList ++ f.events.inChannel

/-- A step of the forwarder is one of the process, one of the events or one of both. -/
structure Happening where
  process : Option Occurrence
  event : Option Publishing.Occurrence
  /-- The events that the process held when it exited. -/
  dropped : List Publishing.MqttMessage := []

/-- `run` opens the channel before it spawns its tasks. -/
def State.Admits (s : State) : Publishing.Occurrence → Prop
  | .opened => ∃ rx, s.main = .session rx .settingUp
  | .started => False
  | .terminated _ => ∃ rx, s.main = .session rx .shuttingDown
  | _ => s.main ≠ .exited

/-- The publish loop starts when its session spawns its tasks, may end by itself, and has been
aborted when `set.shutdown()` returns.  Nothing is left of it and of the channel when the process
exits. -/
inductive Forwarder.Step (profile : Profile) (conf : Conf) (encoders : Publishing.Encoders) :
    Forwarder → Happening → Forwarder → Prop where
  | process {f : Forwarder} {o : Occurrence} {process : State}
      (taken : Main.Step profile f.process o process) (goes : process.main ≠ .exited)
      (apart : o ≠ .started ∧ o ≠ .ended .publishLoop)
      (stops : o = .stopped → f.events.loop = .stopped) :
      Step profile conf encoders f ⟨some o, none, []⟩ { f with process }
  | exited {f : Forwarder} {o : Occurrence} {process : State}
      (taken : Main.Step profile f.process o process) (ends : process.main = .exited) :
      Step profile conf encoders f ⟨some o, none, f.held⟩ ⟨process, .init⟩
  | event {f : Forwarder} {o : Publishing.Occurrence} {events : Publishing.State}
      (taken : Publishing.Step conf encoders f.events o events) (admitted : f.process.Admits o) :
      Step profile conf encoders f ⟨none, some o, []⟩ { f with events }
  | started {f f' : Forwarder} (taken : Main.Step profile f.process .started f'.process)
      (spawned : Publishing.Step conf encoders f.events .started f'.events) :
      Step profile conf encoders f ⟨some .started, some .started, []⟩ f'
  | ended {f f' : Forwarder} {inProgress : Option Publishing.MqttMessage}
      (taken : Main.Step profile f.process (.ended .publishLoop) f'.process)
      (lost : Publishing.Step conf encoders f.events (.terminated inProgress) f'.events) :
      Step profile conf encoders f
        ⟨some (.ended .publishLoop), some (.terminated inProgress), []⟩ f'

/-- What has happened in a run of the forwarder, and its state after that. -/
abbrev Forwarder.Run (profile : Profile) (conf : Conf) (encoders : Publishing.Encoders) :
    List Happening → Forwarder → Prop :=
  Trace (Forwarder.Step profile conf encoders) Forwarder.init

/-- The occurrences of the process in a run of the forwarder. -/
def processLog (labels : List Happening) : List Occurrence := labels.filterMap Happening.process

/-- The occurrences of the events in a run of the forwarder. -/
def eventLog (labels : List Happening) : List Publishing.Occurrence :=
  labels.filterMap Happening.event

def dropped (labels : List Happening) : List Publishing.MqttMessage :=
  labels.flatMap Happening.dropped

section

variable {profile : Profile} {conf : Conf} {encoders : Publishing.Encoders}
  {labels : List Happening} {f f' : Forwarder} {h : Happening}

/-- The process runs as it does without events. -/
theorem Forwarder.Run.process (run : Forwarder.Run profile conf encoders labels f) :
    Main.Run profile (processLog labels) f.process := by
  refine Trace.project Forwarder.process Happening.process ?_ ?_ run
  · intro f h f' taken silent
    cases taken with
    | event taken admitted => rfl
    | _ => cases silent
  · intro f h f' o taken seen
    cases taken with
    | process taken goes apart stops =>
        cases seen
        exact taken
    | exited taken ends =>
        cases seen
        exact taken
    | event taken admitted => cases seen
    | started taken spawned =>
        cases seen
        exact taken
    | ended taken lost =>
        cases seen
        exact taken

theorem State.Admits.alive {s : State} {o : Publishing.Occurrence} (admitted : s.Admits o) :
    s.main ≠ .exited := by
  cases o with
  | opened =>
      obtain ⟨rx, session⟩ := admitted
      simp [session]
  | started => exact admitted.elim
  | terminated inProgress =>
      obtain ⟨rx, session⟩ := admitted
      simp [session]
  | _ => exact admitted

theorem Forwarder.Step.alive (taken : Forwarder.Step profile conf encoders f h f') :
    f.process.main ≠ .exited := by
  cases taken with
  | process taken goes apart stops => exact taken.alive
  | exited taken ends => exact taken.alive
  | event taken admitted => exact admitted.alive
  | started taken spawned => exact taken.alive
  | ended taken lost => exact taken.alive

/-- A process that has not exited has dropped nothing, and its events run as they do without
signals. -/
theorem Forwarder.Run.events (run : Forwarder.Run profile conf encoders labels f)
    (alive : f.process.main ≠ .exited) :
    Publishing.Run conf encoders (eventLog labels) f.events ∧ dropped labels = [] := by
  induction run with
  | nil => exact ⟨.nil, rfl⟩
  | @snoc before f f' h run taken ih =>
      obtain ⟨own, nothing⟩ := ih taken.alive
      rw [eventLog, dropped, List.flatMap_append, filterMap_snoc, ← dropped, nothing]
      cases taken with
      | process taken goes apart stops => exact ⟨by simpa [eventLog] using own, rfl⟩
      | exited taken ends => exact absurd ends alive
      | event taken admitted => exact ⟨own.snoc taken, rfl⟩
      | started taken spawned => exact ⟨own.snoc spawned, rfl⟩
      | ended taken lost => exact ⟨own.snoc lost, rfl⟩

/-- A process that has exited has done so in its last step. -/
theorem Forwarder.Run.last (run : Forwarder.Run profile conf encoders labels f)
    (exited : f.process.main = .exited) :
    ∃ before g o, labels = before ++ [⟨some o, none, g.held⟩] ∧
      Forwarder.Run profile conf encoders before g ∧ g.process.main ≠ .exited ∧
      f.events = .init := by
  cases run with
  | nil => cases exited
  | snoc run taken =>
      have alive := taken.alive
      cases taken with
      | process taken goes apart stops => exact absurd exited goes
      | exited taken ends => exact ⟨_, _, _, rfl, run, alive, rfl⟩
      | event taken admitted => exact absurd exited alive
      | started taken spawned =>
          obtain ⟨process, events⟩ := f
          cases taken
          cases exited
      | ended taken lost =>
          obtain ⟨process, events⟩ := f
          cases taken
          cases exited

/-! ## What a restart costs -/

/-- The publish loop has been aborted, or has failed. -/
def aborts : Publishing.Occurrence → Bool
  | .terminated _ => true
  | _ => false

/-- The client has refused an event. -/
def refuses : Publishing.Occurrence → Bool
  | .failed _ => true
  | _ => false

/-- An event is lost only by a client that refuses it and by a loop that is aborted. -/
theorem lost_length_le (events : List Publishing.Occurrence) :
    (Publishing.lost events).length ≤ events.countP aborts + events.countP refuses := by
  induction events using List.reverseRecOn with
  | nil => exact Nat.zero_le _
  | append_singleton before o ih =>
      have one : o.lost?.toList.length ≤ [o].countP aborts + [o].countP refuses := by
        cases o with
        | terminated inProgress => cases inProgress <;> simp [aborts]
        | failed msg => simp [refuses]
        | _ => exact Nat.zero_le _
      rw [Publishing.lost_snoc, List.length_append, List.countP_append, List.countP_append]
      omega

/-- Whether the session has been told to stop and its publish loop has not stopped yet. -/
def Forwarder.stopping (f : Forwarder) : Nat :=
  match f.process.main with
  | .session _ .shuttingDown => if f.events.loop = .stopped then 0 else 1
  | _ => 0

theorem Forwarder.stopping_le (f : Forwarder) : f.stopping ≤ 1 := by
  unfold stopping
  split
  · split <;> simp
  · exact Nat.zero_le 1

/-- Apart from a start and from an abort, the publish loop goes on if it has started. -/
theorem loop_eq_stopped {events events' : Publishing.State} {o : Publishing.Occurrence}
    (taken : Publishing.Step conf encoders events o events') (starts : o ≠ .started)
    (goes : aborts o = false) : events'.loop = .stopped ↔ events.loop = .stopped := by
  cases taken with
  | started stopped set => exact absurd rfl starts
  | terminated running => cases goes
  | received receiving set front => simp [receiving]
  | published publishing => simp [publishing]
  | failed publishing => simp [publishing]
  | _ => exact Iff.rfl

/-- The occurrences after which the publish loop may be aborted. -/
def Happening.ends (h : Happening) : Nat :=
  h.process.toList.count .terminated + h.process.toList.count (.ended .publishLoop)

theorem Forwarder.stopping_of_exited {process : State} (ends : process.main = .exited)
    (events : Publishing.State) : Forwarder.stopping ⟨process, events⟩ = 0 := by
  simp [Forwarder.stopping, ends]

theorem Forwarder.Step.stopping (taken : Forwarder.Step profile conf encoders f h f') :
    h.event.toList.countP aborts + f'.stopping ≤ f.stopping + h.ends := by
  cases taken with
  | @process o process taken goes apart stops =>
      have least := Forwarder.stopping_le ⟨process, f.events⟩
      cases taken with
      | terminated selects ready => simpa [Happening.ends] using Nat.le_add_left_of_le least
      | stopped stopping => exact Nat.zero_le _
      | subscribed top => exact Nat.zero_le _
      | completed selects => exact Nat.zero_le _
      | ended selects task runs => exact Nat.zero_le _
      | joined selects => exact Nat.zero_le _
      | started starts => exact absurd rfl apart.1
      | killed kind alive unlistened => exact absurd rfl goes
      | quit alive waiting arrived ends => exact absurd rfl goes
      | aborted alive aborts => exact absurd rfl goes
      | failed starts => exact absurd rfl goes
      | unregistered alive registering =>
          cases profile with
          | debug => exact Nat.le_of_eq (Nat.add_comm ..)
          | release => exact absurd rfl goes
      | crashed alive waiting arrived refused =>
          cases profile with
          | debug => exact Nat.le_of_eq (Nat.add_comm ..)
          | release => exact absurd rfl goes
      | _ => exact Nat.le_of_eq (Nat.add_comm ..)
  | exited taken ends =>
      rw [Forwarder.stopping_of_exited ends]
      exact Nat.zero_le _
  | @event o events taken admitted =>
      cases goes : aborts o with
      | false =>
          have starts : o ≠ .started := by
            rintro rfl
            exact admitted
          simp [Forwarder.stopping, loop_eq_stopped taken starts goes, goes, Happening.ends]
      | true =>
          cases taken with
          | terminated running =>
              obtain ⟨rx, stopping⟩ := admitted
              simp [Forwarder.stopping, stopping, running, aborts]
          | _ => cases goes
  | started taken spawned =>
      obtain ⟨process, events⟩ := f'
      cases taken with
      | started starts => simp [Forwarder.stopping, aborts]
  | ended taken lost =>
      obtain ⟨process, events⟩ := f'
      cases taken with
      | ended selects task runs => simp [Forwarder.stopping, aborts, Happening.ends]

/-- The publish loop is aborted at most once for each session that is terminated. -/
theorem Forwarder.Run.aborts_le (run : Forwarder.Run profile conf encoders labels f) :
    (eventLog labels).countP aborts + f.stopping ≤
      (processLog labels).count .terminated + (processLog labels).count (.ended .publishLoop) := by
  induction run with
  | nil => exact Nat.le_refl _
  | snoc _ taken ih =>
      have step := taken.stopping
      unfold Happening.ends at step
      rw [eventLog, processLog] at ih ⊢
      rw [filterMap_snoc, filterMap_snoc, List.countP_append, List.count_append,
        List.count_append]
      omega

/-- What the process holds, or held when it exited, comes after what has been published. -/
theorem Forwarder.Run.carried (run : Forwarder.Run profile conf encoders labels f) :
    ∃ events, Publishing.Run conf encoders (eventLog labels) events ∧
      Publishing.carried (eventLog labels) events =
        Publishing.published (eventLog labels) ++ dropped labels ++ f.held ∧
      (f.process.main ≠ .exited → dropped labels = []) ∧
      (f.process.main = .exited →
        f.held = [] ∧ (dropped labels).length ≤ conf.publishChannelSize + 1) := by
  by_cases exited : f.process.main = .exited
  · obtain ⟨before, g, o, rfl, run, alive, gone⟩ := run.last exited
    obtain ⟨own, nothing⟩ := run.events alive
    have same : eventLog (before ++ [⟨some o, none, g.held⟩]) = eventLog before := by
      rw [eventLog, filterMap_snoc]
      exact List.append_nil _
    have left : dropped (before ++ [⟨some o, none, g.held⟩]) = g.held := by
      rw [dropped, List.flatMap_append, ← dropped, nothing]
      exact List.append_nil _
    have empty : f.held = [] := by
      rw [held, gone]
      rfl
    rw [same, left, empty]
    refine ⟨g.events, own, ?_, absurd exited, fun _ => ⟨rfl, ?_⟩⟩
    · rw [Publishing.carried, held, List.append_nil, List.append_assoc]
    · have waiting := own.inChannel_le
      rw [held, List.length_append, Nat.add_comm]
      refine Nat.add_le_add waiting ?_
      cases g.events.loop.inProgress <;> simp
  · obtain ⟨own, nothing⟩ := run.events exited
    refine ⟨f.events, own, ?_, fun _ => nothing, fun exits => absurd exits exited⟩
    rw [Publishing.carried, nothing, held, List.append_nil, List.append_assoc]

/-- In every run, what has been published, is in hand or waits is in order among the events that
the channel has taken.  While the process is alive, it lacks at most one for each SIGHUP that the
process has been sent, for each refusal of the client and for each publish loop that has ended by
itself; when the process exits, it also loses what it held, which is no more than the channel can
hold and one. -/
theorem restarts_cost (run : Forwarder.Run profile conf encoders labels f) :
    (Publishing.published (eventLog labels) ++ dropped labels ++ f.held).Sublist
        (Publishing.accepted (eventLog labels)) ∧
      (Publishing.accepted (eventLog labels)).length ≤
        (Publishing.published (eventLog labels)).length + f.held.length +
          (dropped labels).length + (processLog labels).count (.raised .hangup) +
          (eventLog labels).countP refuses + (processLog labels).count (.ended .publishLoop) ∧
      (f.process.main ≠ .exited → dropped labels = []) ∧
      (f.process.main = .exited →
        f.held = [] ∧ (dropped labels).length ≤ conf.publishChannelSize + 1) := by
  obtain ⟨events, own, carried, alive, exited⟩ := run.carried
  refine ⟨carried ▸ own.carried_sublist, ?_, alive, exited⟩
  have lost := own.carried_length
  rw [carried, List.length_append, List.length_append] at lost
  have refused := lost_length_le (eventLog labels)
  have aborted := run.aborts_le
  have terminated := run.process.terminated_le
  omega

end

/-! ## A restart and an exit -/

/-- The process listens to the signals, and a session has an event in hand. -/
def publishing : List Happening :=
  registrations.map (⟨some ·, none, []⟩) ++
    [⟨some .subscribed, none, []⟩, ⟨none, some .opened, []⟩, ⟨some .started, some .started, []⟩,
      ⟨none, some (.accepted Publishing.upEvent), []⟩,
      ⟨none, some (.accepted Publishing.ackEvent), []⟩,
      ⟨none, some (.received Publishing.upEvent), []⟩]

/-- A SIGHUP ends that session, and a SIGTERM the process. -/
def hangup : List Happening :=
  [⟨some (.raised .hangup), none, []⟩, ⟨some .hungUp, none, []⟩, ⟨some .terminated, none, []⟩,
    ⟨none, some (.terminated (some Publishing.upEvent)), []⟩, ⟨some .stopped, none, []⟩,
    ⟨some (.raised .terminate), none, []⟩,
    ⟨some (.quit .terminate), none, [Publishing.ackEvent]⟩]

theorem hangup_run : ∃ f,
    Forwarder.Run .release {} Publishing.partEncoders (publishing ++ hangup) f ∧
      f.process.main = .exited := by
  have alone : ∀ {f : Forwarder} {o : Occurrence} {process : State},
      Main.Step .release f.process o process → process.main ≠ .exited →
      o ≠ .started ∧ o ≠ .ended .publishLoop → o ≠ .stopped →
      Forwarder.Step .release {} Publishing.partEncoders f ⟨some o, none, []⟩ { f with process } :=
    fun taken goes apart stops => .process taken goes apart fun same => absurd same stops
  have together : ∀ {f : Forwarder} {process : State} {events : Publishing.State},
      Main.Step .release f.process .started process →
      Publishing.Step {} Publishing.partEncoders f.events .started events →
      Forwarder.Step .release {} Publishing.partEncoders f ⟨some .started, some .started, []⟩
        ⟨process, events⟩ := fun taken spawned => .started taken spawned
  have up : (Publishing.Call.sendUplinkFrame ⟨[1], none, none⟩).run Publishing.partEncoders false
      (some (Publishing.holding [] (by decide))) =
      .ok (Publishing.upEvent, Publishing.holding [Publishing.upEvent] (by decide)) := rfl
  have ack : (Publishing.Call.sendTxAck ⟨"01", 7, []⟩).run Publishing.partEncoders false
      (some (Publishing.holding [Publishing.upEvent] (by decide))) =
      .ok (Publishing.ackEvent,
        Publishing.holding [Publishing.upEvent, Publishing.ackEvent] (by decide)) := rfl
  have run : Forwarder.Run .release {} Publishing.partEncoders (publishing ++ hangup) _ :=
    .cons (alone (.registered (by decide) rfl) (by decide) (by decide) (by decide))
    (.cons (alone (.registered (by decide) rfl) (by decide) (by decide) (by decide))
    (.cons (alone (.registered (by decide) rfl) (by decide) (by decide) (by decide))
    (.cons (alone (.subscribed rfl) (by decide) (by decide) (by decide))
    (.cons (.event (.opened rfl (by decide)) ⟨_, rfl⟩)
    (.cons (together (.started rfl) (.started rfl (by simp)))
    (.cons (.event (.accepted up) (by rintro ⟨⟩))
    (.cons (.event (.accepted ack) (by rintro ⟨⟩))
    (.cons (.event (.received rfl rfl rfl) (by rintro ⟨⟩))
    (.cons (alone (.raised .hangup (by decide) rfl) (by decide) (by decide) (by decide))
    (.cons (alone (.hungUp (by decide) rfl rfl rfl) (by decide) (by decide) (by decide))
    (.cons (alone (.terminated rfl rfl) (by decide) (by decide) (by decide))
    (.cons (.event (.terminated (by simp)) ⟨_, rfl⟩)
    (.cons (.process (.stopped rfl) (by decide) (by decide) fun _ => rfl)
    (.cons (alone (.raised .terminate (by decide) rfl) (by decide) (by decide) (by decide))
    (.cons (.exited (.quit (by decide) rfl rfl (by decide)) rfl) .nil)))))))))))))))
  exact ⟨_, run, rfl⟩

/-- The SIGHUP costs the event in hand, and the exit the one that waits. -/
theorem restarts_cost_two_events : ∃ f,
    Forwarder.Run .release {} Publishing.partEncoders (publishing ++ hangup) f ∧
      (Publishing.accepted (eventLog (publishing ++ hangup))).length ≤
        (Publishing.published (eventLog (publishing ++ hangup))).length + f.held.length + 1 +
          (processLog (publishing ++ hangup)).count (.raised .hangup) ∧
      f.held = [] := by
  obtain ⟨f, run, exited⟩ := hangup_run
  obtain ⟨_, cost, _, gone⟩ := restarts_cost run
  exact ⟨f, run, cost, (gone exited).1⟩

end MqttForwarder.Main
