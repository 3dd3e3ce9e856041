import MqttForwarder.Commands.Exec
import MqttForwarder.Mqtt.Downlinks
import MqttForwarder.Mqtt.Publishing

/-!
# Requests and their answers

The handler of an exec message waits for its command beside all other tasks,
as long as the command takes, and then offers one event to the publish channel.
However requests, commands, other events and sessions follow one another, an
exec event that reaches the broker answers a request of its own, and tells what
became of it.
-/

namespace MqttForwarder.Commands.Requests

open MqttForwarder.Rust
open MqttForwarder.Mqtt

/-! ## Handlers -/

/-- Where a handler stands in `handle_command_exec`. -/
inductive Stage where
  /-- At `child.wait_with_output().await` of `exec`. -/
  | executing
  /-- `exec` has returned, and the event has not been offered yet. -/
  | responding (resp : Gw.GatewayCommandExecResponse)

/-- A message and the request that it carries.  Requests are told apart by their numbers, since
two messages may be alike. -/
structure Request where
  number : Nat
  message : Publish
  pl : Gw.GatewayCommandExecRequest

structure Handling where
  request : Request
  stage : Stage

structure Answer where
  request : Request
  resp : Gw.GatewayCommandExecResponse
  msg : Publishing.MqttMessage

structure State where
  /-- How many requests there have been. -/
  taken : Nat
  handlers : List Handling
  publishing : Publishing.State

def State.init : State where
  taken := 0
  handlers := []
  publishing := .init

inductive Occurrence where
  /-- The handler of a message has started the command, or `exec` has failed to; `spawned` is the
  answer to `cmd.spawn()`. -/
  | requested (request : Request) (spawned : Except String Unit)
  /-- The command has ended, or the wait for it has failed. -/
  | ended (request : Request) (out : Except String Output)
  /-- The event has been given to the channel. -/
  | answered (answer : Answer)
  /-- The event has not been encoded, or the channel has not taken it. -/
  | dropped (request : Request)
  /-- Anything else that happens to the channel and the publish loop. -/
  | other (o : Publishing.Occurrence)

/-- What `exec` returns after the wait. -/
def finished (pl : Gw.GatewayCommandExecRequest) (out : Except String Output) :
    Except String Gw.GatewayCommandExecResponse :=
  out.map fun out => {
    gatewayId := pl.gatewayId, execId := pl.execId
    stdout := out.stdout, stderr := out.stderr }

/-- The steps of the handlers, and of the channel with its other senders and the publish loop. -/
inductive Step (commands : Option (HashMap String (List String))) (codecs : Codecs) (mqtt : Conf)
    (encoders : Publishing.Encoders) : State → Occurrence → State → Prop where
  | started {s : State} {request : Request} {spawned : Except String Unit}
      {start : Commands.State} {result : Outcome Unit} (next : request.number = s.taken)
      (handled : (messageCallback codecs mqtt.json request.message).Exec (fun _ => True) ()
        [.handleCommandExec request.pl] () result)
      (starts : exec commands (fun _ => spawned) request.pl = .ok start) :
      Step commands codecs mqtt encoders s (.requested request spawned)
        { s with taken := s.taken + 1, handlers := s.handlers ++ [⟨request, .executing⟩] }
  | refused {s : State} {request : Request} {spawned : Except String Unit} {message : String}
      {result : Outcome Unit} (next : request.number = s.taken)
      (handled : (messageCallback codecs mqtt.json request.message).Exec (fun _ => True) ()
        [.handleCommandExec request.pl] () result)
      (fails : exec commands (fun _ => spawned) request.pl = .err message) :
      Step commands codecs mqtt encoders s (.requested request spawned)
        { s with
          taken := s.taken + 1
          handlers := s.handlers ++
            [⟨request, .responding (respond request.pl (.error message))⟩] }
  | ended {s : State} {first last : List Handling} {request : Request}
      (out : Except String Output)
      (waits : s.handlers = first ++ ⟨request, .executing⟩ :: last) :
      Step commands codecs mqtt encoders s (.ended request out)
        { s with
          handlers := first ++
            ⟨request, .responding (respond request.pl (finished request.pl out))⟩ :: last }
  | answered {s : State} {first last : List Handling} {request : Request}
      {resp : Gw.GatewayCommandExecResponse} {msg : Publishing.MqttMessage}
      {tx : Mpsc Publishing.MqttMessage}
      (waits : s.handlers = first ++ ⟨request, .responding resp⟩ :: last)
      (sent : Publishing.sendCommandExecEvent encoders mqtt.json s.publishing.channel resp =
        .ok (msg, tx)) :
      Step commands codecs mqtt encoders s (.answered ⟨request, resp, msg⟩)
        ⟨s.taken, first ++ last, { s.publishing with channel := some tx }⟩
  | dropped {s : State} {first last : List Handling} {request : Request}
      {resp : Gw.GatewayCommandExecResponse} {message : String}
      (waits : s.handlers = first ++ ⟨request, .responding resp⟩ :: last)
      (refused : Publishing.sendCommandExecEvent encoders mqtt.json s.publishing.channel resp =
        .err message) :
      Step commands codecs mqtt encoders s (.dropped request)
        { s with handlers := first ++ last }
  | other {s : State} {o : Publishing.Occurrence} {t : Publishing.State}
      (taken : Publishing.Step mqtt encoders s.publishing o t)
      (event : ∀ msg, o = .accepted msg → msg.typ ≠ "exec") :
      Step commands codecs mqtt encoders s (.other o) { s with publishing := t }

abbrev Run (commands : Option (HashMap String (List String))) (codecs : Codecs) (mqtt : Conf)
    (encoders : Publishing.Encoders) : List Occurrence → State → Prop :=
  Trace (Step commands codecs mqtt encoders) State.init

namespace Occurrence

def request? : Occurrence → Option Request
  | requested request _ => some request
  | _ => none

/-- The request whose command has ended. -/
def ended? : Occurrence → Option Request
  | ended request _ => some request
  | _ => none

def answer? : Occurrence → Option Answer
  | answered answer => some answer
  | _ => none

/-- The request whose handler has come to its end. -/
def completed? : Occurrence → Option Request
  | answered answer => some answer.request
  | dropped request => some request
  | _ => none

/-- What has happened to the channel and the publish loop. -/
def publishing? : Occurrence → Option Publishing.Occurrence
  | answered answer => some (.accepted answer.msg)
  | dropped _ => some .refused
  | other o => some o
  | _ => none

end Occurrence

/-- The exec events that have been published, in order. -/
def published (labels : List Occurrence) : List Publishing.MqttMessage :=
  (Publishing.published (labels.filterMap Occurrence.publishing?)).filter (·.typ = "exec")

def answers (labels : List Occurrence) : List Answer := labels.filterMap Occurrence.answer?

/-! ## What an answer tells -/

/-- The response has the ids of the request, and what became of it: why the command is not one that
can be started, or what its process could not be spawned or waited for with, or the output that it
has ended with. -/
inductive Tells (commands : Option (HashMap String (List String))) (labels : List Occurrence)
    (request : Request) : Gw.GatewayCommandExecResponse → Prop where
  | refused {message : String} (refused : command commands request.pl = .err message) :
      Tells commands labels request
        ⟨request.pl.gatewayId, request.pl.execId, [], [], message⟩
  | unspawned {cmd : Command} {message : String}
      (configured : command commands request.pl = .ok cmd)
      (unspawned : .requested request (.error message) ∈ labels) :
      Tells commands labels request
        ⟨request.pl.gatewayId, request.pl.execId, [], [], message⟩
  | failed {cmd : Command} {message : String}
      (configured : command commands request.pl = .ok cmd)
      (failed : .ended request (.error message) ∈ labels) :
      Tells commands labels request
        ⟨request.pl.gatewayId, request.pl.execId, [], [], message⟩
  | executed {cmd : Command} {out : Output}
      (configured : command commands request.pl = .ok cmd)
      (executed : .ended request (.ok out) ∈ labels) :
      Tells commands labels request
        ⟨request.pl.gatewayId, request.pl.execId, out.stdout, out.stderr, ""⟩

section

variable {commands : Option (HashMap String (List String))} {codecs : Codecs} {mqtt : Conf}
  {encoders : Publishing.Encoders} {labels : List Occurrence} {s s' : State} {o : Occurrence}

theorem configured_of_exec {spawned : Except String Unit} {pl : Gw.GatewayCommandExecRequest}
    {start : Commands.State} (starts : exec commands (fun _ => spawned) pl = .ok start) :
    ∃ cmd, command commands pl = .ok cmd := by
  obtain ⟨cmd, configured, _⟩ := Outcome.bind_eq_ok.mp starts
  exact ⟨cmd, configured⟩

theorem tells_of_exec {request : Request} {spawned : Except String Unit} {message : String}
    (fails : exec commands (fun _ => spawned) request.pl = .err message)
    (requested : .requested request spawned ∈ labels) :
    Tells commands labels request (respond request.pl (.error message)) := by
  unfold exec at fails
  cases configured : command commands request.pl with
  | err reason =>
      rw [configured] at fails
      cases fails
      exact .refused configured
  | panic cause =>
      rw [configured] at fails
      cases fails
  | ok cmd =>
      rw [configured] at fails
      cases spawned with
      | ok started => cases fails
      | error reason =>
          cases fails
          exact .unspawned configured requested

theorem tells_finished {request : Request} {cmd : Command} {out : Except String Output}
    (configured : command commands request.pl = .ok cmd)
    (ended : .ended request out ∈ labels) :
    Tells commands labels request (respond request.pl (finished request.pl out)) := by
  cases out with
  | error message => exact .failed configured ended
  | ok out => exact .executed configured ended

theorem Tells.later {request : Request} {resp : Gw.GatewayCommandExecResponse}
    (tells : Tells commands labels request resp) (o : Occurrence) :
    Tells commands (labels ++ [o]) request resp := by
  cases tells with
  | refused refused => exact .refused refused
  | unspawned configured unspawned =>
      exact .unspawned configured (List.mem_append_left _ unspawned)
  | failed configured failed => exact .failed configured (List.mem_append_left _ failed)
  | executed configured executed => exact .executed configured (List.mem_append_left _ executed)

/-! ## Invariants -/

/-- The message of the request has asked for it. -/
def Request.Asked (codecs : Codecs) (mqtt : Conf) (request : Request) : Prop :=
  Asks codecs mqtt.json request.message (.handleCommandExec request.pl)

theorem asked_of_handled {request : Request} {result : Outcome Unit}
    (handled : (messageCallback codecs mqtt.json request.message).Exec (fun _ => True) ()
      [.handleCommandExec request.pl] () result) : request.Asked codecs mqtt :=
  ((messageCallback_performs handled).2 _).mp List.mem_cons_self

/-- A command that is being executed has not ended. -/
def Stage.Good (commands : Option (HashMap String (List String))) (labels : List Occurrence)
    (request : Request) : Stage → Prop
  | executing => (∃ cmd, command commands request.pl = .ok cmd) ∧
      request ∉ labels.filterMap Occurrence.ended?
  | responding resp => Tells commands labels request resp

structure Handling.Good (commands : Option (HashMap String (List String))) (codecs : Codecs)
    (mqtt : Conf) (labels : List Occurrence) (handling : Handling) : Prop where
  asked : handling.request.Asked codecs mqtt
  stage : handling.stage.Good commands labels handling.request

structure Answer.Good (commands : Option (HashMap String (List String))) (codecs : Codecs)
    (mqtt : Conf) (encoders : Publishing.Encoders) (labels : List Occurrence) (answer : Answer) :
    Prop where
  asked : answer.request.Asked codecs mqtt
  tells : Tells commands labels answer.request answer.resp
  encoded : ∃ bytes, encoders.commandExecResponse.write mqtt.json answer.resp = .ok bytes ∧
    answer.msg = ⟨"exec", bytes⟩

theorem encoded_of_sent {resp : Gw.GatewayCommandExecResponse} {msg : Publishing.MqttMessage}
    {channel : Option (Mpsc Publishing.MqttMessage)} {tx : Mpsc Publishing.MqttMessage}
    (sent : Publishing.sendCommandExecEvent encoders mqtt.json channel resp = .ok (msg, tx)) :
    ∃ bytes, encoders.commandExecResponse.write mqtt.json resp = .ok bytes ∧
      msg = ⟨"exec", bytes⟩ := by
  obtain ⟨bytes, written, sent⟩ := Outcome.bind_eq_ok.mp sent
  obtain ⟨before, _, sent⟩ := Outcome.bind_eq_ok.mp sent
  obtain ⟨after, _, sent⟩ := Outcome.bind_eq_ok.mp sent
  cases sent
  exact ⟨bytes, written, rfl⟩

/-- The requests are told apart, and the command of each ends once at most. -/
structure Counted (labels : List Occurrence) (s : State) : Prop where
  numbered : (labels.filterMap Occurrence.request?).map Request.number = List.range s.taken
  once : (labels.filterMap Occurrence.ended?).Nodup
  ended : ∀ request ∈ labels.filterMap Occurrence.ended?,
    request ∈ labels.filterMap Occurrence.request?

/-- What is so of the handlers and of the answers at any time. -/
structure Sound (commands : Option (HashMap String (List String))) (codecs : Codecs)
    (mqtt : Conf) (encoders : Publishing.Encoders) (labels : List Occurrence) (s : State) :
    Prop where
  handlers : ∀ handling ∈ s.handlers, handling.Good commands codecs mqtt labels
  answers : ∀ answer ∈ answers labels, answer.Good commands codecs mqtt encoders labels
  /-- Every request has been completed, or is still being handled. -/
  balanced : (labels.filterMap Occurrence.completed? ++ s.handlers.map Handling.request).Perm
    (labels.filterMap Occurrence.request?)
  counted : Counted labels s

theorem answers_snoc : answers (labels ++ [o]) = answers labels ++ o.answer?.toList :=
  filterMap_snoc ..

/-- A step that takes the next request or none, and ends a command that has not ended. -/
theorem Counted.snoc (counted : Counted labels s)
    (taken : List.range s'.taken = List.range s.taken ++ o.request?.toList.map Request.number)
    (ended : ∀ request, o.ended? = some request →
      request ∉ labels.filterMap Occurrence.ended? ∧
        request ∈ labels.filterMap Occurrence.request?) : Counted (labels ++ [o]) s' where
  numbered := by
    rw [filterMap_snoc, List.map_append, counted.numbered, taken]
  once := by
    rw [filterMap_snoc]
    cases now : o.ended? with
    | none => simpa using counted.once
    | some request =>
        refine List.nodup_append.mpr ⟨counted.once, List.nodup_singleton request, ?_⟩
        rintro other before _ same rfl
        exact (ended request now).1 (List.mem_singleton.mp same ▸ before)
  ended := by
    intro request member
    rw [filterMap_snoc] at member ⊢
    refine List.mem_append_left _ ?_
    rcases List.mem_append.mp member with before | now
    · exact counted.ended request before
    · exact (ended request (Option.mem_toList.mp now)).2

theorem Counted.requests_nodup (counted : Counted labels s) :
    (labels.filterMap Occurrence.request?).Nodup :=
  List.Nodup.of_map Request.number (counted.numbered ▸ List.nodup_range)

/-- The requests that are being handled are told apart. -/
theorem Sound.handled_nodup (sound : Sound commands codecs mqtt encoders labels s) :
    (s.handlers.map Handling.request).Nodup :=
  (List.nodup_append.mp (sound.balanced.nodup_iff.mpr sound.counted.requests_nodup)).2.1

/-- A handler goes on unless its own command has ended. -/
theorem Handling.Good.later {handling : Handling}
    (good : handling.Good commands codecs mqtt labels)
    (other : o.ended? ≠ some handling.request) :
    handling.Good commands codecs mqtt (labels ++ [o]) := by
  refine ⟨good.asked, ?_⟩
  have stage := good.stage
  cases stands : handling.stage with
  | executing =>
      rw [stands] at stage
      refine ⟨stage.1, ?_⟩
      rw [filterMap_snoc, List.mem_append, Option.mem_toList]
      exact fun ended => ended.elim stage.2 other
  | responding resp =>
      rw [stands] at stage
      exact stage.later o

theorem Answer.Good.later {answer : Answer}
    (good : answer.Good commands codecs mqtt encoders labels) :
    answer.Good commands codecs mqtt encoders (labels ++ [o]) :=
  ⟨good.asked, good.tells.later o, good.encoded⟩

/-- A step that completes no request. -/
theorem Sound.goes (sound : Sound commands codecs mqtt encoders labels s)
    (handlers : ∀ handling ∈ s'.handlers, handling.Good commands codecs mqtt (labels ++ [o]))
    (unanswered : o.answer? = none) (uncompleted : o.completed? = none)
    (requests : (s'.handlers.map Handling.request).Perm
      (s.handlers.map Handling.request ++ o.request?.toList))
    (counted : Counted (labels ++ [o]) s') :
    Sound commands codecs mqtt encoders (labels ++ [o]) s' where
  handlers := handlers
  answers := by
    intro answer member
    rw [answers_snoc, unanswered, Option.toList_none, List.append_nil] at member
    exact (sound.answers answer member).later
  balanced := by
    rw [filterMap_snoc, filterMap_snoc, uncompleted, Option.toList_none, List.append_nil]
    refine (requests.append_left _).trans ?_
    rw [← List.append_assoc]
    exact sound.balanced.append_right _
  counted := counted

/-- A handler that has come to its end leaves the others as they are. -/
theorem Sound.leaves (sound : Sound commands codecs mqtt encoders labels s)
    {first last : List Handling} {handling : Handling}
    (waits : s.handlers = first ++ handling :: last) (left : s'.handlers = first ++ last)
    (same : s'.taken = s.taken)
    (good : ∀ answer, o.answer? = some answer → answer.Good commands codecs mqtt encoders labels)
    (completed : o.completed? = some handling.request) (unasked : o.request? = none)
    (unended : o.ended? = none) : Sound commands codecs mqtt encoders (labels ++ [o]) s' where
  handlers := fun other member => by
    refine (sound.handlers other ?_).later (by simp [unended])
    rw [waits]
    rw [left] at member
    exact ((List.sublist_cons_self handling last).append_left first).mem member
  answers := by
    intro answer member
    rw [answers_snoc] at member
    rcases List.mem_append.mp member with earlier | now
    · exact (sound.answers answer earlier).later
    · exact (good answer (Option.mem_toList.mp now)).later
  balanced := by
    have balanced := sound.balanced
    rw [waits, List.map_append, List.map_cons] at balanced
    rw [filterMap_snoc, filterMap_snoc, completed, unasked, left, List.map_append,
      Option.toList_some, Option.toList_none, List.append_nil, List.append_assoc,
      List.singleton_append]
    exact (List.perm_middle.symm.append_left _).trans balanced
  counted := sound.counted.snoc (by simp [same, unasked]) (by simp [unended])

/-- A new handler stands beside the others. -/
theorem Sound.takes (sound : Sound commands codecs mqtt encoders labels s) {request : Request}
    {spawned : Except String Unit} {stage : Stage} (next : request.number = s.taken)
    (asked : request.Asked codecs mqtt)
    (good : request ∉ labels.filterMap Occurrence.ended? →
      stage.Good commands (labels ++ [.requested request spawned]) request) :
    Sound commands codecs mqtt encoders (labels ++ [.requested request spawned])
      { s with taken := s.taken + 1, handlers := s.handlers ++ [⟨request, stage⟩] } := by
  have new : request ∉ labels.filterMap Occurrence.ended? := by
    intro before
    have member := List.mem_map_of_mem (f := Request.number) (sound.counted.ended request before)
    rw [sound.counted.numbered, next, List.mem_range] at member
    exact Nat.lt_irrefl _ member
  refine sound.goes ?_ rfl rfl (by simp [Occurrence.request?])
    (sound.counted.snoc (by simp [List.range_succ, Occurrence.request?, next])
      (by simp [Occurrence.ended?]))
  intro handling member
  rcases List.mem_append.mp member with earlier | now
  · exact (sound.handlers handling earlier).later (by simp [Occurrence.ended?])
  · rw [List.mem_singleton.mp now]
    exact ⟨asked, good new⟩

/-- The command of one handler ends, and the others go on. -/
theorem Sound.ends (sound : Sound commands codecs mqtt encoders labels s)
    {first last : List Handling} {request : Request} (out : Except String Output)
    (waits : s.handlers = first ++ ⟨request, .executing⟩ :: last) :
    Sound commands codecs mqtt encoders (labels ++ [.ended request out])
      { s with
        handlers := first ++
          ⟨request, .responding (respond request.pl (finished request.pl out))⟩ :: last } := by
  have executing := sound.handlers ⟨request, .executing⟩ (by simp [waits])
  have apart := sound.handled_nodup
  rw [waits, List.map_append, List.map_cons] at apart
  have others : ∀ handling ∈ first ++ last, handling.request ≠ request := by
    have without := (List.nodup_middle.mp apart).notMem
    rw [← List.map_append] at without
    rintro handling member same
    exact without (List.mem_map.mpr ⟨handling, member, same⟩)
  have member : request ∈ labels.filterMap Occurrence.request? :=
    sound.balanced.subset (List.mem_append_right _ (List.mem_map.mpr
      ⟨⟨request, .executing⟩, by simp [waits], rfl⟩))
  refine sound.goes ?_ rfl rfl (by simp [Occurrence.request?, waits])
    (sound.counted.snoc (by simp [Occurrence.request?]) ?_)
  · intro handling member
    rcases List.mem_append.mp member with earlier | later
    · exact (sound.handlers handling (by simp [waits, earlier])).later fun same =>
        others handling (List.mem_append_left _ earlier) (Option.some.inj same).symm
    · rcases List.mem_cons.mp later with rfl | later
      · obtain ⟨cmd, configured⟩ := executing.stage.1
        exact ⟨executing.asked, tells_finished configured (List.mem_append_right _
          (List.mem_singleton_self _))⟩
      · exact (sound.handlers handling (by simp [waits, later])).later fun same =>
          others handling (List.mem_append_right _ later) (Option.some.inj same).symm
  · rintro _ ⟨⟩
    exact ⟨executing.stage.2, member⟩

theorem Step.good (sound : Sound commands codecs mqtt encoders labels s)
    (taken : Step commands codecs mqtt encoders s o s') :
    Sound commands codecs mqtt encoders (labels ++ [o]) s' := by
  cases taken with
  | started next handled starts =>
      exact sound.takes next (asked_of_handled handled) fun new =>
        ⟨configured_of_exec starts, by simpa [filterMap_snoc, Occurrence.ended?] using new⟩
  | refused next handled fails =>
      exact sound.takes next (asked_of_handled handled) fun _ =>
        tells_of_exec fails (List.mem_append_right _ (List.mem_singleton_self _))
  | ended out waits => exact sound.ends out waits
  | @answered first last request resp msg tx waits sent =>
      have responding := sound.handlers ⟨request, .responding resp⟩ (by simp [waits])
      refine sound.leaves waits rfl rfl ?_ rfl rfl rfl
      rintro answer ⟨⟩
      exact ⟨responding.asked, responding.stage, encoded_of_sent sent⟩
  | dropped waits refused =>
      refine sound.leaves waits rfl rfl ?_ rfl rfl rfl
      intro answer none
      cases none
  | other taken event =>
      exact sound.goes (fun handling member => (sound.handlers handling member).later (by
        simp [Occurrence.ended?])) rfl rfl (by simp [Occurrence.request?])
        (sound.counted.snoc (by simp [Occurrence.request?]) (by simp [Occurrence.ended?]))

theorem Run.sound (run : Run commands codecs mqtt encoders labels s) :
    Sound commands codecs mqtt encoders labels s :=
  run.holds (I := Sound commands codecs mqtt encoders)
    ⟨by simp [State.init], by simp [answers], .refl _, ⟨rfl, List.nodup_nil, by simp⟩⟩
    fun _ _ _ _ => Step.good

/-! ## The publish channel -/

/-- The channel and the publish loop have a run of their own. -/
theorem Run.publishing (run : Run commands codecs mqtt encoders labels s) :
    Publishing.Run mqtt encoders (labels.filterMap Occurrence.publishing?) s.publishing := by
  apply Trace.project State.publishing Occurrence.publishing? _ _ run
  · intro s label s' taken silent
    cases taken with
    | started next handled starts => rfl
    | refused next handled fails => rfl
    | ended out waits => rfl
    | answered waits sent => cases silent
    | dropped waits refused => cases silent
    | other taken event => cases silent
  · intro s label s' seen taken observed
    cases taken with
    | @answered first last request resp msg tx waits sent =>
        cases observed
        have called : (Publishing.Call.sendCommandExecEvent resp).run encoders mqtt.json
            s.publishing.channel = .ok (msg, tx) := sent
        exact .accepted called
    | @dropped first last request resp message waits refused =>
        cases observed
        have called : (Publishing.Call.sendCommandExecEvent resp).run encoders mqtt.json
            s.publishing.channel = .err message := refused
        exact .refused called
    | other taken event =>
        cases observed
        exact taken
    | started next handled starts => cases observed
    | refused next handled fails => cases observed
    | ended out waits => cases observed

/-- Only answers are exec events. -/
theorem Run.accepted (run : Run commands codecs mqtt encoders labels s) :
    (Publishing.accepted (labels.filterMap Occurrence.publishing?)).filter (·.typ = "exec") =
      (answers labels).map Answer.msg := by
  induction run with
  | nil => rfl
  | @snoc before s s' o run taken ih =>
      have exec : (o.publishing?.bind Publishing.Occurrence.accepted?).toList.filter
          (·.typ = "exec") = o.answer?.toList.map Answer.msg := by
        cases taken with
        | answered waits sent =>
            obtain ⟨bytes, _, rfl⟩ := encoded_of_sent sent
            rfl
        | @other seen t taken event =>
            cases accepted : seen.accepted? with
            | none => simp [Occurrence.publishing?, Occurrence.answer?, accepted]
            | some msg =>
                have typ : msg.typ ≠ "exec" := by
                  cases seen with
                  | accepted other =>
                      cases accepted
                      exact event _ rfl
                  | _ => cases accepted
                simp [Occurrence.publishing?, Occurrence.answer?, accepted, typ]
        | _ => rfl
      rw [Publishing.accepted, List.filterMap_filterMap] at ih ⊢
      rw [filterMap_snoc, List.filter_append, ih, exec, answers_snoc, List.map_append]

theorem answers_completed (labels : List Occurrence) :
    ((answers labels).map Answer.request).Sublist (labels.filterMap Occurrence.completed?) := by
  induction labels with
  | nil => exact List.Sublist.refl _
  | cons o rest ih =>
      cases o with
      | answered answer => exact ih.cons_cons answer.request
      | dropped request => exact ih.cons request
      | _ => exact ih

/-- In every run, the exec events that have been published are in order among the answers, every
answer has the ids of its request, which a message has asked for, and tells what became of its own
command, and every request is completed once at most, whatever comes in between.  Requests have
numbers of their own, and a command ends once at most, so nothing is told of another request. -/
theorem requests_answered (run : Run commands codecs mqtt encoders labels s) :
    (published labels).Sublist ((answers labels).map Answer.msg) ∧
      (∀ answer ∈ answers labels, answer.Good commands codecs mqtt encoders labels) ∧
      ((answers labels).map Answer.request).Sublist (labels.filterMap Occurrence.completed?) ∧
      (labels.filterMap Occurrence.completed? ++ s.handlers.map Handling.request).Perm
        (labels.filterMap Occurrence.request?) ∧
      (labels.filterMap Occurrence.request?).Nodup ∧
      (labels.filterMap Occurrence.ended?).Nodup := by
  have sound := Run.sound run
  refine ⟨?_, sound.answers, answers_completed labels, sound.balanced,
    sound.counted.requests_nodup, sound.counted.once⟩
  rw [← Run.accepted run]
  have carried := Publishing.Run.carried_sublist (Run.publishing run)
  rw [Publishing.carried, List.append_assoc] at carried
  exact ((List.sublist_append_left _ _).trans carried).filter _

end

/-! ## Two requests -/

/-- The bytes of a message are the input of the command. -/
def execCodecs : Codecs :=
  { codecsFor "" with
    gatewayCommandExecRequest := ⟨fun _ => .error "", fun stdin => .ok (wordcount stdin)⟩ }

def execTopic : String := "eu868/gateway/0102030405060708/command/exec"

def wordcountRequest (number : Nat) (stdin : List UInt8) : Request where
  number
  message := ⟨execTopic.toUTF8, stdin⟩
  pl := wordcount stdin

theorem wordcountRequest_performs (number : Nat) (stdin : List UInt8) :
    (messageCallback execCodecs ({} : Conf).json (wordcountRequest number stdin).message).Exec
      (fun _ => True) () [.handleCommandExec (wordcountRequest number stdin).pl] () (.ok ()) := by
  have parts : levels execTopic =
      ["eu868"] ++ ["gateway", "0102030405060708", "command", "exec"] := by decide
  rw [wordcountRequest, messageCallback_eq parts]
  simp only [handleCommand, Codec.read, execCodecs, Bool.false_eq_true, ↓reduceIte, wordcount,
    ne_eq, not_true_eq_false, Prog.lift_eq, Prog.done_ok_bind]
  exact ⟨.ok (), trivial, [], rfl, rfl, rfl, rfl⟩

def notFound : String := "No such file or directory (os error 2)"

/-- While the command of the first request is running, that of the second one cannot be spawned.
The answer to the second request is published first, and then the output. -/
theorem requests_answered_two :
    ∃ (labels : List Occurrence) (s : State),
      labels.filterMap Occurrence.request? =
        [wordcountRequest 0 [102, 111, 111], wordcountRequest 1 []] ∧
      (answers labels).map Answer.resp =
        [⟨"0102030405060708", 123, [], [], notFound⟩,
          ⟨"0102030405060708", 123, [49, 10], [], ""⟩] ∧
      published labels = [⟨"exec", []⟩, ⟨"exec", [49, 10]⟩] ∧
      (published labels).Sublist ((answers labels).map Answer.msg) ∧
      (∀ answer ∈ answers labels,
        answer.Good (some wordcountOnly) execCodecs {} Publishing.partEncoders labels) ∧
      ((answers labels).map Answer.request).Sublist (labels.filterMap Occurrence.completed?) ∧
      (labels.filterMap Occurrence.completed? ++ s.handlers.map Handling.request).Perm
        (labels.filterMap Occurrence.request?) ∧
      (labels.filterMap Occurrence.request?).Nodup ∧
      (labels.filterMap Occurrence.ended?).Nodup := by
  have opened : Run (some wordcountOnly) execCodecs {} Publishing.partEncoders _ _ :=
    Trace.snoc .nil (.other (.opened rfl (by decide)) (by simp))
  have began := opened.snoc (.other (.started rfl (by simp)) (by simp))
  have first := began.snoc (@Step.started _ _ _ _ _ (wordcountRequest 0 [102, 111, 111]) (.ok ()) _
    (.ok ()) rfl (wordcountRequest_performs _ _) rfl)
  have second := first.snoc (@Step.refused _ _ _ _ _ (wordcountRequest 1 []) (.error notFound) _
    (.ok ()) rfl (wordcountRequest_performs _ _) rfl)
  have refused := second.snoc (@Step.answered _ _ _ _ _
    [⟨wordcountRequest 0 [102, 111, 111], .executing⟩] [] (wordcountRequest 1 []) _ _ _ rfl rfl)
  have ended := refused.snoc (@Step.ended _ _ _ _ _ [] [] (wordcountRequest 0 [102, 111, 111])
    (.ok ⟨[49, 10], []⟩) rfl)
  have answered := ended.snoc (@Step.answered _ _ _ _ _ [] []
    (wordcountRequest 0 [102, 111, 111]) _ _ _ rfl rfl)
  have told := (answered.snoc (.other (.received rfl rfl rfl) (by simp))).snoc
    (.other (.published rfl) (by simp))
  have run := (told.snoc (.other (.received rfl rfl rfl) (by simp))).snoc
    (.other (.published rfl) (by simp))
  exact ⟨_, _, rfl, rfl, rfl, requests_answered run⟩

end MqttForwarder.Commands.Requests
