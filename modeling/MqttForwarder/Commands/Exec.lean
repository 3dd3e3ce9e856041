import MqttForwarder.Api.Gw
import MqttForwarder.Rust.Channel

/-!
# Executing commands

`exec` starts a configured command, leaves a task behind that writes the input
to the pipe of the child, and waits for the output.  The task makes one call of
`write`, which accepts as many bytes as the pipe takes, and then drops its end
of the pipe.  A child that reads to the end of its input therefore misses
whatever that one call did not accept.
-/

namespace MqttForwarder.Commands

open MqttForwarder.Rust

/-- A command line and the variables that are added to its environment. -/
structure Command where
  program : String
  args : List String
  environment : HashMap String String

/-- The part of `exec` before the process is spawned; `commands` is `COMMANDS`. -/
def command (commands : Option (HashMap String (List String)))
    (pl : Gw.GatewayCommandExecRequest) : Outcome Command := do
  let commands ← Outcome.okOr commands "COMMANDS is not set"
  let args ← Outcome.okOr (commands.lookup pl.command)
    ("Command '" ++ pl.command ++ "' is not configured")
  match args with
  | [] => .err ("Command '" ++ pl.command ++ "' has no arguments")
  | program :: args => .ok { program, args, environment := pl.environment }

/-- Where the task with the input stands. -/
inductive Writer where
  /-- At `stdin.write(&b).await`. -/
  | writing (b : List UInt8)
  /-- The call has returned, and `stdin` is still held. -/
  | wrote
  | dropped

/-- `std::process::Output`. -/
structure Output where
  stdout : List UInt8
  stderr : List UInt8
  deriving DecidableEq

/-- A started command: the task, the pipe, the child that reads from it, and `exec`. -/
structure State where
  writer : Writer
  /-- The bytes in the pipe. -/
  pipe : List UInt8
  /-- The bytes that the child has read. -/
  received : List UInt8
  /-- The child has read the end of its input. -/
  eof : Bool
  /-- What `exec` has returned. -/
  returned : Option Gw.GatewayCommandExecResponse

/-- The state when `exec` comes to `child.wait_with_output().await`. -/
def State.init (pl : Gw.GatewayCommandExecRequest) : State where
  writer := .writing pl.stdin
  pipe := []
  received := []
  eof := false
  returned := none

/-- `exec` up to the wait for the output; `spawn` is the answer to `cmd.spawn()`. -/
def exec (commands : Option (HashMap String (List String))) (spawn : Command → Except String Unit)
    (pl : Gw.GatewayCommandExecRequest) : Outcome State := do
  let cmd ← command commands pl
  match spawn cmd with
  | .ok () => .ok (State.init pl)
  | .error message => .err message

inductive Occurrence where
  /-- `write` has accepted `n` bytes. -/
  | wrote (n : Nat)
  | dropped
  | read (n : Nat)
  | eof
  | exited (out : Output)
  deriving DecidableEq

/-- The steps of the task and of a child that keeps reading.  One call of `write` accepts between
one and all of the bytes. -/
inductive Step (pl : Gw.GatewayCommandExecRequest) : State → Occurrence → State → Prop where
  | wrote {s : State} {b : List UInt8} {n : Nat} (writes : s.writer = .writing b)
      (some : b ≠ [] → 1 ≤ n) (most : n ≤ b.length) :
      Step pl s (.wrote n) { s with writer := .wrote, pipe := s.pipe ++ b.take n }
  | dropped {s : State} (wrote : s.writer = .wrote) :
      Step pl s .dropped { s with writer := .dropped }
  | read {s : State} {n : Nat} (some : 1 ≤ n) (most : n ≤ s.pipe.length) :
      Step pl s (.read n)
        { s with received := s.received ++ s.pipe.take n, pipe := s.pipe.drop n }
  | eof {s : State} (closed : s.writer = .dropped) (empty : s.pipe = []) (unended : s.eof = false) :
      Step pl s .eof { s with eof := true }
  | exited {s : State} {out : Output} (ended : s.eof = true) (waits : s.returned = none) :
      Step pl s (.exited out)
        { s with returned := some {
            gatewayId := pl.gatewayId, execId := pl.execId
            stdout := out.stdout, stderr := out.stderr } }

/-- The runs of a request that has been started. -/
abbrev Run (pl : Gw.GatewayCommandExecRequest) : List Occurrence → State → Prop :=
  Trace (Step pl) (State.init pl)

/-- The event of `handle_command_exec`, for what `exec` has returned. -/
def respond (pl : Gw.GatewayCommandExecRequest)
    (resp : Except String Gw.GatewayCommandExecResponse) : Gw.GatewayCommandExecResponse :=
  match resp with
  | .ok v => v
  | .error e => { gatewayId := pl.gatewayId, execId := pl.execId, error := e }

/-! ## The end of a run -/

namespace State

/-- What the task and the child have still to do. -/
def remaining (s : State) : Nat :=
  (match s.writer with
    | .writing b => b.length + 2
    | .wrote => 1
    | .dropped => 0) +
  s.pipe.length + (if s.eof then 0 else 1) + if s.returned.isSome then 0 else 1

end State

section

variable {pl : Gw.GatewayCommandExecRequest} {s s' : State} {label : Occurrence}
  {labels : List Occurrence}

theorem Step.remaining_lt (step : Step pl s label s') : s'.remaining < s.remaining := by
  unfold State.remaining
  cases step with
  | wrote writes some most =>
      rw [writes]
      simp only [List.length_append, List.length_take]
      omega
  | dropped wrote =>
      rw [wrote]
      dsimp only
      omega
  | read some most =>
      simp only [List.length_drop]
      omega
  | eof closed empty fresh =>
      rw [fresh]
      simp only [if_true, Bool.false_eq_true, if_false]
      omega
  | exited ended waits =>
      rw [waits]
      simp

theorem Run.length_le (run : Run pl labels s) : labels.length ≤ pl.stdin.length + 4 := by
  have bound : labels.length + s.remaining ≤ (State.init pl).remaining := by
    refine run.holds (I := fun labels s => labels.length + s.remaining ≤ (State.init pl).remaining)
      ?_ ?_
    · rw [List.length_nil, Nat.zero_add]
    · intro before s label s' earlier step
      have less := step.remaining_lt
      rw [List.length_append, List.length_singleton]
      omega
  have start : (State.init pl).remaining = pl.stdin.length + 4 := rfl
  omega

/-- A state without a step is one in which the child has read the end of its input. -/
theorem eof_of_stuck (stuck : ∀ label s', ¬ Step pl s label s') : s.eof = true := by
  cases writer : s.writer with
  | writing b => exact absurd (.wrote writer List.length_pos_of_ne_nil le_rfl) (stuck _ _)
  | wrote => exact absurd (.dropped writer) (stuck _ _)
  | dropped =>
      cases pipe : s.pipe with
      | nil =>
          cases eof : s.eof with
          | true => rfl
          | false => exact absurd (.eof writer pipe eof) (stuck _ _)
      | cons byte rest =>
          exact absurd (.read le_rfl (by rw [pipe]; exact Nat.succ_pos _)) (stuck _ _)

/-! ## What the child receives -/

/-- The bytes that `write` has accepted are in the pipe or with the child; the child has read the
end only after all of them. -/
structure Passed (stdin : List UInt8) (labels : List Occurrence) (s : State) (n : Nat) : Prop where
  most : n ≤ stdin.length
  written : ∀ m, .wrote m ∈ labels ↔ m = n
  bytes : s.received ++ s.pipe = stdin.take n
  ended : s.eof = true → s.writer = .dropped ∧ s.pipe = []

/-- The call of `write` is still to come, or it has accepted some of the bytes. -/
def Delivering (stdin : List UInt8) (labels : List Occurrence) (s : State) : Prop :=
  (s.writer = .writing stdin ∧ (∀ m, .wrote m ∉ labels) ∧ s.received = [] ∧ s.pipe = [] ∧
    s.eof = false) ∨
  (∀ b, s.writer ≠ .writing b) ∧ ∃ n, Passed stdin labels s n

theorem Passed.snoc {stdin : List UInt8} {n : Nat} (passed : Passed stdin labels s n)
    (other : ∀ m, label ≠ .wrote m) (bytes : s'.received ++ s'.pipe = s.received ++ s.pipe)
    (ended : s'.eof = true → s'.writer = .dropped ∧ s'.pipe = []) :
    Passed stdin (labels ++ [label]) s' n where
  most := passed.most
  written := fun m => by
    rw [List.mem_append, List.mem_singleton, or_iff_left (other m).symm]
    exact passed.written m
  bytes := bytes.trans passed.bytes
  ended := ended

theorem Delivering.step {stdin : List UInt8} (delivering : Delivering stdin labels s)
    (step : Step pl s label s') : Delivering stdin (labels ++ [label]) s' := by
  rcases delivering with ⟨writes, none, received, pipe, unended⟩ | ⟨called, n, passed⟩
  · cases step with
    | @wrote b n now some most =>
        obtain rfl : stdin = b := Writer.writing.inj (writes.symm.trans now)
        refine .inr ⟨fun b impossible => (by cases impossible), n, most, fun m => ?_, ?_,
          fun ended => ?_⟩
        · rw [List.mem_append, List.mem_singleton, or_iff_right (none m), Occurrence.wrote.injEq]
        · rw [received, pipe, List.nil_append, List.nil_append]
        · rw [unended] at ended
          cases ended
    | dropped wrote =>
        rw [writes] at wrote
        cases wrote
    | read some most =>
        rw [pipe, List.length_nil] at most
        omega
    | eof closed =>
        rw [writes] at closed
        cases closed
    | exited ended =>
        rw [unended] at ended
        cases ended
  · cases step with
    | wrote writes => exact absurd writes (called _)
    | dropped wrote =>
        refine .inr ⟨fun b impossible => (by cases impossible), n,
          passed.snoc (fun _ impossible => by cases impossible) rfl fun ended => ?_⟩
        exact ⟨rfl, (passed.ended ended).2⟩
    | read some most =>
        refine .inr ⟨called, n, passed.snoc (fun _ impossible => by cases impossible) ?_
          fun ended => ?_⟩
        · rw [List.append_assoc, List.take_append_drop]
        · obtain ⟨closed, empty⟩ := passed.ended ended
          exact ⟨closed, by rw [empty, List.drop_nil]⟩
    | eof closed empty =>
        exact .inr ⟨called, n, passed.snoc (fun _ impossible => by cases impossible) rfl
          fun _ => ⟨closed, empty⟩⟩
    | exited ended =>
        exact .inr ⟨called, n, passed.snoc (fun _ impossible => by cases impossible) rfl
          passed.ended⟩

theorem Run.delivering (run : Run pl labels s) : Delivering pl.stdin labels s :=
  run.holds (I := Delivering pl.stdin)
    (.inl ⟨rfl, fun _ => List.not_mem_nil, rfl, rfl, rfl⟩)
    fun _ _ _ _ delivering step => delivering.step step

/-- A child that has read to the end has what the one call of `write` accepted. -/
theorem Run.received (run : Run pl labels s) (ended : s.eof = true) :
    ∃ n, n ≤ pl.stdin.length ∧ (∀ m, .wrote m ∈ labels ↔ m = n) ∧
      s.received = pl.stdin.take n := by
  rcases run.delivering with ⟨_, _, _, _, unended⟩ | ⟨_, n, passed⟩
  · rw [unended] at ended
    cases ended
  · have bytes := passed.bytes
    rw [(passed.ended ended).2, List.append_nil] at bytes
    exact ⟨n, passed.most, passed.written, bytes⟩

end

/-- The child of a request that has been started reads to the end of its input after finitely many
steps.  What it has read then is the input of the request exactly if the one call of `write`
accepted all of it. -/
theorem exec_input_iff {commands : Option (HashMap String (List String))}
    {spawn : Command → Except String Unit} {pl : Gw.GatewayCommandExecRequest} {start s : State}
    {labels : List Occurrence} (started : exec commands spawn pl = .ok start)
    (run : Trace (Step pl) start labels s) :
    labels.length ≤ pl.stdin.length + 4 ∧
      ((∀ label s', ¬ Step pl s label s') → s.eof = true) ∧
      (s.eof = true →
        (s.received = pl.stdin ↔ ∀ n, .wrote n ∈ labels → n = pl.stdin.length)) := by
  obtain rfl : start = State.init pl := by
    obtain ⟨cmd, _, spawned⟩ := Outcome.bind_eq_ok.mp started
    split at spawned
    · exact (Outcome.ok.inj spawned).symm
    · cases spawned
  refine ⟨Run.length_le run, eof_of_stuck, fun ended => ?_⟩
  obtain ⟨n, most, written, received⟩ := Run.received run ended
  rw [received]
  constructor
  · intro whole m wrote
    rw [(written m).mp wrote]
    have length := congrArg List.length whole
    rw [List.length_take] at length
    omega
  · intro all
    rw [all n ((written n).mpr rfl), List.take_length]

/-- A request for a command that reads its input, and the commands that are configured. -/
def wordcount (stdin : List UInt8) : Gw.GatewayCommandExecRequest where
  gatewayId := "0102030405060708"
  command := "wordcount"
  execId := 123
  stdin := stdin
  environment := ∅

def wordcountOnly : HashMap String (List String) :=
  (∅ : HashMap String (List String)).insert "wordcount" ["wc", "-w"]

theorem exec_wordcount (stdin : List UInt8) :
    exec (some wordcountOnly) (fun _ => .ok ()) (wordcount stdin) =
      .ok (State.init (wordcount stdin)) := rfl

/-- One call of `write` that accepts `n` bytes, and a child that reads them. -/
theorem run_wordcount {stdin : List UInt8} {n : Nat} (some : 1 ≤ n) (most : n ≤ stdin.length) :
    ∃ s, Trace (Step (wordcount stdin)) (State.init (wordcount stdin))
      [.wrote n, .dropped, .read n, .eof] s ∧ s.eof = true ∧ s.received = stdin.take n := by
  have kept : (stdin.take n).length = n := by rw [List.length_take, Nat.min_eq_left most]
  have wrote : Step (wordcount stdin) (State.init (wordcount stdin)) (.wrote n)
      ⟨.wrote, stdin.take n, [], false, none⟩ := .wrote rfl (fun _ => some) most
  have read : Step (wordcount stdin) ⟨.dropped, stdin.take n, [], false, none⟩ (.read n)
      ⟨.dropped, (stdin.take n).drop n, (stdin.take n).take n, false, none⟩ :=
    .read some (Nat.le_of_eq kept.symm)
  rw [List.drop_eq_nil_of_le (Nat.le_of_eq kept),
    List.take_of_length_le (Nat.le_of_eq kept)] at read
  have run := Trace.snoc (.snoc (.snoc (.snoc .nil wrote) (.dropped rfl)) read) (.eof rfl rfl rfl)
  exact ⟨_, run, rfl, rfl⟩

theorem exec_input_iff_short :
    ∃ s labels, Trace (Step (wordcount [102, 111, 111])) (State.init (wordcount [102, 111, 111]))
        labels s ∧ s.eof = true ∧
      (s.received = [102, 111, 111] ↔ ∀ n, .wrote n ∈ labels → n = 3) := by
  have most : 3 ≤ [102, 111, (111 : UInt8)].length := le_rfl
  obtain ⟨s, run, ended, _⟩ := run_wordcount (by omega) most
  exact ⟨s, _, run, ended, (exec_input_iff (exec_wordcount _) run).2.2 ended⟩

/-- An input that is one byte longer than an empty pipe is large. -/
theorem long_input_cut :
    ¬ ∀ (commands : Option (HashMap String (List String))) (spawn : Command → Except String Unit)
        (pl : Gw.GatewayCommandExecRequest) (start s : State) (labels : List Occurrence),
      exec commands spawn pl = .ok start → Trace (Step pl) start labels s → s.eof = true →
        s.received = pl.stdin := by
  intro always
  have most : 65536 ≤ (List.replicate 65537 (0 : UInt8)).length := by
    rw [List.length_replicate]
    omega
  obtain ⟨s, run, ended, received⟩ := run_wordcount (by omega) most
  have whole := always _ _ _ _ s _ (exec_wordcount _) run ended
  have length := congrArg List.length (received.symm.trans whole)
  rw [List.length_take, Nat.min_eq_left most] at length
  change 65536 = (List.replicate 65537 (0 : UInt8)).length at length
  rw [List.length_replicate] at length
  omega

end MqttForwarder.Commands
