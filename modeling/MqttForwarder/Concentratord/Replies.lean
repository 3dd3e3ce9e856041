import MqttForwarder.Concentratord.Commands

/-!
# Replies match their requests

Only the holder of the mutex exchanges, so the reply that a call takes from
the socket answers the request that the same call has sent.
-/

namespace MqttForwarder.Concentratord

open MqttForwarder.Rust MqttForwarder.Zmq

variable {ι : Type} [DecidableEq ι] {codec : Codec} {command : ι → Command} {s s' : State ι}
  {o : Occurrence ι} {labels : List (Occurrence ι)}

/-! ## The mutex -/

/-- Every step takes and gives back the mutex as its section begins and ends. -/
theorem exclusive_step (exclusive : Exclusive Place.Inside s.place s.holder)
    (taken : Step codec command s o s') : Exclusive Place.Inside s'.place s'.holder := by
  cases taken with
  | @called i fresh => exact exclusive.move fresh (iff_of_false id id)
  | @locked i waits free =>
      rw [free] at exclusive
      exact exclusive.acquire i trivial
  | @sent i sock sends connected taken =>
      exact exclusive.move sends Iff.rfl
  | @busy i sends refused => exact exclusive.release sends trivial id
  | @sendFailed i sends => exact exclusive.release sends trivial id
  | @readable i polls ready =>
      exact exclusive.move polls Iff.rfl
  | @unanswered i polls late => exact exclusive.release polls trivial id
  | @pollFailed i polls => exact exclusive.release polls trivial id
  | @received i resp sock receives taken => exact exclusive.release receives trivial id
  | @recvFailed i receives => exact exclusive.release receives trivial id
  | @relocked i failure serial waits free =>
      rw [free] at exclusive
      exact exclusive.acquire i trivial
  | @replaced i failure serial recovers =>
      exact exclusive.move recovers Iff.rfl
  | @socketFailed i failure serial recovers =>
      exact exclusive.release recovers trivial id
  | @connected i failure serial recovers =>
      exact exclusive.release recovers trivial id
  | @connectFailed i failure serial recovers =>
      exact exclusive.release recovers trivial id
  | @awake i failure serial sleeps => exact exclusive.move sleeps (iff_of_false id id)
  | replied reply asked => exact exclusive
  | delivered made => exact exclusive

/-! ## The socket -/

/-- The call has sent its request on socket number `present`, and its reply has not been taken. -/
def Place.Owes (present : Nat) : Place → Prop
  | poll => True
  | recv => True
  | recovering failure serial _ => failure.GivesUp ∧ serial = present
  | _ => False

/-- A call recovers from one of the sockets so far, and from an earlier one once it has put its
own in place. -/
def Place.Dated (present : Nat) : Place → Prop
  | recovering _ serial .connect => serial < present
  | recovering _ serial _ => serial ≤ present
  | _ => True

theorem Place.Dated.le {present : Nat} {failure : Failure} {serial : Nat} {recovery : Recovery}
    (dated : (recovering failure serial recovery).Dated present) : serial ≤ present := by
  cases recovery with
  | connect => exact Nat.le_of_lt dated
  | _ => exact dated

theorem Place.Dated.succ {present : Nat} {p : Place} (dated : p.Dated present) :
    p.Dated (present + 1) := by
  cases p with
  | recovering failure serial recovery =>
      cases recovery with
      | connect => exact Nat.lt_succ_of_lt dated
      | _ => exact Nat.le_succ_of_le dated
  | _ => trivial

theorem dated_update {i : ι} {p : Place} (dated : ∀ j, (s.place j).Dated s.serial)
    (now : p.Dated s.serial) (j : ι) : (Function.update s.place i p j).Dated s.serial := by
  by_cases same : j = i
  · subst same
    rw [Function.update_self]
    exact now
  · rw [Function.update_of_ne same]
    exact dated j

theorem dated_step (dated : ∀ i, (s.place i).Dated s.serial)
    (taken : Step codec command s o s') : ∀ i, (s'.place i).Dated s'.serial := by
  have now : ∀ {i p}, s.place i = p → p.Dated s.serial := fun {i _} stands => stands ▸ dated i
  cases taken with
  | @replaced i failure serial recovers =>
      intro j
      by_cases same : j = i
      · subst same
        simp only [State.goto, Function.update_self]
        exact Nat.lt_succ_of_le (now recovers).le
      · simp only [State.goto, Function.update_of_ne same]
        exact (dated j).succ
  | relocked waits free => exact dated_update dated (now waits).le
  | socketFailed recovers => exact dated_update dated (now recovers).le
  | connectFailed recovers => exact dated_update dated (now recovers).le
  | awake sleeps => exact dated_update dated (now sleeps).le
  | replied reply asked => exact dated
  | delivered made => exact dated
  | called fresh => exact dated_update dated trivial
  | locked waits free => exact dated_update dated trivial
  | sent sends connected taken => exact dated_update dated trivial
  | readable polls ready => exact dated_update dated trivial
  | received receives taken => exact dated_update dated trivial
  | connected recovers => exact dated_update dated trivial
  | busy sends refused => exact dated_update dated le_rfl
  | sendFailed sends => exact dated_update dated le_rfl
  | unanswered polls late => exact dated_update dated le_rfl
  | pollFailed polls => exact dated_update dated le_rfl
  | recvFailed receives => exact dated_update dated le_rfl

/-- Nothing is owed on a new socket: no call asks but the holder of the mutex, and none has
failed on it yet. -/
theorem owed_replaced (exclusive : Exclusive Place.Inside s.place s.holder)
    (dated : ∀ i, (s.place i).Dated s.serial) {i : ι} {failure : Failure} {serial : Nat}
    (recovers : s.place i = .recovering failure serial .socket) :
    Exclusive (Place.Owes (s.serial + 1))
      (Function.update s.place i (.recovering failure serial .connect)) none := by
  have inside : (s.place i).Inside := by
    rw [recovers]
    trivial
  apply Exclusive.idle
  intro j
  by_cases same : j = i
  · subst same
    have bound := (recovers ▸ dated j : (Place.recovering failure serial .socket).Dated _).le
    simp only [Function.update_self, Place.Owes]
    omega
  · have apart : ¬ (s.place j).Inside := fun both => same (exclusive.unique both inside)
    simp only [Function.update_of_ne same]
    have bound := dated j
    cases stands : s.place j with
    | poll => exact absurd (by rw [stands]; trivial) apart
    | recv => exact absurd (by rw [stands]; trivial) apart
    | recovering other on recovery =>
        rw [stands] at bound
        have bound := bound.le
        simp only [Place.Owes]
        omega
    | _ => exact id

/-- A request is outstanding on the socket exactly as long as its call owes the taking of its
reply, so the socket is like a lock that this call holds. -/
theorem owed_step (exclusive : Exclusive Place.Inside s.place s.holder)
    (dated : ∀ i, (s.place i).Dated s.serial)
    (owed : Exclusive (Place.Owes s.serial) s.place s.sock.outstanding)
    (taken : Step codec command s o s') :
    Exclusive (Place.Owes s'.serial) s'.place s'.sock.outstanding := by
  cases taken with
  | @called i fresh => exact owed.move fresh (iff_of_false id id)
  | @locked i waits free => exact owed.move waits (iff_of_false id id)
  | @sent i sock sends connected taken =>
      obtain ⟨free, rfl⟩ := Req.send_eq_some.mp taken
      rw [free] at owed
      exact owed.acquire i trivial
  | @busy i sends refused => exact owed.move sends (iff_of_false (fun both => both.1) id)
  | @sendFailed i sends => exact owed.move sends (iff_of_false (fun both => both.1) id)
  | @readable i polls ready => exact owed.move polls Iff.rfl
  | @unanswered i polls late =>
      exact owed.move polls (iff_of_true ⟨trivial, rfl⟩ trivial)
  | @pollFailed i polls =>
      exact owed.move polls (iff_of_true ⟨trivial, rfl⟩ trivial)
  | @received i resp sock receives taken =>
      obtain ⟨_, rfl⟩ := Req.recv_eq_some.mp taken
      exact owed.release receives trivial id
  | @recvFailed i receives =>
      exact owed.move receives (iff_of_true ⟨trivial, rfl⟩ trivial)
  | @relocked i failure serial waits free => exact owed.move waits Iff.rfl
  | @replaced i failure serial recovers => exact owed_replaced exclusive dated recovers
  | @socketFailed i failure serial recovers => exact owed.move recovers Iff.rfl
  | @connected i failure serial recovers =>
      have bound : serial < s.serial :=
        (recovers ▸ dated i : (Place.recovering failure serial .connect).Dated _)
      exact owed.move recovers (iff_of_false id fun both => Nat.ne_of_lt bound both.2)
  | @connectFailed i failure serial recovers => exact owed.move recovers Iff.rfl
  | @awake i failure serial sleeps => exact owed.move sleeps Iff.rfl
  | replied reply asked => exact owed
  | delivered made =>
      rw [Req.outstanding_deliver]
      exact owed

/-- What has come in is a reply that the Concentratord made to the outstanding request. -/
def Arrived (s : State ι) : Prop :=
  ∀ resp, s.sock.arrived = some resp →
    ∃ request, s.sock.outstanding = some request.1 ∧ (request, resp) ∈ s.replies

theorem Arrived.step (arrived : Arrived s) (taken : Step codec command s o s') : Arrived s' := by
  intro resp came
  cases taken with
  | @sent i sock sends connected taken =>
      obtain ⟨free, rfl⟩ := Req.send_eq_some.mp taken
      obtain ⟨request, outstanding, _⟩ := arrived resp came
      rw [free] at outstanding
      cases outstanding
  | @received i own sock receives taken =>
      obtain ⟨_, rfl⟩ := Req.recv_eq_some.mp taken
      cases came
  | replaced recovers => cases came
  | replied reply asked =>
      obtain ⟨request, outstanding, made⟩ := arrived resp came
      exact ⟨request, outstanding, List.mem_append_left _ made⟩
  | @delivered request reply made =>
      rw [Req.outstanding_deliver]
      rcases Req.arrived_deliver came with before | ⟨own, rfl⟩
      · exact arrived resp before
      · exact ⟨request, own, made⟩
  | _ => exact arrived resp came

/-! ## The Concentratord -/

/-- The Concentratord has received the requests of the calls, and has replied to some of them. -/
structure Traffic (codec : Codec) (command : ι → Command) (s : State ι) : Prop where
  requests : ∀ request ∈ s.requests, request.2 = codec.encode (command request.1)
  replies : ∀ reply ∈ s.replies, reply.1 ∈ s.requests

theorem Traffic.step (traffic : Traffic codec command s) (taken : Step codec command s o s') :
    Traffic codec command s' := by
  cases taken with
  | @sent i sock sends connected taken =>
      constructor
      · intro request member
        rcases List.mem_append.mp member with before | now
        · exact traffic.requests request before
        · rw [List.mem_singleton.mp now]
      · intro reply member
        exact List.mem_append_left _ (traffic.replies reply member)
  | replied reply asked =>
      refine ⟨traffic.requests, fun made member => ?_⟩
      rcases List.mem_append.mp member with before | now
      · exact traffic.replies made before
      · rw [List.mem_singleton.mp now]
        exact asked
  | _ => exact ⟨traffic.requests, traffic.replies⟩

/-! ## Returned calls -/

/-- The bytes are a reply of the Concentratord to the command of call `i`. -/
def Answers (codec : Codec) (command : ι → Command) (s : State ι) (i : ι) (resp : List UInt8) :
    Prop :=
  ((i, codec.encode (command i)), resp) ∈ s.replies

/-- Replies to earlier requests stay replies. -/
theorem Answers.step {i : ι} {resp : List UInt8} (answers : Answers codec command s i resp)
    (taken : Step codec command s o s') : Answers codec command s' i resp := by
  cases taken with
  | replied reply asked => exact List.mem_append_left _ answers
  | _ => exact answers

/-- Every call that has returned bytes has returned a reply to its own command. -/
structure Answered (codec : Codec) (command : ι → Command) (s : State ι) : Prop where
  exclusive : Exclusive Place.Inside s.place s.holder
  dated : ∀ i, (s.place i).Dated s.serial
  owed : Exclusive (Place.Owes s.serial) s.place s.sock.outstanding
  arrived : Arrived s
  traffic : Traffic codec command s
  returned : ∀ i resp, s.place i = .returned (.ok resp) → Answers codec command s i resp

omit [DecidableEq ι] in
theorem Answered.init : Answered codec command (State.init : State ι) where
  exclusive := Exclusive.idle fun _ => id
  dated := fun _ => trivial
  owed := Exclusive.idle fun _ => id
  arrived := fun _ came => by cases came
  traffic := ⟨fun _ member => absurd member List.not_mem_nil,
    fun _ member => absurd member List.not_mem_nil⟩
  returned := fun _ _ returned => by cases returned

omit [DecidableEq ι] in
/-- The reply that a call takes from the socket answers its own command. -/
theorem Answered.received (answered : Answered codec command s) {i : ι}
    (receives : s.place i = .recv) {resp : List UInt8} (came : s.sock.arrived = some resp) :
    Answers codec command s i resp := by
  obtain ⟨⟨own, bytes⟩, outstanding, made⟩ := answered.arrived resp came
  have asking : s.sock.outstanding = some i := by
    apply (answered.owed i).mp
    rw [receives]
    trivial
  obtain rfl : i = own := Option.some.inj (asking.symm.trans outstanding)
  have sent : bytes = codec.encode (command i) :=
    answered.traffic.requests _ (answered.traffic.replies _ made)
  rw [sent] at made
  exact made

/-- A call that does not move to a place was there before. -/
theorem place_of_update {i j : ι} {p q : Place} (here : Function.update s.place i p j = q)
    (elsewhere : p ≠ q) : s.place j = q := by
  by_cases same : j = i
  · subst same
    rw [Function.update_self] at here
    exact absurd here elsewhere
  · rw [Function.update_of_ne same] at here
    exact here

theorem Answered.step (answered : Answered codec command s)
    (taken : Step codec command s o s') : Answered codec command s' := by
  refine ⟨exclusive_step answered.exclusive taken, dated_step answered.dated taken,
    owed_step answered.exclusive answered.dated answered.owed taken,
    answered.arrived.step taken, answered.traffic.step taken, ?_⟩
  intro j resp returned
  by_cases before : s.place j = .returned (.ok resp)
  · exact (answered.returned j resp before).step taken
  · cases taken with
    | @received i own sock receives taken =>
        obtain ⟨came, _⟩ := Req.recv_eq_some.mp taken
        by_cases same : j = i
        · subst same
          simp only [State.release, Function.update_self, Place.returned.injEq,
            Except.ok.injEq] at returned
          subst returned
          exact answered.received receives came
        · simp only [State.release, Function.update_of_ne same] at returned
          exact absurd returned before
    | replied reply asked => exact absurd returned before
    | delivered made => exact absurd returned before
    | _ => exact absurd (place_of_update returned (by simp)) before

theorem Run.answered (run : Run codec command labels s) : Answered codec command s :=
  run.holds (I := fun _ s => Answered codec command s) Answered.init
    fun _ _ _ _ before taken => before.step taken

/-- Whenever a call of `send_command` has returned `Ok`, it has returned bytes with which the
Concentratord replied to the command of that call. -/
theorem send_command_answered (run : Run codec command labels s) {i : ι} {resp : List UInt8}
    (returned : s.place i = .returned (.ok resp)) : Answers codec command s i resp :=
  run.answered.returned i resp returned

/-! ## One exchange -/

/-- A codec of one-byte messages. -/
def plainCodec : Codec where
  encode := fun _ => [1]
  decodeTxAck := fun _ => .err "failed to decode Protobuf message"

def gatewayIds : Nat → Command := fun _ => .getGatewayId

/-- The steps of call 0 while nothing else happens but the reply to it. -/
def exchange (bytes resp : List UInt8) : List (Occurrence Nat) :=
  [.called 0, .locked 0, .sent 0, .replied (0, bytes) resp, .delivered (0, bytes) resp,
    .readable 0, .received 0]

theorem exchange_run (codec : Codec) (command : Nat → Command) (resp : List UInt8) :
    ∃ s, Run codec command (exchange (codec.encode (command 0)) resp) s ∧
      s.place 0 = .returned (.ok resp) := by
  refine ⟨_, .cons (.called (i := 0) rfl) (.cons (.locked (i := 0) rfl rfl)
    (.cons (.sent (i := 0) rfl rfl rfl) (.cons (.replied resp (List.mem_singleton_self _))
    (.cons (.delivered (List.mem_singleton_self _)) (.cons (.readable (i := 0) rfl rfl)
    (.cons (@Step.received Nat _ _ _ _ 0 resp _ rfl rfl) .nil)))))), rfl⟩

theorem send_command_answered_once :
    ∃ labels s, Run plainCodec gatewayIds labels s ∧ Answers plainCodec gatewayIds s 0 [2] := by
  obtain ⟨s, run, returned⟩ := exchange_run plainCodec gatewayIds [2]
  exact ⟨_, s, run, send_command_answered run returned⟩

/-! ## Downlinks -/

/-- `send_downlink_frame` of the `Backend` trait, from the result of its command to the
acknowledgement that it sends. -/
def Backend.sendDownlinkFrame (codec : Codec) (zmq : Failure → String)
    (res : Except Failure (List UInt8)) : Outcome Gw.DownlinkTxAck :=
  match res with
  | .ok resp => codec.decodeTxAck resp
  | .error failure => .err (failure.message zmq)

omit [DecidableEq ι] in
/-- An acknowledgement is what the Concentratord has replied to the downlink itself. -/
theorem Answered.acknowledged (answered : Answered codec command s) {i : ι}
    {pl : Gw.DownlinkFrame} (downlink : command i = .sendDownlinkFrame pl)
    {res : Except Failure (List UInt8)} (returned : s.place i = .returned res)
    {zmq : Failure → String} {txAck : Gw.DownlinkTxAck}
    (acknowledged : Backend.sendDownlinkFrame codec zmq res = .ok txAck) :
    ∃ resp, ((i, codec.encode (.sendDownlinkFrame pl)), resp) ∈ s.replies ∧
      codec.decodeTxAck resp = .ok txAck := by
  cases res with
  | error failure => cases acknowledged
  | ok resp =>
      have answers := answered.returned i resp returned
      rw [Answers, downlink] at answers
      exact ⟨resp, answers, acknowledged⟩

end MqttForwarder.Concentratord
