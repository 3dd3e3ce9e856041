import MqttForwarder.Concentratord.Replies

/-!
# Recovering the socket

A call that gives up its request leaves the socket with a request outstanding
until it has put a new one in place.  It does not hold the mutex in between,
so another call may find the socket in that state, and then the command of
that call is refused.
-/

namespace MqttForwarder.Concentratord

open MqttForwarder.Rust MqttForwarder.Zmq

variable {ι : Type} {codec : Codec} {command : ι → Command} {s s' : State ι}

/-! ## Spoiled sockets -/

/-- A call that has given up its request on the present socket has still to replace it. -/
def State.Spoiled (s : State ι) : Prop :=
  ∃ i failure recovery, s.place i = .recovering failure s.serial recovery ∧ failure.GivesUp

/-- A spoiled socket has a request outstanding. -/
theorem State.Spoiled.outstanding (spoiled : s.Spoiled)
    (owed : Exclusive (Place.Owes s.serial) s.place s.sock.outstanding) :
    s.sock.outstanding ≠ none := by
  obtain ⟨i, failure, recovery, stands, givesUp⟩ := spoiled
  have owes : s.sock.outstanding = some i := by
    apply (owed i).mp
    rw [stands]
    exact ⟨givesUp, rfl⟩
  rw [owes]
  exact Option.some_ne_none i

/-- Where no call is asking, a request is outstanding exactly if the socket is spoiled. -/
theorem outstanding_eq_none_iff
    (owed : Exclusive (Place.Owes s.serial) s.place s.sock.outstanding)
    (quiet : ∀ i, s.place i ≠ .poll ∧ s.place i ≠ .recv) :
    s.sock.outstanding = none ↔ ¬ s.Spoiled := by
  constructor
  · intro clean spoiled
    exact spoiled.outstanding owed clean
  · intro unspoiled
    by_contra some
    obtain ⟨i, outstanding⟩ := Option.ne_none_iff_exists'.mp some
    have owes := (owed i).mpr outstanding
    cases stands : s.place i with
    | poll => exact (quiet i).1 stands
    | recv => exact (quiet i).2 stands
    | recovering failure serial recovery =>
        rw [stands] at owes
        obtain ⟨givesUp, rfl⟩ := owes
        exact unspoiled ⟨i, failure, recovery, stands, givesUp⟩
    | _ =>
        rw [stands] at owes
        exact owes

theorem quiet_of_free (exclusive : Exclusive Place.Inside s.place s.holder)
    (free : s.holder = none) (i : ι) : s.place i ≠ .poll ∧ s.place i ≠ .recv := by
  rw [free] at exclusive
  have outside := exclusive.outside_of_free i
  constructor
  · intro stands
    rw [stands] at outside
    exact outside trivial
  · intro stands
    rw [stands] at outside
    exact outside trivial

theorem quiet_of_send (exclusive : Exclusive Place.Inside s.place s.holder) {i : ι}
    (sends : s.place i = .send) (j : ι) : s.place j ≠ .poll ∧ s.place j ≠ .recv := by
  have alone : (s.place j).Inside → j = i := fun inside =>
    exclusive.unique inside (by rw [sends]; trivial)
  constructor
  · intro stands
    obtain rfl := alone (by rw [stands]; trivial)
    rw [sends] at stands
    cases stands
  · intro stands
    obtain rfl := alone (by rw [stands]; trivial)
    rw [sends] at stands
    cases stands

variable [DecidableEq ι] {o : Occurrence ι} {labels : List (Occurrence ι)}

/-- A call that is about to send finds a reply outstanding exactly if the socket is spoiled. -/
theorem refused_iff_spoiled (run : Run codec command labels s) {i : ι}
    (sends : s.place i = .send) : s.sock.send i = none ↔ s.Spoiled := by
  rw [Req.send_eq_none, ne_eq,
    outstanding_eq_none_iff run.answered.owed (quiet_of_send run.answered.exclusive sends), not_not]

/-! ## Replies in time -/

/-- The call has not sent its request yet. -/
def Place.Unsent : Place → Prop
  | uncalled => True
  | lock => True
  | send => True
  | _ => False

/-- The requests that the Concentratord has received are of calls that have sent theirs. -/
def Sent (s : State ι) : Prop := ∀ request ∈ s.requests, ¬ (s.place request.1).Unsent

theorem sent_update (sent : Sent s) {i : ι} {p : Place}
    (now : p.Unsent → (s.place i).Unsent) (request : ι × List UInt8)
    (member : request ∈ s.requests) : ¬ (Function.update s.place i p request.1).Unsent := by
  by_cases same : request.1 = i
  · rw [same, Function.update_self]
    exact fun unsent => sent request member (same ▸ now unsent)
  · rw [Function.update_of_ne same]
    exact sent request member

theorem Sent.step (sent : Sent s) (taken : Step codec command s o s') : Sent s' := by
  cases taken with
  | called fresh => exact sent_update sent fun _ => fresh ▸ trivial
  | locked waits free => exact sent_update sent fun _ => waits ▸ trivial
  | @sent i sock sends connected taken =>
      intro request member
      rcases List.mem_append.mp member with before | now
      · exact sent_update sent False.elim request before
      · rw [List.mem_singleton.mp now]
        simp [State.goto, Place.Unsent]
  | replied reply asked => exact sent
  | delivered made => exact sent
  | _ => exact sent_update sent False.elim

/-- A reply that has come in is one to a request that was received, and its call finds the
socket readable as long as it polls. -/
def Heard (labels : List (Occurrence ι)) (s : State ι) : Prop :=
  ∀ request resp, .delivered request resp ∈ labels →
    request ∈ s.requests ∧ (s.place request.1 = .poll → s.sock.readable = true)

omit [DecidableEq ι] in
/-- A step that leaves the requests and the socket alone, and makes no call poll. -/
theorem Heard.aside (heard : Heard labels s) (silent : ∀ request resp, o ≠ .delivered request resp)
    (requests : s'.requests = s.requests) (sock : s'.sock.readable = s.sock.readable)
    (place : ∀ i, s'.place i = .poll → s.place i = .poll) : Heard (labels ++ [o]) s' := by
  intro request resp member
  rcases List.mem_append.mp member with before | now
  · obtain ⟨received, readable⟩ := heard request resp before
    rw [requests, sock]
    exact ⟨received, fun polls => readable (place request.1 polls)⟩
  · exact absurd (List.mem_singleton.mp now).symm (silent request resp)

/-- While one call is inside, no other call polls. -/
theorem Heard.alone (heard : Heard labels s) (exclusive : Exclusive Place.Inside s.place s.holder)
    (silent : ∀ request resp, o ≠ .delivered request resp) {i : ι} {p : Place}
    (inside : (s.place i).Inside) (elsewhere : p ≠ .poll)
    (requests : s'.requests = s.requests) (place : s'.place = Function.update s.place i p) :
    Heard (labels ++ [o]) s' := by
  intro request resp member
  rcases List.mem_append.mp member with before | now
  · refine ⟨requests ▸ (heard request resp before).1, fun polls => ?_⟩
    rw [place] at polls
    have stood : s.place request.1 = .poll := place_of_update polls elsewhere
    have same : request.1 = i := exclusive.unique (by rw [stood]; trivial) inside
    rw [same, Function.update_self] at polls
    exact absurd polls elsewhere
  · exact absurd (List.mem_singleton.mp now).symm (silent request resp)

theorem Heard.step (heard : Heard labels s) (sound : Answered codec command s) (sent : Sent s)
    (taken : Step codec command s o s') : Heard (labels ++ [o]) s' := by
  cases taken with
  | @sent i sock sends connected taken =>
      obtain ⟨_, rfl⟩ := Req.send_eq_some.mp taken
      intro request resp member
      rcases List.mem_append.mp member with before | now
      · obtain ⟨received, readable⟩ := heard request resp before
        refine ⟨List.mem_append_left _ received, fun polls => ?_⟩
        have other : request.1 ≠ i := by
          rintro rfl
          exact sent request received (sends ▸ trivial)
        simp only [State.goto, Function.update_of_ne other] at polls
        exact readable polls
      · cases List.mem_singleton.mp now
  | @received i resp sock receives taken =>
      refine heard.alone sound.exclusive (by simp) ?_ (by simp) rfl rfl
      rw [receives]
      trivial
  | @replaced i failure serial recovers =>
      refine heard.alone sound.exclusive (by simp) ?_ (by simp) rfl rfl
      rw [recovers]
      trivial
  | replied reply asked => exact heard.aside (by simp) rfl rfl fun _ => id
  | @delivered request reply made =>
      intro other resp member
      have outstanding : s.place other.1 = .poll → s.sock.outstanding = some other.1 :=
        fun polls => (sound.owed other.1).mp (polls ▸ trivial)
      rcases List.mem_append.mp member with before | now
      · obtain ⟨received, readable⟩ := heard other resp before
        exact ⟨received, fun polls => Req.readable_deliver (readable polls)⟩
      · cases List.mem_singleton.mp now
        refine ⟨sound.traffic.replies _ made, fun polls => ?_⟩
        simp only [Req.deliver, if_pos (outstanding polls)]
        rfl
  | _ => exact heard.aside (by simp) rfl rfl fun _ polls => place_of_update polls (by simp)

/-! ## Connections -/

/-- The socket is connected or being connected, or a replacement could not be. -/
def Linked (labels : List (Occurrence ι)) (s : State ι) : Prop :=
  s.sock.connected = true ∨ (∃ i failure serial, s.place i = .recovering failure serial .connect) ∨
    ∃ i, .disconnected i ∈ labels

omit [DecidableEq ι] in
/-- A step of no call that connects. -/
theorem Linked.aside (linked : Linked labels s) (sock : s'.sock.connected = s.sock.connected)
    (place : ∀ i failure serial, s.place i = .recovering failure serial .connect →
      s'.place i = s.place i) : Linked (labels ++ [o]) s' := by
  rcases linked with connected | ⟨i, failure, serial, stands⟩ | ⟨i, member⟩
  · exact .inl (sock.trans connected)
  · exact .inr (.inl ⟨i, failure, serial, (place i failure serial stands).trans stands⟩)
  · exact .inr (.inr ⟨i, List.mem_append_left _ member⟩)

theorem Linked.step (linked : Linked labels s) (taken : Step codec command s o s') :
    Linked (labels ++ [o]) s' := by
  have other : ∀ {i : ι} {p q : Place}, s.place i = p →
      (∀ failure serial, p ≠ .recovering failure serial .connect) → ∀ j failure serial,
      s.place j = .recovering failure serial .connect →
      Function.update s.place i q j = s.place j := by
    intro i p q stands elsewhere j failure serial connects
    apply Function.update_of_ne
    rintro rfl
    exact elsewhere failure serial (stands.symm.trans connects)
  cases taken with
  | replaced recovers => exact .inr (.inl ⟨_, _, _, Function.update_self ..⟩)
  | connected recovers => exact .inl rfl
  | socketFailed recovers =>
      exact .inr (.inr ⟨_, List.mem_append_right _ List.mem_cons_self⟩)
  | connectFailed recovers =>
      exact .inr (.inr ⟨_, List.mem_append_right _ List.mem_cons_self⟩)
  | called fresh => exact linked.aside rfl (other fresh (by simp))
  | locked waits free => exact linked.aside rfl (other waits (by simp))
  | sent sends connected taken =>
      obtain ⟨_, rfl⟩ := Req.send_eq_some.mp taken
      exact linked.aside rfl (other sends (by simp))
  | busy sends refused => exact linked.aside rfl (other sends (by simp))
  | sendFailed sends => exact linked.aside rfl (other sends (by simp))
  | readable polls ready => exact linked.aside rfl (other polls (by simp))
  | unanswered polls late => exact linked.aside rfl (other polls (by simp))
  | pollFailed polls => exact linked.aside rfl (other polls (by simp))
  | received receives taken =>
      obtain ⟨_, rfl⟩ := Req.recv_eq_some.mp taken
      exact linked.aside rfl (other receives (by simp))
  | recvFailed receives => exact linked.aside rfl (other receives (by simp))
  | relocked waits free => exact linked.aside rfl (other waits (by simp))
  | awake sleeps => exact linked.aside rfl (other sleeps (by simp))
  | replied reply asked => exact linked.aside rfl fun _ _ _ _ => rfl
  | delivered made => exact linked.aside Req.connected_deliver fun _ _ _ _ => rfl

omit [DecidableEq ι] in
/-- A call that is about to send finds the socket connected, unless a replacement could not be. -/
theorem Linked.of_send (linked : Linked labels s)
    (exclusive : Exclusive Place.Inside s.place s.holder) {i : ι} (sends : s.place i = .send) :
    s.sock.connected = true ∨ ∃ j, .disconnected j ∈ labels := by
  rcases linked with connected | ⟨j, failure, serial, stands⟩ | failed
  · exact .inl connected
  · have same : j = i :=
      exclusive.unique (by rw [stands]; trivial) (by rw [sends]; trivial)
    rw [same, sends] at stands
    cases stands
  · exact .inr failed

theorem Run.linked (run : Run codec command labels s) : Linked labels s :=
  run.holds (.inl rfl) fun _ _ _ _ linked taken => linked.step taken

/-! ## Runs without a spoiled exchange -/

/-- A step in which no call takes the mutex for an exchange on a spoiled socket. -/
def PatientStep (codec : Codec) (command : ι → Command) (s : State ι) (o : Occurrence ι)
    (s' : State ι) : Prop :=
  Step codec command s o s' ∧ ∀ i, o = .locked i → ¬ s.Spoiled

/-- Every call sends on a socket without an outstanding request, so none is refused; the socket
is connected, unless the library could not connect a replacement; a call whose reply has come in
does not time out, and a call returns the reply to its own command unless that was late or the
library failed. -/
structure Undisturbed (codec : Codec) (command : ι → Command) (labels : List (Occurrence ι))
    (s : State ι) : Prop where
  clean : ∀ i, s.place i = .send → s.sock.outstanding = none
  connected : ∀ i, s.place i = .send → s.sock.connected = true ∨ ∃ j, .disconnected j ∈ labels
  heard : Heard labels s
  failed : ∀ i serial recovery, s.place i ≠ .recovering .busy serial recovery
  returned : ∀ i res, s.place i = .returned res →
    (∃ resp, res = .ok resp ∧ Answers codec command s i resp) ∨
      ∃ failure, res = .error failure ∧ failure ≠ .busy

/-- The mutex is taken for an exchange on a clean socket, and the socket stays clean until the
call sends. -/
theorem clean_step (sound : Answered codec command s)
    (clean : ∀ i, s.place i = .send → s.sock.outstanding = none)
    (taken : PatientStep codec command s o s') (j : ι) (sends : s'.place j = .send) :
    s'.sock.outstanding = none := by
  obtain ⟨taken, patient⟩ := taken
  cases taken with
  | @locked i waits free =>
      exact (outstanding_eq_none_iff sound.owed (quiet_of_free sound.exclusive free)).mpr
        (patient i rfl)
  | @sent i sock now connected taken =>
      have before : s.place j = .send := place_of_update sends (by simp)
      obtain rfl : j = i := sound.exclusive.unique (by rw [before]; trivial) (by rw [now]; trivial)
      simp [State.goto] at sends
  | @received i resp sock receives taken =>
      obtain ⟨_, rfl⟩ := Req.recv_eq_some.mp taken
      rfl
  | replaced recovers => rfl
  | replied reply asked => exact clean j sends
  | delivered made =>
      rw [Req.outstanding_deliver]
      exact clean j sends
  | _ => exact clean j (place_of_update sends (by simp))

/-- The call has been refused because a reply was outstanding. -/
def Place.Refused : Place → Prop
  | recovering failure _ _ => failure = .busy
  | returned (.error failure) => failure = .busy
  | _ => False

theorem refused_update {i j : ι} {p : Place} (before : ∀ j, ¬ (s.place j).Refused)
    (now : ¬ p.Refused) : ¬ (Function.update s.place i p j).Refused := by
  by_cases same : j = i
  · subst same
    rw [Function.update_self]
    exact now
  · rw [Function.update_of_ne same]
    exact before j

theorem refused_step (clean : ∀ i, s.place i = .send → s.sock.outstanding = none)
    (before : ∀ j, ¬ (s.place j).Refused) (taken : Step codec command s o s') (j : ι) :
    ¬ (s'.place j).Refused := by
  have again : ∀ {i failure serial recovery}, s.place i = .recovering failure serial recovery →
      failure ≠ .busy := by
    intro i failure serial recovery stands same
    apply before i
    rw [stands]
    exact same
  cases taken with
  | @busy i sends refused => exact absurd (clean i sends) (Req.send_eq_none.mp refused)
  | relocked waits free => exact refused_update before (again waits)
  | replaced recovers => exact refused_update before (again recovers)
  | socketFailed recovers => exact refused_update before (again recovers)
  | connected recovers => exact refused_update before (again recovers)
  | connectFailed recovers => exact refused_update before (again recovers)
  | awake sleeps => exact refused_update before (again sleeps)
  | replied reply asked => exact before j
  | delivered made => exact before j
  | called fresh => exact refused_update before id
  | locked waits free => exact refused_update before id
  | sent sends connected taken => exact refused_update before id
  | readable polls ready => exact refused_update before id
  | received receives taken => exact refused_update before id
  | sendFailed sends => exact refused_update before (by simp [Place.Refused])
  | unanswered polls late => exact refused_update before (by simp [Place.Refused])
  | pollFailed polls => exact refused_update before (by simp [Place.Refused])
  | recvFailed receives => exact refused_update before (by simp [Place.Refused])

/-- What holds in every run in which no call takes the mutex for an exchange on a spoiled
socket. -/
structure Patience (codec : Codec) (command : ι → Command) (labels : List (Occurrence ι))
    (s : State ι) : Prop where
  sound : Answered codec command s
  sent : Sent s
  heard : Heard labels s
  linked : Linked labels s
  clean : ∀ i, s.place i = .send → s.sock.outstanding = none
  unrefused : ∀ i, ¬ (s.place i).Refused

theorem patience (run : Trace (PatientStep codec command) State.init labels s) :
    Patience codec command labels s := by
  induction run with
  | nil =>
      exact ⟨Answered.init, fun _ member => absurd member List.not_mem_nil,
        fun _ _ member => absurd member List.not_mem_nil, .inl rfl, fun _ _ => rfl, fun _ => id⟩
  | snoc _ taken ih =>
      exact ⟨ih.sound.step taken.1, ih.sent.step taken.1, ih.heard.step ih.sound ih.sent taken.1,
        ih.linked.step taken.1, clean_step ih.sound ih.clean taken,
        refused_step ih.clean ih.unrefused taken.1⟩

omit [DecidableEq ι] in
theorem Patience.undisturbed (patience : Patience codec command labels s) :
    Undisturbed codec command labels s := by
  obtain ⟨sound, sent, heard, linked, clean, unrefused⟩ := patience
  refine ⟨clean, fun i => linked.of_send sound.exclusive, heard, fun i serial recovery stands => ?_,
    fun i res stands => ?_⟩
  · apply unrefused i
    rw [stands]
    rfl
  · cases res with
    | ok resp => exact .inl ⟨resp, rfl, sound.returned i resp stands⟩
    | error failure =>
        refine .inr ⟨failure, rfl, fun same => unrefused i ?_⟩
        rw [stands]
        exact same

/-- In every run in which no call takes the mutex for an exchange on a spoiled socket, no call
disturbs another.  In every run at all, a call is refused exactly if the socket is spoiled. -/
theorem send_command_undisturbed (codec : Codec) (command : ι → Command) :
    (∀ labels s, Trace (PatientStep codec command) State.init labels s →
      Undisturbed codec command labels s) ∧
    ∀ labels s, Run codec command labels s → ∀ i, s.place i = .send →
      (s.sock.send i = none ↔ s.Spoiled) :=
  ⟨fun _ _ run => (patience run).undisturbed, fun _ _ run _ => refused_iff_spoiled run⟩

/-- Call 0 times out and puts a new socket in place, and then call 1 takes the mutex. -/
theorem locked_after_recovery :
    ∃ labels s, Trace (PatientStep plainCodec gatewayIds) State.init labels s ∧
      s.place 1 = .send ∧ s.place 0 = .returned (.error .unanswered) := by
  have step : ∀ {s : State Nat} {o s'}, (∀ i, o ≠ .locked i) → Step plainCodec gatewayIds s o s' →
      PatientStep plainCodec gatewayIds s o s' :=
    fun other taken => ⟨taken, fun i same => absurd same (other i)⟩
  refine ⟨_, _, .cons (step (by simp) (.called (i := 0) rfl))
    (.cons ⟨.locked (i := 0) rfl rfl, fun _ _ => ?_⟩
    (.cons (step (by simp) (.sent (i := 0) rfl rfl rfl))
    (.cons (step (by simp) (.unanswered (i := 0) rfl rfl))
    (.cons (step (by simp) (.relocked (i := 0) rfl rfl))
    (.cons (step (by simp) (.replaced (i := 0) rfl))
    (.cons (step (by simp) (.connected (i := 0) rfl))
    (.cons (step (by simp) (.called (i := 1) rfl))
    (.cons ⟨.locked (i := 1) rfl rfl, fun _ _ => ?_⟩ .nil)))))))), rfl, rfl⟩
  · rintro ⟨i, failure, recovery, stands, _⟩
    cases place_of_update stands (by simp)
  · rintro ⟨i, failure, recovery, stands, _⟩
    match i with
    | 0 => cases stands
    | 1 => cases stands
    | n + 2 => cases stands

theorem send_command_undisturbed_after_recovery :
    ∃ labels s, s.place 1 = .send ∧ Undisturbed plainCodec gatewayIds labels (s : State Nat) := by
  obtain ⟨labels, s, run, sends, _⟩ := locked_after_recovery
  exact ⟨labels, s, sends, (send_command_undisturbed plainCodec gatewayIds).1 labels s run⟩

/-! ## A late reply -/

/-- Call 0 times out, and call 1 takes the mutex before call 0 does so again. -/
theorem locked_after_timeout :
    ∃ labels s, Run plainCodec gatewayIds labels s ∧ s.place 1 = .send ∧
      s.sock.outstanding = some 0 := by
  exact ⟨_, _, .cons (.called (i := 0) rfl) (.cons (.called (i := 1) rfl)
    (.cons (.locked (i := 0) rfl rfl) (.cons (.sent (i := 0) rfl rfl rfl)
    (.cons (.unanswered (i := 0) rfl rfl) (.cons (.locked (i := 1) rfl rfl) .nil))))), rfl, rfl⟩

/-- The command of a call can be refused because an earlier call has timed out. -/
theorem disturbed_by_timeout :
    ¬ ∀ (codec : Codec) (command : Nat → Command) (labels : List (Occurrence Nat))
      (s : State Nat), Run codec command labels s → Undisturbed codec command labels s := by
  intro undisturbed
  obtain ⟨labels, s, run, sends, outstanding⟩ := locked_after_timeout
  have clean := (undisturbed _ _ labels s run).clean 1 sends
  rw [outstanding] at clean
  cases clean

end MqttForwarder.Concentratord
