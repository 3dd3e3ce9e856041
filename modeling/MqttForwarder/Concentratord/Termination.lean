import MqttForwarder.Concentratord.Recovery

/-!
# Calls come to an end

A call of `send_command` has few steps to do, and begins some of them again
only when its socket could not be put in place.  The calls that wait for the
mutex wait for one that can go on, even if the library does not fail: its
`poll` ends after 100 ms.  Only `send` can wait for ever, on a socket that
could not be connected.  Each call sends its request once at most.
-/

namespace MqttForwarder.Concentratord

open MqttForwarder.Rust MqttForwarder.Zmq

/-! ## The steps of a call -/

/-- How many steps are left, if the socket can be put in place. -/
def Place.rank : Place → Nat
  | uncalled => 8
  | lock => 7
  | send => 6
  | poll => 5
  | recv => 4
  | recovering _ _ .sleep => 4
  | recovering _ _ .lock => 3
  | recovering _ _ .socket => 2
  | recovering _ _ .connect => 1
  | returned _ => 0

namespace Occurrence

variable {ι : Type}

/-- The call whose step it is. -/
def call? : Occurrence ι → Option ι
  | called i => some i
  | locked i => some i
  | sent i => some i
  | readable i => some i
  | received i => some i
  | failed i _ => some i
  | relocked i => some i
  | replaced i => some i
  | connected i => some i
  | disconnected i => some i
  | awake i => some i
  | replied _ _ => none
  | delivered _ _ => none

/-- It is no step that a call has to do once it has begun: the call begins, the Concentratord does
it, or the library has failed. -/
def Idle : Occurrence ι → Prop
  | called _ => True
  | failed _ .send => True
  | failed _ .poll => True
  | failed _ .recv => True
  | disconnected _ => True
  | replied _ _ => True
  | delivered _ _ => True
  | _ => False

/-- The call that could not put its socket in place. -/
def disconnected? : Occurrence ι → Option ι
  | disconnected i => some i
  | _ => none

end Occurrence

section

variable {ι : Type}

/-- The calls that have done the steps. -/
def calls (labels : List (Occurrence ι)) : List ι := labels.filterMap Occurrence.call?

/-- The calls that could not put their sockets in place, each as often as it has tried. -/
def disconnects (labels : List (Occurrence ι)) : List ι :=
  labels.filterMap Occurrence.disconnected?

end

section

variable {ι : Type} [DecidableEq ι] {codec : Codec} {command : ι → Command} {s s' : State ι}
  {o : Occurrence ι} {labels : List (Occurrence ι)}

/-- A call moves to a place that is nearer to the end, but for what it has to do again. -/
theorem rank_update {i j : ι} {p q : Place} (again : Nat) (stands : s.place i = p)
    (nearer : q.rank < p.rank + again) :
    [i].count j + (Function.update s.place i q j).rank ≤
      (s.place j).rank + [i].count j * again := by
  by_cases same : j = i
  · subst same
    rw [Function.update_self, stands, List.count_singleton_self]
    omega
  · rw [Function.update_of_ne same, List.count_singleton, if_neg (by simpa using Ne.symm same)]
    omega

theorem rank_onward {i j : ι} {p q : Place} (stands : s.place i = p) (nearer : q.rank < p.rank) :
    [i].count j + (Function.update s.place i q j).rank ≤ (s.place j).rank := by
  simpa using rank_update (j := j) 0 stands nearer

/-- A call is nearer to its end after each of its steps, unless it could not put its socket in
place. -/
theorem Step.rank (taken : Step codec command s o s') (i : ι) :
    (calls [o]).count i + (s'.place i).rank ≤
      (s.place i).rank + (disconnects [o]).count i * 4 := by
  cases taken with
  | socketFailed recovers => exact rank_update 4 recovers (by decide : 4 < 2 + 4)
  | connectFailed recovers => exact rank_update 4 recovers (by decide : 4 < 1 + 4)
  | replied reply asked => exact Nat.le_add_right_of_le (Nat.le_of_eq (Nat.zero_add _))
  | delivered made => exact Nat.le_add_right_of_le (Nat.le_of_eq (Nat.zero_add _))
  | called fresh => exact Nat.le_add_right_of_le (rank_onward fresh (by decide : 7 < 8))
  | locked waits free => exact Nat.le_add_right_of_le (rank_onward waits (by decide : 6 < 7))
  | sent sends connected taken =>
      exact Nat.le_add_right_of_le (rank_onward sends (by decide : 5 < 6))
  | busy sends refused => exact Nat.le_add_right_of_le (rank_onward sends (by decide : 3 < 6))
  | sendFailed sends => exact Nat.le_add_right_of_le (rank_onward sends (by decide : 3 < 6))
  | readable polls ready => exact Nat.le_add_right_of_le (rank_onward polls (by decide : 4 < 5))
  | unanswered polls late => exact Nat.le_add_right_of_le (rank_onward polls (by decide : 3 < 5))
  | pollFailed polls => exact Nat.le_add_right_of_le (rank_onward polls (by decide : 3 < 5))
  | received receives taken =>
      exact Nat.le_add_right_of_le (rank_onward receives (by decide : 0 < 4))
  | recvFailed receives =>
      exact Nat.le_add_right_of_le (rank_onward receives (by decide : 3 < 4))
  | relocked waits free => exact Nat.le_add_right_of_le (rank_onward waits (by decide : 2 < 3))
  | replaced recovers => exact Nat.le_add_right_of_le (rank_onward recovers (by decide : 1 < 2))
  | connected recovers => exact Nat.le_add_right_of_le (rank_onward recovers (by decide : 0 < 1))
  | awake sleeps => exact Nat.le_add_right_of_le (rank_onward sleeps (by decide : 3 < 4))

/-- A call does eight steps at most, and four more for each time that its socket could not be put
in place. -/
theorem Run.steps_le (run : Run codec command labels s) (i : ι) :
    (calls labels).count i + (s.place i).rank ≤ 8 + (disconnects labels).count i * 4 := by
  induction run with
  | nil => exact Nat.le_refl 8
  | snoc _ taken ih =>
      have step := taken.rank i
      rw [calls, disconnects] at step ih ⊢
      rw [List.filterMap_append, List.filterMap_append, List.count_append, List.count_append,
        Nat.add_mul]
      omega

/-! ## No deadlock -/

/-- A call that receives has found the socket readable. -/
def Ready (s : State ι) : Prop := ∀ i, s.place i = .recv → s.sock.readable = true

theorem Ready.aside (ready : Ready s) {i : ι} {p : Place} (elsewhere : p ≠ .recv)
    (sock : s'.sock = s.sock) (place : s'.place = Function.update s.place i p) : Ready s' := by
  intro j receives
  rw [sock]
  rw [place] at receives
  exact ready j (place_of_update receives elsewhere)

/-- While one call is inside, no other call receives. -/
theorem Ready.alone (exclusive : Exclusive Place.Inside s.place s.holder) {i : ι} {p : Place}
    (inside : (s.place i).Inside) (elsewhere : p ≠ .recv)
    (place : s'.place = Function.update s.place i p) : Ready s' := by
  intro j receives
  rw [place] at receives
  have before : s.place j = .recv := place_of_update receives elsewhere
  obtain rfl : j = i := exclusive.unique (by rw [before]; trivial) inside
  rw [Function.update_self] at receives
  exact absurd receives elsewhere

theorem Ready.step (ready : Ready s) (exclusive : Exclusive Place.Inside s.place s.holder)
    (taken : Step codec command s o s') : Ready s' := by
  cases taken with
  | @readable i polls now =>
      intro j receives
      exact now
  | sent sends connected taken =>
      exact .alone exclusive (by rw [sends]; trivial) (by simp) rfl
  | received receives taken =>
      exact .alone exclusive (by rw [receives]; trivial) (by simp) rfl
  | replaced recovers => exact .alone exclusive (by rw [recovers]; trivial) (by simp) rfl
  | connected recovers => exact .alone exclusive (by rw [recovers]; trivial) (by simp) rfl
  | replied reply asked => exact ready
  | delivered made => exact fun i receives => Req.readable_deliver (ready i receives)
  | _ => exact ready.aside (by simp) rfl rfl

theorem Run.ready (run : Run codec command labels s) : Ready s := by
  induction run with
  | nil => exact nofun
  | snoc run taken ih => exact ih.step (Run.answered run).exclusive taken

/-- The call is in `send` on a socket that is not connected. -/
def Blocked (s : State ι) (i : ι) : Prop := s.place i = .send ∧ s.sock.connected = false

/-- A call inside a section under the mutex can go on, unless it is blocked. -/
theorem inside_steps (ready : Ready s) {i : ι} (inside : (s.place i).Inside) :
    (∃ o s', Step codec command s o s' ∧ ¬ o.Idle) ∨ Blocked s i := by
  cases stands : s.place i with
  | send =>
      cases connected : s.sock.connected with
      | false => exact .inr ⟨stands, connected⟩
      | true =>
          cases taken : s.sock.send i with
          | some sock => exact .inl ⟨_, _, .sent stands connected taken, id⟩
          | none => exact .inl ⟨_, _, .busy stands taken, id⟩
  | poll =>
      cases readable : s.sock.readable with
      | true => exact .inl ⟨_, _, .readable stands readable, id⟩
      | false => exact .inl ⟨_, _, .unanswered stands readable, id⟩
  | recv =>
      obtain ⟨reply, arrived⟩ := Option.isSome_iff_exists.mp (ready i stands)
      exact .inl ⟨_, _, .received stands (Req.recv_eq_some.mpr ⟨arrived, rfl⟩), id⟩
  | recovering failure serial recovery =>
      cases recovery with
      | socket => exact .inl ⟨_, _, .replaced stands, id⟩
      | connect => exact .inl ⟨_, _, .connected stands, id⟩
      | _ =>
          rw [stands] at inside
          exact inside.elim
  | _ =>
      rw [stands] at inside
      exact inside.elim

/-- A call that has begun and has not returned can go on, or waits for the mutex that another one
holds. -/
theorem steps_of_unreturned (ready : Ready s) (exclusive : Exclusive Place.Inside s.place s.holder)
    {i : ι} (begun : s.place i ≠ .uncalled) (unreturned : ∀ res, s.place i ≠ .returned res) :
    (∃ o s', Step codec command s o s' ∧ ¬ o.Idle) ∨ ∃ j, Blocked s j := by
  have waits : (∃ o s', Step codec command s o s' ∧ ¬ o.Idle) ∨ s.holder ≠ none ∨
      (s.place i).Inside := by
    by_cases free : s.holder = none
    · cases stands : s.place i with
      | uncalled => exact absurd stands begun
      | lock => exact .inl ⟨_, _, .locked stands free, id⟩
      | recovering failure serial recovery =>
          cases recovery with
          | lock => exact .inl ⟨_, _, .relocked stands free, id⟩
          | sleep => exact .inl ⟨_, _, .awake stands, id⟩
          | _ => exact .inr (.inr trivial)
      | returned res => exact absurd stands (unreturned res)
      | _ => exact .inr (.inr trivial)
    · exact .inr (.inl free)
  rcases waits with goes | held | inside
  · exact .inl goes
  · obtain ⟨j, holds⟩ := Option.ne_none_iff_exists'.mp held
    exact (inside_steps ready ((exclusive j).mpr holds)).imp_right fun blocked => ⟨j, blocked⟩
  · exact (inside_steps ready inside).imp_right fun blocked => ⟨i, blocked⟩

/-! ## One request for each call -/

theorem Run.sent (run : Run codec command labels s) : Sent s :=
  run.holds (I := fun _ s => Sent s) (fun _ member => absurd member List.not_mem_nil)
    fun _ _ _ _ sent taken => sent.step taken

/-- Only the step that sends adds to the requests. -/
theorem requests_step (taken : Step codec command s o s') :
    s'.requests = s.requests ∨
      ∃ i, s.place i = .send ∧ s'.requests = s.requests ++ [(i, codec.encode (command i))] := by
  cases taken with
  | sent sends connected taken => exact .inr ⟨_, sends, rfl⟩
  | _ => exact .inl rfl

theorem Run.requests_nodup (run : Run codec command labels s) :
    (s.requests.map Prod.fst).Nodup := by
  induction run with
  | nil => exact List.nodup_nil
  | snoc run taken ih =>
      rcases requests_step taken with same | ⟨i, sends, more⟩
      · rw [same]
        exact ih
      · have fresh : ∀ request, (i, request) ∉ _ := fun request member =>
          Run.sent run (i, request) member (sends ▸ trivial)
        rw [more, List.map_append]
        refine List.nodup_append.mpr ⟨ih, List.nodup_singleton _, ?_⟩
        rintro j before _ now rfl
        obtain ⟨⟨_, request⟩, member, rfl⟩ := List.mem_map.mp before
        cases List.mem_singleton.mp now
        exact fresh request member

/-- In every run, a call does eight steps at most, and four more for each time that the library
could not put its socket in place, and it sends one request at most.  Where no call that has begun
can do a step without a failure of the library, all of them have returned, or a replacement could
not be connected and a call is blocked on it. -/
theorem send_command_terminates (run : Run codec command labels s) :
    (∀ i, (calls labels).count i ≤ 8 + (disconnects labels).count i * 4) ∧
      (s.requests.map Prod.fst).Nodup ∧
      ((∀ o s', Step codec command s o s' → o.Idle) →
        (∀ i, s.place i = .uncalled ∨ ∃ res, s.place i = .returned res) ∨
          disconnects labels ≠ [] ∧ ∃ i, Blocked s i) := by
  refine ⟨fun i => Nat.le_of_add_right_le (run.steps_le i), run.requests_nodup, fun stuck => ?_⟩
  by_contra neither
  obtain ⟨unfinished, unblocked⟩ := not_or.mp neither
  have free : ∀ i, ¬ Blocked s i := by
    intro i blocked
    refine unblocked ⟨fun none => ?_, i, blocked⟩
    rcases run.linked.of_send run.answered.exclusive blocked.1 with connected | ⟨j, failed⟩
    · rw [blocked.2] at connected
      cases connected
    · have member : j ∈ disconnects labels := List.mem_filterMap.mpr ⟨_, failed, rfl⟩
      rw [none] at member
      cases member
  obtain ⟨i, waits⟩ := not_forall.mp unfinished
  obtain ⟨begun, unreturned⟩ := not_or.mp waits
  rcases steps_of_unreturned run.ready run.answered.exclusive begun
    (fun res returned => unreturned ⟨res, returned⟩) with ⟨o, s', taken, owed⟩ | ⟨j, blocked⟩
  · exact owed (stuck o s' taken)
  · exact free j blocked

end

/-- Call 0 has not been answered and could not connect a new socket; call 1 has taken the mutex
before call 0 tries again. -/
theorem blocked_run : ∃ labels s, Run plainCodec gatewayIds labels s ∧ s.holder = some 1 ∧
    s.sock = Req.new ∧ s.place = Function.update (Function.update (fun _ => .uncalled) 0
      (.recovering .unanswered 0 .lock)) 1 .send := by
  refine ⟨_, _, .cons (.called (i := 0) rfl) (.cons (.locked (i := 0) rfl rfl)
    (.cons (.sent (i := 0) rfl rfl rfl) (.cons (.unanswered (i := 0) rfl rfl)
    (.cons (.relocked (i := 0) rfl rfl) (.cons (.replaced (i := 0) rfl)
    (.cons (.connectFailed (i := 0) rfl) (.cons (.awake (i := 0) rfl)
    (.cons (.called (i := 1) rfl) (.cons (.locked (i := 1) rfl rfl) .nil))))))))), rfl, rfl, ?_⟩
  funext i
  match i with
  | 0 => rfl
  | 1 => rfl
  | n + 2 => rfl

/-- There neither of the two can go on. -/
theorem send_command_terminates_blocked : ∃ labels s, Run plainCodec gatewayIds labels s ∧
    (calls labels).count 0 ≤ 8 + (disconnects labels).count 0 * 4 ∧ disconnects labels ≠ [] ∧
      Blocked s 1 := by
  obtain ⟨labels, s, run, held, sock, place⟩ := blocked_run
  obtain ⟨steps, _, stuck⟩ := send_command_terminates run
  have places : ∀ i p, s.place i = p → p = .uncalled ∨ p = .recovering .unanswered 0 .lock ∨
      p = .send := by
    rintro i p rfl
    rw [place]
    match i with
    | 0 => exact .inr (.inl rfl)
    | 1 => exact .inr (.inr rfl)
    | n + 2 => exact .inl rfl
  have sends : s.place 1 = .send := by rw [place]; rfl
  have waiting : ∀ o s', Step plainCodec gatewayIds s o s' → o.Idle := by
    intro o s' taken
    cases taken with
    | called fresh => trivial
    | sendFailed now => trivial
    | replied reply asked => trivial
    | delivered made => trivial
    | sent now connected taken =>
        rw [sock] at connected
        cases connected
    | busy now refused =>
        rw [sock] at refused
        cases refused
    | relocked waits free =>
        rw [held] at free
        cases free
    | locked stands _ | readable stands _ | unanswered stands _ | pollFailed stands
      | received stands _ | recvFailed stands | replaced stands | socketFailed stands
      | connected stands | connectFailed stands | awake stands =>
        rcases places _ _ stands with other | other | other <;> cases other
  rcases stuck waiting with finished | ⟨failed, _⟩
  · rcases finished 1 with early | ⟨res, returned⟩
    · rw [sends] at early
      cases early
    · rw [sends] at returned
      cases returned
  · exact ⟨labels, s, run, steps 0, failed, sends, by rw [sock]; rfl⟩

end MqttForwarder.Concentratord
