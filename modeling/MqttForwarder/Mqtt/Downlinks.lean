import Mathlib.Data.List.Perm.Basic
import MqttForwarder.Downlink.Origins
import MqttForwarder.Mqtt.Dispatch
import MqttForwarder.Mqtt.OneGateway

/-!
# From the broker to the packet forwarder

The handler of a message runs in a task of its own, so the operations that
messages have asked for are performed in any order and at any time, beside
sessions that end and begin again with another gateway id.  Still a frame is
sent to the packet forwarder for messages that asked for it only, its first
item once for each of them, and only for a gateway that the forwarder has had.
-/

namespace MqttForwarder.Mqtt.Downlinks

open MqttForwarder.Rust
open MqttForwarder.SemtechUdp
open MqttForwarder.Mqtt.Sessions (pullDataId)

/-! ## The backend behind the broker -/

structure Site where
  backend : System
  /-- The operations that handlers of messages have come to. -/
  waiting : List Operation

def Site.init (conf : SemtechUdp.Conf) : Site where
  backend := Pool.idle (State.init conf)
  waiting := []

inductive Occurrence where
  /-- `run` has got the gateway id from the backend. -/
  | started (gatewayId : String)
  /-- The handler of a message has come to the operations that it performs. -/
  | delivered (p : Publish) (asked : List Operation)
  /-- Task `n` of the backend has begun to send a frame. -/
  | commanded (n : Nat) (pl : Gw.DownlinkFrame)
  /-- An operation that the backend has nothing to do for has been performed. -/
  | performed (operation : Operation)
  /-- The receive loop has received a datagram. -/
  | datagram (data : List UInt8) (remote : SocketAddr)
  /-- A task of the backend has done an action. -/
  | acted (i : Thread) (os : List Effect)

/-- The steps of `run`, of the handlers of messages and of the tasks of the backend.  The handler
of a message does nothing that can be seen before its operation, and the operation of a task that
is free begins at any time after. -/
inductive Step (crates : Crates) (profile : Profile) (conf : SemtechUdp.Conf) (codecs : Codecs)
    (mqtt : Conf) : Site → Occurrence → Site → Prop where
  | started {s : Site} (known : s.backend.state.gatewayId ≠ "") :
      Step crates profile conf codecs mqtt s (.started s.backend.state.gatewayId) s
  | delivered {s : Site} {asked : List Operation} {result : Outcome Unit} (p : Publish)
      (handled : (messageCallback codecs mqtt.json p).Exec (fun _ => True) () asked () result) :
      Step crates profile conf codecs mqtt s (.delivered p asked)
        { s with waiting := s.waiting ++ asked }
  | commanded {s : Site} {first last : List Operation} (n : Nat) (pl : Gw.DownlinkFrame)
      (free : (s.backend.threads (.command n)).Finished)
      (waits : s.waiting = first ++ .sendDownlinkFrame pl :: last) :
      Step crates profile conf codecs mqtt s (.commanded n pl)
        ⟨s.backend.start (.command n) (.command pl)
          (program crates profile conf (.command n) (.command pl)), first ++ last⟩
  | performed {s : Site} {first last : List Operation} (operation : Operation)
      (other : ∀ pl, operation ≠ .sendDownlinkFrame pl)
      (waits : s.waiting = first ++ operation :: last) :
      Step crates profile conf codecs mqtt s (.performed operation)
        { s with waiting := first ++ last }
  | datagram {s : Site} (data : List UInt8) (remote : SocketAddr)
      (free : (s.backend.threads .udp).Finished) :
      Step crates profile conf codecs mqtt s (.datagram data remote)
        { s with
          backend := s.backend.start .udp (.datagram data remote)
            (program crates profile conf .udp (.datagram data remote)) }
  | acted {s : Site} {β : Type} (i : Thread) (action : Env → State → Reply β State Effect)
      (next : β → SemtechUdp.Task Unit) (e : Env)
      (current : s.backend.threads i = .act action next) :
      Step crates profile conf codecs mqtt s (.acted i (action e s.backend.state).effects)
        { s with backend := s.backend.exec i action next e }

abbrev Run (crates : Crates) (profile : Profile) (conf : SemtechUdp.Conf) (codecs : Codecs)
    (mqtt : Conf) : List Occurrence → Site → Prop :=
  Trace (Step crates profile conf codecs mqtt) (Site.init conf)

namespace Occurrence

/-- What the tasks of the backend have done. -/
def event? : Occurrence → Option (Pool.Event Thread Request Effect)
  | commanded n pl => some (.took (.command n) (.command pl))
  | datagram data remote => some (.took .udp (.datagram data remote))
  | acted i os => some (.acted i os)
  | _ => none

/-- The operations that a message has asked for. -/
def asked : Occurrence → List Operation
  | delivered _ asked => asked
  | _ => []

/-- The message asks for the sending of the frame. -/
def asksFor (frame : Gw.DownlinkFrame) : Occurrence → Bool
  | delivered _ asked => decide (.sendDownlinkFrame frame ∈ asked)
  | _ => false

/-- The operation that has been performed. -/
def operation? : Occurrence → Option Operation
  | commanded _ pl => some (.sendDownlinkFrame pl)
  | performed operation => some operation
  | _ => none

end Occurrence

section

variable {crates : Crates} {profile : Profile} {conf : SemtechUdp.Conf} {codecs : Codecs}
  {mqtt : Conf} {labels : List Occurrence} {s : Site}

/-- The tasks of the backend have a history in every run. -/
theorem Run.history (run : Run crates profile conf codecs mqtt labels s) :
    Pool.History (program crates profile conf) (admits fun _ => True) (fun _ => True)
      (State.init conf) (labels.filterMap Occurrence.event?) s.backend := by
  apply Trace.project Site.backend Occurrence.event? _ _ run
  · intro s label s' taken silent
    cases taken with
    | commanded n pl free waits => cases silent
    | datagram data remote free => cases silent
    | acted i action next e current => cases silent
    | _ => rfl
  · intro s label s' seen taken observed
    cases taken with
    | commanded n pl free waits =>
        cases observed
        exact Pool.Move.took (Thread.command n) (Request.command pl) free trivial
    | datagram data remote free =>
        cases observed
        exact Pool.Move.took Thread.udp (Request.datagram data remote) free trivial
    | acted i action next e current =>
        cases observed
        exact .acted i action next e current trivial
    | _ => cases observed

/-- What has been performed and what waits has been asked for, once for each time. -/
theorem Run.balanced (run : Run crates profile conf codecs mqtt labels s) :
    (labels.filterMap Occurrence.operation? ++ s.waiting).Perm
      (labels.flatMap Occurrence.asked) := by
  induction run with
  | nil => exact .refl _
  | @snoc before s s' o run taken ih =>
      rw [filterMap_snoc, List.flatMap_append, List.flatMap_singleton]
      have served : ∀ {first last : List Operation} {operation : Operation},
          s.waiting = first ++ operation :: last →
          (before.filterMap Occurrence.operation? ++ [operation] ++ (first ++ last)).Perm
            (before.flatMap Occurrence.asked) := by
        intro first last operation waits
        rw [waits] at ih
        rw [List.append_assoc, List.singleton_append]
        exact (List.perm_middle.symm.append_left _).trans ih
      cases taken with
      | delivered p handled =>
          simpa [Occurrence.operation?, Occurrence.asked] using ih.append_right _
      | commanded n pl free waits =>
          simpa [Occurrence.operation?, Occurrence.asked] using served waits
      | performed operation other waits =>
          simpa [Occurrence.operation?, Occurrence.asked] using served waits
      | started known => simpa [Occurrence.operation?, Occurrence.asked] using ih
      | datagram data remote free => simpa [Occurrence.operation?, Occurrence.asked] using ih
      | acted i action next e current => simpa [Occurrence.operation?, Occurrence.asked] using ih

/-- The handler of a message that has been delivered does what the message asks for. -/
theorem Run.performs (run : Run crates profile conf codecs mqtt labels s) {p : Publish}
    {asked : List Operation} (told : .delivered p asked ∈ labels) :
    asked.length ≤ 1 ∧ ∀ operation, operation ∈ asked ↔ Asks codecs mqtt.json p operation := by
  obtain ⟨before, after, rfl⟩ := List.append_of_mem told
  obtain ⟨middle, _, later⟩ := Trace.split run
  obtain ⟨_, taken, _⟩ := later.uncons
  cases taken with
  | delivered p handled => exact messageCallback_performs handled

/-- A frame that has been commanded has been asked for by a message. -/
theorem Run.asked (run : Run crates profile conf codecs mqtt labels s) {n : Nat}
    {pl : Gw.DownlinkFrame} (commanded : .commanded n pl ∈ labels) :
    ∃ p asked, .delivered p asked ∈ labels ∧
      Asks codecs mqtt.json p (.sendDownlinkFrame pl) := by
  have done : Operation.sendDownlinkFrame pl ∈ labels.filterMap Occurrence.operation? :=
    List.mem_filterMap.mpr ⟨_, commanded, rfl⟩
  have member := (Run.balanced run).mem_iff.mp (List.mem_append_left _ done)
  obtain ⟨o, told, inside⟩ := List.mem_flatMap.mp member
  cases o with
  | delivered p asked => exact ⟨p, asked, told, ((Run.performs run told).2 _).mp inside⟩
  | _ => cases inside

end

/-! ## Gateway ids -/

/-- A readable PULL_DATA has brought the id. -/
def Reported (labels : List Occurrence) (gatewayId : String) : Prop :=
  ∃ data remote, .datagram data remote ∈ labels ∧ data[3]? = some 0x02 ∧
    pullDataId data = some gatewayId

/-- Every message comes under a filter that a session before it has subscribed to. -/
def Filtered (mqtt : Conf) (labels : List Occurrence) : Prop :=
  ∀ before p asked after, labels = before ++ .delivered p asked :: after →
    ∃ gatewayId topic, .started gatewayId ∈ before ∧ String.fromUTF8? p.topic = some topic ∧
      matchesFilter (commandTopic mqtt gatewayId) topic = true

/-- The digits of an encoded id are no separators and no wildcards. -/
theorem plainId_hexEncode (bytes : List UInt8) : PlainId (hexEncode bytes) := by
  have digit : ∀ n < 16, Nat.digitChar n ≠ '/' ∧ Nat.digitChar n ≠ '+' ∧
      Nat.digitChar n ≠ '#' := by decide
  intro c member
  rw [hexEncode, String.toList_ofList] at member
  obtain ⟨b, _, inside⟩ := List.mem_flatMap.mp member
  have bound := b.toNat_lt
  simp only [List.mem_cons, List.not_mem_nil, or_false] at inside
  rcases inside with rfl | rfl
  · exact digit _ (by omega)
  · exact digit _ (by omega)

theorem plainId_of_pullDataId {data : List UInt8} {gatewayId : String}
    (accepted : pullDataId data = some gatewayId) : PlainId gatewayId := by
  unfold pullDataId at accepted
  split at accepted
  · cases accepted
    exact plainId_hexEncode _
  · cases accepted

section

variable {crates : Crates} {profile : Profile} {conf : SemtechUdp.Conf} {codecs : Codecs}
  {mqtt : Conf} {labels before after : List Occurrence} {s : Site}

/-- The action leaves the gateway id alone. -/
def SameId (_ : Env) (s s' : State) (_ : List Effect) : Prop := s'.gatewayId = s.gatewayId

theorem pushData_sameId : PushDataActions crates SameId where
  idle := fun _ _ => rfl
  pushAck := fun _ _ => sendTo_guarantees (fun _ _ => rfl) fun _ _ => rfl
  countUplink := fun _ => Prog.guarantees_attempt fun _ _ => rfl
  up := fun _ => trySend_guarantees (fun _ _ => rfl) fun _ _ _ => rfl
  exportStats := Prog.guarantees_attempt fun _ _ => rfl
  stats := fun _ => trySend_guarantees (fun _ _ => rfl) fun _ _ _ => rfl

theorem txAck_sameId : TxAckActions crates SameId where
  idle := fun _ _ => rfl
  setDownlinkCache := fun _ _ => Prog.guarantees_atomically fun _ _ => rfl
  pullResp := fun _ _ _ _ => sendTo_guarantees (fun _ _ => rfl) fun _ _ => rfl
  cleanDownlinkCache := Prog.guarantees_atomically fun _ _ => rfl
  readDownlinkCache := fun _ => Prog.guarantees_atomically fun _ _ => rfl
  countDownlink := fun _ _ => Prog.guarantees_attempt fun _ _ => rfl
  ack := fun _ => trySend_guarantees (fun _ _ => rfl) fun _ _ _ => rfl

theorem shows_of_sameId {α : Type} {p : SemtechUdp.Task α} {K : String → Prop}
    (guarantees : p.Guarantees SameId) :
    p.Shows (fun s => K s.gatewayId) (fun _ => True) :=
  (guarantees.mono fun _ _ _ _ same =>
    ⟨fun known => same.symm ▸ known, fun _ _ => trivial⟩).shows

/-- Only a PULL_DATA brings another gateway id. -/
theorem program_identified {K : String → Prop} (i : Thread) (r : Request)
    (brings : ∀ data remote, r = .datagram data remote → data[3]? = some 0x02 → ∀ gatewayId,
      pullDataId data = some gatewayId → K gatewayId) :
    (program crates profile conf i r).Shows (fun s => K s.gatewayId) (fun _ => True) := by
  cases r with
  | command pl =>
      exact shows_of_sameId (sendDownlinkFrame_guarantees
        (@txAck_sameId crates).toDownlinkActions _ _ _)
  | datagram data remote =>
      have handled : (receive crates profile conf data remote).Shows (fun s => K s.gatewayId)
          (fun _ => True) := by
        unfold receive
        split
        · exact Prog.shows_done _
        · exact shows_of_sameId (handlePushData_guarantees pushData_sameId data remote)
        · next pullData =>
            refine Prog.shows_lift fun pl (read : PullData.fromSlice data = .ok pl) => ?_
            refine Prog.shows_bind (shows_of_sameId
              (sendTo_guarantees (fun _ _ => rfl) fun _ _ => rfl)) fun _ => ?_
            refine Prog.shows_bind (Prog.shows_act fun e s _ => ?_) fun _ =>
              shows_of_sameId (Prog.guarantees_atomically fun _ _ => rfl)
            refine ⟨brings data remote rfl pullData _ ?_, fun _ _ => trivial, Prog.shows_done _⟩
            rw [pullDataId, read]
        · exact shows_of_sameId (handleTxAck_guarantees txAck_sameId data)
        · exact Prog.shows_done _
      exact handled

/-- The id that the backend has at any time has been configured, or a PULL_DATA has brought it. -/
theorem gatewayId_brought {events : List (Pool.Event Thread Request Effect)} {pool : System}
    (history : Pool.History (program crates profile conf) (admits fun _ => True) (fun _ => True)
      (State.init conf) events pool) :
    pool.state.gatewayId = conf.gatewayId ∨ ∃ data remote,
      .took .udp (.datagram data remote) ∈ events ∧ data[3]? = some 0x02 ∧
        pullDataId data = some pool.state.gatewayId := by
  have brings : ∀ i r, .took i r ∈ events → ∀ data remote, r = .datagram data remote →
      data[3]? = some 0x02 → ∀ gatewayId, pullDataId data = some gatewayId →
        gatewayId = conf.gatewayId ∨ ∃ data remote,
          .took .udp (.datagram data remote) ∈ events ∧ data[3]? = some 0x02 ∧
            pullDataId data = some gatewayId := by
    rintro i _ requested data remote rfl pullData gatewayId accepted
    have admitted := history.admitted requested
    cases i with
    | udp => exact .inr ⟨data, remote, requested, pullData, accepted⟩
    | command n => exact admitted.elim
  exact (Pool.run_shows program_identified (.inl rfl) (history.restrict brings).run).1

theorem Run.identified (run : Run crates profile conf codecs mqtt labels s) :
    s.backend.state.gatewayId = conf.gatewayId ∨
      Reported labels s.backend.state.gatewayId := by
  refine (gatewayId_brought (Run.history run)).imp_right ?_
  rintro ⟨data, remote, taken, brought⟩
  obtain ⟨o, member, same⟩ := List.mem_filterMap.mp taken
  cases o with
  | datagram data' remote' =>
      cases same
      exact ⟨data, remote, member, brought⟩
  | _ => cases same

/-- So has the id of every session. -/
theorem Run.session (run : Run crates profile conf codecs mqtt labels s) {gatewayId : String}
    (started : .started gatewayId ∈ labels) :
    gatewayId ≠ "" ∧ (gatewayId = conf.gatewayId ∨ Reported labels gatewayId) := by
  obtain ⟨before, after, rfl⟩ := List.append_of_mem started
  obtain ⟨middle, earlier, later⟩ := Trace.split run
  obtain ⟨_, taken, _⟩ := later.uncons
  cases taken with
  | started known =>
      refine ⟨known, (Run.identified earlier).imp_right ?_⟩
      rintro ⟨data, remote, member, rest⟩
      exact ⟨data, remote, List.mem_append_left _ member, rest⟩

end

/-! ## What is sent -/

/-- The effect is the sending of the first item of the frame. -/
def sendsFirst (frame : Gw.DownlinkFrame) : Effect → Bool
  | .pullResp pl 0 _ _ => pl == frame
  | _ => false

/-- Whether the request may send the first item of the frame. -/
def mayBegin (frame : Gw.DownlinkFrame) (_ : Thread) : Request → Bool
  | .command pl => pl == frame
  | .datagram _ _ => false

section

variable {crates : Crates} {profile : Profile} {conf : SemtechUdp.Conf} {codecs : Codecs}
  {mqtt : Conf} {labels before : List Occurrence} {s : Site} {F : Gw.DownlinkFrame → Prop}

/-- A request sends frames in `F` only: that of its command, or one that is in the cache. -/
theorem sent_of_serves {i : Thread} {r : Request} {os : List Effect} (admitted : admits F i r)
    (serves : Serves crates profile F i r os) {frame : Gw.DownlinkFrame} {index : Nat}
    {bytes : List UInt8} {addr : SocketAddr} (sent : .pullResp frame index bytes addr ∈ os) :
    F frame := by
  cases i with
  | command n =>
      cases r with
      | datagram data remote => exact absurd serves id
      | command pl =>
          obtain ⟨more, result, tried⟩ := serves
          obtain ⟨rfl, _⟩ := tried.of_pullResp (List.mem_append_left more sent)
          exact admitted
  | udp =>
      cases r with
      | command pl => exact absurd serves id
      | datagram data remote =>
          have txAck : data[3]? = some 0x05 := by
            by_contra other
            exact serves.2 other _ sent
          obtain ⟨more, result, handled⟩ := serves.1 txAck
          obtain ⟨pl, found, _, good, _, _, rfl, _⟩ :=
            handled.of_pullResp (List.mem_append_left more sent)
          exact good.commanded

/-- A command sends the first item of its frame at most once, and nothing else sends a first
item. -/
theorem sendsFirst_le (frame : Gw.DownlinkFrame) {i : Thread} {r : Request}
    {os : List Effect} (serves : Serves crates profile F i r os) :
    os.countP (sendsFirst frame) ≤ if mayBegin frame i r then 1 else 0 := by
  cases i with
  | command n =>
      cases r with
      | datagram data remote => exact absurd serves id
      | command pl =>
          obtain ⟨more, result, tried⟩ := serves
          have whole : (os ++ more).countP (sendsFirst frame) ≤ if pl == frame then 1 else 0 := by
            generalize os ++ more = all at tried
            cases tried with
            | sent accepted => simp [sendsFirst, List.countP_cons]
            | _ => simp [sendsFirst]
          rw [List.countP_append] at whole
          exact (Nat.le_add_right _ _).trans whole
  | udp =>
      cases r with
      | command pl => exact absurd serves id
      | datagram data remote =>
          refine Nat.le_of_eq (List.countP_eq_zero.mpr fun o member first => ?_)
          unfold sendsFirst at first
          split at first
          · have txAck : data[3]? = some 0x05 := by
              by_contra other
              exact serves.2 other _ member
            obtain ⟨more, result, handled⟩ := serves.1 txAck
            obtain ⟨_, _, _, _, _, _, _, later⟩ :=
              handled.of_pullResp (List.mem_append_left more member)
            cases later
          · cases first

/-- The tasks of the backend have a history in which frames are commanded as in the run. -/
theorem Run.restricted (run : Run crates profile conf codecs mqtt labels s) :
    Pool.History (program crates profile conf)
      (admits fun frame => ∃ n, .commanded n frame ∈ labels) (fun _ => True) (State.init conf)
      (labels.filterMap Occurrence.event?) s.backend := by
  refine (Run.history run).restrict fun i r requested => ?_
  obtain ⟨o, member, same⟩ := List.mem_filterMap.mp requested
  cases o with
  | commanded n pl =>
      cases same
      exact ⟨n, member⟩
  | datagram data remote =>
      cases same
      trivial
  | _ => cases same

theorem Run.parts (run : Run crates profile conf codecs mqtt labels s) (i : Thread) :
    ∃ parts, List.Forall₂ (Serves crates profile (fun frame => ∃ n, .commanded n frame ∈ labels) i)
        (Pool.requests i (labels.filterMap Occurrence.event?)) parts ∧
      Pool.effectsOf i (labels.filterMap Occurrence.event?) = parts.flatten :=
  (Run.restricted run).parts program_serves (fun _ _ _ _ => Serves.shorter) ⟨Env.plain, trivial⟩
    (Holds.init trivial) i

/-- A frame of which an item has been sent has been commanded. -/
theorem Run.commanded_of_sent (run : Run crates profile conf codecs mqtt labels s)
    {frame : Gw.DownlinkFrame} {index : Nat} {bytes : List UInt8} {addr : SocketAddr}
    (sent : .pullResp frame index bytes addr ∈ s.backend.log) :
    ∃ n, .commanded n frame ∈ labels := by
  obtain ⟨i, effect⟩ := (Run.restricted run).mem_effectsOf sent
  obtain ⟨parts, each, effects⟩ := Run.parts run i
  obtain ⟨r, part, taken, serves, inside⟩ := Pool.mem_part each effects effect
  exact sent_of_serves ((Run.restricted run).admitted taken) serves inside

/-- What a task has just done is in the log. -/
theorem Run.logged {i : Thread} {os : List Effect}
    (run : Run crates profile conf codecs mqtt (before ++ [.acted i os]) s) {o : Effect}
    (effect : o ∈ os) : o ∈ s.backend.log := by
  rw [(Run.history run).log, List.filterMap_append, List.flatMap_append]
  refine List.mem_append_right _ ?_
  simpa [Occurrence.event?, Pool.Event.effects] using effect

/-- A message asks for an operation at most once. -/
theorem Run.asked_once (run : Run crates profile conf codecs mqtt labels s)
    (frame : Gw.DownlinkFrame) :
    (labels.flatMap Occurrence.asked).count (.sendDownlinkFrame frame) ≤
      labels.countP (Occurrence.asksFor frame) := by
  induction run with
  | nil => exact Nat.le_refl 0
  | @snoc before s s' o run taken ih =>
      rw [List.flatMap_append, List.flatMap_singleton, List.count_append, List.countP_append,
        List.countP_singleton]
      refine Nat.add_le_add ih ?_
      cases taken with
      | @delivered asked result p handled =>
          rw [Occurrence.asked, Occurrence.asksFor]
          split
          · exact List.count_le_length.trans (messageCallback_performs handled).1
          · next absent =>
              rw [decide_eq_true_eq] at absent
              rw [List.count_eq_zero_of_not_mem absent]
      | _ => exact Nat.zero_le _

/-- Each command may send the first item of its frame once. -/
theorem countP_mayBegin_le (frame : Gw.DownlinkFrame) (labels : List Occurrence) :
    (labels.filterMap Occurrence.event?).countP (Pool.Event.accounts (mayBegin frame)) ≤
      (labels.filterMap Occurrence.operation?).count (.sendDownlinkFrame frame) := by
  induction labels with
  | nil => exact Nat.le_refl 0
  | cons o rest ih =>
      cases o with
      | started gatewayId => exact ih
      | delivered p asked => exact ih
      | commanded n pl =>
          have now : (Operation.sendDownlinkFrame pl == .sendDownlinkFrame frame) =
              Pool.Event.accounts (mayBegin frame)
                (.took (.command n) (.command pl) : Pool.Event Thread Request Effect) := by
            simp [Pool.Event.accounts, mayBegin, Bool.beq_eq_decide_eq]
          rw [List.filterMap_cons_some (by rfl), List.filterMap_cons_some (by rfl),
            List.countP_cons, List.count_cons, now]
          exact Nat.add_le_add_right ih _
      | performed operation =>
          rw [List.filterMap_cons_none (by rfl), List.filterMap_cons_some (by rfl),
            List.count_cons]
          exact ih.trans (Nat.le_add_right _ _)
      | datagram data remote => exact ih
      | acted i os => exact ih

theorem filtered_nil : Filtered mqtt [] := by
  intro before p asked after whole
  simp at whole

/-- The messages of a run still come under a filter after a step that delivers none, or one that
comes under a filter. -/
theorem Filtered.snoc (filtered : Filtered mqtt before) {o : Occurrence}
    (last : ∀ p asked, o = .delivered p asked → ∃ gatewayId topic, .started gatewayId ∈ before ∧
      String.fromUTF8? p.topic = some topic ∧
      matchesFilter (commandTopic mqtt gatewayId) topic = true) :
    Filtered mqtt (before ++ [o]) := by
  intro first p asked after whole
  rcases List.eq_nil_or_concat after with rfl | ⟨after, final, rfl⟩
  · obtain ⟨rfl, same⟩ := List.append_inj' whole rfl
    exact last p asked (List.cons.inj same).1
  · rw [List.concat_eq_append, ← List.cons_append, ← List.append_assoc] at whole
    obtain ⟨rfl, _⟩ := List.append_inj' whole rfl
    exact filtered first p asked after rfl

/-- A task does its next action, if it has one left. -/
theorem Run.advance (run : Run crates profile conf codecs mqtt labels s)
    (filtered : Filtered mqtt labels) (i : Thread) :
    ∃ events, Filtered mqtt (labels ++ events) ∧
      Run crates profile conf codecs mqtt (labels ++ events)
        { s with backend := s.backend.advance i Env.plain } := by
  unfold Pool.advance
  split
  · next action next current =>
      have acted := run.snoc (.acted i action next Env.plain current)
      exact ⟨_, filtered.snoc (fun p asked same => by cases same), acted⟩
  · exact ⟨[], by rwa [List.append_nil], by rwa [List.append_nil]⟩

/-- A task does some of its actions. -/
theorem Run.iterate (run : Run crates profile conf codecs mqtt labels s)
    (filtered : Filtered mqtt labels) (i : Thread) (n : Nat) :
    ∃ labels', Filtered mqtt labels' ∧ labels <+: labels' ∧
      Run crates profile conf codecs mqtt labels'
        { s with backend := (fun pool => pool.advance i Env.plain)^[n] s.backend } := by
  induction n with
  | zero => exact ⟨labels, filtered, List.prefix_rfl, run⟩
  | succ n ih =>
      obtain ⟨labels', filtered, first, run⟩ := ih
      obtain ⟨events, filtered, run⟩ := Run.advance run filtered i
      rw [Function.iterate_succ_apply']
      exact ⟨_, filtered, first.trans (List.prefix_append _ _), run⟩

/-- What a task adds to its trail is what its action does. -/
theorem Run.act (run : Run crates profile conf codecs mqtt labels s) (i : Thread)
    {os : List Effect} (acts : os ≠ [])
    (trail : (s.backend.advance i Env.plain).trail i = s.backend.trail i ++ os) :
    ∃ s', Run crates profile conf codecs mqtt (labels ++ [.acted i os]) s' := by
  revert trail
  unfold Pool.advance
  split
  · next action next current =>
      intro trail
      rw [Pool.exec_trail_self] at trail
      exact ⟨_, List.append_cancel_left trail ▸ run.snoc (.acted i action next Env.plain current)⟩
  · intro trail
    exact absurd (List.self_eq_append_right.mp trail) acts

end

/-! ## One frame -/

/-- Every payload reads as this frame. -/
def codecsOf (pl : Gw.DownlinkFrame) : Codecs :=
  { codecsFor "" with downlinkFrame := ⟨fun _ => .ok pl, fun _ => .ok pl⟩ }

def ownFrame : Gw.DownlinkFrame := ⟨1, [loraItem], "0000000000000000"⟩

def ownTopic : String := "eu868/gateway/0000000000000000/command/down"

def ownMessage : Publish := ⟨ownTopic.toUTF8, []⟩

theorem ownMessage_performs : (messageCallback (codecsOf ownFrame) false ownMessage).Exec
    (fun _ => True) () [.sendDownlinkFrame ownFrame] () (.ok ()) := by
  have parts : levels ownTopic =
      ["eu868"] ++ ["gateway", "0000000000000000", "command", "down"] := by decide
  rw [ownMessage, messageCallback_eq parts]
  simp only [handleCommand, Codec.read, codecsOf, Bool.false_eq_true, ↓reduceIte, ownFrame, ne_eq,
    not_true_eq_false, Prog.lift_eq, Prog.done_ok_bind]
  exact ⟨.ok (), trivial, [], rfl, rfl, rfl, rfl⟩

/-- The pool that knows the packet forwarder, and has sent the frame but for its PULL_RESP. -/
def ownFrameConverted : System :=
  serve tooLateCrates .release {} addressKnown (.command 0) (.command ownFrame) 3

/-- A session that sends a frame to the packet forwarder. -/
theorem ownFrame_run : ∃ before bytes s, Filtered {} before ∧
    Run tooLateCrates .release {} (codecsOf ownFrame) {}
      (before ++ [.acted (.command 0) [.pullResp ownFrame 0 bytes forwarderAddr]]) s := by
  have polled : Run tooLateCrates .release {} (codecsOf ownFrame) {} _ _ :=
    Trace.snoc .nil (.datagram pullDataDatagram forwarderAddr trivial)
  obtain ⟨labels, filtered, _, known⟩ :=
    Run.iterate polled (filtered_nil.snoc fun p asked same => by cases same) .udp 3
  have started := known.snoc (.started (by decide))
  have delivered := started.snoc (.delivered ownMessage ownMessage_performs)
  have commanded := delivered.snoc (.commanded 0 ownFrame trivial
    (rfl : _ = [] ++ Operation.sendDownlinkFrame ownFrame :: []))
  have filtered' : Filtered {} (labels ++ [.started "0000000000000000"] ++
      [.delivered ownMessage [.sendDownlinkFrame ownFrame]] ++ [.commanded 0 ownFrame]) := by
    refine Filtered.snoc (Filtered.snoc (filtered.snoc fun p asked same => by cases same) ?_)
      fun p asked same => by cases same
    rintro p asked ⟨⟩
    exact ⟨"0000000000000000", ownTopic, by simp, fromUTF8_toUTF8 ownTopic, by decide⟩
  obtain ⟨before, filtered, _, converted⟩ := Run.iterate commanded filtered' (.command 0) 3
  obtain ⟨s, sent⟩ := Run.act converted (.command 0) (List.cons_ne_nil _ _)
    (rfl : (Pool.advance ownFrameConverted (.command 0) Env.plain).trail (.command 0) =
      ownFrameConverted.trail (.command 0) ++ [.pullResp ownFrame 0 _ forwarderAddr])
  exact ⟨before, _, s, filtered, sent⟩

section

variable {crates : Crates} {profile : Profile} {conf : SemtechUdp.Conf} {codecs : Codecs}
  {mqtt : Conf} {labels before : List Occurrence} {s : Site}

/-- What the sending of a frame goes back to: a message that has come on the command topic of a
session and carried the frame, and the gateway id of the frame, which has been configured or come
with a PULL_DATA. -/
structure Ordered (conf : SemtechUdp.Conf) (codecs : Codecs) (mqtt : Conf)
    (before : List Occurrence) (frame : Gw.DownlinkFrame) : Prop where
  message : ∃ p asked topic, .delivered p asked ∈ before ∧
    String.fromUTF8? p.topic = some topic ∧
    matchesFilter (commandTopic mqtt frame.gatewayId) topic = true ∧
    (levels topic).getLast? = some "down" ∧
    codecs.downlinkFrame.Decodes mqtt.json p.payload frame
  session : .started frame.gatewayId ∈ before
  known : frame.gatewayId ≠ "" ∧
    (frame.gatewayId = conf.gatewayId ∨ Reported before frame.gatewayId)

/-- In every run in which messages come under the filters that sessions have subscribed to, a frame
is sent to the packet forwarder only after a message has carried it on the command topic of a
session, and for the gateway of that session, which is the configured one or that of a PULL_DATA. -/
theorem downlinks_for_own_gateway (plain : PlainId conf.gatewayId)
    (filtered : Filtered mqtt before) {i : Thread} {os : List Effect}
    (run : Run crates profile conf codecs mqtt (before ++ [.acted i os]) s)
    {frame : Gw.DownlinkFrame} {index : Nat} {bytes : List UInt8} {addr : SocketAddr}
    (sent : .pullResp frame index bytes addr ∈ os) : Ordered conf codecs mqtt before frame := by
  obtain ⟨n, commanded⟩ := Run.commanded_of_sent run (Run.logged run sent)
  obtain ⟨middle, earlier, _⟩ := Trace.split run
  obtain ⟨p, asked, delivered, asks⟩ := Run.asked earlier (by simpa using commanded)
  have ⟨topic, gatewayId, read, _, _, down, decoded, _⟩ := asks
  obtain ⟨first, last, whole⟩ := List.append_of_mem delivered
  obtain ⟨g, topic', started, read', matched⟩ := filtered first p asked last whole
  cases read.symm.trans read'
  have session : .started g ∈ before := by
    rw [whole]
    exact List.mem_append_left _ started
  obtain ⟨known, origin⟩ := Run.session earlier session
  have plainId : PlainId g := by
    rcases origin with rfl | ⟨data, remote, _, _, accepted⟩
    · exact plain
    · exact plainId_of_pullDataId accepted
  obtain rfl : frame.gatewayId = g := asks.own plainId read matched
  exact ⟨⟨p, asked, topic, delivered, read, matched, down, decoded⟩, session, known, origin⟩

theorem downlinks_for_own_gateway_one_frame :
    ∃ before, Ordered {} (codecsOf ownFrame) {} before ownFrame := by
  obtain ⟨before, bytes, s, filtered, run⟩ := ownFrame_run
  have plain : PlainId ({} : SemtechUdp.Conf).gatewayId := fun c member => by cases member
  exact ⟨before, downlinks_for_own_gateway plain filtered run List.mem_cons_self⟩

/-- In every run, the first item of a frame is sent to the packet forwarder no more often than
messages have asked for the frame, each on a topic that names its gateway. -/
theorem first_items_once (run : Run crates profile conf codecs mqtt labels s)
    (frame : Gw.DownlinkFrame) :
    s.backend.log.countP (sendsFirst frame) ≤ labels.countP (Occurrence.asksFor frame) ∧
      ∀ p asked, .delivered p asked ∈ labels →
        (.sendDownlinkFrame frame ∈ asked ↔
          Asks codecs mqtt.json p (.sendDownlinkFrame frame)) := by
  refine ⟨?_, fun p asked member => ?_⟩
  · calc s.backend.log.countP (sendsFirst frame)
        ≤ (labels.filterMap Occurrence.event?).countP (Pool.Event.accounts (mayBegin frame)) :=
          (Run.restricted run).countP_le (fun _ _ _ => sendsFirst_le frame) (Run.parts run)
      _ ≤ (labels.filterMap Occurrence.operation?).count (.sendDownlinkFrame frame) :=
          countP_mayBegin_le frame labels
      _ ≤ (labels.filterMap Occurrence.operation? ++ s.waiting).count
            (.sendDownlinkFrame frame) := by
          rw [List.count_append]
          exact Nat.le_add_right _ _
      _ = (labels.flatMap Occurrence.asked).count (.sendDownlinkFrame frame) :=
          (Run.balanced run).count_eq _
      _ ≤ labels.countP (Occurrence.asksFor frame) := Run.asked_once run frame
  · exact (Run.performs run member).2 _

theorem first_items_once_one_frame :
    ∃ (labels : List Occurrence) (s : Site), 0 < s.backend.log.countP (sendsFirst ownFrame) ∧
      s.backend.log.countP (sendsFirst ownFrame) ≤ labels.countP (Occurrence.asksFor ownFrame) ∧
      ∀ p asked, .delivered p asked ∈ labels →
        (.sendDownlinkFrame ownFrame ∈ asked ↔
          Asks (codecsOf ownFrame) false p (.sendDownlinkFrame ownFrame)) := by
  obtain ⟨before, bytes, s, _, run⟩ := ownFrame_run
  refine ⟨_, s, ?_, first_items_once run ownFrame⟩
  exact List.countP_pos_iff.mpr
    ⟨_, Run.logged run List.mem_cons_self, beq_self_eq_true ownFrame⟩

end

end MqttForwarder.Mqtt.Downlinks
