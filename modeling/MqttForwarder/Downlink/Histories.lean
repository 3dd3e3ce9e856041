import MqttForwarder.Downlink.Network
import MqttForwarder.Rust.Channel

/-!
# Histories of nets

A history of a net tells what happens in a run in which nothing is lost or
duplicated: each action, with the request that its thread serves and what the
environment answers to it, each request that is taken, and each TX_ACK.  Some
events of a history may be the history of another net.
-/

namespace MqttForwarder.SemtechUdp

open MqttForwarder.Rust

/-- A step of a net, as it can be told afterwards. -/
inductive Net.Event where
  /-- An action of thread `i` for the request that it serves. -/
  | acted (i : Thread) (serving : Option Request) (e : Env)
  | took (i : Thread) (r : Request)
  /-- The packet forwarder has given a TX_ACK. -/
  | answered (answer : Answer)
  | received (answer : Answer) (remote : SocketAddr)

/-- The rules, in an environment that always gives the same answer. -/
def Rules.always (rules : Rules) (e : Env) : Rules :=
  { rules with allows := fun net e' => rules.allows net e' ∧ e' = e }

namespace Net

/-- The time of an action. -/
def Event.now? : Event → Option Nat
  | acted _ _ e => some e.now
  | _ => none

/-- The clock does not run backwards. -/
def Clocked (history : List Event) : Prop :=
  (history.filterMap Event.now?).Pairwise (· ≤ ·)

section

variable (crates : Crates) (profile : Profile) (conf : Conf) (token : UInt16) (rules : Rules)

/-- A step without loss and duplication, with the event that tells it. -/
inductive Move : Net → Event → Net → Prop where
  | acted {net : Net} {β : Type} (i : Thread) (action : Env → State → Reply β State Effect)
      (next : β → Task Unit) (e : Env) (current : net.pool.threads i = .act action next)
      (allowed : rules.allows net e) :
      Move net (.acted i (net.pool.job i) e) (net.exec token i action next e)
  | commanded {net : Net} (n : Nat) (g : Gw.DownlinkFrame)
      (free : (net.pool.threads (.command n)).Finished) (own : tokenFor g = token)
      (once : g ∉ net.commanded) (allowed : rules.commands g) :
      Move net (.took (.command n) (.command g)) { net.start (.command n) (.command g)
        (program crates profile conf (.command n) (.command g)) with
          commanded := net.commanded ++ [g] }
  | took {net : Net} (i : Thread) (r : Request) (free : (net.pool.threads i).Finished)
      (admitted : admits (fun _ => True) i r) (stray : Stray crates token r)
      (allowed : rules.others r) :
      Move net (.took i r) (net.start i r (program crates profile conf i r))
  | answered {net : Net} {before after : List Shot} (answer : Answer)
      (waiting : net.pending = before ++ answer.shot :: after)
      (answers : Answers crates token answer.data answer.status)
      (allowed : rules.gives answer) :
      Move net (.answered answer) { net with
        pending := before ++ after
        inFlight := net.inFlight ++ [answer]
        produced := net.produced ++ [answer] }
  | received {net : Net} {before after : List Answer} (answer : Answer) (remote : SocketAddr)
      (arrives : net.inFlight = before ++ answer :: after)
      (free : (net.pool.threads .udp).Finished) :
      Move net (.received answer remote) { net.start .udp (.datagram answer.data remote)
        (program crates profile conf .udp (.datagram answer.data remote)) with
          inFlight := before ++ after }

/-- The events of a run, and the net after them. -/
abbrev History (start : Net) : List Event → Net → Prop :=
  Trace (Move crates profile conf token rules) start

end

section

variable {crates : Crates} {profile : Profile} {conf : Conf} {token : UInt16} {rules : Rules}
  {start net net' : Net} {event : Event} {history : List Event}

theorem Move.step (move : Move crates profile conf token rules net event net') :
    Step crates profile conf token rules net net' := by
  cases move with
  | acted i action next e current allowed => exact .exec i action next e current allowed
  | commanded n g free own once allowed => exact .command n g free own once allowed
  | took i r free admitted stray allowed => exact .other i r free admitted stray allowed
  | answered answer waiting answers allowed => exact .answer answer waiting answers allowed
  | received answer remote arrives free => exact .deliver answer remote arrives free

/-- What a history tells has been a run. -/
theorem History.run (told : History crates profile conf token rules start history net) :
    Run crates profile conf token rules start net := by
  induction told with
  | nil => exact .refl
  | snoc _ move ih => exact ih.tail move.step

/-- A run in which the environment always gives the same answer has a history, and time stands
still in it. -/
theorem Run.exists_history {e : Env} (lossless : ¬ rules.loses) (single : ¬ rules.duplicates)
    (run : Run crates profile conf token (rules.always e) start net) :
    ∃ history, History crates profile conf token rules start history net ∧
      ∀ now ∈ history.filterMap Event.now?, now = e.now := by
  induction run with
  | refl => exact ⟨[], .nil, by simp⟩
  | @tail middle net' _ step ih =>
      obtain ⟨history, told, still⟩ := ih
      obtain ⟨event, move, now⟩ : ∃ event,
          Move crates profile conf token rules middle event net' ∧
            ∀ now ∈ event.now?, now = e.now := by
        cases step with
        | exec i action next e' current allowed =>
            obtain ⟨allowed, rfl⟩ := allowed
            refine ⟨_, .acted i action next e' current allowed, fun _ now => ?_⟩
            exact (Option.some.inj now).symm
        | command n g free own once allowed =>
            exact ⟨_, .commanded n g free own once allowed, fun _ now => by cases now⟩
        | other i r free admitted stray allowed =>
            exact ⟨_, .took i r free admitted stray allowed, fun _ now => by cases now⟩
        | answer answer waiting answers allowed =>
            exact ⟨_, .answered answer waiting answers allowed, fun _ now => by cases now⟩
        | deliver answer remote arrives free =>
            exact ⟨_, .received answer remote arrives free, fun _ now => by cases now⟩
        | losePullResp shot waiting allowed => exact absurd allowed lossless
        | loseTxAck answer arrives allowed => exact absurd allowed lossless
        | duplicate answer arrives allowed => exact absurd allowed single
      refine ⟨history ++ [event], told.snoc move, fun time member => ?_⟩
      rw [List.filterMap_append, List.mem_append] at member
      rcases member with earlier | here
      · exact still time earlier
      · obtain ⟨_, same, found⟩ := List.mem_filterMap.mp here
        rw [List.mem_singleton.mp same] at found
        exact now time found

/-- The clock goes on from one of the times before. -/
theorem clocked_snoc : Clocked (history ++ [event]) ↔ Clocked history ∧
    ∀ earlier ∈ history.filterMap Event.now?, ∀ time ∈ event.now?, earlier ≤ time := by
  rw [Clocked, filterMap_snoc, List.pairwise_append]
  cases event.now? with
  | none => simp [Clocked]
  | some time => simp [Clocked]

theorem clocked_of_still {now : Nat} (still : ∀ time ∈ history.filterMap Event.now?, time = now) :
    Clocked history :=
  List.pairwise_of_forall_mem_list fun first here second there => by
    rw [still first here, still second there]

end

end Net

end MqttForwarder.SemtechUdp
