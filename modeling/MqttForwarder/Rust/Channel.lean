import Mathlib.Data.List.Induction

/-!
# Traces and bounded channels

A transition system with labelled steps has traces: the labels of its steps so
far, with the state that they led to.  A bounded channel takes a value as long
as it has room and gives the values back in order; that is a law about the
traces of every system with a channel in it.
-/

namespace MqttForwarder.Rust

/-! ## Traces -/

/-- What one more label adds to the labels of one kind. -/
theorem filterMap_snoc {κ ν : Type} (observe : κ → Option ν) (labels : List κ) (label : κ) :
    (labels ++ [label]).filterMap observe =
      labels.filterMap observe ++ (observe label).toList := by
  rw [List.filterMap_append]
  cases seen : observe label <;> simp [seen]

section

universe u v

variable {σ : Type u} {τ : Type v} {κ ν : Type}

/-- The labels of some steps from `init`, and the state after them. -/
inductive Trace (step : σ → κ → σ → Prop) (init : σ) : List κ → σ → Prop where
  | nil : Trace step init [] init
  | snoc {before : List κ} {s s' : σ} {label : κ} (trace : Trace step init before s)
      (taken : step s label s') : Trace step init (before ++ [label]) s'

variable {step : σ → κ → σ → Prop} {init s : σ} {labels : List κ}

theorem Trace.cons {middle : σ} {label : κ} (taken : step init label middle)
    (trace : Trace step middle labels s) : Trace step init (label :: labels) s := by
  induction trace with
  | nil => exact .snoc .nil taken
  | snoc _ next ih => exact .snoc ih next

theorem Trace.append {first second : List κ} {middle : σ} (begins : Trace step init first middle)
    (goes : Trace step middle second s) : Trace step init (first ++ second) s := by
  induction goes with
  | nil =>
      rw [List.append_nil]
      exact begins
  | snoc _ taken ih =>
      rw [← List.append_assoc]
      exact .snoc ih taken

/-- A trace can be taken apart anywhere. -/
theorem Trace.split {first second : List κ} (trace : Trace step init (first ++ second) s) :
    ∃ middle, Trace step init first middle ∧ Trace step middle second s := by
  induction second using List.reverseRecOn generalizing s with
  | nil =>
      rw [List.append_nil] at trace
      exact ⟨s, trace, .nil⟩
  | append_singleton second last ih =>
      rw [← List.append_assoc] at trace
      generalize whole : first ++ second ++ [last] = labels at trace
      cases trace with
      | nil => simp at whole
      | snoc earlier taken =>
          obtain ⟨rfl, same⟩ := List.append_inj' whole rfl
          cases same
          obtain ⟨middle, begins, goes⟩ := ih earlier
          exact ⟨middle, begins, .snoc goes taken⟩

theorem Trace.eq_of_nil (trace : Trace step init [] s) : s = init := by
  generalize empty : ([] : List κ) = labels at trace
  cases trace with
  | nil => rfl
  | snoc earlier taken => simp at empty

/-- The first step of a trace. -/
theorem Trace.uncons {label : κ} (trace : Trace step init (label :: labels) s) :
    ∃ middle, step init label middle ∧ Trace step middle labels s := by
  generalize whole : label :: labels = all at trace
  induction trace generalizing labels with
  | nil => cases whole
  | @snoc before s s' last earlier taken ih =>
      cases before with
      | nil =>
          cases whole
          obtain rfl := earlier.eq_of_nil
          exact ⟨s', taken, .nil⟩
      | cons first rest =>
          cases whole
          obtain ⟨middle, begins, goes⟩ := ih rfl
          exact ⟨middle, begins, .snoc goes taken⟩

/-- What holds at the beginning and is kept by every step holds after every trace. -/
theorem Trace.holds {I : List κ → σ → Prop} (start : I [] init)
    (keeps : ∀ before s label s', I before s → step s label s' → I (before ++ [label]) s')
    (trace : Trace step init labels s) : I labels s := by
  induction trace with
  | nil => exact start
  | snoc _ taken ih => exact keeps _ _ _ _ ih taken

/-- What a step establishes and every later step keeps holds after every trace with that step. -/
theorem Trace.since {I : List κ → σ → Prop} {before after : List κ} {label : κ}
    (trace : Trace step init (before ++ label :: after) s)
    (start : ∀ s s', step s label s' → I [] s')
    (keeps : ∀ before s label s', I before s → step s label s' → I (before ++ [label]) s') :
    I after s := by
  obtain ⟨middle, _, trace⟩ := trace.split
  obtain ⟨established, taken, rest⟩ := trace.uncons
  exact rest.holds (start middle established taken) keeps

/-- A part of the system that some of the labels are about has traces of its own. -/
theorem Trace.project {part : τ → ν → τ → Prop} (view : σ → τ) (observe : κ → Option ν)
    (silent : ∀ s label s', step s label s' → observe label = none → view s' = view s)
    (observed : ∀ s label s' seen, step s label s' → observe label = some seen →
      part (view s) seen (view s'))
    (trace : Trace step init labels s) :
    Trace part (view init) (labels.filterMap observe) (view s) := by
  induction trace with
  | nil => exact .nil
  | @snoc before s s' label _ taken ih =>
      rw [filterMap_snoc]
      cases seen : observe label with
      | none =>
          rw [Option.toList_none, List.append_nil, silent s label s' taken seen]
          exact ih
      | some own => exact ih.snoc (observed s label s' own taken seen)

/-- A trace of a part is a trace of the system in which nothing else happens. -/
theorem Trace.embed {whole : τ → ν → τ → Prop} (put : σ → τ) (tell : κ → ν)
    (steps : ∀ s label s', step s label s' → whole (put s) (tell label) (put s'))
    (trace : Trace step init labels s) : Trace whole (put init) (labels.map tell) (put s) := by
  induction trace with
  | nil => exact .nil
  | snoc _ taken ih =>
      rw [List.map_append]
      exact ih.snoc (steps _ _ _ taken)

end

/-! ## Queues -/

/-- One use of a queue. -/
inductive Use (α : Type) where
  | sent (value : α)
  | received (value : α)
  deriving DecidableEq

namespace Use

variable {α : Type}

def sent? : Use α → Option α
  | sent value => some value
  | received _ => none

def received? : Use α → Option α
  | sent _ => none
  | received value => some value

/-- A queue takes values at its end and gives them from its front. -/
inductive Step : List α → Use α → List α → Prop where
  | sent {queue : List α} (value : α) : Step queue (.sent value) (queue ++ [value])
  | received {queue : List α} (value : α) : Step (value :: queue) (.received value) queue

/-- What has been received, and then what is still queued, is what has been sent. -/
theorem fifo {uses : List (Use α)} {queue : List α} (trace : Trace Step [] uses queue) :
    uses.filterMap received? ++ queue = uses.filterMap sent? := by
  induction trace with
  | nil => rfl
  | snoc _ taken ih =>
      cases taken with
      | sent value => simp [← ih, sent?, received?]
      | received value => simp [← ih, sent?, received?]

end Use

/-! ## Bounded channels -/

/-- `tokio::sync::mpsc::channel(capacity)`; without capacity it panics. -/
@[ext] structure Mpsc (α : Type) where
  capacity : Nat
  queue : List α
  positive : 0 < capacity
  bounded : queue.length ≤ capacity

namespace Mpsc

variable {α : Type} {channel channel' : Mpsc α} {value : α}

def empty (capacity : Nat) (positive : 0 < capacity) : Mpsc α where
  capacity
  queue := []
  positive
  bounded := Nat.zero_le capacity

def trySend (channel : Mpsc α) (value : α) : Option (Mpsc α) :=
  if room : channel.queue.length < channel.capacity then
    some { channel with
      queue := channel.queue ++ [value]
      bounded := by
        rw [List.length_append]
        exact room }
  else none

/-- `recv`, as far as it does not wait. -/
def recv (channel : Mpsc α) : Option (α × Mpsc α) :=
  match front : channel.queue with
  | [] => none
  | value :: rest =>
      some (value, { channel with
        queue := rest
        bounded := by
          have bounded := channel.bounded
          rw [front, List.length_cons] at bounded
          exact Nat.le_of_succ_le bounded })

theorem queue_of_trySend (sent : channel.trySend value = some channel') :
    channel'.queue = channel.queue ++ [value] := by
  unfold trySend at sent
  split at sent
  · cases sent
    rfl
  · cases sent

theorem capacity_of_trySend (sent : channel.trySend value = some channel') :
    channel'.capacity = channel.capacity := by
  unfold trySend at sent
  split at sent
  · cases sent
    rfl
  · cases sent

theorem queue_of_recv (received : channel.recv = some (value, channel')) :
    channel.queue = value :: channel'.queue := by
  unfold recv at received
  split at received
  · cases received
  · next front =>
      cases received
      exact front

theorem capacity_of_recv (received : channel.recv = some (value, channel')) :
    channel'.capacity = channel.capacity := by
  unfold recv at received
  split at received
  · cases received
  · cases received
    rfl

/-- A channel with room takes a value. -/
theorem trySend_of_room (value : α) (room : channel.queue.length < channel.capacity) :
    ∃ after, channel.trySend value = some after ∧ after.capacity = channel.capacity := by
  unfold trySend
  rw [dif_pos room]
  exact ⟨_, rfl, rfl⟩

/-- A channel that is not empty gives its front. -/
theorem recv_of_queue {rest : List α} (front : channel.queue = value :: rest) :
    ∃ after, channel.recv = some (value, after) ∧ after.capacity = channel.capacity := by
  unfold recv
  split
  · next empty => simp [empty] at front
  · next first others same =>
      obtain ⟨rfl, rfl⟩ := List.cons.inj (same.symm.trans front)
      exact ⟨_, rfl, rfl⟩

/-- A value is refused only by a full channel. -/
theorem queue_of_refused (refused : channel.trySend value = none) :
    channel.queue.length = channel.capacity := by
  unfold trySend at refused
  split at refused
  · cases refused
  · next full => exact Nat.le_antisymm channel.bounded (Nat.le_of_not_lt full)

end Mpsc

end MqttForwarder.Rust
