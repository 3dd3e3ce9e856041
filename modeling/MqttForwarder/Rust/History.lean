import Mathlib.Algebra.BigOperators.Group.Finset.Piecewise
import Mathlib.Algebra.Order.BigOperators.Group.Finset
import Mathlib.Data.List.Forall2
import MqttForwarder.Rust.Channel
import MqttForwarder.Rust.Pool

/-!
# Histories of pools

A history of a pool tells which thread took which request, and the effects of
each action.  A thread serves one request after the other, so its effects are
those of its requests, one part for each of them in their order.  The part of
the request that it still serves is the beginning of what it will be.
-/

namespace MqttForwarder.Rust

/-! ## Parts of a program -/

namespace Prog

variable {ε σ ο α : Type}

/-- A program that upholds its part can be brought to an end from any moment on. -/
theorem Upholds.completes {E : ε → Prop} {I : List ο → σ → Prop} {G : ε → σ → σ → List ο → Prop}
    {Q : List ο → Outcome α → Prop} {p : Prog ε σ ο α} {os log : List ο} {s : σ}
    (upholds : Upholds E I G Q os p) (answers : ∃ e, E e) (holds : I log s) :
    ∃ rest result, Q (os ++ rest) result := by
  induction p generalizing os log s with
  | done result => exact ⟨[], result, by rwa [List.append_nil]⟩
  | act action next ih =>
      obtain ⟨e, answer⟩ := answers
      obtain ⟨keeps, _, later⟩ := upholds e log s answer holds
      obtain ⟨rest, result, ended⟩ := ih _ later keeps
      exact ⟨(action e s).effects ++ rest, result, by rwa [← List.append_assoc]⟩

/-- What every effect of the actions satisfies, all effects of the program satisfy. -/
theorem Guarantees.each {E : ε → Prop} {S : ο → Prop} {p : Prog ε σ ο α}
    (guarantees : Guarantees (fun _ _ _ os => ∀ o ∈ os, S o) p) {os : List ο}
    (before : ∀ o ∈ os, S o) :
    Upholds E (fun _ _ => True) (fun _ _ _ _ => True) (fun os' _ => ∀ o ∈ os', S o) os p := by
  induction p generalizing os with
  | done result => exact before
  | act action next ih =>
      intro e _ s _ _
      obtain ⟨now, later⟩ := guarantees e s
      refine ⟨trivial, trivial, ih _ later fun o member => ?_⟩
      exact (List.mem_append.mp member).elim (before o) (now o)

/-- What a program upholds under any interference, it upholds while an invariant is kept that its
own actions keep. -/
theorem Guarantees.keeping {E : ε → Prop} {I : List ο → σ → Prop} {G G' : ε → σ → σ → List ο → Prop}
    {Q : List ο → Outcome α → Prop} {p : Prog ε σ ο α} {os : List ο} (guarantees : Guarantees G p)
    (keeps : ∀ e s s' os log, I log s → G e s s' os → I (log ++ os) s')
    (upholds : Upholds E (fun _ _ => True) G' Q os p) : Upholds E I G Q os p :=
  (guarantees.strengthen upholds).restrict (fun _ => id) (fun _ _ _ => trivial)
    fun e s s' os log holds _ action => keeps e s s' os log holds action

/-! ## Programs amid other steps -/

/-- The program runs to its end, with environment answers that satisfy `E`, and others take steps
before its actions.  The list tells the order: an action of the program, or the label of a step. -/
inductive Amid {κ : Type} (E : ε → Prop) (others : σ → κ → σ → Prop) :
    Prog ε σ ο α → σ → List (Option κ) → σ → Outcome α → Prop where
  | done {result : Outcome α} {s : σ} : Amid E others (done result) s [] s result
  | own {β : Type} {action : ε → σ → Reply β σ ο} {next : β → Prog ε σ ο α} {s s' : σ}
      {during : List (Option κ)} {r : Outcome α} (e : ε) (answer : E e)
      (rest : Amid E others (next (action e s).value) (action e s).state during s' r) :
      Amid E others (act action next) s (none :: during) s' r
  | other {β : Type} {action : ε → σ → Reply β σ ο} {next : β → Prog ε σ ο α} {s middle s' : σ}
      {label : κ} {during : List (Option κ)} {r : Outcome α} (taken : others s label middle)
      (rest : Amid E others (act action next) middle during s' r) :
      Amid E others (act action next) s (some label :: during) s' r

/-- The first action of a program comes after some steps of the others. -/
theorem Amid.act {κ β : Type} {E : ε → Prop} {others : σ → κ → σ → Prop}
    {action : ε → σ → Reply β σ ο} {next : β → Prog ε σ ο α} {s s' : σ}
    {during : List (Option κ)} {r : Outcome α}
    (amid : Amid E others (.act action next) s during s' r) :
    ∃ labels middle e later, during = labels.map some ++ none :: later ∧
      Trace others s labels middle ∧ E e ∧
      Amid E others (next (action e middle).value) (action e middle).state later s' r := by
  generalize whole : Prog.act action next = p at amid
  induction amid with
  | done => cases whole
  | own e answer rest =>
      cases whole
      exact ⟨[], _, e, _, rfl, .nil, answer, rest⟩
  | other taken rest ih =>
      obtain ⟨labels, middle, e, later, rfl, trace, answer, goes⟩ := ih whole
      exact ⟨_ :: labels, middle, e, later, rfl, .cons taken trace, answer, goes⟩

/-! ## Effects under an invariant of the state -/

/-- While the state satisfies `I`, the actions of the program keep it so and all of their effects
satisfy `S`. -/
def Shows (I : σ → Prop) (S : ο → Prop) (p : Prog ε σ ο α) : Prop :=
  ∀ before, p.Upholds (fun _ => True) (fun _ s => I s) (fun _ _ _ os => ∀ o ∈ os, S o)
    (fun _ _ => True) before

section

variable {β : Type} {I : σ → Prop} {S : ο → Prop} {rest : β → Prog ε σ ο α}

theorem shows_done (result : Outcome α) : (done result : Prog ε σ ο α).Shows I S :=
  fun _ => trivial

theorem shows_act {action : ε → σ → Reply β σ ο}
    (now : ∀ e s, I s → I (action e s).state ∧ (∀ o ∈ (action e s).effects, S o) ∧
      (rest (action e s).value).Shows I S) : (act action rest).Shows I S := by
  intro before e log s _ holds
  obtain ⟨keeps, effects, later⟩ := now e s holds
  exact ⟨keeps, effects, later _⟩

theorem Guarantees.shows {p : Prog ε σ ο α}
    (guarantees : p.Guarantees fun _ s s' os => (I s → I s') ∧ ∀ o ∈ os, S o) : p.Shows I S :=
  guarantees.upholds fun _ _ _ _ _ _ action holds => ⟨action.1 holds, action.2⟩

theorem shows_bind {p : Prog ε σ ο β} (first : p.Shows I S)
    (later : ∀ value, (rest value).Shows I S) : (p >>= rest).Shows I S := by
  refine fun before => upholds_bind.mpr ((first before).mono fun os result _ => ?_)
  cases result with
  | ok value => exact later value os
  | err message => trivial
  | panic cause => trivial

theorem shows_lift {result : Outcome β} (later : ∀ value, result = .ok value →
    (rest value).Shows I S) : (done result >>= rest).Shows I S := by
  intro before
  cases result with
  | ok value => exact later value rfl before
  | err message => trivial
  | panic cause => trivial

end

end Prog

namespace Pool

/-! ## Events -/

/-- A step of a pool, as it can be told afterwards. -/
inductive Event (ι ρ ο : Type) where
  /-- Thread `i` has taken the request `r`. -/
  | took (i : ι) (r : ρ)
  /-- An action of thread `i` has had the effects `os`. -/
  | acted (i : ι) (os : List ο)

variable {ι ρ ε σ ο : Type} [DecidableEq ι]

namespace Event

/-- The request, if thread `i` has taken it. -/
def request? (i : ι) : Event ι ρ ο → Option ρ
  | took j r => if j = i then some r else none
  | acted _ _ => none

/-- The effects, if thread `i` has had them. -/
def effectsOf (i : ι) : Event ι ρ ο → List ο
  | took _ _ => []
  | acted j os => if j = i then os else []

omit [DecidableEq ι] in
/-- The effects, whichever thread has had them. -/
def effects : Event ι ρ ο → List ο
  | took _ _ => []
  | acted _ os => os

omit [DecidableEq ι] in
def thread : Event ι ρ ο → ι
  | took i _ => i
  | acted i _ => i

omit [DecidableEq ι] in
/-- Whether a request has been taken that accounts for an effect. -/
def accounts (w : ι → ρ → Bool) : Event ι ρ ο → Bool
  | took i r => w i r
  | acted _ _ => false

end Event

/-- The requests that thread `i` has taken. -/
def requests (i : ι) (history : List (Event ι ρ ο)) : List ρ :=
  history.filterMap (Event.request? i)

/-- The effects that thread `i` has had. -/
def effectsOf (i : ι) (history : List (Event ι ρ ο)) : List ο :=
  history.flatMap (Event.effectsOf i)

/-- A step of the pool with the event that tells it. -/
inductive Move (program : ι → ρ → Prog ε σ ο Unit) (admits : ι → ρ → Prop) (E : ε → Prop) :
    Pool ι ρ ε σ ο → Event ι ρ ο → Pool ι ρ ε σ ο → Prop where
  | took {pool : Pool ι ρ ε σ ο} (i : ι) (r : ρ) (free : (pool.threads i).Finished)
      (admitted : admits i r) :
      Move program admits E pool (.took i r) (pool.start i r (program i r))
  | acted {pool : Pool ι ρ ε σ ο} {β : Type} (i : ι) (action : ε → σ → Reply β σ ο)
      (next : β → Prog ε σ ο Unit) (e : ε) (current : pool.threads i = .act action next)
      (answer : E e) :
      Move program admits E pool (.acted i (action e pool.state).effects)
        (pool.exec i action next e)

/-- The events of a run of a pool that began idle, and the pool after them. -/
abbrev History (program : ι → ρ → Prog ε σ ο Unit) (admits : ι → ρ → Prop) (E : ε → Prop)
    (init : σ) : List (Event ι ρ ο) → Pool ι ρ ε σ ο → Prop :=
  Trace (Move program admits E) (idle init)

section

variable {program : ι → ρ → Prog ε σ ο Unit} {admits : ι → ρ → Prop} {E : ε → Prop} {init : σ}
  {history : List (Event ι ρ ο)} {pool pool' : Pool ι ρ ε σ ο} {event : Event ι ρ ο}

@[simp] theorem start_trail_self {i : ι} {r : ρ} {p : Prog ε σ ο Unit} :
    (pool.start i r p).trail i = [] := Function.update_self ..

theorem start_trail_of_ne {i j : ι} {r : ρ} {p : Prog ε σ ο Unit} (other : j ≠ i) :
    (pool.start i r p).trail j = pool.trail j := Function.update_of_ne other ..

@[simp] theorem exec_trail_self {β : Type} {i : ι} {action : ε → σ → Reply β σ ο}
    {next : β → Prog ε σ ο Unit} {e : ε} :
    (pool.exec i action next e).trail i = pool.trail i ++ (action e pool.state).effects :=
  Function.update_self ..

theorem exec_trail_of_ne {β : Type} {i j : ι} {action : ε → σ → Reply β σ ο}
    {next : β → Prog ε σ ο Unit} {e : ε} (other : j ≠ i) :
    (pool.exec i action next e).trail j = pool.trail j := Function.update_of_ne other ..

@[simp] theorem requests_snoc (i : ι) (history : List (Event ι ρ ο)) (event : Event ι ρ ο) :
    requests i (history ++ [event]) = requests i history ++ (event.request? i).toList :=
  filterMap_snoc ..

@[simp] theorem effectsOf_snoc (i : ι) (history : List (Event ι ρ ο)) (event : Event ι ρ ο) :
    effectsOf i (history ++ [event]) = effectsOf i history ++ event.effectsOf i := by
  simp [effectsOf]

theorem Move.step (move : Move program admits E pool event pool') :
    Step program admits E pool pool' := by
  cases move with
  | took i r free admitted => exact .start i r free admitted
  | acted i action next e current answer => exact .exec i action next e current answer

theorem Move.log (move : Move program admits E pool event pool') :
    pool'.log = pool.log ++ event.effects := by
  cases move with
  | took i r free admitted => exact (List.append_nil _).symm
  | acted i action next e current answer => rfl

theorem History.run (told : History program admits E init history pool) :
    Run program admits E (idle init) pool := by
  induction told with
  | nil => exact .refl
  | snoc _ move ih => exact ih.tail move.step

theorem History.admitted (told : History program admits E init history pool) {i : ι} {r : ρ}
    (requested : .took i r ∈ history) : admits i r := by
  induction told with
  | nil => cases requested
  | snoc _ move ih =>
      rcases List.mem_append.mp requested with earlier | now
      · exact ih earlier
      · cases List.mem_singleton.mp now
        cases move with
        | took i r free admitted => exact admitted

/-- A history goes on with the next action of a thread, if it has one left. -/
theorem History.advance (told : History program admits E init history pool) (i : ι) {e : ε}
    (answer : E e) : ∃ events, History program admits E init (history ++ events)
      (pool.advance i e) := by
  unfold Pool.advance
  split
  · next action next current => exact ⟨_, told.snoc (.acted i action next e current answer)⟩
  · exact ⟨[], (List.append_nil history).symm ▸ told⟩

/-- What a thread adds to its trail when it goes on is what its action does. -/
theorem History.act (told : History program admits E init history pool) (i : ι) {e : ε}
    (answer : E e) {os : List ο} (acts : os ≠ [])
    (trail : (pool.advance i e).trail i = pool.trail i ++ os) :
    History program admits E init (history ++ [.acted i os]) (pool.advance i e) := by
  revert trail
  unfold Pool.advance
  split
  · next action next current =>
      intro trail
      rw [exec_trail_self] at trail
      exact List.append_cancel_left trail ▸ told.snoc (.acted i action next e current answer)
  · intro trail
    exact absurd (List.self_eq_append_right.mp trail) acts

/-- A history is one of a pool that admits no more than what has been requested in it. -/
theorem History.restrict {admits' : ι → ρ → Prop}
    (told : History program admits E init history pool)
    (requested : ∀ i r, .took i r ∈ history → admits' i r) :
    History program admits' E init history pool := by
  induction told with
  | nil => exact .nil
  | snoc _ move ih =>
      have before := ih fun i r member => requested i r (List.mem_append_left _ member)
      cases move with
      | took i r free admitted =>
          exact before.snoc (.took i r free (requested i r (by simp)))
      | acted i action next e current answer =>
          exact before.snoc (.acted i action next e current answer)

/-- The request that a thread serves is the last one that it has taken. -/
theorem History.job (told : History program admits E init history pool) (i : ι) :
    pool.job i = (requests i history).getLast? := by
  induction told with
  | nil => rfl
  | snoc _ move ih =>
      cases move with
      | took j r free admitted =>
          by_cases same : j = i
          · simp [Pool.start, Event.request?, same]
          · simp [Pool.start, Event.request?, same, Function.update_of_ne (Ne.symm same), ih]
      | acted j action next e current answer => simpa [Pool.exec, Event.request?] using ih

/-- The log has the effects of all events, in their order. -/
theorem History.log (told : History program admits E init history pool) :
    pool.log = history.flatMap Event.effects := by
  induction told with
  | nil => rfl
  | snoc _ move ih =>
      rw [move.log, ih, List.flatMap_append]
      simp

theorem mem_effectsOf_of_acted {i : ι} {os : List ο} (told : .acted i os ∈ history) {o : ο}
    (effect : o ∈ os) : o ∈ effectsOf i history := by
  refine List.mem_flatMap.mpr ⟨_, told, ?_⟩
  rw [Event.effectsOf, if_pos rfl]
  exact effect

/-- An effect in the log is an effect of some thread. -/
theorem History.mem_effectsOf (told : History program admits E init history pool) {o : ο}
    (member : o ∈ pool.log) : ∃ i, o ∈ effectsOf i history := by
  rw [told.log] at member
  obtain ⟨event, inside, effect⟩ := List.mem_flatMap.mp member
  cases event with
  | took i r => cases effect
  | acted i os => exact ⟨i, mem_effectsOf_of_acted inside effect⟩

/-- What only thread `i` does to be observed, is observed in its effects. -/
theorem filterMap_effectsOf {ν : Type} {observe : ο → Option ν} {i : ι}
    (others : ∀ j os, .acted j os ∈ history → j ≠ i → os.filterMap observe = []) :
    (history.flatMap Event.effects).filterMap observe =
      (effectsOf i history).filterMap observe := by
  induction history with
  | nil => rfl
  | cons event rest ih =>
      have later := ih fun j os member => others j os (List.mem_cons_of_mem _ member)
      rw [effectsOf, List.flatMap_cons, List.flatMap_cons, List.filterMap_append,
        List.filterMap_append, later]
      congr 1
      cases event with
      | took j r => rfl
      | acted j os =>
          by_cases own : j = i
          · rw [Event.effects, Event.effectsOf, if_pos own]
          · rw [Event.effects, Event.effectsOf, if_neg own,
              others j os List.mem_cons_self own]
            rfl

/-! ## One part for each request -/

/-- The effects of thread `i` are parts for its requests so far, the last of which is its trail. -/
def Parted (P : ι → ρ → List ο → Prop) (i : ι) (history : List (Event ι ρ ο))
    (pool : Pool ι ρ ε σ ο) : Prop :=
  match pool.job i with
  | none => requests i history = [] ∧ effectsOf i history = []
  | some r => ∃ past parts, requests i history = past ++ [r] ∧ List.Forall₂ (P i) past parts ∧
      effectsOf i history = parts.flatten ++ pool.trail i

variable {P : ι → ρ → List ο → Prop}

/-- What thread `i` has done for its present request is its last part. -/
theorem Parted.parts {i : ι} (parted : Parted P i history pool)
    (now : ∀ r, pool.job i = some r → P i r (pool.trail i)) :
    ∃ parts, List.Forall₂ (P i) (requests i history) parts ∧
      effectsOf i history = parts.flatten := by
  unfold Parted at parted
  cases job : pool.job i with
  | none =>
      rw [job] at parted
      exact ⟨[], by rw [parted.1]; exact .nil, parted.2⟩
  | some r =>
      rw [job] at parted
      obtain ⟨past, parts, taken, each, effects⟩ := parted
      refine ⟨parts ++ [pool.trail i], ?_, by simp [effects]⟩
      rw [taken]
      exact List.rel_append each (.cons (now r job) .nil)

theorem Parted.took {i j : ι} {r : ρ} (parted : Parted P i history pool)
    (now : j = i → ∀ r, pool.job i = some r → P i r (pool.trail i)) :
    Parted P i (history ++ [.took j r]) (pool.start j r (program j r)) := by
  by_cases same : j = i
  · subst same
    obtain ⟨parts, each, effects⟩ := parted.parts (now rfl)
    simp only [Parted, Pool.start, Function.update_self, requests_snoc, effectsOf_snoc,
      Event.request?, Event.effectsOf, if_true]
    exact ⟨_, parts, rfl, each, by rw [effects]⟩
  · simpa [Parted, Pool.start, Function.update_of_ne (Ne.symm same), Event.request?,
      Event.effectsOf, same] using parted

theorem Parted.acted {β : Type} {i j : ι} {action : ε → σ → Reply β σ ο}
    {next : β → Prog ε σ ο Unit} {e : ε} (parted : Parted P i history pool)
    (serving : ∃ r, pool.job j = some r) :
    Parted P i (history ++ [.acted j (action e pool.state).effects])
      (pool.exec j action next e) := by
  by_cases same : j = i
  · subst same
    obtain ⟨r, job⟩ := serving
    simp only [Parted, Pool.exec, job, requests_snoc, effectsOf_snoc, Event.request?,
      Event.effectsOf, if_true, Function.update_self] at parted ⊢
    obtain ⟨past, parts, taken, each, effects⟩ := parted
    exact ⟨past, parts, by simpa using taken, each, by rw [effects, List.append_assoc]⟩
  · simpa [Parted, Pool.exec, Function.update_of_ne (Ne.symm same), Event.request?,
      Event.effectsOf, same] using parted

omit [DecidableEq ι] in
/-- A part is that of some request. -/
theorem request_of_part {i : ι} {taken : List ρ} {parts : List (List ο)}
    (each : List.Forall₂ (P i) taken parts) {part : List ο} (member : part ∈ parts) :
    ∃ r ∈ taken, P i r part := by
  induction each with
  | nil => cases member
  | @cons r first taken parts now _ ih =>
      rcases List.mem_cons.mp member with rfl | later
      · exact ⟨r, List.mem_cons_self, now⟩
      · obtain ⟨q, inside, own⟩ := ih later
        exact ⟨q, List.mem_cons_of_mem _ inside, own⟩

theorem took_of_mem_requests {i : ι} {r : ρ} (member : r ∈ requests i history) :
    .took i r ∈ history := by
  obtain ⟨event, told, same⟩ := List.mem_filterMap.mp member
  cases event with
  | took j q =>
      rw [Event.request?] at same
      split at same
      · next own =>
          cases same
          exact own ▸ told
      · cases same
  | acted j os => cases same

omit [DecidableEq ι] in
/-- What is so of every request that has been served is so of what has been done for it so far. -/
theorem Sound.trail {I : List ο → σ → Prop} {G : ι → ε → σ → σ → List ο → Prop}
    (sound : Sound E I G (fun i r os _ => P i r os) pool)
    (shorter : ∀ i r first second, P i r (first ++ second) → P i r first) (answers : ∃ e, E e)
    {i : ι} {r : ρ} (job : pool.job i = some r) : P i r (pool.trail i) := by
  obtain ⟨rest, _, ended⟩ := (sound.threads i r job).completes answers sound.holds
  exact shorter i r _ rest ended

/-- If every program does at any moment what `P` says of its request, the effects of a thread are
such parts, one for each request that it has taken. -/
theorem History.parts {I : List ο → σ → Prop} {G : ι → ε → σ → σ → List ο → Prop}
    (serves : ∀ i r, admits i r → (program i r).Upholds E I (G i) (fun os _ => P i r os) [])
    (shorter : ∀ i r first second, P i r (first ++ second) → P i r first) (answers : ∃ e, E e)
    (holds : I [] init) (told : History program admits E init history pool) (i : ι) :
    ∃ parts, List.Forall₂ (P i) (requests i history) parts ∧
      effectsOf i history = parts.flatten := by
  have both : Sound E I G (fun i r os _ => P i r os) pool ∧ Parted P i history pool := by
    induction told with
    | nil => exact ⟨sound_idle holds, rfl, rfl⟩
    | snoc _ move ih =>
        obtain ⟨sound, parted⟩ := ih
        refine ⟨sound.step serves move.step, ?_⟩
        cases move with
        | took j r free admitted =>
            exact parted.took fun _ r job => sound.trail shorter answers job
        | acted j action next e current answer =>
            obtain ⟨r, job, _⟩ := sound.serving current
            exact parted.acted ⟨r, job⟩
  exact both.2.parts fun r job => both.1.trail shorter answers job

omit [DecidableEq ι] in
/-- A thread that has returned has ended its request. -/
theorem Sound.ended {I : List ο → σ → Prop} {G : ι → ε → σ → σ → List ο → Prop}
    {Q : ι → ρ → List ο → Outcome Unit → Prop} (sound : Sound E I G Q pool) {i : ι} {r : ρ}
    (job : pool.job i = some r) {result : Outcome Unit} (done : pool.threads i = .done result) :
    Q i r (pool.trail i) result := by
  have ended := sound.threads i r job
  rwa [done] at ended

theorem History.sound {I : List ο → σ → Prop} {G : ι → ε → σ → σ → List ο → Prop}
    {Q : ι → ρ → List ο → Outcome Unit → Prop}
    (serves : ∀ i r, admits i r → (program i r).Upholds E I (G i) (Q i r) []) (holds : I [] init)
    (told : History program admits E init history pool) (i : ι) :
    Sound E I G Q pool ∧ Parted (fun i r os => ∃ result, Q i r os result) i history pool := by
  induction told with
  | nil => exact ⟨sound_idle holds, rfl, rfl⟩
  | snoc _ move ih =>
      obtain ⟨sound, parted⟩ := ih
      refine ⟨sound.step serves move.step, ?_⟩
      cases move with
      | took j r free admitted =>
          refine parted.took fun same q job => ?_
          obtain ⟨result, done⟩ := free.returned
          exact ⟨result, sound.ended job (same ▸ done)⟩
      | acted j action next e current answer =>
          obtain ⟨r, job, _⟩ := sound.serving current
          exact parted.acted ⟨r, job⟩

/-- While a thread is free, its effects are parts that its requests have ended with. -/
theorem History.completed {I : List ο → σ → Prop} {G : ι → ε → σ → σ → List ο → Prop}
    {Q : ι → ρ → List ο → Outcome Unit → Prop}
    (serves : ∀ i r, admits i r → (program i r).Upholds E I (G i) (Q i r) []) (holds : I [] init)
    (told : History program admits E init history pool) {i : ι} {result : Outcome Unit}
    (done : pool.threads i = .done result) :
    ∃ parts, List.Forall₂ (fun r os => ∃ result, Q i r os result) (requests i history) parts ∧
      effectsOf i history = parts.flatten := by
  obtain ⟨sound, parted⟩ := told.sound serves holds i
  exact parted.parts fun r job => ⟨result, sound.ended job done⟩

/-- If every program keeps the state so and shows only such effects, the state is so and the log
has only such effects. -/
theorem run_shows {I : σ → Prop} {S : ο → Prop}
    (serves : ∀ i r, admits i r → (program i r).Shows I S) (holds : I init)
    (run : Run program admits E (idle init) pool) : I pool.state ∧ ∀ o ∈ pool.log, S o := by
  have sound : Sound E (fun log s => I s ∧ ∀ o ∈ log, S o) (fun _ _ _ _ os => ∀ o ∈ os, S o)
      (fun _ _ _ _ => True) pool := by
    refine (sound_idle ⟨holds, by simp⟩).run (fun i r admitted => ?_) run
    refine (serves i r admitted []).restrict (fun _ _ => trivial) (fun _ _ both => both.1) ?_
    intro e s s' os log both keeps effects
    exact ⟨keeps, fun o member => (List.mem_append.mp member).elim (both.2 o) (effects o)⟩
  exact sound.holds

omit [DecidableEq ι] in
theorem countP_flatten_le {f : ο → Bool} {w : ι → ρ → Bool}
    (bound : ∀ i r os, P i r os → os.countP f ≤ if w i r then 1 else 0) {i : ι} {taken : List ρ}
    {parts : List (List ο)} (each : List.Forall₂ (P i) taken parts) :
    parts.flatten.countP f ≤ taken.countP (w i) := by
  induction each with
  | nil => exact Nat.le_refl 0
  | cons now _ ih =>
      rw [List.flatten_cons, List.countP_append, List.countP_cons, Nat.add_comm]
      exact Nat.add_le_add ih (bound _ _ _ now)

/-- What is counted in the log is counted thread by thread. -/
theorem countP_effects (f : ο → Bool) {threads : Finset ι} {history : List (Event ι ρ ο)}
    (all : ∀ event ∈ history, event.thread ∈ threads) :
    (history.flatMap Event.effects).countP f =
      ∑ i ∈ threads, (effectsOf i history).countP f := by
  induction history with
  | nil => simp [effectsOf]
  | cons event rest ih =>
      have own : event.effects.countP f = ∑ i ∈ threads, (event.effectsOf i).countP f := by
        have among := all event List.mem_cons_self
        cases event with
        | took j r => simp [Event.effects, Event.effectsOf]
        | acted j os =>
            rw [Event.thread] at among
            simp [Event.effects, Event.effectsOf, apply_ite (List.countP f), among]
      rw [List.flatMap_cons, List.countP_append, own,
        ih fun event member => all event (List.mem_cons_of_mem _ member), ← Finset.sum_add_distrib]
      simp [effectsOf, List.countP_append]

theorem countP_accounts (w : ι → ρ → Bool) {threads : Finset ι} {history : List (Event ι ρ ο)}
    (all : ∀ event ∈ history, event.thread ∈ threads) :
    history.countP (Event.accounts w) =
      ∑ i ∈ threads, (requests i history).countP (w i) := by
  induction history with
  | nil => simp [requests]
  | cons event rest ih =>
      have own : (if event.accounts w then 1 else 0) =
          ∑ i ∈ threads, (event.request? i).toList.countP (w i) := by
        have among := all event List.mem_cons_self
        cases event with
        | acted j os => simp [Event.accounts, Event.request?]
        | took j r =>
            rw [Event.thread] at among
            have each : ∀ i, ((Event.took j r : Event ι ρ ο).request? i).toList.countP (w i) =
                if j = i then if w j r then 1 else 0 else 0 := by
              intro i
              rw [Event.request?]
              split
              · next same => simp [same, List.countP_cons]
              · simp
            rw [Finset.sum_congr rfl fun i _ => each i, Finset.sum_ite_eq, if_pos among]
            rfl
      rw [List.countP_cons, own,
        ih fun event member => all event (List.mem_cons_of_mem _ member), ← Finset.sum_add_distrib]
      refine Finset.sum_congr rfl fun i _ => ?_
      rw [requests, requests, List.filterMap_cons]
      cases event.request? i with
      | none => simp
      | some r => simp [List.countP_cons]

/-- If every request accounts for one effect at most, and some for none, there are no more effects
in the log than such requests. -/
theorem History.countP_le {f : ο → Bool} {w : ι → ρ → Bool}
    (told : History program admits E init history pool)
    (bound : ∀ i r os, P i r os → os.countP f ≤ if w i r then 1 else 0)
    (served : ∀ i, ∃ parts, List.Forall₂ (P i) (requests i history) parts ∧
      effectsOf i history = parts.flatten) :
    pool.log.countP f ≤ history.countP (Event.accounts w) := by
  have all : ∀ event ∈ history, event.thread ∈ (history.map Event.thread).toFinset :=
    fun event member => List.mem_toFinset.mpr (List.mem_map_of_mem member)
  rw [told.log, countP_effects f all, countP_accounts w all]
  refine Finset.sum_le_sum fun i _ => ?_
  obtain ⟨parts, each, effects⟩ := served i
  rw [effects]
  exact countP_flatten_le bound each

/-- With such parts, an effect of a thread belongs to the part of one of its requests. -/
theorem mem_part {i : ι} {parts : List (List ο)}
    (each : List.Forall₂ (P i) (requests i history) parts)
    (effects : effectsOf i history = parts.flatten) {o : ο} (effect : o ∈ effectsOf i history) :
    ∃ r part, .took i r ∈ history ∧ P i r part ∧ o ∈ part := by
  rw [effects] at effect
  obtain ⟨part, member, inside⟩ := List.mem_flatten.mp effect
  obtain ⟨r, taken, own⟩ := request_of_part each member
  exact ⟨r, part, took_of_mem_requests taken, own, inside⟩

end

end Pool

end MqttForwarder.Rust
