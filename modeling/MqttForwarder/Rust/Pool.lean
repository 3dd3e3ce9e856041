import Mathlib.Logic.Function.Basic
import Mathlib.Logic.Relation
import MqttForwarder.Rust.Prog

/-!
# Pools of threads

A pool runs one program for each thread over a shared state.  A step lets a
thread that has finished take a new request, or lets any thread do its next
action.  A thread that panicked takes no more requests.  The pool records the
effects of each thread since it took its request, and all effects in order.

`Upholds` is the assertion that makes the proofs about pools modular: it
speaks about one program under any interference that keeps an invariant.
-/

namespace MqttForwarder.Rust

/-- Threads `ι` with requests `ρ` over a shared state `σ`. -/
structure Pool (ι ρ ε σ ο : Type) : Type 1 where
  state : σ
  threads : ι → Prog ε σ ο Unit
  /-- The request that a thread took last. -/
  job : ι → Option ρ
  /-- The effects of a thread since it took that request. -/
  trail : ι → List ο
  log : List ο

namespace Pool

variable {ι ρ ε σ ο : Type}

/-- A pool in which no thread has taken a request. -/
def idle (state : σ) : Pool ι ρ ε σ ο where
  state
  threads := fun _ => .done (.ok ())
  job := fun _ => none
  trail := fun _ => []
  log := []

variable [DecidableEq ι]

/-- Thread `i` takes the request `r`, which it serves with the program `p`. -/
def start (pool : Pool ι ρ ε σ ο) (i : ι) (r : ρ) (p : Prog ε σ ο Unit) : Pool ι ρ ε σ ο :=
  { pool with
    threads := Function.update pool.threads i p
    job := Function.update pool.job i (some r)
    trail := Function.update pool.trail i [] }

/-- Thread `i` does `action`, to which the environment answers `e`. -/
def exec {β : Type} (pool : Pool ι ρ ε σ ο) (i : ι) (action : ε → σ → Reply β σ ο)
    (next : β → Prog ε σ ο Unit) (e : ε) : Pool ι ρ ε σ ο where
  state := (action e pool.state).state
  threads := Function.update pool.threads i (next (action e pool.state).value)
  job := pool.job
  trail := Function.update pool.trail i (pool.trail i ++ (action e pool.state).effects)
  log := pool.log ++ (action e pool.state).effects

/-- One step of a pool whose threads admit some requests and serve them with `program`. -/
inductive Step (program : ι → ρ → Prog ε σ ο Unit) (admits : ι → ρ → Prop) (E : ε → Prop) :
    Pool ι ρ ε σ ο → Pool ι ρ ε σ ο → Prop where
  | start {pool : Pool ι ρ ε σ ο} (i : ι) (r : ρ) (free : (pool.threads i).Finished)
      (admitted : admits i r) : Step program admits E pool (pool.start i r (program i r))
  | exec {pool : Pool ι ρ ε σ ο} {β : Type} (i : ι) (action : ε → σ → Reply β σ ο)
      (next : β → Prog ε σ ο Unit) (e : ε) (current : pool.threads i = .act action next)
      (answer : E e) : Step program admits E pool (pool.exec i action next e)

/-- Thread `i` does its next action, if it has one left. -/
def advance (pool : Pool ι ρ ε σ ο) (i : ι) (e : ε) : Pool ι ρ ε σ ο :=
  match pool.threads i with
  | .act action next => pool.exec i action next e
  | .done _ => pool

/-- Any number of steps. -/
abbrev Run (program : ι → ρ → Prog ε σ ο Unit) (admits : ι → ρ → Prop) (E : ε → Prop) :
    Pool ι ρ ε σ ο → Pool ι ρ ε σ ο → Prop :=
  Relation.ReflTransGen (Step program admits E)

section

variable {pool : Pool ι ρ ε σ ο} {i j : ι} {r : ρ} {p : Prog ε σ ο Unit}

@[simp] theorem start_threads_self : (pool.start i r p).threads i = p :=
  Function.update_self ..

theorem start_threads_of_ne (other : j ≠ i) : (pool.start i r p).threads j = pool.threads j :=
  Function.update_of_ne other ..

@[simp] theorem start_state : (pool.start i r p).state = pool.state := rfl

@[simp] theorem start_log : (pool.start i r p).log = pool.log := rfl

variable {β : Type} {action : ε → σ → Reply β σ ο} {next : β → Prog ε σ ο Unit} {e : ε}

@[simp] theorem exec_threads_self :
    (pool.exec i action next e).threads i = next (action e pool.state).value :=
  Function.update_self ..

theorem exec_threads_of_ne (other : j ≠ i) :
    (pool.exec i action next e).threads j = pool.threads j :=
  Function.update_of_ne other ..

@[simp] theorem exec_state : (pool.exec i action next e).state = (action e pool.state).state := rfl

@[simp] theorem exec_log :
    (pool.exec i action next e).log = pool.log ++ (action e pool.state).effects := rfl

end

end Pool

/-! ## Programs under interference -/

namespace Prog

variable {ε σ ο α β : Type}

/-- However other threads change the log and the state within `I` between its
actions, the program keeps `I`, every action of it guarantees `G`, and when it
has returned its effects and its result satisfy `Q`.  It has had the effects
`os` before. -/
def Upholds (E : ε → Prop) (I : List ο → σ → Prop) (G : ε → σ → σ → List ο → Prop)
    (Q : List ο → Outcome α → Prop) : List ο → Prog ε σ ο α → Prop
  | os, done result => Q os result
  | os, act action next => ∀ e log s, E e → I log s →
      I (log ++ (action e s).effects) (action e s).state ∧
        G e s (action e s).state (action e s).effects ∧
        Upholds E I G Q (os ++ (action e s).effects) (next (action e s).value)

section

variable {E : ε → Prop} {I : List ο → σ → Prop} {G : ε → σ → σ → List ο → Prop}
  {Q : List ο → Outcome α → Prop} {os : List ο}

@[simp] theorem upholds_done {result : Outcome α} :
    Upholds E I G Q os (done result) ↔ Q os result := Iff.rfl

theorem upholds_act {κ : Type} {action : ε → σ → Reply κ σ ο} {next : κ → Prog ε σ ο α} :
    Upholds E I G Q os (act action next) ↔ ∀ e log s, E e → I log s →
      I (log ++ (action e s).effects) (action e s).state ∧
        G e s (action e s).state (action e s).effects ∧
        Upholds E I G Q (os ++ (action e s).effects) (next (action e s).value) := Iff.rfl

/-- A weaker postcondition. -/
theorem Upholds.mono {p : Prog ε σ ο α} {Q' : List ο → Outcome α → Prop}
    (upholds : Upholds E I G Q os p) (weaker : ∀ os result, Q os result → Q' os result) :
    Upholds E I G Q' os p := by
  induction p generalizing os with
  | done result => exact weaker os result upholds
  | act action next ih =>
      intro e log s he hs
      obtain ⟨keeps, guarantees, rest⟩ := upholds e log s he hs
      exact ⟨keeps, guarantees, ih _ rest⟩

/-- A composition upholds what its first part upholds with the rest as postcondition. -/
theorem upholds_bind {p : Prog ε σ ο β} {rest : β → Prog ε σ ο α} :
    Upholds E I G Q os (p >>= rest) ↔
      Upholds E I G (fun os result => Upholds E I G Q os (done result >>= rest)) os p := by
  induction p generalizing os with
  | done result => exact Iff.rfl
  | act action next ih =>
      simp only [act_bind, upholds_act]
      exact forall₂_congr fun e log => forall₂_congr fun s _ => imp_congr_right fun _ =>
        and_congr_right fun _ => and_congr_right fun _ => ih _

/-- Fewer environments and a stronger invariant that the guarantee preserves. -/
theorem Upholds.restrict {p : Prog ε σ ο α} {E' : ε → Prop} {I' : List ο → σ → Prop}
    (upholds : Upholds E I G Q os p) (fewer : ∀ e, E' e → E e)
    (stronger : ∀ log s, I' log s → I log s)
    (kept : ∀ e s s' os log, I' log s → I (log ++ os) s' → G e s s' os → I' (log ++ os) s') :
    Upholds E' I' G Q os p := by
  induction p generalizing os with
  | done result => exact upholds
  | act action next ih =>
      intro e log s he hs
      obtain ⟨keeps, guarantees, rest⟩ := upholds e log s (fewer e he) (stronger log s hs)
      exact ⟨kept e s _ _ log hs keeps guarantees, guarantees, ih _ rest⟩

/-- What a program does later does not depend on the effects it has had before. -/
theorem Upholds.after {p : Prog ε σ ο α} (upholds : Upholds E I G Q os p) (before : List ο) :
    Upholds E I G (fun os result => ∃ tail, os = before ++ tail ∧ Q tail result)
      (before ++ os) p := by
  induction p generalizing os with
  | done result => exact ⟨os, rfl, upholds⟩
  | act action next ih =>
      intro e log s he hs
      obtain ⟨keeps, guarantees, rest⟩ := upholds e log s he hs
      rw [List.append_assoc]
      exact ⟨keeps, guarantees, ih _ rest⟩

end

/-- An uninterrupted execution ends as the program upholds. -/
theorem Upholds.exec {E : ε → Prop} {G : ε → σ → σ → List ο → Prop}
    {Q : List ο → Outcome α → Prop} {p : Prog ε σ ο α} {before os : List ο} {s s' : σ}
    {r : Outcome α} (upholds : Upholds E (fun _ _ => True) G Q before p)
    (run : Exec E p s os s' r) : Q (before ++ os) r := by
  induction p generalizing before os s with
  | done result =>
      obtain ⟨rfl, rfl, rfl⟩ := run
      rw [List.append_nil]
      exact upholds
  | act action next ih =>
      obtain ⟨e, he, rest, rfl, run⟩ := run
      rw [← List.append_assoc]
      exact ih _ (upholds e [] s he trivial).2.2 run

/-! ## Programs that only consult the environment -/

/-- The program has no effects and leaves the state as it is, and its result satisfies `R`. -/
def Consults (E : ε → Prop) (R : Outcome α → Prop) : Prog ε σ ο α → Prop
  | done result => R result
  | act action next => ∀ e s, E e →
      (action e s).effects = [] ∧ (action e s).state = s ∧
        Consults E R (next (action e s).value)

section

variable {E : ε → Prop} {R : Outcome α → Prop}

@[simp] theorem consults_done {result : Outcome α} :
    Consults E R (done result : Prog ε σ ο α) ↔ R result := Iff.rfl

theorem consults_ask {β : Type} {read : ε → β} {rest : β → Prog ε σ ο α}
    (later : ∀ e, E e → Consults E R (rest (read e))) : Consults E R (ask read >>= rest) :=
  fun e _ he => ⟨rfl, rfl, later e he⟩

/-- A composition consults the environment for its first part and then for the rest. -/
theorem consults_bind {p : Prog ε σ ο β} {rest : β → Prog ε σ ο α}
    (first : Consults E (fun result => Consults E R (done result >>= rest)) p) :
    Consults E R (p >>= rest) := by
  induction p with
  | done result => exact first
  | act action next ih =>
      intro e s he
      obtain ⟨silent, unchanged, later⟩ := first e s he
      exact ⟨silent, unchanged, ih _ later⟩

theorem Consults.mono {p : Prog ε σ ο α} {R' : Outcome α → Prop} (consults : Consults E R p)
    (weaker : ∀ result, R result → R' result) : Consults E R' p := by
  induction p with
  | done result => exact weaker result consults
  | act action next ih =>
      intro e s he
      obtain ⟨silent, unchanged, later⟩ := consults e s he
      exact ⟨silent, unchanged, ih _ later⟩

/-- Such a program upholds every invariant. -/
theorem Consults.upholds {p : Prog ε σ ο α} {I : List ο → σ → Prop}
    {G : ε → σ → σ → List ο → Prop} (consults : Consults E R p)
    (guarantees : ∀ e s, G e s s []) (os : List ο) :
    Upholds E I G (fun os' result => os' = os ∧ R result) os p := by
  induction p with
  | done result => exact ⟨rfl, consults⟩
  | act action next ih =>
      intro e log s he hs
      obtain ⟨silent, unchanged, later⟩ := consults e s he
      rw [silent, unchanged, List.append_nil, List.append_nil]
      exact ⟨hs, guarantees e s, ih _ later⟩

end

/-- Every action of the program, whatever it is answered and whatever state it finds,
satisfies `G`. -/
def Guarantees (G : ε → σ → σ → List ο → Prop) : Prog ε σ ο α → Prop
  | done _ => True
  | act action next => ∀ e s, G e s (action e s).state (action e s).effects ∧
      Guarantees G (next (action e s).value)

section

variable {G : ε → σ → σ → List ο → Prop}

@[simp] theorem guarantees_done (result : Outcome α) :
    Guarantees G (done result : Prog ε σ ο α) := trivial

theorem Guarantees.mono {p : Prog ε σ ο α} {G' : ε → σ → σ → List ο → Prop}
    (guarantees : Guarantees G p) (weaker : ∀ e s s' os, G e s s' os → G' e s s' os) :
    Guarantees G' p := by
  induction p with
  | done result => trivial
  | act action next ih =>
      intro e s
      obtain ⟨now, later⟩ := guarantees e s
      exact ⟨weaker e s _ _ now, ih _ later⟩

/-- What a program guarantees does not depend on the interference. -/
theorem Guarantees.strengthen {p : Prog ε σ ο α} {E : ε → Prop} {I : List ο → σ → Prop}
    {G' : ε → σ → σ → List ο → Prop} {Q : List ο → Outcome α → Prop} {os : List ο}
    (guarantees : Guarantees G p) (upholds : Upholds E I G' Q os p) : Upholds E I G Q os p := by
  induction p generalizing os with
  | done result => exact upholds
  | act action next ih =>
      intro e log s he hs
      obtain ⟨keeps, _, rest⟩ := upholds e log s he hs
      exact ⟨keeps, (guarantees e s).1, ih _ (guarantees e s).2 rest⟩

theorem guarantees_bind {p : Prog ε σ ο β} {rest : β → Prog ε σ ο α}
    (first : Guarantees G p) (second : ∀ value, Guarantees G (rest value)) :
    Guarantees G (p >>= rest) := by
  induction p with
  | done result =>
      cases result with
      | ok value => exact second value
      | err message => trivial
      | panic cause => trivial
  | act action next ih =>
      intro e s
      exact ⟨(first e s).1, ih _ (first e s).2⟩

theorem guarantees_attempt {action : ε → σ → Reply (Outcome α) σ ο}
    (once : ∀ e s, G e s (action e s).state (action e s).effects) :
    Guarantees G (attempt action) :=
  fun e s => ⟨once e s, trivial⟩

theorem guarantees_atomically {action : ε → σ → Reply α σ ο}
    (once : ∀ e s, G e s (action e s).state (action e s).effects) :
    Guarantees G (atomically action) :=
  fun e s => ⟨once e s, trivial⟩

/-- A program whose actions all satisfy `G` upholds every invariant that `G` preserves. -/
theorem Guarantees.upholds {p : Prog ε σ ο α} {E : ε → Prop} {I : List ο → σ → Prop}
    {G' : ε → σ → σ → List ο → Prop} (guarantees : Guarantees G p)
    (preserves : ∀ e s s' os log, E e → G e s s' os → I log s → I (log ++ os) s' ∧ G' e s s' os)
    (os : List ο) : Upholds E I G' (fun _ _ => True) os p := by
  induction p generalizing os with
  | done result => trivial
  | act action next ih =>
      intro e log s he hs
      obtain ⟨now, later⟩ := guarantees e s
      obtain ⟨keeps, weaker⟩ := preserves e s _ _ log he now hs
      exact ⟨keeps, weaker, ih _ later _⟩

/-- A program none of whose actions has an effect of some kind ends with as many as it had. -/
theorem Guarantees.upholds_filterMap {p : Prog ε σ ο α} {κ : Type} {kind : ο → Option κ}
    (silent : Guarantees (fun _ _ _ os => os.filterMap kind = []) p) (E : ε → Prop)
    (before : List ο) :
    Upholds E (fun _ _ => True) (fun _ _ _ _ => True)
      (fun os _ => os.filterMap kind = before.filterMap kind) before p := by
  induction p generalizing before with
  | done result => rfl
  | act action next ih =>
      intro e log s he hs
      obtain ⟨now, later⟩ := silent e s
      refine ⟨trivial, trivial, (ih _ later _).mono fun os result same => ?_⟩
      rw [same, List.filterMap_append, now, List.append_nil]

end

end Prog

/-! ## Invariants of runs -/

namespace Pool

variable {ι ρ ε σ ο : Type}

/-- The log and the state satisfy the invariant, and each thread upholds its part in what it
has left to do for its request. -/
structure Sound (E : ε → Prop) (I : List ο → σ → Prop) (G : ι → ε → σ → σ → List ο → Prop)
    (Q : ι → ρ → List ο → Outcome Unit → Prop) (pool : Pool ι ρ ε σ ο) : Prop where
  holds : I pool.log pool.state
  jobless : ∀ i, pool.job i = none → pool.threads i = .done (.ok ())
  threads : ∀ i r, pool.job i = some r →
    (pool.threads i).Upholds E I (G i) (Q i r) (pool.trail i)

section

variable {E : ε → Prop} {I : List ο → σ → Prop} {G : ι → ε → σ → σ → List ο → Prop}
  {Q : ι → ρ → List ο → Outcome Unit → Prop} {program : ι → ρ → Prog ε σ ο Unit}
  {admits : ι → ρ → Prop} {pool pool' : Pool ι ρ ε σ ο}

theorem run_advance [DecidableEq ι] (run : Run program admits E pool pool') (i : ι) {e : ε}
    (answer : E e) : Run program admits E pool (pool'.advance i e) := by
  unfold advance
  split
  · next action next current => exact run.tail (.exec i action next e current answer)
  · exact run

theorem sound_idle {s : σ} (holds : I [] s) : Sound E I G Q (idle s : Pool ι ρ ε σ ο) :=
  ⟨holds, fun _ _ => rfl, fun _ _ impossible => by cases impossible⟩

variable [DecidableEq ι]

/-- Taking a request keeps the pool sound, also for postconditions that are stronger for the
thread that takes it. -/
theorem Sound.restart (sound : Sound E I G Q pool) {Q' : ι → ρ → List ο → Outcome Unit → Prop}
    (i : ι) (weaker : ∀ j r os result, j ≠ i → Q j r os result → Q' j r os result) {r : ρ}
    {p : Prog ε σ ο Unit} (upholds : p.Upholds E I (G i) (Q' i r) []) :
    Sound E I G Q' (pool.start i r p) := by
  refine ⟨sound.holds, fun j jobless => ?_, fun j q taken => ?_⟩
  · by_cases same : j = i
    · subst same
      simp [Pool.start] at jobless
    · simp only [Pool.start, Function.update_of_ne same] at jobless ⊢
      exact sound.jobless j jobless
  · by_cases same : j = i
    · subst same
      simp only [Pool.start, Function.update_self, Option.some.injEq] at taken ⊢
      exact taken ▸ upholds
    · simp only [Pool.start, Function.update_of_ne same] at taken ⊢
      exact (sound.threads j q taken).mono fun os result => weaker j q os result same

theorem Sound.start (sound : Sound E I G Q pool) (i : ι) {r : ρ} {p : Prog ε σ ο Unit}
    (upholds : p.Upholds E I (G i) (Q i r) []) : Sound E I G Q (pool.start i r p) :=
  sound.restart i (fun _ _ _ _ _ => id) upholds

omit [DecidableEq ι] in
theorem Sound.restrict (sound : Sound E I G Q pool) {E' : ε → Prop} {I' : List ο → σ → Prop}
    (holds : I' pool.log pool.state) (fewer : ∀ e, E' e → E e)
    (stronger : ∀ log s, I' log s → I log s)
    (kept : ∀ i e s s' os log, I' log s → I (log ++ os) s' → G i e s s' os → I' (log ++ os) s') :
    Sound E' I' G Q pool :=
  ⟨holds, sound.jobless,
    fun i r taken => (sound.threads i r taken).restrict fewer stronger (kept i)⟩

omit [DecidableEq ι] in
/-- A thread that has an action left serves a request, and upholds its part for it. -/
theorem Sound.serving (sound : Sound E I G Q pool) {β : Type} {i : ι}
    {action : ε → σ → Reply β σ ο} {next : β → Prog ε σ ο Unit}
    (current : pool.threads i = .act action next) :
    ∃ r, pool.job i = some r ∧
      (Prog.act action next).Upholds E I (G i) (Q i r) (pool.trail i) := by
  cases taken : pool.job i with
  | none =>
      have finished := sound.jobless i taken
      rw [current] at finished
      cases finished
  | some r =>
      have upholds := sound.threads i r taken
      rw [current] at upholds
      exact ⟨r, rfl, upholds⟩

omit [DecidableEq ι] in
/-- Every action of a sound pool guarantees what its thread does. -/
theorem Sound.guarantee (sound : Sound E I G Q pool) {β : Type} {i : ι}
    {action : ε → σ → Reply β σ ο} {next : β → Prog ε σ ο Unit} {e : ε}
    (current : pool.threads i = .act action next) (answer : E e) :
    G i e pool.state (action e pool.state).state (action e pool.state).effects := by
  obtain ⟨r, _, upholds⟩ := sound.serving current
  exact (upholds e pool.log pool.state answer sound.holds).2.1

theorem Sound.exec (sound : Sound E I G Q pool) {β : Type} {i : ι}
    {action : ε → σ → Reply β σ ο} {next : β → Prog ε σ ο Unit} {e : ε}
    (current : pool.threads i = .act action next) (answer : E e) :
    Sound E I G Q (pool.exec i action next e) := by
  obtain ⟨r, taken, upholds⟩ := sound.serving current
  obtain ⟨keeps, _, rest⟩ := upholds e pool.log pool.state answer sound.holds
  refine ⟨keeps, fun j jobless => ?_, fun j q takenJ => ?_⟩
  · have other : j ≠ i := by
      rintro rfl
      rw [Pool.exec, taken] at jobless
      cases jobless
    rw [exec_threads_of_ne other]
    exact sound.jobless j jobless
  · by_cases same : j = i
    · subst same
      have sameJob : r = q := Option.some.inj (taken.symm.trans takenJ)
      subst sameJob
      simp only [Pool.exec, Function.update_self]
      exact rest
    · simp only [Pool.exec, Function.update_of_ne same]
      exact sound.threads j q takenJ

/-- One step keeps a pool sound if every admitted request is served by a program that
upholds its part. -/
theorem Sound.step (serves : ∀ i r, admits i r → (program i r).Upholds E I (G i) (Q i r) [])
    (sound : Sound E I G Q pool) (step : Step program admits E pool pool') :
    Sound E I G Q pool' := by
  cases step with
  | start i r free admitted => exact sound.start i (serves i r admitted)
  | exec i action next e current answer => exact sound.exec current answer

/-- Every reachable pool is sound. -/
theorem Sound.run (serves : ∀ i r, admits i r → (program i r).Upholds E I (G i) (Q i r) [])
    (sound : Sound E I G Q pool) (run : Run program admits E pool pool') :
    Sound E I G Q pool' := by
  induction run with
  | refl => exact sound
  | tail _ step ih => exact ih.step serves step

/-! ## Guarantees of all threads -/

omit [DecidableEq ι] in
theorem guarantees_idle {G : ε → σ → σ → List ο → Prop} (s : σ) (i : ι) :
    ((idle s : Pool ι ρ ε σ ο).threads i).Guarantees G := trivial

/-- What every program guarantees, every thread of a run guarantees. -/
theorem run_guarantees {G : ε → σ → σ → List ο → Prop}
    (serves : ∀ i r, (program i r).Guarantees G) (run : Run program admits E pool pool')
    (now : ∀ i, (pool.threads i).Guarantees G) (i : ι) : (pool'.threads i).Guarantees G := by
  induction run generalizing i with
  | refl => exact now i
  | tail _ step ih =>
      cases step with
      | start j r free admitted =>
          by_cases same : i = j
          · subst same
            rw [start_threads_self]
            exact serves i r
          · rw [start_threads_of_ne same]
            exact ih i
      | exec j action next e current answer =>
          by_cases same : i = j
          · subst same
            have guarantees := ih i
            rw [current] at guarantees
            rw [exec_threads_self]
            exact (guarantees e _).2
          · rw [exec_threads_of_ne same]
            exact ih i

/-- An invariant that every guaranteed action preserves holds in a whole run. -/
theorem run_preserves {G : ε → σ → σ → List ο → Prop}
    (serves : ∀ i r, (program i r).Guarantees G)
    (preserves : ∀ e s s' os log, G e s s' os → I log s → I (log ++ os) s')
    (run : Run program admits E pool pool') (now : ∀ i, (pool.threads i).Guarantees G)
    (holds : I pool.log pool.state) : I pool'.log pool'.state := by
  induction run with
  | refl => exact holds
  | tail before step ih =>
      cases step with
      | start j r free admitted => exact ih
      | exec j action next e current answer =>
          have guarantees := run_guarantees serves before now j
          rw [current] at guarantees
          exact preserves e _ _ _ _ (guarantees e _).1 ih

end

end Pool

end MqttForwarder.Rust
