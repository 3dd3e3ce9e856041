import MqttForwarder.Rust.Pool

/-!
# Owned state

A thread owns a part of the shared state that no other thread changes, and the
effects that no other thread has.  What such a thread does to the part and to
the effects can be proved as for a program that runs alone, and holds in every
run of the pool.  A discipline restricts which answers the environment may give
to an action.
-/

namespace MqttForwarder.Rust

/-- Which answers an action may get. -/
def Discipline (ε σ ο : Type) : Type 1 :=
  (β : Type) → (ε → σ → Reply β σ ο) → ε → Prop

/-- An action may get any answer. -/
def Discipline.free {ε σ ο : Type} : Discipline ε σ ο := fun _ _ _ => True

/-! ## Programs of the owner -/

namespace Prog

variable {ε σ ο κ α β : Type}

/-- The program keeps `I`, and ends with `Q`, of its effects that are `mine` and of the
`view` of the state, while other threads change neither.  It starts with the effects `os`
and the view `k`. -/
def Owns (D : Discipline ε σ ο) (view : σ → κ) (mine : ο → Bool) (I : List ο → κ → Prop)
    (Q : Outcome α → List ο → κ → Prop) : Prog ε σ ο α → List ο → κ → Prop
  | done result, os, k => I os k ∧ Q result os k
  | act action next, os, k => I os k ∧ ∀ e s, D _ action e → view s = k →
      Owns D view mine I Q (next (action e s).value) (os ++ (action e s).effects.filter mine)
        (view (action e s).state)

/-- The action leaves the view alone and has no effect that is `mine`. -/
def Leaves (view : σ → κ) (mine : ο → Bool) (_ : ε) (s s' : σ) (os : List ο) : Prop :=
  view s' = view s ∧ os.filter mine = []

section

variable {D : Discipline ε σ ο} {view : σ → κ} {mine : ο → Bool} {I : List ο → κ → Prop}
  {Q : Outcome α → List ο → κ → Prop} {os : List ο} {k : κ}

@[simp] theorem owns_done {result : Outcome α} :
    Owns D view mine I Q (done result) os k ↔ I os k ∧ Q result os k := Iff.rfl

theorem Owns.holds {p : Prog ε σ ο α} (owns : Owns D view mine I Q p os k) : I os k := by
  cases p with
  | done result => exact owns.1
  | act action next => exact owns.1

theorem Owns.mono {p : Prog ε σ ο α} {Q' : Outcome α → List ο → κ → Prop}
    (owns : Owns D view mine I Q p os k)
    (weaker : ∀ result os k, I os k → Q result os k → Q' result os k) :
    Owns D view mine I Q' p os k := by
  induction p generalizing os k with
  | done result => exact ⟨owns.1, weaker result os k owns.1 owns.2⟩
  | act action next ih =>
      exact ⟨owns.1, fun e s allowed same => ih _ (owns.2 e s allowed same)⟩

/-- A composition owns what its first part owns with the rest as postcondition. -/
theorem owns_bind {p : Prog ε σ ο β} {rest : β → Prog ε σ ο α}
    (owns : Owns D view mine I (fun result os k => Owns D view mine I Q (done result >>= rest) os k)
      p os k) :
    Owns D view mine I Q (p >>= rest) os k := by
  induction p generalizing os k with
  | done result => exact owns.2
  | act action next ih =>
      exact ⟨owns.1, fun e s allowed same => ih _ (owns.2 e s allowed same)⟩

/-- A program that only consults the environment leaves everything as it is. -/
theorem Consults.owns {E : ε → Prop} {R : Outcome α → Prop} {p : Prog ε σ ο α}
    (consults : Consults E R p) (answers : ∀ β action e, D β action e → E e) (holds : I os k) :
    Owns D view mine I (fun result os' k' => os' = os ∧ k' = k ∧ R result) p os k := by
  induction p with
  | done result => exact ⟨holds, rfl, rfl, consults⟩
  | act action next ih =>
      refine ⟨holds, fun e s allowed same => ?_⟩
      obtain ⟨silent, unchanged, later⟩ := consults e s (answers _ _ e allowed)
      rw [silent, unchanged, List.filter_nil, List.append_nil, same]
      exact ih _ later

/-- A program whose actions all leave the part alone. -/
theorem Guarantees.owns {p : Prog ε σ ο α} (guarantees : p.Guarantees (Leaves view mine))
    (holds : I os k) :
    Owns D view mine I (fun _ os' k' => os' = os ∧ k' = k) p os k := by
  induction p with
  | done result => exact ⟨holds, rfl, rfl⟩
  | act action next ih =>
      refine ⟨holds, fun e s _ same => ?_⟩
      obtain ⟨⟨unchanged, silent⟩, later⟩ := guarantees e s
      rw [silent, unchanged, List.append_nil, same]
      exact ih _ later

end

end Prog

/-! ## Runs under a discipline -/

namespace Pool

variable {ι ρ ε σ ο κ : Type} [DecidableEq ι]

/-- A step in which the environment answers as the discipline says. -/
inductive StepUnder (program : ι → ρ → Prog ε σ ο Unit) (admits : ι → ρ → Prop)
    (D : Discipline ε σ ο) : Pool ι ρ ε σ ο → Pool ι ρ ε σ ο → Prop where
  | start {pool : Pool ι ρ ε σ ο} (i : ι) (r : ρ) (free : (pool.threads i).Finished)
      (admitted : admits i r) : StepUnder program admits D pool (pool.start i r (program i r))
  | exec {pool : Pool ι ρ ε σ ο} {β : Type} (i : ι) (action : ε → σ → Reply β σ ο)
      (next : β → Prog ε σ ο Unit) (e : ε) (current : pool.threads i = .act action next)
      (allowed : D β action e) : StepUnder program admits D pool (pool.exec i action next e)

abbrev RunUnder (program : ι → ρ → Prog ε σ ο Unit) (admits : ι → ρ → Prop)
    (D : Discipline ε σ ο) : Pool ι ρ ε σ ο → Pool ι ρ ε σ ο → Prop :=
  Relation.ReflTransGen (StepUnder program admits D)

section

variable {program : ι → ρ → Prog ε σ ο Unit} {admits : ι → ρ → Prop} {D : Discipline ε σ ο}
  {pool pool' : Pool ι ρ ε σ ο}

/-- Steps whose answers depend on the environment only are steps under a discipline. -/
theorem step_iff_stepUnder {E : ε → Prop} :
    Step program admits E pool pool' ↔ StepUnder program admits (fun _ _ e => E e) pool pool' := by
  constructor
  · rintro (⟨i, r, free, admitted⟩ | ⟨i, action, next, e, current, answer⟩)
    · exact .start i r free admitted
    · exact .exec i action next e current answer
  · rintro (⟨i, r, free, admitted⟩ | ⟨i, action, next, e, current, allowed⟩)
    · exact .start i r free admitted
    · exact .exec i action next e current allowed

/-- A thread can be run to its end. -/
theorem runUnder_of_exec {E : ε → Prop} (answers : ∀ β action e, E e → D β action e) (i : ι)
    {p : Prog ε σ ο Unit} {os : List ο} {s : σ} {result : Outcome Unit}
    (exec : p.Exec E pool.state os s result) (current : pool.threads i = p) :
    ∃ pool', RunUnder program admits D pool pool' ∧ pool'.state = s ∧
      pool'.log = pool.log ++ os ∧ pool'.threads i = .done result := by
  induction p generalizing pool os with
  | done result' =>
      obtain ⟨rfl, rfl, rfl⟩ := exec
      exact ⟨pool, .refl, rfl, (List.append_nil _).symm, current⟩
  | act action next ih =>
      obtain ⟨e, answer, rest, rfl, exec⟩ := exec
      obtain ⟨pool', run, state, log, finished⟩ :=
        @ih _ (pool.exec i action next e) rest exec exec_threads_self
      refine ⟨pool', .head (.exec i action next e current (answers _ _ e answer)) run, state, ?_,
        finished⟩
      rw [log, exec_log, List.append_assoc]

/-- A thread that is free can serve a request to its end. -/
theorem runUnder_of_request {E : ε → Prop} (answers : ∀ β action e, E e → D β action e) {i : ι}
    {r : ρ} (free : (pool.threads i).Finished) (admitted : admits i r) {os : List ο} {s : σ}
    {result : Outcome Unit} (exec : (program i r).Exec E pool.state os s result) :
    ∃ pool', RunUnder program admits D pool pool' ∧ pool'.state = s ∧
      pool'.log = pool.log ++ os ∧ pool'.threads i = .done result := by
  have served : ∃ pool', RunUnder program admits D (pool.start i r (program i r)) pool' ∧
      pool'.state = s ∧ pool'.log = pool.log ++ os ∧ pool'.threads i = .done result :=
    runUnder_of_exec answers i exec start_threads_self
  obtain ⟨pool', run, state, log, returned⟩ := served
  exact ⟨pool', .head (.start i r free admitted) run, state, log, returned⟩

end

/-! ## The owner in a pool -/

section

variable {program : ι → ρ → Prog ε σ ο Unit} {admits : ι → ρ → Prop} {D : Discipline ε σ ο}
  {view : σ → κ} {mine : ο → Bool} {I B : List ο → κ → Prop} {owner : ι}

/-- The owner has still to do what leads to `B`, and the other threads leave its part alone. -/
structure Kept (D : Discipline ε σ ο) (view : σ → κ) (mine : ο → Bool) (I B : List ο → κ → Prop)
    (owner : ι) (pool : Pool ι ρ ε σ ο) : Prop where
  owns : (pool.threads owner).Owns D view mine I (fun _ => B) (pool.log.filter mine)
    (view pool.state)
  others : ∀ i, i ≠ owner → (pool.threads i).Guarantees (Prog.Leaves view mine)

omit [DecidableEq ι] in
theorem kept_idle {s : σ} (holds : I [] (view s)) (base : B [] (view s)) :
    Kept D view mine I B owner (idle s : Pool ι ρ ε σ ο) :=
  ⟨⟨holds, base⟩, fun _ _ => trivial⟩

omit [DecidableEq ι] in
theorem Kept.holds {pool : Pool ι ρ ε σ ο} (kept : Kept D view mine I B owner pool) :
    I (pool.log.filter mine) (view pool.state) :=
  kept.owns.holds

omit [DecidableEq ι] in
/-- When the owner has no request in progress. -/
theorem Kept.base {pool : Pool ι ρ ε σ ο} (kept : Kept D view mine I B owner pool)
    {result : Outcome Unit} (returned : pool.threads owner = .done result) :
    B (pool.log.filter mine) (view pool.state) :=
  (returned ▸ kept.owns).2

theorem Kept.step {pool pool' : Pool ι ρ ε σ ο}
    (serves : ∀ r os k, admits owner r → I os k → B os k →
      (program owner r).Owns D view mine I (fun _ => B) os k)
    (apart : ∀ i r, i ≠ owner → admits i r → (program i r).Guarantees (Prog.Leaves view mine))
    (kept : Kept D view mine I B owner pool) (step : StepUnder program admits D pool pool') :
    Kept D view mine I B owner pool' := by
  have base := @kept.base
  obtain ⟨owns, others⟩ := kept
  rcases step with ⟨i, r, free, admitted⟩ | ⟨i, action, next, e, current, allowed⟩
  · by_cases same : i = owner
    · subst same
      refine ⟨?_, fun j other => ?_⟩
      · rw [start_threads_self]
        obtain ⟨result, returned⟩ := free.returned
        exact serves r _ _ admitted owns.holds (base returned)
      · rw [start_threads_of_ne other]
        exact others j other
    · refine ⟨?_, fun j other => ?_⟩
      · rw [start_threads_of_ne (Ne.symm same)]
        exact owns
      · by_cases own : j = i
        · subst own
          rw [start_threads_self]
          exact apart j r same admitted
        · rw [start_threads_of_ne own]
          exact others j other
  · by_cases same : i = owner
    · subst same
      rw [current] at owns
      refine ⟨?_, fun j other => ?_⟩
      · rw [exec_threads_self, exec_log, List.filter_append]
        exact owns.2 e pool.state allowed rfl
      · rw [exec_threads_of_ne other]
        exact others j other
    · have leaves := others i same
      rw [current] at leaves
      obtain ⟨⟨unchanged, silent⟩, later⟩ := leaves e pool.state
      refine ⟨?_, fun j other => ?_⟩
      · rw [exec_threads_of_ne (Ne.symm same), exec_log, List.filter_append, silent,
          List.append_nil, exec_state, unchanged]
        exact owns
      · by_cases own : j = i
        · subst own
          rw [exec_threads_self]
          exact later
        · rw [exec_threads_of_ne own]
          exact others j other

/-- In every run the owner has still to do what leads to `B`. -/
theorem Kept.run {pool pool' : Pool ι ρ ε σ ο}
    (serves : ∀ r os k, admits owner r → I os k → B os k →
      (program owner r).Owns D view mine I (fun _ => B) os k)
    (apart : ∀ i r, i ≠ owner → admits i r → (program i r).Guarantees (Prog.Leaves view mine))
    (kept : Kept D view mine I B owner pool) (run : RunUnder program admits D pool pool') :
    Kept D view mine I B owner pool' := by
  induction run with
  | refl => exact kept
  | tail _ step ih => exact ih.step serves apart step

end

/-! ## One request -/

section

variable {program : ι → ρ → Prog ε σ ο Unit} {admits : ι → ρ → Prop} {D : Discipline ε σ ο}
  {mine : ο → Bool} {Q : ρ → List ο → Prop} {i : ι}

/-- The effects since the thread took its request lead to what `Q` says of the request. -/
def Serving (D : Discipline ε σ ο) (mine : ο → Bool) (Q : ρ → List ο → Prop) (i : ι)
    (pool : Pool ι ρ ε σ ο) : Prop :=
  ∀ r, pool.job i = some r → (pool.threads i).Owns D (fun _ => ()) mine (fun _ _ => True)
    (fun _ os _ => Q r os) ((pool.trail i).filter mine) ()

omit [DecidableEq ι] in
theorem serving_idle {s : σ} : Serving D mine Q i (idle s : Pool ι ρ ε σ ο) :=
  fun _ impossible => by cases impossible

omit [DecidableEq ι] in
/-- When the request has been served. -/
theorem Serving.served {pool : Pool ι ρ ε σ ο} (serving : Serving D mine Q i pool) {r : ρ}
    (job : pool.job i = some r) {result : Outcome Unit}
    (returned : pool.threads i = .done result) : Q r ((pool.trail i).filter mine) :=
  (returned ▸ serving r job).2

theorem Serving.step {pool pool' : Pool ι ρ ε σ ο}
    (serves : ∀ r, admits i r → (program i r).Owns D (fun _ => ()) mine (fun _ _ => True)
      (fun _ os _ => Q r os) [] ())
    (serving : Serving D mine Q i pool) (step : StepUnder program admits D pool pool') :
    Serving D mine Q i pool' := by
  intro r job
  rcases step with ⟨j, r', free, admitted⟩ | ⟨j, action, next, e, current, allowed⟩
  · by_cases same : i = j
    · subst same
      obtain rfl : r' = r := by simpa [start] using job
      rw [start_threads_self]
      simpa [start] using serves r' admitted
    · rw [start_threads_of_ne same]
      simp only [start, Function.update_of_ne same] at job ⊢
      exact serving r job
  · by_cases same : i = j
    · subst same
      have owns := serving r job
      rw [current] at owns
      rw [exec_threads_self]
      simp only [exec, Function.update_self, List.filter_append]
      exact owns.2 e pool.state allowed rfl
    · rw [exec_threads_of_ne same]
      simp only [exec, Function.update_of_ne same]
      exact serving r job

/-- In every run the thread leads to what `Q` says of its request. -/
theorem Serving.run {pool pool' : Pool ι ρ ε σ ο}
    (serves : ∀ r, admits i r → (program i r).Owns D (fun _ => ()) mine (fun _ _ => True)
      (fun _ os _ => Q r os) [] ())
    (serving : Serving D mine Q i pool) (run : RunUnder program admits D pool pool') :
    Serving D mine Q i pool' := by
  induction run with
  | refl => exact serving
  | tail _ step ih => exact ih.step serves step

end

end Pool

end MqttForwarder.Rust
