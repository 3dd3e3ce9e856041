import MqttForwarder.Rust.Outcome

/-!
# Programs of atomic actions

An asynchronous function over shared state is a sequence of atomic actions: a
section under a lock, one system call, one attempt to send on a channel.
Between two of them any other task may run.  A `Prog` is such a function: it
has returned, or its next action and its continuation are known.  An action
sees one answer of the environment and the shared state; it gives a value to
the continuation, changes the state, and may leave observable effects.
-/

namespace MqttForwarder.Rust

/-- What one atomic action gives back. -/
structure Reply (β σ ο : Type) where
  value : β
  state : σ
  effects : List ο

/-- A program over environment answers `ε`, shared state `σ` and effects `ο`. -/
inductive Prog (ε σ ο : Type) (α : Type) : Type 1 where
  | done (result : Outcome α)
  | act {β : Type} (action : ε → σ → Reply β σ ο) (next : β → Prog ε σ ο α)

namespace Prog

variable {ε σ ο : Type} {α β : Type}

/-- Sequential composition; an error or a panic ends the whole program. -/
def bind : Prog ε σ ο α → (α → Prog ε σ ο β) → Prog ε σ ο β
  | done (.ok value), rest => rest value
  | done (.err message), _ => done (.err message)
  | done (.panic cause), _ => done (.panic cause)
  | act action next, rest => act action fun value => (next value).bind rest

instance : Monad (Prog ε σ ο) where
  pure := fun value => done (.ok value)
  bind := bind

instance : MonadLift Outcome (Prog ε σ ο) where
  monadLift := done

/-- A program of one action. -/
def atomically (action : ε → σ → Reply α σ ο) : Prog ε σ ο α :=
  act action fun value => done (.ok value)

/-- A program of one fallible action: the state it leaves stands even if it fails. -/
def attempt (action : ε → σ → Reply (Outcome α) σ ο) : Prog ε σ ο α :=
  act action done

/-- Read the environment only. -/
def ask (read : ε → α) : Prog ε σ ο α :=
  atomically fun e s => ⟨read e, s, []⟩

@[simp] theorem pure_eq (value : α) : (pure value : Prog ε σ ο α) = done (.ok value) := rfl

@[simp] theorem lift_eq (result : Outcome α) :
    (liftM result : Prog ε σ ο α) = done result := rfl

@[simp] theorem monadLift_eq (result : Outcome α) :
    (MonadLift.monadLift result : Prog ε σ ο α) = done result := rfl

@[simp] theorem done_ok_bind (value : α) (rest : α → Prog ε σ ο β) :
    (done (.ok value) >>= rest) = rest value := rfl

@[simp] theorem done_err_bind (message : String) (rest : α → Prog ε σ ο β) :
    (done (.err message) >>= rest) = done (.err message) := rfl

@[simp] theorem done_panic_bind (cause : Panic) (rest : α → Prog ε σ ο β) :
    (done (.panic cause) >>= rest) = done (.panic cause) := rfl

@[simp] theorem act_bind {κ : Type} (action : ε → σ → Reply κ σ ο)
    (next : κ → Prog ε σ ο α) (rest : α → Prog ε σ ο β) :
    (act action next >>= rest) = act action fun value => next value >>= rest := rfl

@[simp] theorem atomically_bind (action : ε → σ → Reply α σ ο) (rest : α → Prog ε σ ο β) :
    (atomically action >>= rest) = act action rest := rfl

@[simp] theorem attempt_bind (action : ε → σ → Reply (Outcome α) σ ο)
    (rest : α → Prog ε σ ο β) :
    (attempt action >>= rest) = act action fun result => done result >>= rest := rfl

@[simp] theorem ask_bind (read : ε → α) (rest : α → Prog ε σ ο β) :
    (ask read >>= rest) = act (fun e s => ⟨read e, s, []⟩) rest := rfl

theorem bind_assoc {γ : Type} (p : Prog ε σ ο α) (rest : α → Prog ε σ ο β)
    (last : β → Prog ε σ ο γ) : (p >>= rest) >>= last = p >>= fun value => rest value >>= last := by
  induction p with
  | done result => cases result <;> rfl
  | act action next ih => exact congrArg (act action) (funext ih)

/-- The program has returned without a panic, so its thread may take other work. -/
def Finished : Prog ε σ ο α → Prop
  | done (.ok _) => True
  | done (.err _) => True
  | _ => False

@[simp] theorem finished_ok (value : α) : (done (.ok value) : Prog ε σ ο α).Finished := trivial

@[simp] theorem finished_err (message : String) :
    (done (.err message) : Prog ε σ ο α).Finished := trivial

theorem Finished.returned {p : Prog ε σ ο α} (finished : p.Finished) :
    ∃ result, p = .done result := by
  cases p with
  | done result => exact ⟨result, rfl⟩
  | act action next => exact finished.elim

/-! ## Uninterrupted execution -/

/-- `p` can run from `s` to its end without interruption, with environment
answers that satisfy `E`, leaving the effects `os`, the state `s'` and the result `r`. -/
def Exec (E : ε → Prop) : Prog ε σ ο α → σ → List ο → σ → Outcome α → Prop
  | done result, s, os, s', r => os = [] ∧ s' = s ∧ r = result
  | act action next, s, os, s', r =>
      ∃ e, E e ∧ ∃ rest, os = (action e s).effects ++ rest ∧
        Exec E (next (action e s).value) (action e s).state rest s' r

section

variable {E : ε → Prop} {s s' : σ} {os : List ο}

@[simp] theorem exec_done {result r : Outcome α} :
    Exec E (done result) s os s' r ↔ os = [] ∧ s' = s ∧ r = result := Iff.rfl

/-- A program can be executed wherever the environment answers. -/
theorem exec_exists (answers : ∃ e, E e) (p : Prog ε σ ο α) (s : σ) :
    ∃ os s' r, Exec E p s os s' r := by
  obtain ⟨e, he⟩ := answers
  induction p generalizing s with
  | done result => exact ⟨[], s, result, rfl, rfl, rfl⟩
  | act action next ih =>
      obtain ⟨rest, s', r, run⟩ := ih (action e s).value (action e s).state
      exact ⟨_, s', r, e, he, rest, rfl, run⟩

/-- How an execution goes on after the first part of a composition returned `result`. -/
def Continues (E : ε → Prop) (rest : α → Prog ε σ ο β) (result : Outcome α)
    (s : σ) (os : List ο) (s' : σ) (r : Outcome β) : Prop :=
  Exec E (bind (done result) rest) s os s' r

/-- An execution of a composition is an execution of its first part and of what follows. -/
theorem exec_bind {p : Prog ε σ ο α} {rest : α → Prog ε σ ο β} {r : Outcome β} :
    Exec E (p >>= rest) s os s' r ↔
      ∃ result middle first last, os = first ++ last ∧
        Exec E p s first middle result ∧ Continues E rest result middle last s' r := by
  induction p generalizing s os with
  | done result =>
      constructor
      · intro run
        exact ⟨result, s, [], os, rfl, ⟨rfl, rfl, rfl⟩, run⟩
      · rintro ⟨_, _, _, _, rfl, ⟨rfl, rfl, rfl⟩, run⟩
        exact run
  | act action next ih =>
      constructor
      · rintro ⟨e, he, tail, rfl, run⟩
        obtain ⟨result, middle, first, last, rfl, begins, goes⟩ := (ih _).mp run
        exact ⟨result, middle, _, last, (List.append_assoc _ _ _).symm,
          ⟨e, he, first, rfl, begins⟩, goes⟩
      · rintro ⟨result, middle, first, last, rfl, ⟨e, he, tail, rfl, begins⟩, goes⟩
        exact ⟨e, he, tail ++ last, List.append_assoc _ _ _,
          (ih _).mpr ⟨result, middle, tail, last, rfl, begins, goes⟩⟩

@[simp] theorem continues_ok {rest : α → Prog ε σ ο β} {value : α} {r : Outcome β} :
    Continues E rest (.ok value) s os s' r ↔ Exec E (rest value) s os s' r := Iff.rfl

@[simp] theorem continues_err {rest : α → Prog ε σ ο β} {message : String} {r : Outcome β} :
    Continues E rest (.err message) s os s' r ↔ os = [] ∧ s' = s ∧ r = .err message := Iff.rfl

@[simp] theorem continues_panic {rest : α → Prog ε σ ο β} {cause : Panic} {r : Outcome β} :
    Continues E rest (.panic cause) s os s' r ↔ os = [] ∧ s' = s ∧ r = .panic cause := Iff.rfl

/-- A composition succeeds in both of its parts. -/
theorem exec_bind_ok {p : Prog ε σ ο α} {rest : α → Prog ε σ ο β} {result : β}
    (run : Exec E (p >>= rest) s os s' (.ok result)) :
    ∃ value middle first last, os = first ++ last ∧ Exec E p s first middle (.ok value) ∧
      Exec E (rest value) middle last s' (.ok result) := by
  obtain ⟨outcome, middle, first, last, whole, begins, goes⟩ := exec_bind.mp run
  cases outcome with
  | ok value => exact ⟨value, middle, first, last, whole, begins, goes⟩
  | err message => cases (continues_err.mp goes).2.2
  | panic cause => cases (continues_panic.mp goes).2.2

end

end Prog

end MqttForwarder.Rust
