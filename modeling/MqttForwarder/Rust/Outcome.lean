import Mathlib.Algebra.Group.Nat.Defs
import Mathlib.Data.List.Basic

/-!
# Outcomes of Rust computations

A Rust function that returns `Result` either produces a value, returns an
error that its caller may propagate with `?`, or panics.  A panic is not an
error value: no caller on the way handles it.  Whether integer overflow is a
panic depends on the build profile; without overflow checks the operation
wraps.
-/

namespace MqttForwarder.Rust

universe u v

/-- The operation that panicked. -/
inductive Panic where
  | indexOutOfBounds
  | addOverflow
  | subOverflow
  | mulOverflow
  | unwrapNone
  deriving DecidableEq, Repr

/-- A build profile, as far as it decides what integer overflow and a panic do. -/
inductive Profile where
  | debug
  | release
  deriving DecidableEq, Repr

/-- The result of a fallible computation, with panics kept apart from errors. -/
inductive Outcome (α : Type u) : Type u where
  | ok (value : α)
  | err (message : String)
  | panic (cause : Panic)
  deriving DecidableEq, Repr

namespace Outcome

variable {α : Type u} {β : Type v}

/-- Sequential composition: `?` after every fallible call. -/
def bind (first : Outcome α) (next : α → Outcome β) : Outcome β :=
  match first with
  | ok value => next value
  | err message => err message
  | panic cause => panic cause

instance : Monad Outcome where
  pure := ok
  bind := bind

instance : LawfulMonad Outcome :=
  LawfulMonad.mk' Outcome (fun x => by cases x <;> rfl) (fun _ _ => rfl)
    (fun x _ _ => by cases x <;> rfl)

section

variable {α β : Type u} {next : α → Outcome β}

@[simp] theorem pure_eq (value : α) : (pure value : Outcome α) = ok value := rfl

@[simp] theorem ok_bind (value : α) : (ok value >>= next) = next value := rfl

@[simp] theorem err_bind (message : String) :
    ((err message : Outcome α) >>= next) = err message := rfl

@[simp] theorem panic_bind (cause : Panic) :
    ((panic cause : Outcome α) >>= next) = panic cause := rfl

@[simp] theorem map_ok (f : α → β) (value : α) : f <$> ok value = ok (f value) := rfl

/-- A composition succeeds exactly when both of its parts do. -/
theorem bind_eq_ok {first : Outcome α} {result : β} :
    (first >>= next) = ok result ↔ ∃ value, first = ok value ∧ next value = ok result := by
  cases first <;> simp

/-- A composition panics in its first part, or in its second part. -/
theorem bind_eq_panic {first : Outcome α} {cause : Panic} :
    (first >>= next) = panic cause ↔
      first = panic cause ∨ ∃ value, first = ok value ∧ next value = panic cause := by
  cases first <;> simp

end

/-- The computation did not panic. -/
def Calm (x : Outcome α) : Prop := ∀ cause, x ≠ panic cause

@[simp] theorem calm_ok (value : α) : (ok value).Calm := fun _ impossible => by cases impossible

@[simp] theorem calm_err (message : String) : (err message : Outcome α).Calm :=
  fun _ impossible => by cases impossible

@[simp] theorem not_calm_panic (cause : Panic) : ¬ (panic cause : Outcome α).Calm :=
  fun calm => calm cause rfl

theorem calm_bind {α β : Type u} {first : Outcome α} {next : α → Outcome β} :
    (first >>= next).Calm ↔ first.Calm ∧ ∀ value, first = ok value → (next value).Calm := by
  cases first <;> simp

/-- `Option::ok_or_else`. -/
def okOr (x : Option α) (message : String) : Outcome α :=
  match x with
  | some value => ok value
  | none => err message

/-- `Option::unwrap`. -/
def unwrap (x : Option α) : Outcome α :=
  match x with
  | some value => ok value
  | none => panic .unwrapNone

@[simp] theorem okOr_some (value : α) (message : String) :
    okOr (some value) message = ok value := rfl

@[simp] theorem okOr_none (message : String) :
    okOr (none : Option α) message = err message := rfl

@[simp] theorem unwrap_some (value : α) : unwrap (some value) = ok value := rfl

@[simp] theorem unwrap_none : unwrap (none : Option α) = panic .unwrapNone := rfl

theorem okOr_eq_ok {x : Option α} {message : String} {value : α} :
    okOr x message = ok value ↔ x = some value := by
  cases x <;> simp

@[simp] theorem calm_okOr (x : Option α) (message : String) : (okOr x message).Calm := by
  cases x <;> simp

end Outcome

/-! ## Slices and checked arithmetic -/

/-- `xs[i]`. -/
def index {α : Type u} (xs : List α) (i : Nat) : Outcome α :=
  match xs[i]? with
  | some value => .ok value
  | none => .panic .indexOutOfBounds

/-- `xs[start..stop]`. -/
def slice {α : Type u} (xs : List α) (start stop : Nat) : Outcome (List α) :=
  if start ≤ stop ∧ stop ≤ xs.length then .ok ((xs.drop start).take (stop - start))
  else .panic .indexOutOfBounds

theorem index_of_lt {α : Type u} {xs : List α} {i : Nat} (bound : i < xs.length) :
    index xs i = .ok xs[i] := by
  simp [index, bound]

theorem index_of_le {α : Type u} {xs : List α} {i : Nat} (bound : xs.length ≤ i) :
    index xs i = .panic .indexOutOfBounds := by
  simp [index, bound]

theorem slice_of_le {α : Type u} {xs : List α} {start stop : Nat}
    (ordered : start ≤ stop) (bound : stop ≤ xs.length) :
    slice xs start stop = .ok ((xs.drop start).take (stop - start)) :=
  if_pos ⟨ordered, bound⟩

/-- `a + b` on `u32`. -/
def addU32 (profile : Profile) (a b : UInt32) : Outcome UInt32 :=
  if profile = .debug ∧ 2 ^ 32 ≤ a.toNat + b.toNat then .panic .addOverflow else .ok (a + b)

/-- `a * b` on `u32`. -/
def mulU32 (profile : Profile) (a b : UInt32) : Outcome UInt32 :=
  if profile = .debug ∧ 2 ^ 32 ≤ a.toNat * b.toNat then .panic .mulOverflow else .ok (a * b)

/-- `a - b` on a 64-bit `usize`. -/
def subUsize (profile : Profile) (a b : Nat) : Outcome Nat :=
  if b ≤ a then .ok (a - b)
  else match profile with
    | .debug => .panic .subOverflow
    | .release => .ok (a + 2 ^ 64 - b)

theorem subUsize_of_le {profile : Profile} {a b : Nat} (le : b ≤ a) :
    subUsize profile a b = .ok (a - b) :=
  if_pos le

end MqttForwarder.Rust
