import Mathlib.Logic.Function.Basic

/-!
# Mutual exclusion

Some of the places where a thread can stand are inside the sections under one
lock.  If every thread that enters them finds the lock free and takes it, and
every thread that leaves them gives it back, then exactly the holder of the
lock is inside.
-/

namespace MqttForwarder.Rust

variable {ι π : Type} {inside : π → Prop} {place : ι → π} {holder : Option ι}

/-- Exactly the holder of the lock is inside a section under the lock. -/
def Exclusive (inside : π → Prop) (place : ι → π) (holder : Option ι) : Prop :=
  ∀ i, inside (place i) ↔ holder = some i

namespace Exclusive

theorem idle (outside : ∀ i, ¬ inside (place i)) : Exclusive inside place none :=
  fun i => iff_of_false (outside i) (Option.some_ne_none i).symm

/-- Two threads are not both inside. -/
theorem unique (exclusive : Exclusive inside place holder) {i j : ι} (first : inside (place i))
    (second : inside (place j)) : i = j := by
  have same := ((exclusive i).mp first).symm.trans ((exclusive j).mp second)
  exact Option.some.inj same

theorem outside_of_free (exclusive : Exclusive inside place none) (i : ι) : ¬ inside (place i) :=
  fun enters => Option.some_ne_none i ((exclusive i).mp enters).symm

variable [DecidableEq ι] {i : ι} {p q : π}

/-- A thread moves within the sections, or outside of them. -/
theorem move (exclusive : Exclusive inside place holder) (stands : place i = p)
    (same : inside q ↔ inside p) : Exclusive inside (Function.update place i q) holder := by
  intro j
  by_cases own : j = i
  · subst own
    rw [Function.update_self, same, ← stands]
    exact exclusive j
  · rw [Function.update_of_ne own]
    exact exclusive j

/-- A thread takes the lock. -/
theorem acquire (exclusive : Exclusive inside place none) (i : ι) (after : inside p) :
    Exclusive inside (Function.update place i p) (some i) := by
  intro j
  by_cases same : j = i
  · subst same
    rw [Function.update_self]
    exact iff_of_true after rfl
  · rw [Function.update_of_ne same]
    exact iff_of_false (exclusive.outside_of_free j) fun holds => same (Option.some.inj holds).symm

/-- The holder gives the lock back. -/
theorem release (exclusive : Exclusive inside place holder) (stands : place i = p)
    (before : inside p) (after : ¬ inside q) :
    Exclusive inside (Function.update place i q) none := by
  rw [← stands] at before
  intro j
  by_cases same : j = i
  · subst same
    rw [Function.update_self]
    exact iff_of_false after (Option.some_ne_none j).symm
  · rw [Function.update_of_ne same]
    exact iff_of_false (fun other => same (exclusive.unique other before))
      (Option.some_ne_none j).symm

end Exclusive

end MqttForwarder.Rust
