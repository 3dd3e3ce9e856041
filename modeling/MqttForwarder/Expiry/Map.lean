import Mathlib.Logic.Function.Basic
import MqttForwarder.Rust.Channel

/-!
# Maps whose entries expire

An entry is inserted with the time at which it expires.  A cleaning drops what
has expired by then, and a lookup takes what it finds.  When cleaning and
lookup happen at one clock time, the map behaves as the log of its insertions
in which an entry is visible until it expires.
-/

namespace MqttForwarder.Expiry

open MqttForwarder.Rust

universe u v

inductive Operation (κ : Type u) (ν : Type v) where
  | insert (key : κ) (value : ν)
  | clean
  | lookup (key : κ) (found : Option ν)

/-- An operation and the clock time at which it happens. -/
structure Tick (κ : Type u) (ν : Type v) where
  now : Nat
  operation : Operation κ ν

section

variable {κ : Type} {ν : Type} [DecidableEq κ] (expire : ν → Nat)

/-- Entries that have expired are dropped. -/
def retain (now : Nat) (map : κ → Option ν) : κ → Option ν :=
  fun key => (map key).filter fun value => decide (now ≤ expire value)

inductive Step : (κ → Option ν) → Tick κ ν → (κ → Option ν) → Prop where
  | insert {map : κ → Option ν} {now : Nat} {key : κ} {value : ν} :
      Step map ⟨now, .insert key value⟩ (Function.update map key (some value))
  | clean {map : κ → Option ν} {now : Nat} : Step map ⟨now, .clean⟩ (retain expire now map)
  | lookup {map : κ → Option ν} {now : Nat} {key : κ} : Step map ⟨now, .lookup key (map key)⟩ map

/-- The time and the value of an insertion under the key. -/
def inserted (key : κ) (tick : Tick κ ν) : Option (Nat × ν) :=
  match tick.operation with
  | .insert own value => if own = key then some (tick.now, value) else none
  | _ => none

/-- The most recent insertion under the key. -/
def latest (ticks : List (Tick κ ν)) (key : κ) : Option (Nat × ν) :=
  (ticks.filterMap (inserted key)).getLast?

theorem latest_snoc (ticks : List (Tick κ ν)) (tick : Tick κ ν) (key : κ) :
    latest (ticks ++ [tick]) key = (inserted key tick).or (latest ticks key) := by
  rw [latest, filterMap_snoc, List.getLast?_append, latest]
  cases inserted key tick <;> rfl

/-- What an entry is worth at a clock time. -/
def visible (lifetime now : Nat) (insertion : Option (Nat × ν)) : Option ν :=
  (insertion.filter fun entry => decide (now ≤ entry.1 + lifetime)).map Prod.snd

/-- Every insertion is of an entry that lives for `lifetime`. -/
def Timed (lifetime : Nat) (ticks : List (Tick κ ν)) : Prop :=
  ∀ tick ∈ ticks, ∀ key value, tick.operation = .insert key value →
    expire value = tick.now + lifetime

/-- The clock does not go back. -/
def Ordered (ticks : List (Tick κ ν)) : Prop := ticks.Pairwise fun one other => one.now ≤ other.now

variable {expire} {map map' : κ → Option ν} {ticks : List (Tick κ ν)} {tick : Tick κ ν} {key : κ}
  {value : ν} {now lifetime : Nat}

/-! ## One step -/

omit [DecidableEq κ] in
theorem retain_eq_some :
    retain expire now map key = some value ↔ map key = some value ∧ now ≤ expire value := by
  rw [retain, Option.filter_eq_some_iff, decide_eq_true_iff]

/-- A live entry stays, or is replaced under its own key. -/
theorem Step.keeps (step : Step expire map tick map') (found : map key = some value)
    (live : tick.now ≤ expire value) :
    map' key = some value ∨ ∃ other, tick.operation = .insert key other := by
  cases step with
  | @insert _ own other =>
      by_cases same : key = own
      · subst same
        exact .inr ⟨other, rfl⟩
      · exact .inl (by rw [Function.update_of_ne same, found])
  | clean => exact .inl (retain_eq_some.mpr ⟨found, live⟩)
  | lookup => exact .inl found

/-- No expired entry is left by a cleaning. -/
theorem Step.cleaned (step : Step expire map ⟨now, .clean⟩ map')
    (found : map' key = some value) : now ≤ expire value := by
  cases step
  exact (retain_eq_some.mp found).2

/-! ## Runs -/

/-- The map has the most recent insertion, unless that had expired at some cleaning. -/
def Explained (expire : ν → Nat) (ticks : List (Tick κ ν)) (map : κ → Option ν) : Prop :=
  ∀ key, map key = (latest ticks key).map Prod.snd ∨
    map key = none ∧ ∃ entry, latest ticks key = some entry ∧
      ∃ tick ∈ ticks, expire entry.2 < tick.now

theorem Explained.step (explained : Explained expire ticks map) (step : Step expire map tick map') :
    Explained expire (ticks ++ [tick]) map' := by
  intro key
  have old : ∀ {map : κ → Option ν}, inserted key tick = none →
      (map key = none ∧ ∃ entry, latest ticks key = some entry ∧
        ∃ tick ∈ ticks, expire entry.2 < tick.now) →
      map key = none ∧ ∃ entry, latest (ticks ++ [tick]) key = some entry ∧
        ∃ other ∈ ticks ++ [tick], expire entry.2 < other.now := by
    rintro map other ⟨gone, entry, last, earlier, member, expired⟩
    refine ⟨gone, entry, ?_, earlier, List.mem_append_left _ member, expired⟩
    rw [latest_snoc, other, Option.none_or, last]
  cases step with
  | @insert now own value =>
      by_cases same : own = key
      · subst same
        refine .inl ?_
        have seen : inserted own (⟨now, .insert own value⟩ : Tick κ ν) = some (now, value) :=
          if_pos rfl
        rw [latest_snoc, seen, Function.update_self]
        rfl
      · have unseen : inserted key (⟨now, .insert own value⟩ : Tick κ ν) = none := if_neg same
        rw [Function.update_of_ne (Ne.symm same)]
        rcases explained key with present | gone
        · exact .inl (by rw [latest_snoc, unseen, Option.none_or, present])
        · exact .inr (old unseen gone)
  | @clean now =>
      rcases explained key with present | ⟨gone, why⟩
      · cases last : latest ticks key with
        | none =>
            refine .inl ?_
            rw [latest_snoc, last, retain, present, last]
            rfl
        | some entry =>
            rw [last] at present
            by_cases live : now ≤ expire entry.2
            · refine .inl ?_
              rw [latest_snoc, last]
              exact retain_eq_some.mpr ⟨present, live⟩
            · refine .inr ⟨?_, entry, by rw [latest_snoc, last]; rfl, _,
                List.mem_append_right _ List.mem_cons_self, Nat.lt_of_not_le live⟩
              rw [retain, present]
              simpa using Nat.lt_of_not_le live
      · exact .inr (old rfl ⟨by rw [retain, gone]; rfl, why⟩)
  | lookup =>
      rcases explained key with present | gone
      · exact .inl (by rw [latest_snoc, present]; rfl)
      · exact .inr (old rfl gone)

theorem explained (run : Trace (Step expire) (fun _ => none) ticks map) :
    Explained expire ticks map :=
  run.holds (fun _ => .inl rfl) fun _ _ _ _ holds step => holds.step step

/-- The most recent insertion is one of the log. -/
theorem mem_of_latest {entry : Nat × ν} (last : latest ticks key = some entry) :
    ∃ tick ∈ ticks, tick.now = entry.1 ∧ tick.operation = .insert key entry.2 := by
  obtain ⟨⟨now, operation⟩, member, seen⟩ :=
    List.mem_filterMap.mp (List.mem_of_getLast? last)
  unfold inserted at seen
  cases operation with
  | insert own value =>
      dsimp only at seen
      split at seen
      · next same =>
          cases seen
          exact ⟨_, member, rfl, by rw [same]⟩
      · cases seen
  | clean => cases seen
  | lookup own found => cases seen

/-- Since a cleaning at `now` only entries that were alive then have been in the map. -/
theorem live_since_clean {before after : List (Tick κ ν)}
    (run : Trace (Step expire) (fun _ => none) (before ++ ⟨now, .clean⟩ :: after) map)
    (timed : Timed expire lifetime after) (later : ∀ tick ∈ after, now ≤ tick.now)
    (found : map key = some value) : now ≤ expire value := by
  have live := run.since
    (I := fun after map => Timed expire lifetime after → (∀ tick ∈ after, now ≤ tick.now) →
      ∀ key value, map key = some value → now ≤ expire value)
    (fun _ _ step _ _ _ _ found => step.cleaned found) ?_
  · exact live timed later key value found
  intro after map tick map' live step timed later own other found
  have earlier := live (fun tick member => timed tick (List.mem_append_left _ member))
    fun tick member => later tick (List.mem_append_left _ member)
  have current := List.mem_append_right after (List.mem_singleton_self tick)
  cases step with
  | @insert time key value =>
      by_cases same : own = key
      · subst same
        rw [Function.update_self, Option.some.injEq] at found
        rw [← found, timed _ current own value rfl]
        exact Nat.le_add_right_of_le (later _ current)
      · rw [Function.update_of_ne same] at found
        exact earlier own other found
  | clean => exact earlier own other (retain_eq_some.mp found).1
  | lookup => exact earlier own other found

/-- A lookup that happens at the clock time of its cleaning finds the most recent insertion
under its key exactly as long as that lives. -/
theorem lookup_eq_visible {before between : List (Tick κ ν)} {found : Option ν}
    (run : Trace (Step expire) (fun _ => none)
      (before ++ ⟨now, .clean⟩ :: between ++ [⟨now, .lookup key found⟩]) map)
    (timed : Timed expire lifetime (before ++ ⟨now, .clean⟩ :: between))
    (ordered : Ordered (before ++ ⟨now, .clean⟩ :: between ++ [⟨now, .lookup key found⟩])) :
    found = visible lifetime now (latest (before ++ ⟨now, .clean⟩ :: between) key) := by
  obtain ⟨middle, earlier, last⟩ := run.split
  obtain ⟨_, step, _⟩ := last.uncons
  obtain rfl : middle key = found := by
    cases step
    rfl
  obtain ⟨whole, _, past⟩ := List.pairwise_append.mp ordered
  obtain ⟨_, since, _⟩ := List.pairwise_append.mp whole
  have later := (List.pairwise_cons.mp since).1
  have present {value : ν} (found : middle key = some value) : now ≤ expire value :=
    live_since_clean earlier
      (fun tick member => timed tick (List.mem_append_right _ (List.mem_cons_of_mem _ member)))
      later found
  rcases explained earlier key with shown | ⟨gone, entry, recent, tick, member, expired⟩
  · cases recent : latest (before ++ ⟨now, .clean⟩ :: between) key with
    | none =>
        rw [shown, recent]
        rfl
    | some entry =>
        rw [recent] at shown
        obtain ⟨tick, member, time, operation⟩ := mem_of_latest recent
        have lives := present shown
        rw [timed tick member key entry.2 operation, time] at lives
        rw [shown, visible, Option.filter_some, if_pos (decide_eq_true lives)]
  · obtain ⟨origin, before, time, operation⟩ := mem_of_latest recent
    have passed : tick.now ≤ now := past tick member _ List.mem_cons_self
    rw [timed origin before key entry.2 operation, time] at expired
    rw [gone, recent, visible, Option.filter_some, if_neg]
    · rfl
    · rw [decide_eq_true_iff]
      omega

end

end MqttForwarder.Expiry
