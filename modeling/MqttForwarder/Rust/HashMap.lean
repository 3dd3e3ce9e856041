import Mathlib.Data.List.AList

/-!
# Hash maps and counters

A `HashMap` is an association list without duplicate keys.  Only lookups,
insertions and iteration are used, and nothing may depend on the order of the
entries, since the iteration order of a Rust hash map is arbitrary.
-/

namespace MqttForwarder.Rust

/-- `HashMap<K, V>`. -/
abbrev HashMap (κ ν : Type) := AList fun _ : κ => ν

namespace HashMap

variable {κ ν : Type} [DecidableEq κ]

/-- `map.extend(other)`: later entries replace earlier ones. -/
def extend (map other : HashMap κ ν) : HashMap κ ν :=
  other.entries.foldl (fun acc entry => acc.insert entry.1 entry.2) map

/-- `map.entry(k).and_modify(|v| *v += 1).or_insert(1)` on `u32` counters. -/
def bump (map : HashMap κ UInt32) (key : κ) : HashMap κ UInt32 :=
  match map.lookup key with
  | some count => map.insert key (count + 1)
  | none => map.insert key 1

/-- The counter under a key; a missing key has never been counted. -/
def count (map : HashMap κ UInt32) (key : κ) : UInt32 :=
  (map.lookup key).getD 0

/-- A counter grows when its key is counted. -/
theorem count_bump (map : HashMap κ UInt32) (key other : κ) :
    (map.bump key).count other = map.count other + if other = key then 1 else 0 := by
  unfold bump count
  by_cases same : other = key
  · subst same
    rw [if_pos rfl]
    cases counted : map.lookup other with
    | none => simp
    | some value => simp
  · rw [if_neg same, UInt32.add_zero]
    cases map.lookup key with
    | none => simp only [AList.lookup_insert_ne same]
    | some value => simp only [AList.lookup_insert_ne same]

theorem lookup_foldl_insert {entries : List (Sigma fun _ : κ => ν)} (nodup : entries.NodupKeys)
    (map : HashMap κ ν) (key : κ) :
    (entries.foldl (fun acc entry => acc.insert entry.1 entry.2) map).lookup key =
      (entries.dlookup key).or (map.lookup key) := by
  induction entries generalizing map with
  | nil => rfl
  | cons entry rest ih =>
      obtain ⟨fresh, later⟩ := List.nodupKeys_cons.mp nodup
      rw [List.foldl_cons, ih later]
      by_cases same : key = entry.1
      · subst same
        rw [List.dlookup_eq_none.mpr fresh, AList.lookup_insert, List.dlookup_cons_eq]
        rfl
      · rw [AList.lookup_insert_ne same, List.dlookup_cons_ne _ _ same]

/-- An extended map has the entries of the other map, and its own under the other keys. -/
theorem lookup_extend (map other : HashMap κ ν) (key : κ) :
    (map.extend other).lookup key = (other.lookup key).or (map.lookup key) :=
  lookup_foldl_insert other.nodupKeys map key

/-! ## The last write -/

/-- After a loop whose body writes at most one value under a key, the key has the last value
written, or its own. -/
theorem lookup_foldl {α : Type} {step : HashMap κ ν → α → HashMap κ ν} {key : κ}
    {written : α → Option ν}
    (writes : ∀ map x, (step map x).lookup key = (written x).or (map.lookup key)) (xs : List α)
    (map : HashMap κ ν) :
    (xs.foldl step map).lookup key = (xs.filterMap written).getLast?.or (map.lookup key) := by
  induction xs generalizing map with
  | nil => rfl
  | cons x rest ih =>
      rw [List.foldl_cons, ih, writes]
      cases own : written x with
      | none => rw [List.filterMap_cons_none own, Option.none_or]
      | some value =>
          rw [List.filterMap_cons_some own, List.getLast?_cons, Option.some_or]
          cases (rest.filterMap written).getLast? <;> rfl

end HashMap

/-! ## The order of iteration -/

section

variable {α β : Type} {f : α → Option β} {xs : List α}

/-- A value that some item has is the last one in some order. -/
theorem exists_perm_getLast? {a : α} {x : β} (member : a ∈ xs) (value : f a = some x) :
    ∃ ys : List α, ys.Perm xs ∧ (ys.filterMap f).getLast? = some x := by
  obtain ⟨before, after, rfl⟩ := List.append_of_mem member
  refine ⟨before ++ after ++ [a], ?_, ?_⟩
  · rw [List.append_assoc]
    exact (List.perm_append_singleton a after).append_left before
  · rw [List.filterMap_append, List.filterMap_cons_some value, List.filterMap_nil,
      List.getLast?_concat]

/-- The last value, or `own` if there is none, does not depend on the order of the items exactly
when all their values are the same. -/
theorem getLast?_filterMap_perm_iff {own : Option β} :
    (∀ ys zs : List α, ys.Perm xs → zs.Perm xs →
        (ys.filterMap f).getLast?.or own = (zs.filterMap f).getLast?.or own) ↔
      ∀ a ∈ xs, ∀ b ∈ xs, ∀ x y, f a = some x → f b = some y → x = y := by
  constructor
  · intro same a first b second x y now later
    obtain ⟨ys, some, lastA⟩ := exists_perm_getLast? first now
    obtain ⟨zs, other, lastB⟩ := exists_perm_getLast? second later
    have equal := same ys zs some other
    rw [lastA, lastB, Option.some_or, Option.some_or] at equal
    exact Option.some.inj equal
  · intro agree ys zs some other
    have values := (some.trans other.symm).filterMap f
    cases last : (ys.filterMap f).getLast? with
    | none =>
        rw [List.getLast?_eq_none_iff] at last
        rw [last, List.nil_perm] at values
        rw [values, List.getLast?_nil]
    | some x =>
        obtain ⟨a, first, now⟩ := List.mem_filterMap.mp (List.mem_of_getLast? last)
        cases last' : (zs.filterMap f).getLast? with
        | none =>
            rw [List.getLast?_eq_none_iff] at last'
            rw [last', List.perm_nil] at values
            rw [values] at last
            cases last
        | some y =>
            obtain ⟨b, second, later⟩ := List.mem_filterMap.mp (List.mem_of_getLast? last')
            rw [agree a (some.subset first) b (other.subset second) x y now later]

end

end MqttForwarder.Rust
