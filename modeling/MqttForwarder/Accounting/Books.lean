import Mathlib.Algebra.GroupWithZero.Nat
import Mathlib.Algebra.BigOperators.Group.List.Lemmas
import Mathlib.Data.List.Count
import MqttForwarder.Rust.HashMap

/-!
# Tallies and books

A tally is a map of `u32` counters that counts the occurrences of each key in
a list.  Books divide what has been entered into periods: closing them ends the
current period, and nothing that has been entered is in no period or in two.
-/

namespace MqttForwarder.Accounting

open MqttForwarder.Rust

/-! ## Tallies -/

section

variable {κ : Type} [DecidableEq κ]

/-- The map counts how often each key occurs in the list. -/
def Tallies (map : HashMap κ UInt32) (keys : List κ) : Prop :=
  ∀ key, map.lookup key = if key ∈ keys then some (UInt32.ofNat (keys.count key)) else none

/-- The sum of the counters of a map. -/
def total (map : HashMap κ UInt32) : Nat :=
  (map.entries.map fun entry => entry.2.toNat).sum

variable {map : HashMap κ UInt32} {keys : List κ}

theorem tallies_empty : Tallies (∅ : HashMap κ UInt32) [] := fun _ => rfl

theorem Tallies.bump (tallies : Tallies map keys) (key : κ) :
    Tallies (HashMap.bump map key) (keys ++ [key]) := by
  intro other
  have now := tallies key
  unfold HashMap.bump
  by_cases same : other = key
  · subst same
    by_cases known : other ∈ keys
    · rw [if_pos known] at now
      simp [now, UInt32.ofNat_add]
    · rw [if_neg known] at now
      simp [now, List.count_eq_zero.mpr known]
  · have apart : (map.lookup other) =
        if other ∈ keys ++ [key] then some (UInt32.ofNat ((keys ++ [key]).count other))
        else none := by
      rw [tallies other]
      simp [same, Ne.symm same]
    rw [← apart]
    cases map.lookup key <;> exact AList.lookup_insert_ne same

theorem Tallies.count (tallies : Tallies map keys) (key : κ) :
    HashMap.count map key = UInt32.ofNat (keys.count key) := by
  unfold HashMap.count
  rw [tallies key]
  split
  · rfl
  · next unknown => rw [List.count_eq_zero.mpr unknown]; rfl

theorem toNat_ofNat_of_le {count length : Nat} (le : count ≤ length) (few : length < 2 ^ 32) :
    (UInt32.ofNat count).toNat = count := by
  rw [UInt32.toNat_ofNat']
  exact Nat.mod_eq_of_lt (by omega)

theorem Tallies.toNat_count (tallies : Tallies map keys) (few : keys.length < 2 ^ 32) (key : κ) :
    (HashMap.count map key).toNat = keys.count key := by
  rw [tallies.count key]
  exact toNat_ofNat_of_le List.count_le_length few

theorem Tallies.mem_keys (tallies : Tallies map keys) (key : κ) : key ∈ map.keys ↔ key ∈ keys := by
  rw [← AList.mem_keys, ← AList.lookup_isSome, tallies key]
  split <;> simp_all

/-- Every entry of the map is the count of its key. -/
theorem Tallies.mem_entries (tallies : Tallies map keys) {key : κ} {count : UInt32} :
    ⟨key, count⟩ ∈ map.entries ↔ key ∈ keys ∧ count = UInt32.ofNat (keys.count key) := by
  rw [← AList.mem_lookup_iff, Option.mem_def, tallies key]
  split <;> simp_all [eq_comm]

/-- The entries of a tally of keys that are written in another form. -/
theorem Tallies.mem_entries_map {α : Type} [DecidableEq α] {items : List α} {form : α → κ}
    (tallies : Tallies map (items.map form)) (injective : Function.Injective form)
    (entry : Sigma fun _ : κ => UInt32) :
    entry ∈ map.entries ↔
      ∃ item ∈ items, entry = ⟨form item, UInt32.ofNat (items.count item)⟩ := by
  obtain ⟨key, count⟩ := entry
  rw [tallies.mem_entries]
  constructor
  · rintro ⟨known, rfl⟩
    obtain ⟨item, member, rfl⟩ := List.mem_map.mp known
    rw [List.count_map_of_injective _ _ injective]
    exact ⟨item, member, rfl⟩
  · rintro ⟨item, member, same⟩
    cases same
    exact ⟨List.mem_map_of_mem member, by rw [List.count_map_of_injective _ _ injective]⟩

/-- The counters add up to the length of the list. -/
theorem Tallies.total (tallies : Tallies map keys) (few : keys.length < 2 ^ 32) :
    total map = keys.length := by
  have counters : map.entries.map (fun entry => entry.2.toNat) =
      map.entries.map fun entry => keys.count entry.1 := by
    refine List.map_congr_left fun entry member => ?_
    rw [(tallies.mem_entries.mp member).2]
    exact toNat_ofNat_of_le List.count_le_length few
  have same : map.keys.Perm keys.dedup := by
    refine (List.perm_ext_iff_of_nodup map.keys_nodup keys.nodup_dedup).mpr fun key => ?_
    rw [tallies.mem_keys, List.mem_dedup]
  calc Accounting.total map
      = (map.keys.map fun key => keys.count key).sum := by
        rw [Accounting.total, counters, AList.keys, List.keys, List.map_map]
        rfl
    _ = (keys.dedup.map fun key => keys.count key).sum := (same.map _).sum_eq
    _ = keys.length := List.sum_map_count_dedup_eq_length keys

theorem Tallies.extend_empty (tallies : Tallies map keys) :
    Tallies (HashMap.extend ∅ map) keys := by
  intro key
  rw [HashMap.lookup_extend, AList.lookup_empty, Option.or_none]
  exact tallies key

end

/-! ## Books -/

/-- What has been entered in the periods that are closed, and in the current one. -/
structure Books (α : Type) where
  closed : List (List α) := []
  current : List α := []

/-- An event of the books. -/
inductive Posting (α : Type) where
  | enter (items : List α)
  | close

/-- What the event enters. -/
def Posting.items {α : Type} : Posting α → List α
  | enter items => items
  | close => []

namespace Books

variable {α β : Type}

def post (books : Books α) : Posting α → Books α
  | .enter items => { books with current := books.current ++ items }
  | .close => { closed := books.closed ++ [books.current] }

/-- The books after some events. -/
def keep (postings : List (Posting α)) : Books α := postings.foldl post {}

/-- Everything that has been entered, in order. -/
def all (books : Books α) : List α := books.closed.flatten ++ books.current

theorem keep_append_singleton (postings : List (Posting α)) (posting : Posting α) :
    keep (postings ++ [posting]) = (keep postings).post posting := by
  simp [keep]

theorem all_post (books : Books α) (posting : Posting α) :
    (books.post posting).all = books.all ++ posting.items := by
  cases posting <;> simp [post, all, Posting.items]

/-- The books contain what their events entered. -/
theorem all_keep (postings : List (Posting α)) :
    (keep postings).all = postings.flatMap Posting.items := by
  induction postings using List.reverseRecOn with
  | nil => rfl
  | append_singleton postings posting ih =>
      rw [keep_append_singleton, all_post, ih]
      simp

theorem keep_append (first second : List (Posting α)) :
    keep (first ++ second) = second.foldl post (keep first) :=
  List.foldl_append

/-- Every period has fewer than `n` items. -/
structure Within (n : Nat) (books : Books α) : Prop where
  closed : ∀ period ∈ books.closed, period.length < n
  current : books.current.length < n

/-- The books of what `f` makes of the items. -/
def filterMap (f : α → Option β) (books : Books α) : Books β where
  closed := books.closed.map (List.filterMap f)
  current := books.current.filterMap f

theorem all_filterMap (f : α → Option β) (books : Books α) :
    (books.filterMap f).all = books.all.filterMap f := by
  simp [all, filterMap, List.filterMap_flatten]

theorem Within.filterMap {n : Nat} {books : Books α} (within : books.Within n)
    (f : α → Option β) : (books.filterMap f).Within n := by
  constructor
  · intro period member
    obtain ⟨whole, inside, rfl⟩ := List.mem_map.mp member
    exact (List.length_filterMap_le f whole).trans_lt (within.closed whole inside)
  · exact (List.length_filterMap_le f books.current).trans_lt within.current

theorem current_length_le (books : Books α) : books.current.length ≤ books.all.length := by
  simp [all]

theorem length_le_of_mem_closed {books : Books α} {period : List α}
    (member : period ∈ books.closed) : period.length ≤ books.all.length := by
  have inside := (List.sublist_flatten_of_mem member).length_le
  rw [all, List.length_append]
  omega

theorem within_of_all {n : Nat} {books : Books α} (few : books.all.length < n) : books.Within n :=
  ⟨fun _ member => (length_le_of_mem_closed member).trans_lt few,
    books.current_length_le.trans_lt few⟩

/-- What the periods contain of some items adds up to what has been entered of them. -/
theorem sum_countP (books : Books α) (p : α → Bool) :
    (books.closed.map fun period => period.countP p).sum + books.current.countP p =
      books.all.countP p := by
  rw [all, List.countP_append, List.countP_flatten]

/-- The reports of the closed periods and the current one add up. -/
theorem sum_reports {books : Books α} {reports : List β} {reported : β → Nat} {p : α → Bool}
    (exact : List.Forall₂ (fun report period => reported report = period.countP p) reports
      books.closed) :
    (reports.map reported).sum + books.current.countP p = books.all.countP p := by
  rw [← books.sum_countP p]
  congr 2
  generalize books.closed = closed at exact
  induction exact with
  | nil => rfl
  | cons first _ ih => rw [List.map_cons, List.map_cons, first, ih]

end Books

end MqttForwarder.Accounting
