import Mathlib.Data.List.ReduceOption
import MqttForwarder.Expiry.Map
import MqttForwarder.Rust.History
import MqttForwarder.SemtechUdp.Backend

/-!
# The lifetime of a cached downlink

`set_downlink_cache` is one section under the lock of the cache, and
`get_downlink_cache` is two: one that cleans and one that reads.  Sections of
other calls may come before and between these two.  Whatever sections there
are, the cache is a map whose entries live for sixty seconds.
-/

namespace MqttForwarder.SemtechUdp

open MqttForwarder.Rust MqttForwarder.Expiry

/-- An operation on the cache, and the clock time that it reads. -/
abbrev CacheTick := Tick UInt16 DownlinkCache

/-- The clock shows `now`. -/
def ClockShows (now : Nat) (e : Env) : Prop := e.now = now

/-- The sections of `set_downlink_cache` and `get_downlink_cache`.  An entry expires sixty seconds
after it has been set, as in `send_downlink_frame`. -/
inductive CacheStep : State → CacheTick → State → Prop where
  | set {s s' : State} {now : Nat} {token : UInt16} {dc : DownlinkCache} {os : List Effect}
      (expires : dc.expire = now + lifetime)
      (run : (State.setDownlinkCache token dc).Exec (ClockShows now) s os s' (.ok ())) :
      CacheStep s ⟨now, .insert token dc⟩ s'
  | clean {s s' : State} {now : Nat} {os : List Effect}
      (run : State.cleanDownlinkCache.Exec (ClockShows now) s os s' (.ok ())) :
      CacheStep s ⟨now, .clean⟩ s'
  | read {s s' : State} {now : Nat} {token : UInt16} {found : Option DownlinkCache}
      {os : List Effect}
      (run : (State.readDownlinkCache token).Exec (ClockShows now) s os s' (.ok found)) :
      CacheStep s ⟨now, .lookup token found⟩ s'

variable {s s' : State} {tick : CacheTick} {ticks : List CacheTick} {conf : Conf}

theorem retain_eq (now : Nat) (cache : UInt16 → Option DownlinkCache) :
    State.retain now cache = Expiry.retain DownlinkCache.expire now cache := by
  funext token
  rw [State.retain, Expiry.retain]
  refine congrArg (Option.filter · (cache token)) (funext fun v => ?_)
  rw [← decide_not]
  exact decide_eq_decide.mpr Nat.not_lt

/-- Every section does to the cache what the operation does to a map whose entries expire. -/
theorem CacheStep.refines (step : CacheStep s tick s') :
    Expiry.Step DownlinkCache.expire s.downlinkCache tick s'.downlinkCache := by
  cases step with
  | set expires run =>
      obtain ⟨e, _, _, _, _, rfl, _⟩ := run
      exact .insert
  | clean run =>
      obtain ⟨e, now, _, _, _, rfl, _⟩ := run
      obtain rfl : e.now = _ := now
      dsimp only
      rw [retain_eq]
      exact .clean
  | read run =>
      obtain ⟨e, _, _, _, _, rfl, result⟩ := run
      cases result
      exact .lookup

theorem CacheStep.timed (step : CacheStep s tick s') {token : UInt16} {dc : DownlinkCache}
    (set : tick.operation = .insert token dc) : dc.expire = tick.now + lifetime := by
  cases step with
  | set expires _ =>
      cases set
      exact expires
  | clean _ => cases set
  | read _ => cases set

theorem timed_of_run (run : Trace CacheStep (State.init conf) ticks s) :
    Expiry.Timed DownlinkCache.expire lifetime ticks := by
  refine run.holds (I := fun ticks _ => Expiry.Timed DownlinkCache.expire lifetime ticks)
    (fun _ member => by cases member) ?_
  intro before s tick s' earlier step other member token dc set
  rcases List.mem_append.mp member with old | new
  · exact earlier other old token dc set
  · obtain rfl := List.mem_singleton.mp new
    exact step.timed set

theorem refines_of_run (run : Trace CacheStep (State.init conf) ticks s) :
    Trace (Expiry.Step DownlinkCache.expire) (fun _ => none) ticks s.downlinkCache := by
  have projected := run.project State.downlinkCache some (fun _ _ _ _ silent => by cases silent)
    fun _ _ _ _ step seen => by
      cases seen
      exact step.refines
  rw [List.filterMap_some] at projected
  exact projected

/-- The clock times of a lookup at `now`, and of what happens during it. -/
def timesOf (now : Nat) (during : List (Option CacheTick)) : List Nat :=
  during.map fun tick => tick.elim now Tick.now

/-- `get_downlink_cache` cleans and then reads, each after some sections of others. -/
theorem sections_of_lookup {now : Nat} {token : UInt16} {found : Option DownlinkCache}
    {during : List (Option CacheTick)}
    (lookup : (State.getDownlinkCache token).Amid (ClockShows now) CacheStep s during s'
      (.ok found)) :
    ∃ first second : List CacheTick,
      during = first.map some ++ none :: (second.map some ++ [none]) ∧
      Trace CacheStep s
        (first ++ ⟨now, .clean⟩ :: (second ++ [⟨now, .lookup token found⟩])) s' := by
  obtain ⟨first, cleaning, e, rest, rfl, before, shows, lookup⟩ := lookup.act
  obtain ⟨second, reading, e', rest', rfl, between, shows', ended⟩ := lookup.act
  cases ended
  refine ⟨first, second, rfl, before.append (.cons (.clean ⟨e, shows, [], rfl, rfl, rfl, rfl⟩) ?_)⟩
  exact between.snoc (.read ⟨e', shows', [], rfl, rfl, rfl, rfl⟩)

theorem latest_clean {now : Nat} (before after : List CacheTick) (token : UInt16) :
    latest (before ++ ⟨now, .clean⟩ :: after) token = latest (before ++ after) token := by
  simp [latest, inserted, List.filterMap_append]

/-- Let `get_downlink_cache` clean and read at one clock time, with sections of any other calls
before it, before its cleaning and before its reading, while the clock does not run backwards.
It finds the entry that has been set last under the token exactly as long as sixty seconds have
not passed since.  A section never removes an entry that is alive, unless another one is set under
its token, and a cleaning leaves no other. -/
theorem downlinkCache_lifetime {before : List CacheTick} {during : List (Option CacheTick)}
    {now : Nat} {token : UInt16} {found : Option DownlinkCache}
    (earlier : Trace CacheStep (State.init conf) before s)
    (lookup : (State.getDownlinkCache token).Amid (ClockShows now) CacheStep s during s'
      (.ok found))
    (ordered : (before.map Tick.now ++ timesOf now during).Pairwise (· ≤ ·)) :
    found = visible lifetime now (latest (before ++ during.reduceOption) token) ∧
      (∀ s tick s', CacheStep s tick s' → ∀ other dc, s.downlinkCache other = some dc →
        tick.now ≤ dc.expire → s'.downlinkCache other = some dc ∨
          ∃ newer, tick.operation = .insert other newer) ∧
      ∀ s time s', CacheStep s ⟨time, .clean⟩ s' → ∀ other dc, s'.downlinkCache other = some dc →
        time ≤ dc.expire := by
  refine ⟨?_, fun s tick s' step other dc cached live => step.refines.keeps cached live,
    fun s time s' step other dc cached => step.refines.cleaned cached⟩
  obtain ⟨first, second, rfl, sections⟩ := sections_of_lookup lookup
  have run := earlier.append sections
  rw [← List.append_assoc, ← List.cons_append, ← List.append_assoc] at run
  obtain ⟨_, sets, _⟩ := run.split
  have inOrder : Ordered
      (before ++ first ++ ⟨now, .clean⟩ :: second ++ [⟨now, .lookup token found⟩]) := by
    rw [Ordered, ← List.pairwise_map (f := Tick.now) (R := (· ≤ ·))]
    simpa [timesOf, Function.comp_def] using ordered
  have shown := lookup_eq_visible (refines_of_run run) (timed_of_run sets) inOrder
  rw [shown, latest_clean, List.append_assoc]
  have told : ∀ ticks : List CacheTick, (ticks.map some).reduceOption = ticks :=
    fun _ => List.filterMap_map.trans List.filterMap_some
  simp [List.reduceOption_append, told]

/-- An entry that is set between the cleaning and the reading of a lookup, and found by it. -/
def setDuringLookup : List (Option CacheTick) :=
  [none, some ⟨lifetime, .insert 1 ⟨lifetime + lifetime, ⟨65537, [], ""⟩, [], 0⟩⟩, none]

/-- An entry is set, and sixty seconds later a lookup of another token cleans. -/
def lookedUpInTime : List CacheTick :=
  [⟨0, .insert 1 ⟨lifetime, ⟨1, [], ""⟩, [], 0⟩⟩, ⟨lifetime, .clean⟩, ⟨lifetime, .lookup 2 none⟩]

theorem downlinkCache_lifetime_in_time :
    ∃ s s', Trace CacheStep (State.init {}) lookedUpInTime s ∧
      (State.getDownlinkCache 1).Amid (ClockShows lifetime) CacheStep s setDuringLookup s'
        (.ok (some ⟨lifetime + lifetime, ⟨65537, [], ""⟩, [], 0⟩)) ∧
      some ⟨lifetime + lifetime, ⟨65537, [], ""⟩, [], 0⟩ =
        visible lifetime lifetime (latest (lookedUpInTime ++ setDuringLookup.reduceOption) 1) := by
  let first : Env := { Env.plain with now := 0 }
  let later : Env := { Env.plain with now := lifetime }
  obtain ⟨s, earlier⟩ : ∃ s, Trace CacheStep (State.init {}) lookedUpInTime s :=
    ⟨_, .snoc (.snoc (.snoc .nil (.set rfl ⟨first, rfl, [], rfl, rfl, rfl, rfl⟩))
      (.clean ⟨later, rfl, [], rfl, rfl, rfl, rfl⟩))
      (.read ⟨later, rfl, [], rfl, rfl, rfl, rfl⟩)⟩
  obtain ⟨s', lookup⟩ : ∃ s', (State.getDownlinkCache 1).Amid (ClockShows lifetime) CacheStep s
      setDuringLookup s' (.ok (some ⟨lifetime + lifetime, ⟨65537, [], ""⟩, [], 0⟩)) :=
    ⟨_, .own later rfl (.other (.set rfl ⟨later, rfl, [], rfl, rfl, rfl, rfl⟩)
      (.own later rfl .done))⟩
  have ordered : (lookedUpInTime.map Tick.now ++ timesOf lifetime setDuringLookup).Pairwise
      (· ≤ ·) := by decide
  exact ⟨s, s', earlier, lookup, (downlinkCache_lifetime earlier lookup ordered).1⟩

end MqttForwarder.SemtechUdp
