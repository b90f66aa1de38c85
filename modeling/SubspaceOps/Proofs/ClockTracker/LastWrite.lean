import Mathlib.Data.List.Induction
import SubspaceOps.Proofs.ClockTracker.Serialized

/-!
# The last write to a key

An addition tracks its key and an update reaches only a key that is tracked, so what a write does
depends on the writes before it. After a whole run only two things count for a key: whether it was
ever added, and the counter of the last write to it (`get?_run_new`). So the writes to other keys,
and the clients that leave the key alone, could as well not be there.
-/
namespace SubspaceOps.ClockTracker

variable {subspace : SubspaceRef} {key : Int} {changes : List Change}

/-- The key that a change adds; an update adds none. -/
def Change.addedKey? : Change → Option Int
  | .add c => some c.key
  | .update _ _ => none

theorem Change.key_of_addedKey? {c : Change} (h : c.addedKey? = some key) : c.key = key := by
  cases c with
  | add c => exact Option.some.inj h
  | update _ _ => cases h

/-- The keys that are added, one for each addition. -/
def addedKeys (changes : List Change) : List Int := changes.filterMap Change.addedKey?

/-- The writes to a key, whatever their form. -/
def writesTo (key : Int) (changes : List Change) : List Change := changes.filter (·.key = key)

/-- What a key is left with: nothing unless it was added, else the counter of the last write. -/
def lastClock? (key : Int) (changes : List Change) : Option Clock :=
  if key ∈ addedKeys changes then
    (writesTo key changes).getLast?.map fun c => ⟨key, c.counter⟩
  else none

theorem exists_lastClock? (h : key ∈ addedKeys changes) :
    ∃ c, (writesTo key changes).getLast? = some c ∧
      lastClock? key changes = some ⟨key, c.counter⟩ := by
  obtain ⟨c, mem, adds⟩ := List.mem_filterMap.1 h
  have written : writesTo key changes ≠ [] :=
    List.ne_nil_of_mem (List.mem_filter.2 ⟨mem, decide_eq_true (Change.key_of_addedKey? adds)⟩)
  have last := List.getLast?_eq_some_getLast written
  exact ⟨_, last, by rw [lastClock?, if_pos h, last]; rfl⟩

/-! ## One more write -/

theorem addedKeys_concat (changes : List Change) (c : Change) :
    addedKeys (changes ++ [c]) = addedKeys changes ++ c.addedKey?.toList := by
  rw [addedKeys, List.filterMap_append]
  cases c <;> rfl

theorem writesTo_concat (key : Int) (changes : List Change) (c : Change) :
    writesTo key (changes ++ [c]) =
      if c.key = key then writesTo key changes ++ [c] else writesTo key changes := by
  by_cases h : c.key = key <;> simp [writesTo, h]

theorem mem_addedKeys_concat {c : Change} :
    key ∈ addedKeys (changes ++ [c]) ↔ key ∈ addedKeys changes ∨ c.addedKey? = some key := by
  simp [addedKeys_concat, Option.mem_toList]

theorem lastClock?_add (changes : List Change) (c : Clock) :
    lastClock? c.key (changes ++ [.add c]) = some c := by
  have added : c.key ∈ addedKeys (changes ++ [.add c]) := mem_addedKeys_concat.2 (.inr rfl)
  have last : writesTo c.key (changes ++ [.add c]) = writesTo c.key changes ++ [.add c] := by
    rw [writesTo_concat, if_pos (show (Change.add c).key = c.key from rfl)]
  rw [lastClock?, if_pos added, last, List.getLast?_concat]
  rfl

theorem lastClock?_update (changes : List Change) (key counter : Int) :
    lastClock? key (changes ++ [.update key counter]) =
      (lastClock? key changes).map fun c => ⟨c.key, counter⟩ := by
  have added : key ∈ addedKeys (changes ++ [.update key counter]) ↔ key ∈ addedKeys changes := by
    simp [mem_addedKeys_concat, Change.addedKey?]
  have last : writesTo key (changes ++ [.update key counter]) =
      writesTo key changes ++ [.update key counter] := by
    rw [writesTo_concat, if_pos (show (Change.update key counter).key = key from rfl)]
  by_cases h : key ∈ addedKeys changes
  · obtain ⟨c, -, before⟩ := exists_lastClock? h
    rw [lastClock?, if_pos (added.2 h), last, List.getLast?_concat, before]
    rfl
  · rw [lastClock?, lastClock?, if_neg (mt added.1 h), if_neg h]
    rfl

theorem lastClock?_of_ne {c : Change} (h : c.key ≠ key) (changes : List Change) :
    lastClock? key (changes ++ [c]) = lastClock? key changes := by
  have added : key ∈ addedKeys (changes ++ [c]) ↔ key ∈ addedKeys changes := by
    rw [mem_addedKeys_concat]
    exact ⟨fun mem => mem.resolve_right fun adds => h (Change.key_of_addedKey? adds), .inl⟩
  simp only [lastClock?, added, writesTo_concat, if_neg h]

/-! ## The whole run -/

theorem get?_run_new (subspace : SubspaceRef) (changes : List Change) :
    ∀ key, (run (new subspace) changes).get? key = lastClock? key changes := by
  induction changes using List.reverseRecOn with
  | nil =>
    intro key
    rfl
  | append_singleton changes c ih =>
    intro key
    rw [run_append]
    change ((run (new subspace) changes).apply c).get? key = _
    by_cases h : c.key = key
    · subst h
      cases c with
      | add c =>
        change (add _ c).get? c.key = lastClock? c.key _
        rw [get?_add, if_pos rfl, lastClock?_add]
      | update key counter =>
        change (update _ key counter).get? key = lastClock? key _
        rw [get?_update, if_pos rfl, ih, lastClock?_update]
    · rw [lastClock?_of_ne h, ← ih]
      cases c with
      | add c => exact (get?_add _ c key).trans (if_neg (Ne.symm h))
      | update k counter => exact (get?_update _ k counter key).trans (if_neg (Ne.symm h))

-- An update before the addition is lost; a late addition moves the counter back.
example : (run (new (.text "s")) [.update 1 9, .add ⟨1, 2⟩, .update 1 5, .add ⟨1, 3⟩]).get? 1 =
    some ⟨1, 3⟩ := by decide

theorem keys_add (t : ClockTracker) (c : Clock) :
    (t.add c).clocks.keys =
      if c.key ∈ t.clocks.keys then t.clocks.keys else t.clocks.keys ++ [c.key] :=
  t.clocks.keys_put c.key c

theorem keys_update (t : ClockTracker) (key counter : Int) :
    (t.update key counter).clocks.keys = t.clocks.keys := by
  unfold update
  split
  · next c h =>
    have tracked : key ∈ t.clocks.keys := Table.mem_keys_iff.2 ⟨c, h⟩
    exact (t.clocks.keys_put key _).trans (if_pos tracked)
  · rfl

/-- The tracked keys stand in the order in which they were first added. -/
theorem keys_run_new (subspace : SubspaceRef) (changes : List Change) :
    (run (new subspace) changes).clocks.keys = (addedKeys changes).eraseDups := by
  induction changes using List.reverseRecOn with
  | nil => rfl
  | append_singleton changes c ih =>
    rw [run_append, addedKeys_concat, List.eraseDups_append]
    change ((run (new subspace) changes).apply c).clocks.keys = _
    cases c with
    | add c =>
      change (add _ c).clocks.keys = _ ++ ([c.key].removeAll _).eraseDups
      by_cases h : c.key ∈ addedKeys changes <;>
        simp [keys_add, ih, List.removeAll, List.eraseDups_cons, h]
    | update key counter =>
      change (update _ key counter).clocks.keys = _ ++ (([] : List Int).removeAll _).eraseDups
      rw [keys_update, ih]
      simp [List.removeAll]

theorem key_of_mem_entries {e : Int × Clock}
    (h : e ∈ (run (new subspace) changes).clocks.entries) : e.2.key = e.1 := by
  have found : lastClock? e.1 changes = some e.2 := by
    rw [← get?_run_new subspace]
    exact Table.get?_eq_some_iff.2 h
  unfold lastClock? at found
  split at found
  · obtain ⟨c, -, hc⟩ := Option.map_eq_some_iff.1 found
    rw [← hc]
  · cases found

/-! ## What a key does not depend on -/

theorem addedKeys_writesTo (changes : List Change) (key : Int) :
    key ∈ addedKeys (writesTo key changes) ↔ key ∈ addedKeys changes := by
  simp only [addedKeys, writesTo, List.mem_filterMap, List.mem_filter, decide_eq_true_eq]
  constructor
  · rintro ⟨c, ⟨mem, -⟩, adds⟩
    exact ⟨c, mem, adds⟩
  · rintro ⟨c, mem, adds⟩
    exact ⟨c, ⟨mem, Change.key_of_addedKey? adds⟩, adds⟩

/-- The writes to a key say what it is left with; the others do not count. -/
theorem lastClock?_congr {others : List Change}
    (h : writesTo key others = writesTo key changes) :
    lastClock? key others = lastClock? key changes := by
  have added : key ∈ addedKeys others ↔ key ∈ addedKeys changes := by
    rw [← addedKeys_writesTo others, h, addedKeys_writesTo]
  simp only [lastClock?, added, h]

section Clients

variable {ι : Type} [DecidableEq ι] {schedule : List (ι × Change)} {client : ι}

theorem writesTo_changesOf (own : ∀ e ∈ schedule, e.2.key = key → e.1 = client) :
    writesTo key (changesOf client schedule) = writesTo key (schedule.map Prod.snd) := by
  unfold writesTo changesOf
  rw [List.filter_map, List.filter_map, List.filter_filter]
  congr 1
  refine List.filter_congr fun e mem => ?_
  by_cases h : e.2.key = key
  · simp [h, own e mem h]
  · simp [h]

theorem mem_changesOf {e : ι × Change} (mem : e ∈ schedule) : e.2 ∈ changesOf e.1 schedule :=
  List.mem_map_of_mem (List.mem_filter.2 ⟨mem, decide_eq_true rfl⟩)

/-- A key that one client has for itself ends as if this client had run alone. -/
theorem get?_run_changesOf {programs : ι → List Change}
    (interleaved : ∀ i, changesOf i schedule = programs i)
    (own : ∀ i, i ≠ client → ∀ c ∈ programs i, c.key ≠ key) :
    (run (new subspace) (schedule.map Prod.snd)).get? key =
      (run (new subspace) (programs client)).get? key := by
  have owned : ∀ e ∈ schedule, e.2.key = key → e.1 = client := by
    intro e mem writes
    by_contra other
    exact own e.1 other e.2 (interleaved e.1 ▸ mem_changesOf mem) writes
  rw [get?_run_new, get?_run_new, ← interleaved client]
  exact (lastClock?_congr (writesTo_changesOf owned)).symm

end Clients

/-- The last write to a key decides. After any run from a new tracker a key that was never added
has no clock, and any other has the counter of the last write to it; the keys are listed as they
were first added, each clock under its own key, and what a key has depends on the writes to it
alone. Any number of clients may have made the run, one write at a time: a key that one of them has
for itself ends as if that client had run alone. Clients that share the tracker under one lock do
write one at a time: they end with the runs of the interleavings of their programs and no others. -/
theorem lastWrite_decides (subspace : SubspaceRef) :
    (∀ changes : List Change,
      (∀ key, key ∉ addedKeys changes → (run (new subspace) changes).get? key = none) ∧
      (∀ key, key ∈ addedKeys changes → ∃ c, (writesTo key changes).getLast? = some c ∧
        (run (new subspace) changes).get? key = some ⟨key, c.counter⟩) ∧
      (run (new subspace) changes).clocks.keys = (addedKeys changes).eraseDups ∧
      (∀ e ∈ (run (new subspace) changes).clocks.entries, e.2.key = e.1) ∧
      ∀ key others, writesTo key others = writesTo key changes →
        (run (new subspace) others).get? key = (run (new subspace) changes).get? key) ∧
    ∀ (ι : Type) [DecidableEq ι] (programs : ι → List Change),
      (∀ schedule, (∀ i, changesOf i schedule = programs i) →
        ∀ client key, (∀ i, i ≠ client → ∀ c ∈ programs i, c.key ≠ key) →
          (run (new subspace) (schedule.map Prod.snd)).get? key =
            (run (new subspace) (programs client)).get? key) ∧
      ∀ t, (∃ s, Shared.Reachable (new subspace) programs s ∧ (∀ i, (s.clients i).calls = []) ∧
          s.tracker = t) ↔
        ∃ schedule, (∀ i, changesOf i schedule = programs i) ∧
          t = run (new subspace) (schedule.map Prod.snd) := by
  refine ⟨fun changes => ⟨fun key h => ?_, fun key h => ?_, keys_run_new subspace changes,
    fun e => key_of_mem_entries, fun key others h => ?_⟩, fun ι _ programs => ⟨?_, ?_⟩⟩
  · rw [get?_run_new, lastClock?, if_neg h]
  · rw [get?_run_new]
    exact exists_lastClock? h
  · rw [get?_run_new, get?_run_new]
    exact lastClock?_congr h
  · intro schedule interleaved client key own
    exact get?_run_changesOf interleaved own
  · intro t
    constructor
    · rintro ⟨s, reachable, returned, rfl⟩
      obtain ⟨schedule, tracker, -, whole⟩ := Shared.exists_schedule_of_reachable reachable
      exact ⟨schedule, whole returned, tracker⟩
    · rintro ⟨schedule, interleaved, rfl⟩
      have nothing_left : ∀ i, programs i = changesOf i schedule ++ (fun _ => []) i := by
        intro i
        rw [interleaved i, List.append_nil]
      exact ⟨_, Shared.reachable_of_schedule nothing_left, fun _ => rfl, rfl⟩

end SubspaceOps.ClockTracker
