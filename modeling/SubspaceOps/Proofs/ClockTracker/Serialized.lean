import Mathlib.Data.List.Induction
import Mathlib.Logic.Function.Basic
import Mathlib.Logic.Relation
import SubspaceOps.ClockTracker

/-!
# A tracker shared under one lock

Any number of clients write to one tracker. A write takes the lock, does its part on the table and
gives the lock back; an update does its part in two steps, since it looks its key up before it
writes. Between any two steps of one client the others may take theirs. The lock makes each write
one step all the same: whatever the clients do, the tracker is what the writes leave when they are
applied one after the other in an order that each client's program is a part of
(`exists_schedule_of_reachable`).
-/
namespace SubspaceOps.ClockTracker

variable {ι : Type} [DecidableEq ι]

/-! ## Schedules -/

theorem run_append (t : ClockTracker) (changes more : List Change) :
    t.run (changes ++ more) = (t.run changes).run more :=
  List.foldl_append

/-- The changes of one client, out of the changes of all. -/
def changesOf (client : ι) (schedule : List (ι × Change)) : List Change :=
  (schedule.filter (·.1 = client)).map Prod.snd

theorem changesOf_append (client i : ι) (schedule : List (ι × Change)) (added : List Change) :
    changesOf client (schedule ++ added.map (i, ·)) =
      if client = i then changesOf client schedule ++ added else changesOf client schedule := by
  by_cases h : client = i
  · subst h
    simp [changesOf, List.filter_map, Function.comp_def]
  · have other : ¬i = client := Ne.symm h
    simp [changesOf, List.filter_map, Function.comp_def, h, other]

/-! ## Clients, a lock and a table -/

/-- The second half of an update, which writes to the clock that the first half found. -/
def writeFound (t : ClockTracker) (key counter : Int) : Option Clock → ClockTracker
  | some c => { t with clocks := t.clocks.put key ⟨c.key, counter⟩ }
  | none => t

theorem update_eq_writeFound (t : ClockTracker) (key counter : Int) :
    t.update key counter = t.writeFound key counter (t.get? key) := by
  unfold update writeFound
  cases t.get? key <;> rfl

/-- How far a client is with the first of its calls. -/
inductive Stage
  | outside
  | entered
  | looked (found : Option Clock)
  | written

/-- A client with the calls that it has not returned from. -/
structure Client where
  stage : Stage
  calls : List Change

/-- The calls that have not written yet. -/
def Client.pending (c : Client) : List Change :=
  match c.stage with
  | .written => c.calls.tail
  | _ => c.calls

/-- A tracker, the client that has its lock, and the clients. -/
structure Shared (ι : Type) where
  tracker : ClockTracker
  lock : Option ι
  clients : ι → Client

namespace Shared

/-- All clients are before their programs, and the lock is free. -/
def start (t : ClockTracker) (programs : ι → List Change) : Shared ι :=
  ⟨t, none, fun i => ⟨.outside, programs i⟩⟩

/-- The state with another client in the place of one. -/
def set (s : Shared ι) (i : ι) (c : Client) : Shared ι :=
  { s with clients := Function.update s.clients i c }

/-- One step of one client. -/
inductive Step (s : Shared ι) (i : ι) : Shared ι → Prop
  | acquire {change : Change} {calls : List Change} (free : s.lock = none)
      (outside : s.clients i = ⟨.outside, change :: calls⟩) :
      Step s i { s.set i ⟨.entered, change :: calls⟩ with lock := some i }
  | add {c : Clock} {calls : List Change} (entered : s.clients i = ⟨.entered, .add c :: calls⟩) :
      Step s i { s.set i ⟨.written, .add c :: calls⟩ with tracker := s.tracker.add c }
  | look {key counter : Int} {calls : List Change}
      (entered : s.clients i = ⟨.entered, .update key counter :: calls⟩) :
      Step s i (s.set i ⟨.looked (s.tracker.get? key), .update key counter :: calls⟩)
  | write {key counter : Int} {found : Option Clock} {calls : List Change}
      (looked : s.clients i = ⟨.looked found, .update key counter :: calls⟩) :
      Step s i { s.set i ⟨.written, .update key counter :: calls⟩ with
        tracker := s.tracker.writeFound key counter found }
  | release {change : Change} {calls : List Change}
      (written : s.clients i = ⟨.written, change :: calls⟩) :
      Step s i { s.set i ⟨.outside, calls⟩ with lock := none }

/-- The clients can come from their programs to this state. -/
def Reachable (t : ClockTracker) (programs : ι → List Change) : Shared ι → Prop :=
  Relation.ReflTransGen (fun s s' => ∃ i, Step s i s') (start t programs)

/-! ## One order of all writes -/

variable {t : ClockTracker} {programs : ι → List Change} {schedule : List (ι × Change)}
  {s s' : Shared ι} {i : ι}

/-- The tracker is the run of a schedule, to which each client has added what its program says so
far; only the client with the lock is inside a call, and what it has looked up still holds. -/
structure Serialized (t : ClockTracker) (programs : ι → List Change)
    (schedule : List (ι × Change)) (s : Shared ι) : Prop where
  tracker : s.tracker = t.run (schedule.map Prod.snd)
  programs : ∀ i, programs i = changesOf i schedule ++ (s.clients i).pending
  alone : ∀ i, (s.clients i).stage ≠ .outside → s.lock = some i
  current : ∀ i found key counter calls,
    s.clients i = ⟨.looked found, .update key counter :: calls⟩ → found = s.tracker.get? key

theorem serialized_start : Serialized t programs [] (start t programs) where
  tracker := rfl
  programs := fun _ => rfl
  alone := fun _ h => (h rfl).elim
  current := by
    intro i found key counter calls h
    cases h

theorem Serialized.others_outside (h : Serialized t programs schedule s) (step : Step s i s')
    {j : ι} (hj : j ≠ i) : (s.clients j).stage = .outside := by
  by_contra inside
  have locked : s.lock = some j := h.alone j inside
  have holds (inside : (s.clients i).stage ≠ .outside) : False := by
    have := (h.alone i inside).symm.trans locked
    exact hj (Option.some.inj this).symm
  cases step with
  | acquire free _ => cases free.symm.trans locked
  | add entered => exact holds (by simp [entered])
  | look entered => exact holds (by simp [entered])
  | write looked => exact holds (by simp [looked])
  | release written => exact holds (by simp [written])

/-- A client comes to a new place, and to the schedule goes what it has written on the way. -/
theorem Serialized.advance (h : Serialized t programs schedule s)
    (others : ∀ j, j ≠ i → (s.clients j).stage = .outside) (added : List Change) {c : Client}
    {lock : Option ι} (pending : (s.clients i).pending = added ++ c.pending)
    (alone : c.stage ≠ .outside → lock = some i)
    (current : ∀ found key counter calls, c = ⟨.looked found, .update key counter :: calls⟩ →
      found = (s.tracker.run added).get? key) :
    Serialized t programs (schedule ++ added.map (i, ·))
      ⟨s.tracker.run added, lock, Function.update s.clients i c⟩ := by
  refine ⟨?_, fun j => ?_, fun j hj => ?_, fun j found key counter calls hj => ?_⟩
  · have writes : (added.map (i, ·)).map Prod.snd = added := by simp [Function.comp_def]
    rw [List.map_append, writes, run_append, h.tracker]
  · rw [changesOf_append, h.programs j]
    by_cases hj : j = i
    · subst hj
      simp [pending]
    · simp [hj]
  · by_cases hji : j = i
    · subst hji
      exact alone (by simpa using hj)
    · simp only [Function.update_of_ne hji] at hj
      exact (hj (others j hji)).elim
  · by_cases hji : j = i
    · subst hji
      exact current found key counter calls (by simpa using hj)
    · simp only [Function.update_of_ne hji] at hj
      have outside := others j hji
      rw [hj] at outside
      cases outside

/-- What a step keeps: the writing step of a call adds the call to the schedule. -/
theorem Serialized.exists_of_step (h : Serialized t programs schedule s) (step : Step s i s') :
    ∃ added, Serialized t programs (schedule ++ added) s' := by
  have others : ∀ j, j ≠ i → (s.clients j).stage = .outside := fun j hj =>
    h.others_outside step hj
  cases step with
  | acquire free outside =>
    exact ⟨_, h.advance others [] (by simp [outside, Client.pending]) (fun _ => rfl) nofun⟩
  | @add c calls entered =>
    have lock : s.lock = some i := h.alone i (by simp [entered])
    exact ⟨_, h.advance others [.add c] (by simp [entered, Client.pending])
      (fun _ => lock) nofun⟩
  | @look key counter calls entered =>
    have lock : s.lock = some i := h.alone i (by simp [entered])
    refine ⟨_, h.advance others [] (by simp [entered, Client.pending])
      (fun _ => lock) ?_⟩
    rintro found key' counter' calls' ⟨⟩
    rfl
  | @write key counter found calls looked =>
    have lock : s.lock = some i := h.alone i (by simp [looked])
    have written : s.tracker.writeFound key counter found = s.tracker.update key counter := by
      rw [update_eq_writeFound, h.current i found key counter calls looked]
    rw [written]
    exact ⟨_, h.advance others [.update key counter]
      (by simp [looked, Client.pending]) (fun _ => lock) nofun⟩
  | release written =>
    exact ⟨_, h.advance others [] (by simp [written, Client.pending])
      (fun inside => (inside rfl).elim) nofun⟩

/-- Whatever the clients do, the tracker is the run of a schedule that has, of each client, a part
of its program from the start; when all have returned from all calls it has the whole programs. -/
theorem exists_schedule_of_reachable (h : Reachable t programs s) :
    ∃ schedule, s.tracker = t.run (schedule.map Prod.snd) ∧
      (∀ i, changesOf i schedule <+: programs i) ∧
        ((∀ i, (s.clients i).calls = []) → ∀ i, changesOf i schedule = programs i) := by
  have serialized : ∃ schedule, Serialized t programs schedule s := by
    induction h with
    | refl => exact ⟨[], serialized_start⟩
    | tail _ step ih =>
      obtain ⟨schedule, h⟩ := ih
      obtain ⟨i, step⟩ := step
      obtain ⟨added, h'⟩ := h.exists_of_step step
      exact ⟨schedule ++ added, h'⟩
  obtain ⟨schedule, h⟩ := serialized
  refine ⟨schedule, h.tracker, fun i => ⟨_, (h.programs i).symm⟩, fun returned i => ?_⟩
  have none_pending : (s.clients i).pending = [] := by
    unfold Client.pending
    split <;> simp [returned i]
  rw [h.programs i, none_pending, List.append_nil]

/-! ## Every order is possible -/

theorem Reachable.call {change : Change} {calls : List Change} (h : Reachable t programs s)
    (free : s.lock = none) (outside : s.clients i = ⟨.outside, change :: calls⟩) :
    Reachable t programs
      ⟨s.tracker.apply change, none, Function.update s.clients i ⟨.outside, calls⟩⟩ := by
  have entered := h.tail ⟨i, .acquire free outside⟩
  cases change with
  | add c =>
    have written := entered.tail ⟨i, .add (Function.update_self ..)⟩
    have returned := written.tail ⟨i, .release (Function.update_self ..)⟩
    simpa [set, Reachable, apply] using returned
  | update key counter =>
    have looked := entered.tail ⟨i, .look (Function.update_self ..)⟩
    have written := looked.tail ⟨i, .write (Function.update_self ..)⟩
    have returned := written.tail ⟨i, .release (Function.update_self ..)⟩
    have update : s.tracker.apply (.update key counter) =
        s.tracker.writeFound key counter (s.tracker.get? key) := update_eq_writeFound ..
    rw [update]
    simpa [set, Reachable] using returned

/-- The clients can make their calls in the order of any schedule of their programs. -/
theorem reachable_of_schedule {rest : ι → List Change}
    (interleaved : ∀ i, programs i = changesOf i schedule ++ rest i) :
    Reachable t programs ⟨t.run (schedule.map Prod.snd), none, fun i => ⟨.outside, rest i⟩⟩ := by
  induction schedule using List.reverseRecOn generalizing rest with
  | nil =>
    have same : programs = rest := funext interleaved
    rw [same]
    exact .refl
  | append_singleton schedule e ih =>
    -- The client of the last write has that write still before it.
    have before : ∀ i, programs i =
        changesOf i schedule ++ Function.update rest e.1 (e.2 :: rest e.1) i := by
      intro i
      rw [interleaved i, show [e] = [e.2].map (e.1, ·) from rfl, changesOf_append]
      by_cases h : i = e.1
      · subst h
        simp
      · simp [h]
    have at_call : Client.mk .outside (Function.update rest e.1 (e.2 :: rest e.1) e.1) =
        ⟨.outside, e.2 :: rest e.1⟩ := by rw [Function.update_self]
    have called := (ih before).call (i := e.1) rfl at_call
    have clients : Function.update (fun i => Client.mk .outside
        (Function.update rest e.1 (e.2 :: rest e.1) i)) e.1 ⟨.outside, rest e.1⟩ =
          fun i => ⟨.outside, rest i⟩ := by
      funext i
      by_cases h : i = e.1
      · subst h
        simp
      · simp [h]
    rw [clients] at called
    rw [List.map_append, run_append]
    exact called

end Shared

end SubspaceOps.ClockTracker
