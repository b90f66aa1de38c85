import SubspaceOps.Capability

/-!
# Clock trackers

A tracker holds one counter for each causality key of a subspace. Counters of different keys are
not ordered. Adding a key overwrites its counter, so a late write can move it backwards; an update
reaches only keys that are tracked.
-/
namespace SubspaceOps

/-- A causality key with its counter. -/
structure Clock where
  key : Int
  counter : Int
  deriving DecidableEq, Repr

/-- What a subspace is referred to by. -/
inductive SubspaceRef
  | number (n : Int)
  | text (s : String)
  deriving DecidableEq, Repr

structure ClockTracker where
  subspace : SubspaceRef
  clocks : Table Int Clock

namespace ClockTracker

def new (subspace : SubspaceRef) : ClockTracker := ⟨subspace, .empty⟩

def get? (t : ClockTracker) (key : Int) : Option Clock := t.clocks.get? key

/-- Track a clock under its key, in place of the one that may be there. -/
def add (t : ClockTracker) (c : Clock) : ClockTracker :=
  { t with clocks := t.clocks.put c.key c }

/-- Set the counter of a tracked key; other keys stay untracked. -/
def update (t : ClockTracker) (key counter : Int) : ClockTracker :=
  match t.get? key with
  | some c => { t with clocks := t.clocks.put key ⟨c.key, counter⟩ }
  | none => t

/-- The key of the capability is tracked, its counter is below the expiry, and the mask has a
requested bit. -/
def permits (t : ClockTracker) (c : Capability) (requested : Int) : Bool :=
  match t.get? c.key.toNat with
  | some clock => !c.isExpired clock.counter && c.hasPermission requested
  | none => false

/-- A write to a tracker. -/
inductive Change
  | add (c : Clock)
  | update (key counter : Int)
  deriving DecidableEq, Repr

namespace Change

/-- The key that is written to. -/
def key : Change → Int
  | add c => c.key
  | update key _ => key

/-- The counter that is written. -/
def counter : Change → Int
  | add c => c.counter
  | update _ counter => counter

end Change

def apply (t : ClockTracker) : Change → ClockTracker
  | .add c => t.add c
  | .update key counter => t.update key counter

/-- The tracker after a sequence of writes. -/
def run (t : ClockTracker) (changes : List Change) : ClockTracker := changes.foldl apply t

theorem get?_add (t : ClockTracker) (c : Clock) (key : Int) :
    (t.add c).get? key = if key = c.key then some c else t.get? key :=
  t.clocks.get?_put c.key key c

theorem get?_update (t : ClockTracker) (k counter key : Int) :
    (t.update k counter).get? key =
      if key = k then (t.get? k).map fun c => ⟨c.key, counter⟩ else t.get? key := by
  unfold update
  split
  · next c h =>
    rw [h]
    exact t.clocks.get?_put k key ⟨c.key, counter⟩
  · next h => by_cases hk : key = k <;> simp [hk, h]

end ClockTracker

end SubspaceOps
