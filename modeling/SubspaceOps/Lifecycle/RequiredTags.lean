import SubspaceOps.Envelope.Basic
import SubspaceOps.Rejection

/-!
# Tags that an envelope must have

Lifecycle events are refused when a tag that they depend on is absent or has no value.
-/
namespace SubspaceOps.Envelope

/-- Refuse an envelope without one of the tags, naming the first that is absent. -/
def requireTags (e : Envelope) : List String → Except Fault Unit
  | [] => .ok ()
  | name :: names =>
    if (e.tag? name).isSome then e.requireTags names
    else .error (.rejected (.missingTag name))

theorem requireTags_eq_ok_iff (e : Envelope) (names : List String) :
    e.requireTags names = .ok () ↔ ∀ name ∈ names, (e.tag? name).isSome := by
  induction names with
  | nil => simp [requireTags]
  | cons n ns ih => by_cases h : (e.tag? n).isSome <;> simp [requireTags, h, ih]

end SubspaceOps.Envelope
