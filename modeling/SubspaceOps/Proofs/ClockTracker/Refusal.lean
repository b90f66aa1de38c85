import SubspaceOps.ClockTracker

/-!
# Refusals that stay

A tracked key stays tracked, and only a write to the key itself changes its counter. So while no
write to the key goes below the stored counter, the counter never falls
(`exists_counter_le_of_forward`). The mask of a capability never changes, and it is permitted below
its expiry only: what is refused stays refused (`refused_of_forward`).
-/
namespace SubspaceOps.ClockTracker

variable {t : ClockTracker} {key requested : Int} {clock : Clock} {changes : List Change}
  {c : Capability}

theorem permits_eq_true_iff : t.permits c requested = true ↔
    ∃ clock, t.get? c.key.toNat = some clock ∧ clock.counter < c.expiry.toNat ∧
      c.hasPermission requested = true := by
  unfold permits
  cases t.get? c.key.toNat with
  | none => simp
  | some clock => simp [Capability.isExpired]

/-! ## Writes that do not go back -/

/-- Each write to the key, when its turn comes, has a counter that is not below the stored one.
Writes to other keys are free. -/
def Forward (key : Int) : ClockTracker → List Change → Prop
  | _, [] => True
  | t, change :: changes =>
    (change.key = key → ∀ clock ∈ t.get? key, clock.counter ≤ change.counter) ∧
      Forward key (t.apply change) changes

instance Forward.decidable (key : Int) :
    (t : ClockTracker) → (changes : List Change) → Decidable (Forward key t changes)
  | _, [] => .isTrue trivial
  | t, change :: changes =>
    have := Forward.decidable key (t.apply change) changes
    inferInstanceAs (Decidable (_ ∧ _))

/-- One write keeps a key tracked and lets its counter fall only by its own counter. -/
theorem exists_counter_le_apply (stored : t.get? key = some clock) {change : Change}
    (forward : change.key = key → clock.counter ≤ change.counter) :
    ∃ next, (t.apply change).get? key = some next ∧ clock.counter ≤ next.counter := by
  cases change with
  | add c =>
    change ∃ next, (t.add c).get? key = some next ∧ _
    rw [get?_add]
    by_cases h : key = c.key
    · exact ⟨c, if_pos h, forward h.symm⟩
    · exact ⟨clock, (if_neg h).trans stored, Int.le_refl _⟩
  | update k counter =>
    change ∃ next, (t.update k counter).get? key = some next ∧ _
    rw [get?_update]
    by_cases h : key = k
    · subst h
      exact ⟨⟨clock.key, counter⟩, by rw [if_pos rfl, stored]; rfl, forward rfl⟩
    · exact ⟨clock, (if_neg h).trans stored, Int.le_refl _⟩

/-- Over a run of such writes, and at each point of it, the counter never falls. -/
theorem exists_counter_le_of_forward {done rest : List Change}
    (stored : t.get? key = some clock) (forward : Forward key t (done ++ rest)) :
    ∃ next, (t.run done).get? key = some next ∧ clock.counter ≤ next.counter := by
  induction done generalizing t clock with
  | nil => exact ⟨clock, stored, Int.le_refl _⟩
  | cons change done ih =>
    obtain ⟨first, others⟩ := forward
    obtain ⟨next, stored', le⟩ :=
      exists_counter_le_apply stored fun written => first written clock stored
    obtain ⟨last, stored'', le'⟩ := ih stored' others
    exact ⟨last, stored'', Int.le_trans le le'⟩

/-- A capability whose key is tracked and which is refused is refused after every step of every run
in which no write to its key goes back. -/
theorem refused_of_forward (tracked : ∃ clock, t.get? c.key.toNat = some clock)
    (forward : Forward c.key.toNat t changes) (refused : t.permits c requested = false) :
    ∀ done, done <+: changes → (t.run done).permits c requested = false := by
  rintro done ⟨rest, rfl⟩
  obtain ⟨clock, stored⟩ := tracked
  obtain ⟨next, stored', le⟩ := exists_counter_le_of_forward stored forward
  rw [← Bool.not_eq_true, permits_eq_true_iff] at refused ⊢
  rintro ⟨last, hlast, below, mask⟩
  cases stored'.symm.trans hlast
  exact refused ⟨clock, stored, Int.lt_of_le_of_lt le below, mask⟩

/-- A key whose clock has just come to three. -/
def atThree : ClockTracker := run (new (.text "s")) [.add ⟨5, 2⟩, .update 5 3]

/-- Writes to the key do not go back; those to another key do. -/
def laterChanges : List Change := [.update 5 3, .add ⟨7, -1⟩, .update 7 (-2), .add ⟨5, 8⟩]

/-- At its expiry a capability is refused, and it stays refused. -/
theorem refused_at_expiry :
    ((∃ clock, atThree.get? (5 : Nat) = some clock) ∧ Forward (5 : Nat) atThree laterChanges ∧
      atThree.permits ⟨1, 5, 3⟩ (-1) = false) ∧
        ∀ done, done <+: laterChanges → (atThree.run done).permits ⟨1, 5, 3⟩ (-1) = false :=
  have tracked : ∃ clock, atThree.get? (5 : Nat) = some clock := ⟨⟨5, 3⟩, by decide⟩
  ⟨⟨tracked, by decide, by decide⟩, refused_of_forward tracked (by decide) (by decide)⟩

-- A late addition moves the clock back, and the permission returns.
example : (run (new (.text "s")) [.add ⟨5, 3⟩, .add ⟨5, 2⟩]).permits ⟨1, 5, 3⟩ (-1) = true := by
  decide

end SubspaceOps.ClockTracker
