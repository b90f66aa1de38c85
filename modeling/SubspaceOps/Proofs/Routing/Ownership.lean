import SubspaceOps.Catalogue
import SubspaceOps.Proofs.Registry.Consistency
import SubspaceOps.Routing

/-!
# Decoding by a module and by the owner

An envelope can be given to a module of one's choice or to the owner of its kind. The choice is
none: a module of a registry reads a record only from the kinds that it owns, since its record types
implement declared operations and each of these has one kind. There it reads what the owner reads
(`decode_eq_ok_iff_owner`).
-/
namespace SubspaceOps

open Routing

variable {r : Registry} {m : OperationModule} {e : Envelope} {x : Record}

theorem outcomeWith_eq_ok_iff :
    outcomeWith m r e = .ok x ↔
      ∃ c operation t, CommonTags.read e.tags = .ok c ∧ r.operation? e.kind = some operation ∧
        m.recordType? operation = some t ∧
          t.decode ⟨c.subspaceId, operation, c.capability, c.parents, e⟩ = .ok x := by
  constructor
  · intro h
    cases hc : CommonTags.read e.tags with
    | error f =>
      rw [outcomeWith, hc] at h
      cases h
    | ok c =>
      cases ho : r.operation? e.kind with
      | none =>
        rw [outcomeWith, hc, ho] at h
        cases h
      | some operation =>
        cases ht : m.recordType? operation with
        | none =>
          simp only [outcomeWith, hc, ho, ht, bind, Except.bind] at h
          cases h
        | some t =>
          rw [outcomeWith_of_recordType hc ho ht] at h
          exact ⟨c, operation, t, rfl, rfl, ht, h⟩
  · rintro ⟨c, operation, t, hc, ho, ht, h⟩
    rw [outcomeWith_of_recordType hc ho ht, h]

theorem outcome_of_owner (h : r.owner? e.kind = some m) : outcome r e = outcomeWith m r e := by
  rw [outcome, h]

theorem outcome_eq_ok_iff :
    outcome r e = .ok x ↔ ∃ m, r.owner? e.kind = some m ∧ outcomeWith m r e = .ok x := by
  constructor
  · intro h
    cases ho : r.owner? e.kind with
    | none =>
      rw [outcome, ho] at h
      dsimp only at h
      split at h <;> cases h
    | some m => exact ⟨m, rfl, outcome_of_owner ho ▸ h⟩
  · rintro ⟨m, ho, h⟩
    rw [outcome_of_owner ho, h]

/-- A module of the registry that implements the operation of a kind owns the kind: it declares the
operation under a kind of its own, and no other kind has this operation. -/
theorem Registry.Consistent.owner_of_recordType (h : r.Consistent) {name : String}
    (hm : r.module? name = some m) {kind : Int} {operation : String} {t : RecordType}
    (ho : r.operation? kind = some operation) (ht : m.recordType? operation = some t) :
    r.owner? kind = some m := by
  obtain ⟨ht_mem, rfl⟩ := OperationModule.mem_records_of_recordType? ht
  obtain ⟨d, hd, hoperation⟩ := List.mem_map.1 (m.declared t ht_mem)
  obtain ⟨bound, owned⟩ := (h.enrolled name m hm).2 d hd
  rw [hoperation] at bound
  have same_kind : d.1 = kind :=
    Option.some.inj (((h.inverse _ _).1 bound).symm.trans ((h.inverse _ _).1 ho))
  exact same_kind ▸ owned

/-- The record that a module of the registry reads is the one of the owner. -/
theorem outcomeWith_eq_ok_iff_owner (h : r.Consistent) (hm : m ∈ r.modules.values) :
    outcomeWith m r e = .ok x ↔ r.owner? e.kind = some m ∧ outcome r e = .ok x := by
  obtain ⟨name, hname⟩ := Table.mem_values_iff.1 hm
  constructor
  · intro hx
    obtain ⟨c, operation, t, -, ho, ht, -⟩ := outcomeWith_eq_ok_iff.1 hx
    have owner := h.owner_of_recordType hname ho ht
    exact ⟨owner, outcome_of_owner owner ▸ hx⟩
  · rintro ⟨owner, hx⟩
    exact outcome_of_owner owner ▸ hx

/-! ## Lifecycle kinds -/

namespace Lifecycle

variable {kind : Int}

theorem outcome_decodeKind (h : e.kind = kind) (r : Registry) :
    (decodeKind kind r e).outcome = outcomeWith operations r e := by
  rw [decodeKind, if_pos h, OperationModule.outcome_decode]

theorem kind_and_tags_of_decodeKind (accepted : (decodeKind kind r e).outcome = .ok x) :
    e.kind = kind ∧ ∃ common, CommonTags.read e.tags = .ok common := by
  by_cases h : e.kind = kind
  · rw [outcome_decodeKind h] at accepted
    obtain ⟨common, -, -, read, -⟩ := outcomeWith_eq_ok_iff.1 accepted
    exact ⟨h, common, read⟩
  · rw [decodeKind, if_neg h] at accepted
    cases accepted

end Lifecycle

/-! ## Modules of a registry -/

/-- A module of a reachable registry reads a record from an envelope exactly when it owns the kind
and decoding by the owner gives this record. So at most one of the modules reads a record, and if
the owner of the kind stands in the registry, one of them does whenever decoding succeeds. -/
theorem decode_eq_ok_iff_owner (reachable : r.Reachable) (e : Envelope) :
    (∀ m ∈ r.modules.values, ∀ x, (m.decode r e).outcome = .ok x ↔
        r.owner? e.kind = some m ∧ (r.decode e).outcome = .ok x) ∧
      (∀ m ∈ r.modules.values, ∀ m' ∈ r.modules.values, ∀ x x',
        (m.decode r e).outcome = .ok x → (m'.decode r e).outcome = .ok x' → m = m') ∧
      ((∀ m, r.owner? e.kind = some m → m ∈ r.modules.values) →
        ((∃ x, (r.decode e).outcome = .ok x) ↔
          ∃ m ∈ r.modules.values, ∃ x, (m.decode r e).outcome = .ok x)) := by
  have consistent := reachable.consistent
  simp only [OperationModule.outcome_decode, Registry.outcome_decode]
  refine ⟨fun m hm x => outcomeWith_eq_ok_iff_owner consistent hm, ?_, fun enrolled => ?_⟩
  · intro m hm m' hm' x x' hx hx'
    have owner := ((outcomeWith_eq_ok_iff_owner consistent hm).1 hx).1
    have owner' := ((outcomeWith_eq_ok_iff_owner consistent hm').1 hx').1
    exact Option.some.inj (owner.symm.trans owner')
  · constructor
    · rintro ⟨x, hx⟩
      obtain ⟨m, owner, read⟩ := outcome_eq_ok_iff.1 hx
      exact ⟨m, enrolled m owner, x, read⟩
    · rintro ⟨m, hm, x, hx⟩
      exact ⟨x, ((outcomeWith_eq_ok_iff_owner consistent hm).1 hx).2⟩

/-- A vote without capability. -/
def plainVote : Envelope :=
  .unsigned 1700000000 Kind.vote [[TagName.subspaceId, "s"], ["proposal_id", "p"], ["vote", "yes"]]

/-- Of the built-in modules exactly the one of governance reads this vote. -/
theorem governance_reads_plainVote :
    Catalogue.registry.Reachable ∧ ∀ m ∈ Catalogue.registry.modules.values,
      (∃ x, (m.decode Catalogue.registry plainVote).outcome = .ok x) ↔
        m = Governance.operations := by
  have reachable : Catalogue.registry.Reachable := ⟨_, rfl⟩
  have owner : Catalogue.registry.owner? plainVote.kind = some Governance.operations := by
    decide +kernel
  refine ⟨reachable, fun m hm => ⟨?_, ?_⟩⟩
  · rintro ⟨x, hx⟩
    have owns := (((decode_eq_ok_iff_owner reachable plainVote).1 m hm x).1 hx).1
    exact Option.some.inj (owns.symm.trans owner)
  · rintro rfl
    exact ⟨_, rfl⟩

end SubspaceOps
