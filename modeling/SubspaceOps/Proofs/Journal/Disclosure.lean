import SubspaceOps.Proofs.Lifecycle.Creation

/-!
# What the journal tells about envelopes

Decoding reports the identifier and the kind of an envelope, the subspace of a record and the class
of a rejection. Between two envelopes with one identifier and one kind, the journal shows these
differences of their outcomes and no others (`journal_decode_eq_iff`), whatever their contents,
tags, keys and signatures are.
-/
namespace SubspaceOps

open Journal Routing

variable {r : Registry} {m : OperationModule} {e e' : Envelope} {owner : String}
  {o o' : Except Fault Record}

namespace Journal

/-- Outcomes that a report does not tell apart: records of one subspace, rejections of one class, or
faults that are no rejections. -/
inductive Indistinct : Except Fault Record → Except Fault Record → Prop
  | records {x x' : Record} (subspaceId : x.header.subspaceId = x'.header.subspaceId) :
    Indistinct (.ok x) (.ok x')
  | rejections {q q' : Rejection} (label : q.label = q'.label) :
    Indistinct (.error (.rejected q)) (.error (.rejected q'))
  | faults {f f' : Fault} (fault : ∀ q, f ≠ .rejected q) (fault' : ∀ q, f' ≠ .rejected q) :
    Indistinct (.error f) (.error f')

/-- A record or a rejection is reported by one entry, which has the level for it. -/
structure Logged.ReportedOnce (x : Logged Record) : Prop where
  decoded : ∀ record, x.outcome = .ok record →
    ∃ message, x.journal = [⟨debug, "Subspace.Dispatch", message⟩]
  rejected : ∀ q, x.outcome = .error (.rejected q) →
    ∃ message, x.journal = [⟨warning, "Subspace.Dispatch", message⟩]

end Journal

/-! ## Reports -/

namespace Routing

theorem outcome_cases (o : Except Fault Record) : (∃ x, o = .ok x) ∨
    (∃ q, o = .error (.rejected q)) ∨ ∃ f, o = .error f ∧ ∀ q, f ≠ .rejected q := by
  cases o with
  | ok x => exact .inl ⟨x, rfl⟩
  | error f =>
    by_cases rejected : ∃ q, f = .rejected q
    · obtain ⟨q, rfl⟩ := rejected
      exact .inr (.inl ⟨q, rfl⟩)
    · exact .inr (.inr ⟨f, rfl, not_exists.1 rejected⟩)

theorem report_of_fault {f : Fault} (fault : ∀ q, f ≠ .rejected q) (owner : String)
    (e : Envelope) : report owner e (.error f) = [] := by
  cases f with
  | rejected q => exact absurd rfl (fault q)
  | _ => rfl

theorem reportedOnce_report (owner : String) (e : Envelope) (o : Except Fault Record) :
    Logged.ReportedOnce ⟨o, report owner e o⟩ where
  decoded := by
    rintro x rfl
    exact ⟨_, rfl⟩
  rejected := by
    rintro q rfl
    exact ⟨_, rfl⟩

theorem report_congr_envelope (id : e.id = e'.id) (kind : e.kind = e'.kind)
    (o : Except Fault Record) : report owner e o = report owner e' o := by
  have shown : shownId e = shownId e' := by rw [shownId, shownId, id]
  cases o with
  | ok x => rw [report, report, shown]
  | error f =>
    cases f with
    | rejected q => rw [report, report, shown, kind]
    | _ => rfl

theorem report_ok_eq_iff {x x' : Record} (operation : x.header.operation = x'.header.operation) :
    report owner e (.ok x) = report owner e (.ok x') ↔
      x.header.subspaceId = x'.header.subspaceId := by
  rw [report, report, operation, List.singleton_inj, Entry.mk.injEq, String.append_right_inj]
  simp only [true_and]

theorem report_rejected_eq_iff {q q' : Rejection} :
    report owner e (.error (.rejected q)) = report owner e (.error (.rejected q')) ↔
      q.label = q'.label := by
  rw [report, report, List.singleton_inj, Entry.mk.injEq, String.append_right_inj]
  simp only [true_and]

/-- The levels tell records and rejections apart. -/
theorem report_ok_ne_rejected (x : Record) (q : Rejection) :
    report owner e (.ok x) ≠ report owner e (.error (.rejected q)) := by
  intro same
  have levels : [debug] = [warning] := congrArg (List.map Entry.level) same
  exact absurd levels (by decide)

/-- Outcomes of one operation are reported alike exactly when they are indistinct. -/
theorem report_eq_iff (operation : ∀ x x', o = .ok x → o' = .ok x' →
    x.header.operation = x'.header.operation) :
    report owner e o = report owner e o' ↔ Indistinct o o' := by
  constructor
  · intro same
    obtain ⟨x, rfl⟩ | ⟨q, rfl⟩ | ⟨f, rfl, fault⟩ := outcome_cases o
    · obtain ⟨x', rfl⟩ | ⟨q', rfl⟩ | ⟨f', rfl, fault'⟩ := outcome_cases o'
      · exact .records ((report_ok_eq_iff (operation x x' rfl rfl)).1 same)
      · exact absurd same (report_ok_ne_rejected x q')
      · rw [report_of_fault fault'] at same
        cases same
    · obtain ⟨x', rfl⟩ | ⟨q', rfl⟩ | ⟨f', rfl, fault'⟩ := outcome_cases o'
      · exact absurd same.symm (report_ok_ne_rejected x' q)
      · exact .rejections (report_rejected_eq_iff.1 same)
      · rw [report_of_fault fault'] at same
        cases same
    · rw [report_of_fault fault] at same
      obtain ⟨x', rfl⟩ | ⟨q', rfl⟩ | ⟨f', rfl, fault'⟩ := outcome_cases o'
      · cases same
      · cases same
      · exact .faults fault fault'
  · intro indistinct
    cases indistinct with
    | records subspaceId => exact (report_ok_eq_iff (operation _ _ rfl rfl)).2 subspaceId
    | rejections label => exact report_rejected_eq_iff.2 label
    | faults fault fault' => rw [report_of_fault fault, report_of_fault fault']

end Routing

/-! ## Decoding -/

theorem operation_of_outcomeWith {x : Record} (h : outcomeWith m r e = .ok x) :
    r.operation? e.kind = some x.header.operation := by
  obtain ⟨common, operation, t, -, named, -, decoded⟩ := outcomeWith_eq_ok_iff.1 h
  obtain ⟨profile, rfl⟩ := Creation.exists_profile_of_decode decoded
  exact named

theorem operation_eq_of_outcome (kind : e.kind = e'.kind) {x x' : Record}
    (h : outcome r e = .ok x) (h' : outcome r e' = .ok x') :
    x.header.operation = x'.header.operation := by
  obtain ⟨m, -, read⟩ := outcome_eq_ok_iff.1 h
  obtain ⟨m', -, read'⟩ := outcome_eq_ok_iff.1 h'
  have named := operation_of_outcomeWith read
  rw [kind, operation_of_outcomeWith read'] at named
  exact (Option.some.inj named).symm

/-- Two envelopes with one identifier and one kind leave the same journal exactly when they are read
as records of one subspace, rejected with one class or both end in faults that are no rejections. A
record leaves one entry for debugging, a rejection leaves one warning. -/
theorem journal_decode_eq_iff (r : Registry) (id : e.id = e'.id) (kind : e.kind = e'.kind) :
    ((r.decode e).journal = (r.decode e').journal ↔
        Indistinct (r.decode e).outcome (r.decode e').outcome) ∧
      (r.decode e).ReportedOnce ∧ (r.decode e').ReportedOnce := by
  refine ⟨?_, reportedOnce_report _ e _, reportedOnce_report _ e' _⟩
  rw [Registry.decode, Registry.decode, kind, ← report_congr_envelope id kind]
  exact report_eq_iff fun x x' hx hx' => operation_eq_of_outcome kind hx hx'

/-- A vote of another time and key on another proposal, with a capability, a parent, a content and a
signature. -/
def otherVote : Envelope :=
  ⟨"", "k", 1700000001, Kind.vote, [["proposal_id", "q"], ["vote", "no"], [TagName.parent, "a"],
    [TagName.capability, "action=1,key=2,exp=3"], [TagName.subspaceId, "s"]], "because", some "f"⟩

/-- Two votes of one subspace leave the same entry. -/
theorem journal_otherVote : plainVote.id = otherVote.id ∧ plainVote.kind = otherVote.kind ∧
    ∃ message,
      (Catalogue.registry.decode plainVote).journal = [⟨debug, "Subspace.Dispatch", message⟩] ∧
        (Catalogue.registry.decode otherVote).journal =
          [⟨debug, "Subspace.Dispatch", message⟩] := by
  have id : plainVote.id = otherVote.id := rfl
  have kind : plainVote.kind = otherVote.kind := rfl
  have read : ∃ x x', (Catalogue.registry.decode plainVote).outcome = .ok x ∧
      (Catalogue.registry.decode otherVote).outcome = .ok x' ∧
        x.header.subspaceId = x'.header.subspaceId := ⟨_, _, rfl, rfl, rfl⟩
  obtain ⟨x, x', hx, hx', subspaceId⟩ := read
  obtain ⟨same, once, -⟩ := journal_decode_eq_iff Catalogue.registry id kind
  obtain ⟨message, entry⟩ := once.decoded x hx
  refine ⟨id, kind, message, entry, ?_⟩
  rw [← entry]
  refine (same.2 ?_).symm
  rw [hx, hx']
  exact .records subspaceId

end SubspaceOps
