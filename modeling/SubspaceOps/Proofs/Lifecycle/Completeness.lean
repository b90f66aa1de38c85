import SubspaceOps.Proofs.Lifecycle.AllowedOperations

/-!
# Which accepted creation events are complete

The check on creation events asks that the tags of the name and of the operations are there, the
check of a record that their values are not empty. For the operations this makes no difference,
since an accepted list has a separator. A name may be empty, so the record of an accepted event
passes its own check exactly when the subspace has a name (`validate_of_accepted`).
-/
namespace SubspaceOps.Creation

variable {e : Envelope} {x : Record} {c : Charter}

theorem missing_of_carries (carries : Carries x c) :
    x.missing = (if c.name = "" then ["subspace_name"] else []) ++
      if c.ops = "" then ["ops"] else [] := by
  have payload := carries.payload
  rw [Record.payload, carries.type] at payload
  simp only [recordType, List.map_cons, List.map_nil, List.cons.injEq, Prod.mk.injEq] at payload
  obtain ⟨⟨-, name⟩, ⟨-, ops⟩, -⟩ := payload
  have needed (n : String) : (PayloadField.named n).needed.required = true := rfl
  have optional (n : String) : (PayloadField.named n).optional.required = false := rfl
  have tag (n : String) : (PayloadField.named n).needed.tag = n := rfl
  rw [Record.missing, carries.type]
  by_cases nameless : c.name = "" <;> by_cases idle : c.ops = "" <;>
    simp [recordType, needed, optional, tag, name, ops, FieldValue.isEmpty, nameless, idle]

theorem Declares.ops_ne (declares : Declares e c) : c.ops ≠ "" := by
  intro empty
  have separated := declares.declared "" (by rw [empty]; decide)
  exact absurd separated (by decide)

/-- Nothing but the name can be missing in the record of an accepted event. -/
theorem exists_missing_of_accepted
    (accepted : (Lifecycle.decodeCreation Catalogue.registry e).outcome = .ok x) :
    ∃ name, e.lastValue? "subspace_name" = some name ∧
      x.missing = if name = "" then ["subspace_name"] else [] := by
  obtain ⟨c, h, declares, rfl, sid, rfl⟩ := started_of_accepted accepted
  have carries := carries_started sid declares.name declares.ops declares.rules
  refine ⟨c.name, declares.name, ?_⟩
  rw [missing_of_carries carries, if_neg declares.ops_ne, List.append_nil]

/-- The record of an accepted event passes its own check when the name of the subspace is not empty;
otherwise the name, and nothing else, is missing. -/
theorem validate_of_accepted
    (accepted : (Lifecycle.decodeCreation Catalogue.registry e).outcome = .ok x) :
    ∃ name, e.lastValue? "subspace_name" = some name ∧
      x.missing = (if name = "" then ["subspace_name"] else []) ∧
        x.validate =
          if name = "" then .error (.rejected (.missingTag "subspace_name")) else .ok () := by
  obtain ⟨name, hname, missing⟩ := exists_missing_of_accepted accepted
  refine ⟨name, hname, missing, ?_⟩
  rw [Record.validate, missing]
  by_cases empty : name = "" <;> simp [empty]

/-- A named subspace without rules. -/
theorem valid_accepted_research :
    ∃ x, (Lifecycle.decodeCreation Catalogue.registry
        (new 1700000000 "research" "post=30300" "" "notes" "").header.envelope).outcome = .ok x ∧
      x.validate = .ok () := by
  obtain ⟨x, accepted, -⟩ := exists_accepted_new 1700000000 "research" "post=30300" "" "notes" ""
    (by decide) (by decide)
  obtain ⟨name, found, -, valid⟩ := validate_of_accepted accepted
  have named := (lastValues_new 1700000000 "research" "post=30300" "" "notes" "").1
  cases found.symm.trans named
  exact ⟨x, accepted, valid⟩

/-- An event with an empty name is accepted, but its record misses the name. -/
theorem not_valid_nameless :
    ∃ x, (Lifecycle.decodeCreation Catalogue.registry
        (new 1700000000 "" "post=30300" "" "notes" "").header.envelope).outcome = .ok x ∧
      x.validate = .error (.rejected (.missingTag "subspace_name")) := by
  obtain ⟨x, accepted, -⟩ := exists_accepted_new 1700000000 "" "post=30300" "" "notes" ""
    (by decide) (by decide)
  obtain ⟨name, found, missing⟩ := exists_missing_of_accepted accepted
  have nameless := (lastValues_new 1700000000 "" "post=30300" "" "notes" "").1
  cases found.symm.trans nameless
  refine ⟨x, accepted, ?_⟩
  rw [Record.validate, missing]
  rfl

end SubspaceOps.Creation
