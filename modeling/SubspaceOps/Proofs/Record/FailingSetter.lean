import SubspaceOps.Proofs.Capability.RoundTrip
import SubspaceOps.Proofs.Record.SingleCall

/-!
# What a failing setter leaves behind

A capability is checked as a whole before it is granted, so a refused one leaves the record as it
was. Named values are set one by one. A call that comes to a name without a field stops there, and
what it leaves is what the call with the values before this name leaves, which succeeds
(`failing_setter_leaves`). These values can go unnoticed: when each is what its field holds already,
and no tag is written for it.
-/
namespace SubspaceOps

/-! ## Capabilities out of range -/

namespace Capability

/-- The number is within the width of the field. -/
def InWidth (f : Field) (n : Int) : Prop := 0 ≤ n ∧ n < Nat.pow 2 f.bits

variable {numbers : Field → Int}

theorem checkValue_of_inWidth {f : Field} {n : Int} (h : InWidth f n) (shown : String) :
    checkValue shown f (.int n) = .ok (BitVec.ofInt f.bits n) := by
  obtain ⟨lower, upper⟩ := h
  have kept : ((BitVec.ofInt f.bits n).toNat : Int) = n := by
    rw [BitVec.toNat_ofInt]
    change ((n % (Nat.pow 2 f.bits : Nat)).toNat : Int) = n
    rw [Int.emod_eq_of_lt lower upper]
    omega
  simp only [checkValue, kept, if_true]

theorem checkValue_of_not_inWidth {f : Field} {n : Int} (h : ¬ InWidth f n) (shown : String) :
    checkValue shown f (.int n) =
      .error (.rejected (.malformedCapability shown (.outOfRange f.name (toString n)))) := by
  have cut : ((BitVec.ofInt f.bits n).toNat : Int) ≠ n := by
    intro kept
    refine h ⟨?_, ?_⟩
    · omega
    · rw [← kept]
      exact Int.ofNat_lt.2 (BitVec.ofInt f.bits n).isLt
  simp only [checkValue, cut, if_false]

/-- The three integers as the text of a capability, whether they form one or not. -/
def textOf (numbers : Field → Int) : String :=
  shape (toString (numbers .action)) (toString (numbers .key)) (toString (numbers .expiry))

theorem exists_new_of_inWidth (h : ∀ f, InWidth f (numbers f)) :
    ∃ c, new (.int (numbers .action)) (.int (numbers .key)) (.int (numbers .expiry)) = .ok c := by
  refine ⟨⟨.ofInt _ (numbers .action), .ofInt _ (numbers .key), .ofInt _ (numbers .expiry)⟩, ?_⟩
  change ofValues _ _ _ = _
  simp only [ofValues, checkValue_of_inWidth (h _)]
  rfl

/-- Other integers are refused with a fault that names the first field that is too narrow. -/
theorem exists_new_eq_error (h : ¬ ∀ f, InWidth f (numbers f)) : ∃ f, ¬ InWidth f (numbers f) ∧
    new (.int (numbers .action)) (.int (numbers .key)) (.int (numbers .expiry)) =
      .error (.rejected (.malformedCapability (textOf numbers)
        (.outOfRange f.name (toString (numbers f))))) := by
  change ∃ f, _ ∧ ofValues _ _ _ = _
  by_cases action : InWidth .action (numbers .action)
  · by_cases key : InWidth .key (numbers .key)
    · have expiry : ¬ InWidth .expiry (numbers .expiry) := by
        intro expiry
        refine h fun f => ?_
        cases f with
        | action => exact action
        | key => exact key
        | expiry => exact expiry
      refine ⟨.expiry, expiry, ?_⟩
      simp only [ofValues, checkValue_of_inWidth action, checkValue_of_inWidth key,
        checkValue_of_not_inWidth expiry]
      rfl
    · refine ⟨.key, key, ?_⟩
      simp only [ofValues, checkValue_of_inWidth action, checkValue_of_not_inWidth key]
      rfl
  · refine ⟨.action, action, ?_⟩
    simp only [ofValues, checkValue_of_not_inWidth action]
    rfl

end Capability

/-- Every value that stands under the name of a field is accepted by it. -/
def RecordType.Accepts (t : RecordType) (values : List (String × FieldInput)) : Prop :=
  ∀ i ∈ values, ∀ f ∈ t.field? i.1, ∃ v, f.accept i.2 = .ok v

instance decidableAccepts (t : RecordType) (values : List (String × FieldInput)) :
    Decidable (t.Accepts values) :=
  decidable_of_iff (∀ i ∈ values, ∀ f ∈ t.field? i.1, (f.accept i.2).isOk = true) <| by
    refine forall₂_congr fun i _ => forall₂_congr fun f _ => ?_
    cases f.accept i.2 <;> simp [Except.isOk, Except.toBool]

namespace Record

variable {r : Record} {values : List (String × FieldInput)} {fault : Fault}

/-- Integers within their widths are granted; any others leave the record as it was. -/
theorem setCapability_of_integers (r : Record) (numbers : Capability.Field → Int) :
    ((∀ f, Capability.InWidth f (numbers f)) → (r.setCapability (.int (numbers .action))
        (.int (numbers .key)) (.int (numbers .expiry))).2 = none) ∧
      ((¬ ∀ f, Capability.InWidth f (numbers f)) → ∃ f, ¬ Capability.InWidth f (numbers f) ∧
        r.setCapability (.int (numbers .action)) (.int (numbers .key)) (.int (numbers .expiry)) =
          (r, some (.rejected (.malformedCapability (Capability.textOf numbers)
            (.outOfRange f.name (toString (numbers f))))))) := by
  constructor
  · intro fits
    obtain ⟨c, granted⟩ := Capability.exists_new_of_inWidth fits
    rw [setCapability, granted]
  · intro narrow
    obtain ⟨f, wide, refused⟩ := Capability.exists_new_eq_error narrow
    refine ⟨f, wide, ?_⟩
    rw [setCapability, refused]

/-! ## Named values -/

/-- The records hold the same, in the header with its envelope, in the content and in the fields. -/
structure Unchanged (r r' : Record) : Prop where
  type : r'.type = r.type
  header : r'.header = r.header
  content : r'.content = r.content
  payload : r'.payload = r.payload
  profile : r'.profile = r.profile

theorem value_putAll {as : List Assignment} {f : PayloadField} (hf : f ∈ r.type.fields)
    (has : ∀ a ∈ as, a.1 ∈ r.type.fields) :
    (r.putAll as).value f = (lastAssigned f as).getD (r.value f) := by
  have entered := get?_putAll_assignments hf has r.assigned fun v => v
  rw [Option.map_id'] at entered
  rw [value, Table.getD, (extended_putAll r as).assigned, entered, value, Table.getD]
  cases lastAssigned f as <;> rfl

theorem lastAssigned_of_mem {as : List Assignment} (once : (as.map Prod.fst).Nodup)
    {a : Assignment} (ha : a ∈ as) : lastAssigned a.1 as = some a.2 := by
  obtain ⟨v, hv⟩ := Option.ne_none_iff_exists'.1 (lastAssigned_ne_none (f := a.1) (v := a.2) ha)
  have same := List.inj_on_of_nodup_map once (mem_of_lastAssigned hv) ha rfl
  rw [hv, ← same]

/-- Assignments to different fields go unnoticed when each field holds its value already, and no tag
is written. -/
theorem unchanged_putAll_iff {as : List Assignment} (has : ∀ a ∈ as, a.1 ∈ r.type.fields)
    (once : (as.map Prod.fst).Nodup) : r.Unchanged (r.putAll as) ↔
      ∀ a ∈ as, a.1.tagFor? a.2 = none ∧ r.value a.1 = a.2 := by
  have type : (r.putAll as).type = r.type := (extended_putAll r as).type
  constructor
  · intro unchanged a ha
    have tags := (extended_putAll r as).tags
    rw [unchanged.header] at tags
    have no_tags : assignmentTags as = [] := List.self_eq_append_right.1 tags
    have silent : (a.1.tagFor? a.2).toList = [] := List.flatMap_eq_nil_iff.1 no_tags a ha
    have kept := (payload_eq_iff type rfl).1 unchanged.payload a.1 (has a ha)
    rw [value_putAll (has a ha) has, lastAssigned_of_mem once ha, Option.getD_some] at kept
    exact ⟨Option.toList_eq_nil_iff.1 silent, kept.symm⟩
  · intro unnoticed
    have no_tags : as.flatMap (fun a => (a.1.tagFor? a.2).toList) = [] := by
      refine List.flatMap_eq_nil_iff.2 fun a ha => ?_
      rw [(unnoticed a ha).1, Option.toList_none]
    have header := header_putAll r as
    rw [no_tags, List.append_nil] at header
    have payload : (r.putAll as).payload = r.payload := by
      refine (payload_eq_iff type rfl).2 fun f hf => ?_
      rw [value_putAll hf has]
      cases hv : lastAssigned f as with
      | none => rfl
      | some v => exact (unnoticed (f, v) (mem_of_lastAssigned hv)).2.symm
    exact ⟨type, header, by rw [putAll_eq], payload, by rw [putAll_eq]⟩

/-! ## Calls that stop -/

theorem nodup_assignments {t : RecordType} (distinct : (values.map Prod.fst).Nodup) :
    ((t.assignments values).map Prod.fst).Nodup := by
  have names : (t.assignments values).map (fun a => a.1.name) <+: values.map Prod.fst := by
    clear distinct
    induction values with
    | nil => exact List.prefix_rfl
    | cons i rest ih =>
      rw [RecordType.assignments]
      cases hf : t.field? i.1 with
      | none => exact List.nil_prefix
      | some f =>
        have name := (RecordType.field?_eq_some_iff.1 hf).2
        cases hv : f.accept i.2 with
        | error e => simp [hv]
        | ok v => simpa [hv, name] using ih
  have once := names.sublist.nodup distinct
  exact List.Nodup.of_map PayloadField.name (by simpa [Function.comp_def] using once)

/-- Where every field accepts its value, setting values in order stops at a name without a field
only, with the record that the values before it make. -/
theorem exists_stop_of_setInOrder (accepts : r.type.Accepts values)
    (h : (r.setInOrder values).2 = some fault) :
    ∃ done i rest, values = done ++ i :: rest ∧ r.type.field? i.1 = none ∧
      fault = .unknownField r.type.name i.1 ∧
        r.setInOrder done = ((r.setInOrder values).1, none) := by
  induction values generalizing r with
  | nil => cases h
  | cons i rest ih =>
    cases hf : r.type.field? i.1 with
    | none =>
      rw [setInOrder_of_unknown hf] at h ⊢
      exact ⟨[], i, rest, rfl, hf, (Option.some.inj h).symm, rfl⟩
    | some f =>
      obtain ⟨v, hv⟩ := accepts i List.mem_cons_self f hf
      rw [setInOrder_of_accept hf hv] at h ⊢
      have accepts_rest : (r.put f v).type.Accepts rest := by
        rw [type_put]
        exact fun j hj => accepts j (List.mem_cons_of_mem i hj)
      obtain ⟨done, j, others, rfl, unknown, stops, reaches⟩ := ih accepts_rest h
      rw [type_put] at unknown stops
      refine ⟨i :: done, j, others, rfl, unknown, stops, ?_⟩
      rw [setInOrder_of_accept hf hv, reaches]

theorem exists_stop_of_setFields (accepts : r.type.Accepts values)
    (named : ¬ ∃ i ∈ values, i.1 = "self") (h : (r.setFields values).2 = some fault) :
    ∃ done i rest, (Table.ofList values).entries = done ++ i :: rest ∧
      r.type.field? i.1 = none ∧ fault = .unknownField r.type.name i.1 ∧
        r.setFields done = ((r.setFields values).1, none) ∧
          (r.Unchanged (r.setFields values).1 ↔
            ∀ a ∈ r.type.assignments done, a.1.tagFor? a.2 = none ∧ r.value a.1 = a.2) := by
  have of_entries {i : String × FieldInput} (hi : i ∈ (Table.ofList values).entries) :
      i ∈ values := Table.mem_of_mem_entries_ofList hi
  rw [setFields_of_named named] at h ⊢
  have accepts_entries : r.type.Accepts (Table.ofList values).entries :=
    fun i hi => accepts i (of_entries hi)
  obtain ⟨done, i, rest, cut, unknown, stops, reaches⟩ :=
    exists_stop_of_setInOrder accepts_entries h
  have distinct : (done.map Prod.fst).Nodup := by
    have := (Table.ofList values).nodup
    rw [cut, List.map_append] at this
    exact (List.nodup_append.1 this).1
  have named_done : ¬ ∃ j ∈ done, j.1 = "self" := by
    rintro ⟨j, hj, receiver⟩
    refine named ⟨j, of_entries ?_, receiver⟩
    rw [cut]
    exact List.mem_append_left _ hj
  have left : (r.setInOrder (Table.ofList values).entries).1 =
      r.putAll (r.type.assignments done) := by
    have first := setInOrder_fst r done
    rwa [reaches] at first
  refine ⟨done, i, rest, cut, unknown, stops, ?_, ?_⟩
  · rw [setFields_of_named named_done, Table.entries_ofList distinct, reaches]
  · rw [left]
    exact unchanged_putAll_iff (fun a ha => (RecordType.mem_assignments ha).1)
      (nodup_assignments distinct)

/-- A refused capability leaves the record as it was; integers are refused when one of them is not
within the width of its field, and the fault names such a field. A call with named values that
names the receiver leaves the record as it was, too. Any other call that fails, with values which
their fields accept, comes to a name without a field. It leaves what the call with the values before
this name leaves, which succeeds, so the record is unchanged exactly when each of these values is
held by its field already and writes no tag. -/
theorem failing_setter_leaves (r : Record) :
    (∀ numbers : Capability.Field → Int,
      ((∀ f, Capability.InWidth f (numbers f)) → (r.setCapability (.int (numbers .action))
          (.int (numbers .key)) (.int (numbers .expiry))).2 = none) ∧
        ((¬ ∀ f, Capability.InWidth f (numbers f)) → ∃ f, ¬ Capability.InWidth f (numbers f) ∧
          r.setCapability (.int (numbers .action)) (.int (numbers .key)) (.int (numbers .expiry)) =
            (r, some (.rejected (.malformedCapability (Capability.textOf numbers)
              (.outOfRange f.name (toString (numbers f)))))))) ∧
      ∀ values fault, r.type.Accepts values → (r.setFields values).2 = some fault →
        (fault = .receiverName ∧ (∃ i ∈ values, i.1 = "self") ∧ (r.setFields values).1 = r) ∨
        ∃ done i rest, (Table.ofList values).entries = done ++ i :: rest ∧
          r.type.field? i.1 = none ∧ fault = .unknownField r.type.name i.1 ∧
            r.setFields done = ((r.setFields values).1, none) ∧
              (r.Unchanged (r.setFields values).1 ↔
                ∀ a ∈ r.type.assignments done, a.1.tagFor? a.2 = none ∧ r.value a.1 = a.2) := by
  refine ⟨setCapability_of_integers r, ?_⟩
  intro values fault accepts stops
  by_cases receiver : ∃ i ∈ values, i.1 = "self"
  · rw [setFields_of_receiver receiver] at stops ⊢
    exact .inl ⟨(Option.some.inj stops).symm, receiver, rfl⟩
  · exact .inr (exists_stop_of_setFields accepts receiver stops)

/-- A new proposal. -/
def newProposal : Record :=
  .blank Governance.propose ⟨"s", Operation.propose, none, [], .unsigned 1700000000 Kind.propose
    [[TagName.marker, operationMarker], [TagName.subspaceId, "s"],
      [TagName.operation, Operation.propose]]⟩

/-- Empty rules of a new proposal go unnoticed before an unknown name. -/
theorem unchanged_emptyRules :
    Governance.propose.new Catalogue.registry 1700000000 "s" = .ok newProposal ∧
      newProposal.type.Accepts [("rules", .text ""), ("colour", .text "blue")] ∧
        (newProposal.setFields [("rules", .text ""), ("colour", .text "blue")]).2 =
            some (.unknownField "ProposeEvent" "colour") ∧
          newProposal.Unchanged
            (newProposal.setFields [("rules", .text ""), ("colour", .text "blue")]).1 := by
  have accepts : newProposal.type.Accepts [("rules", .text ""), ("colour", .text "blue")] := by
    decide
  refine ⟨rfl, accepts, rfl, ?_⟩
  obtain ⟨⟨⟩, -⟩ | ⟨done, i, rest, cut, unknown, -, -, unchanged⟩ :=
    (failing_setter_leaves newProposal).2 _ _ accepts rfl
  refine unchanged.2 ?_
  -- the values before the unknown name are the empty rules
  change [("rules", FieldInput.text ""), ("colour", .text "blue")] = _ at cut
  rcases done with _ | ⟨first, _ | ⟨second, done⟩⟩
  · cases cut
    cases unknown
  · cases cut
    decide
  · simp at cut

/-- The identifier of a proposal that stands before an unknown name is set, and its tag is
written. -/
theorem not_unchanged_identified :
    Governance.propose.new Catalogue.registry 1700000000 "s" = .ok newProposal ∧
      newProposal.type.Accepts [("proposal_id", .text "p"), ("colour", .text "blue")] ∧
        (newProposal.setFields [("proposal_id", .text "p"), ("colour", .text "blue")]).2 =
            some (.unknownField "ProposeEvent" "colour") ∧
          ¬ newProposal.Unchanged
            (newProposal.setFields [("proposal_id", .text "p"), ("colour", .text "blue")]).1 := by
  refine ⟨rfl, by decide, rfl, ?_⟩
  intro unchanged
  exact absurd unchanged.header (by decide)

end Record

end SubspaceOps
