import SubspaceOps.Proofs.Record.PayloadAgreement

/-!
# Validity at both ends

A writer checks the values of a record, a receiver those that are read from its tags. Both miss the
same required fields, unless the last tag that was written for one reads as an empty value: the text
of a map may have no readable segment, and parents that are added later stand in the place of a
field in their tag. The decoded record is valid exactly when this does not happen
(`decoded_validate_iff`).
-/
namespace SubspaceOps

open Record

variable {m : OperationModule} {t : RecordType} {f : PayloadField} {edits : List Edit}

/-! ## Supplied modules -/

/-- The built-in modules and those of declarations. -/
inductive SuppliedModule : OperationModule → Prop
  | builtIn {m : OperationModule} (hm : m ∈ Catalogue.modules) : SuppliedModule m
  | declared {v : Json} {d : Declaration} {serial : Nat} {m : OperationModule}
      (hd : Declaration.ofJson v = .ok d) (hm : d.toModule serial = .ok m) : SuppliedModule m

theorem Declaration.records_of_toModule {d : Declaration} {serial : Nat}
    (h : d.toModule serial = .ok m) :
    d.events.mapM EventDeclaration.toRecordType = .ok m.records := by
  obtain ⟨records, hrecords, hm⟩ := bind_eq_ok_iff.1 h
  unfold OperationModule.new at hm
  split at hm
  · cases hm
  · cases hm
    exact hrecords

theorem operation_of_toRecordType {e : EventDeclaration} (h : e.toRecordType = .ok t) :
    t.operation = e.operation := by
  unfold EventDeclaration.toRecordType at h
  split at h
  · cases h
    rfl
  · cases h

theorem OperationModule.recordType?_operation
    (nodup : (m.records.map RecordType.operation).Nodup) (ht : t ∈ m.records) :
    m.recordType? t.operation = some t := by
  cases h : m.recordType? t.operation with
  | none =>
    rw [recordType?, List.getLast?_eq_none_iff, List.filter_eq_nil_iff] at h
    simpa using h t ht
  | some u =>
    obtain ⟨hu, same⟩ := mem_records_of_recordType? h
    rw [List.inj_on_of_nodup_map nodup hu ht same]

namespace SuppliedModule

theorem supplied (h : SuppliedModule m) (ht : t ∈ m.records) : Supplied t := by
  cases h with
  | builtIn hm => exact .builtIn hm ht
  | declared hd hm =>
    obtain ⟨e, he, made⟩ := exists_of_mem_mapM (Declaration.records_of_toModule hm) ht
    exact .declared hd he made

theorem recordType?_eq (h : SuppliedModule m) (ht : t ∈ m.records) :
    m.recordType? t.operation = some t := by
  cases h with
  | builtIn hm => exact recordType?_builtIn m hm t ht
  | declared hd hm =>
    have operations := map_eq_of_mapM (fun _ _ => operation_of_toRecordType)
      (Declaration.records_of_toModule hm)
    exact m.recordType?_operation
      (operations ▸ Declaration.nodup_operations_of_ofJson hd) ht

end SuppliedModule

/-! ## What is missing -/

theorem validate_eq_ok_iff {r : Record} : r.validate = .ok () ↔
    ∀ f ∈ r.type.fields, f.required = true → (r.value f).isEmpty = false := by
  have none_missing : r.missing = [] ↔
      ∀ f ∈ r.type.fields, f.required = true → (r.value f).isEmpty = false := by
    simp [missing, List.filter_eq_nil_iff]
  rw [← none_missing, validate]
  cases r.missing <;> simp

/-! ## Starting from more values -/

namespace RecordType

variable {given : Table String FieldValue}

theorem hidesMark_of_empty (h : t.hidesMark .empty = true) : t.hidesMark given = true := by
  unfold hidesMark at *
  cases hg : t.field? markName with
  | none => simp [hg] at h
  | some g =>
    have scalar : g.shape = .scalar := by simpa [hg, Table.contains] using h
    simp [scalar]

theorem takesDefault_empty (h : t.takesDefault given f = true) :
    t.takesDefault .empty f = true := by
  simp only [takesDefault, Bool.and_eq_true, Bool.or_eq_true, Bool.not_eq_true'] at *
  refine ⟨h.1, h.2.imp id fun absent => ⟨rfl, ?_⟩⟩
  cases hm : t.hidesMark .empty with
  | false => rfl
  | true =>
    rw [hidesMark_of_empty hm] at absent
    exact absent.2

theorem canStart_of_empty (h : t.canStart .empty = true) : t.canStart given = true := by
  simp only [canStart, Bool.and_eq_true, List.all_eq_true, Bool.or_eq_true] at *
  refine ⟨h.1, fun f hf => ?_⟩
  cases taken : t.takesDefault given f with
  | false => exact .inl rfl
  | true =>
    have := h.2 f hf
    rw [takesDefault_empty taken] at this
    simpa using this

theorem keepsMark_of_empty (h : t.keepsMark .empty f = true) (absent : given.get? f.name = none) :
    t.keepsMark given f = true := by
  simp only [keepsMark, Bool.and_eq_true, Bool.not_eq_true'] at *
  refine ⟨⟨h.1.1, ?_⟩, hidesMark_of_empty h.2⟩
  rw [Table.contains, absent]
  rfl

theorem settledValue?_of_unforced (unforced : f.name = markName → f.shape = .scalar) :
    t.settledValue? given f = if t.keepsMark given f then some .mark else none := by
  unfold settledValue?
  split
  · rfl
  · rw [if_neg]
    intro forced
    simp only [takesDefault, Bool.and_eq_true, decide_eq_true_eq] at forced
    exact forced.2.1 (unforced forced.1)

end RecordType

/-! ## What is read -/

/-- The values that are read from the tags of a run. -/
def readTable (t : RecordType) (edits : List Edit) : Table String FieldValue :=
  .ofList ((readingsOf t edits).map fun a => (a.1.name, a.2))

theorem get?_readTable (hf : f ∈ t.fields) :
    (readTable t edits).get? f.name = lastAssigned f (readingsOf t edits) := by
  have read_fields : ∀ a ∈ readingsOf t edits, a.1 ∈ t.fields := fun _ ha => mem_readingsOf ha
  have entered := get?_putAll_assignments hf read_fields .empty fun v => v
  rw [readTable, Table.ofList, entered, Table.get?_empty, Option.or_none, Option.map_id']

/-- The last tag that was written for the field reads as an empty value. -/
def ReadsEmpty (t : RecordType) (edits : List Edit) (f : PayloadField) : Prop :=
  ∃ v ∈ lastAssigned f (readingsOf t edits), v.isEmpty = true

instance (t : RecordType) (edits : List Edit) (f : PayloadField) :
    Decidable (ReadsEmpty t edits f) :=
  inferInstanceAs (Decidable (∃ v ∈ lastAssigned f (readingsOf t edits), _))

theorem mem_readingsOf_of_sends {a : Assignment} (ha : a ∈ assignmentsOf t edits)
    (hs : a.1.sends a.2 = true) : (a.1, a.2.received) ∈ readingsOf t edits := by
  obtain ⟨e, he, ha⟩ := List.mem_flatMap.1 ha
  refine List.mem_flatMap.2 ⟨e, he, ?_⟩
  cases e with
  | fields values => exact List.mem_map.2 ⟨a, List.mem_filter.2 ⟨ha, hs⟩, rfl⟩
  | _ => cases ha

theorem lastAssigned_ne_none {as : List Assignment} {v : FieldValue} (h : (f, v) ∈ as) :
    lastAssigned f as ≠ none := by
  rw [lastAssigned, ne_eq, Option.map_eq_none_iff, List.getLast?_eq_none_iff]
  exact List.ne_nil_of_mem (List.mem_filter.2 ⟨h, by simp⟩)

/-- The value of a field at the writer. -/
def writtenValue (t : RecordType) (edits : List Edit) (f : PayloadField) : FieldValue :=
  ((lastAssigned f (assignmentsOf t edits)).or (t.settledValue? .empty f)).getD f.shape.default

/-- The value of a field at the receiver. -/
def readValue (t : RecordType) (edits : List Edit) (f : PayloadField) : FieldValue :=
  ((t.settledValue? (readTable t edits) f).or (lastAssigned f (readingsOf t edits))).getD
    f.shape.default

theorem isEmpty_default (s : FieldShape) : s.default.isEmpty = true := by
  cases s <;> rfl

/-- A value that the writer has is missed by the receiver only if its last tag reads as empty. -/
theorem readValue_isEmpty_iff (hf : f ∈ t.fields)
    (unforced : f.name = RecordType.markName → f.shape = .scalar)
    (filled : (writtenValue t edits f).isEmpty = false) :
    (readValue t edits f).isEmpty = false ↔ ¬ ReadsEmpty t edits f := by
  have settled (given : Table String FieldValue) :
      t.settledValue? given f = if t.keepsMark given f then some .mark else none :=
    RecordType.settledValue?_of_unforced unforced
  unfold readValue ReadsEmpty
  cases hl : lastAssigned f (readingsOf t edits) with
  | some v =>
    have read : (readTable t edits).contains f.name = true := by
      rw [Table.contains, get?_readTable hf, hl]
      rfl
    have unmarked : t.keepsMark (readTable t edits) f = false := by
      simp [RecordType.keepsMark, read]
    rw [settled, unmarked]
    simp
  | none =>
    -- nothing was sent, so the writer has a mark, and the receiver gets the same one
    have unassigned : lastAssigned f (assignmentsOf t edits) = none := by
      by_contra assigned
      obtain ⟨v, hv⟩ := Option.ne_none_iff_exists'.1 assigned
      rw [writtenValue, hv, Option.some_or, Option.getD_some] at filled
      have sent := mem_readingsOf_of_sends (mem_of_lastAssigned hv)
        (PayloadField.sends_iff.2 (.inl filled))
      exact lastAssigned_ne_none sent hl
    have marked : t.keepsMark .empty f = true := by
      by_contra unmarked
      rw [writtenValue, unassigned, settled, if_neg unmarked, Option.none_or, Option.getD_none,
        isEmpty_default] at filled
      cases filled
    have absent : (readTable t edits).get? f.name = none := by rw [get?_readTable hf, hl]
    rw [settled, if_pos (RecordType.keepsMark_of_empty marked absent)]
    simp [FieldValue.isEmpty]

/-! ## Fields with tags of their own -/

/-- Outside the tag of the parents, what is read of a field is what was sent for it. -/
theorem lastAssigned_readingsOf (no_parent : f.tag ≠ TagName.parent) (edits : List Edit) :
    lastAssigned f (readingsOf t edits) =
      (lastSent f (assignmentsOf t edits)).map FieldValue.received := by
  have of_edit (e : Edit) : (e.readings t).filter (·.1 = f) =
      ((sent (e.assignments t)).filter (·.1 = f)).map fun a => (a.1, a.2.received) := by
    cases e with
    | capability action key expiry => rfl
    | parents parents =>
      cases parents with
      | nil => rfl
      | cons p ps =>
        refine List.filter_eq_nil_iff.2 fun a ha => ?_
        obtain ⟨g, hg, rfl⟩ := List.mem_map.1 ha
        have found : t.fieldOfTag? TagName.parent = some g := by simpa using hg
        have htag := (List.mem_filter.1 (List.mem_of_getLast? found)).2
        have other : g ≠ f := fun e => no_parent (e ▸ of_decide_eq_true htag)
        simpa using other
    | content content => rfl
    | fields values => exact List.filter_map
  have of_run : (readingsOf t edits).filter (·.1 = f) =
      ((sent (assignmentsOf t edits)).filter (·.1 = f)).map fun a => (a.1, a.2.received) := by
    rw [readingsOf, assignmentsOf, sent, List.filter_flatMap, List.filter_flatMap,
      List.filter_flatMap, List.map_flatMap]
    exact List.flatMap_congr fun e _ => of_edit e
  rw [lastAssigned, of_run, List.getLast?_map, lastSent, lastAssigned, Option.map_map,
    Option.map_map]
  rfl

theorem not_readsEmpty (no_parent : f.tag ≠ TagName.parent)
    (free : ∀ v ∈ lastAssigned f (assignmentsOf t edits), v.SeparatorFree)
    (filled : (writtenValue t edits f).isEmpty = false) : ¬ ReadsEmpty t edits f := by
  rintro ⟨v, hv, empty⟩
  rw [lastAssigned_readingsOf no_parent] at hv
  obtain ⟨w, hw, rfl⟩ := Option.map_eq_some_iff.1 hv
  obtain ⟨last, hlast⟩ : ∃ last, lastAssigned f (assignmentsOf t edits) = some last := by
    refine Option.ne_none_iff_exists'.1 fun unassigned => ?_
    cases hw.symm.trans (lastSent_eq_none unassigned)
  rw [writtenValue, hlast, Option.some_or, Option.getD_some] at filled
  -- what is not empty is sent, so the last value is the one that was read
  cases hw.symm.trans (lastSent_of_lastAssigned hlast (PayloadField.sends_iff.2 (.inl filled)))
  rw [received_of_separatorFree (free w hlast), filled] at empty
  cases empty

/-! ## The two records -/

section

variable {r : Registry} {kind now : Int} {sid : String} {draft : Record}

theorem type_after (plain : t.role = .plain) (hk : r.kind? t.operation = some kind)
    (hd : t.new r now sid = .ok draft) (edits : List Edit) : (draft.after edits).type = t :=
  (extended_after draft edits).type.trans (RecordType.type_of_new plain hk hd)

theorem value_after (plain : t.role = .plain) (hk : r.kind? t.operation = some kind)
    (hd : t.new r now sid = .ok draft) (edits : List Edit) (hf : f ∈ t.fields) :
    (draft.after edits).value f = writtenValue t edits f := by
  have assigned := (extended_after draft edits).assigned
  obtain ⟨-, rfl⟩ := (RecordType.new_eq_ok_iff plain hk).1 hd
  rw [Record.value, Table.getD, assigned, get?_putAll_assignments hf
    (fun _ ha => (mem_assignmentsOf ha).1) _ fun v => v, RecordType.get?_settle _ hf,
    Table.get?_empty, Option.or_none, Option.map_id']
  rfl

/-- The tags of every run are decoded, whether its edits fail or not. -/
theorem exists_decoded_after (plain : t.role = .plain) (apart : t.TagsApart) (hr : r.Routes t kind)
    (hd : t.new r now sid = .ok draft) (edits : List Edit) :
    ∃ got, Routing.outcome r (draft.after edits).header.envelope = .ok got ∧ got.type = t ∧
      ∀ f ∈ t.fields, got.value f = readValue t edits f := by
  have ⟨starts, hdraft⟩ := (RecordType.new_eq_ok_iff plain hr.found).1 hd
  have tags : draft.header.envelope.tags = [[TagName.marker, operationMarker],
      [TagName.subspaceId, sid], [TagName.operation, t.operation]] := by
    rw [hdraft]
    rfl
  have extended := extended_after draft edits
  rw [RecordType.type_of_new plain hr.found hd] at extended
  have kind_kept : (draft.after edits).header.envelope.kind = kind := by
    rw [extended.kind, hdraft]
    rfl
  have opening : CommonTags.read draft.header.envelope.tags = .ok ⟨sid, none, []⟩ := by
    rw [tags]
    rfl
  obtain ⟨c, read⟩ := exists_read_append apart opening edits
  rw [← extended.tags] at read
  have scanned : t.scan (draft.after edits).header.envelope.tags = readTable t edits := by
    rw [RecordType.scan, extended.tags, tags, List.foldl_append]
    simp only [List.foldl_cons, List.foldl_nil]
    rw [readTag_of_reserved apart (by decide), readTag_of_reserved apart (by decide),
      readTag_of_reserved apart (by decide), foldl_readTag_tagsOf apart]
    rfl
  have outcome := outcome_of_routes plain hr kind_kept read
  rw [scanned] at outcome
  refine ⟨_, outcome.trans (RecordType.start_eq_ok_iff.2
    ⟨RecordType.canStart_of_empty starts, rfl⟩), rfl, fun f hf => ?_⟩
  rw [Record.value, Table.getD, RecordType.get?_settle _ hf, get?_readTable hf]
  rfl

/-- Every run of edits on a draft of a supplied type is decoded, whether its edits fail or not.
Where the record that was written is valid, the record that is decoded is valid too, unless the last
tag that was written for a required field reads as an empty value. That can happen only to a map
with separators in its keys or values and to a field in the tag of the parents. -/
theorem decoded_validate_iff (reachable : r.Reachable) (enrolled : r.module? m.name = some m)
    (supplied : SuppliedModule m) (ht : t ∈ m.records) (plain : t.role = .plain)
    (unforced : ∀ f ∈ t.fields, f.required = true → f.name = RecordType.markName →
      f.shape = .scalar)
    (hd : t.new r now sid = .ok draft) (edits : List Edit) :
    ∃ got, (r.decode (draft.after edits).header.envelope).outcome = .ok got ∧ got.type = t ∧
      ((draft.after edits).validate = .ok () →
        (got.validate = .ok () ↔
          ∀ f ∈ t.fields, f.required = true → ¬ ReadsEmpty t edits f) ∧
        ∀ f ∈ t.fields, f.required = true → ReadsEmpty t edits f → f.tag = TagName.parent ∨
          ∃ v ∈ lastAssigned f (assignmentsOf t edits), ¬ v.SeparatorFree) := by
  obtain ⟨kind, routes⟩ :=
    reachable.consistent.exists_routes_of_module enrolled (supplied.recordType?_eq ht)
  obtain ⟨got, hgot, type, values⟩ :=
    exists_decoded_after plain (supplied.supplied ht).tagsApart routes hd edits
  refine ⟨got, hgot, type, fun valid => ?_⟩
  rw [validate_eq_ok_iff, type_after plain routes.found hd] at valid
  have filled : ∀ f ∈ t.fields, f.required = true → (writtenValue t edits f).isEmpty = false := by
    intro f hf required
    rw [← value_after plain routes.found hd edits hf]
    exact valid f hf required
  constructor
  · rw [validate_eq_ok_iff, type]
    refine forall₃_congr fun f hf required => ?_
    rw [values f hf]
    exact readValue_isEmpty_iff hf (unforced f hf required) (filled f hf required)
  · intro f hf required empty
    by_contra other
    simp only [not_or, not_exists, not_and, not_not] at other
    exact not_readsEmpty other.1 other.2 (filled f hf required) empty

end

/-- A comment is valid for its receiver also behind a list of parents. -/
theorem decoded_validate_comment : ∃ draft got,
    Social.comment.new Catalogue.registry 1700000000 "s" = .ok draft ∧
      (Catalogue.registry.decode (draft.after [.fields [("object_id", .text "o"),
        ("user_id", .text "u")], .parents [""]]).header.envelope).outcome = .ok got ∧
        (draft.after [.fields [("object_id", .text "o"), ("user_id", .text "u")],
          .parents [""]]).validate = .ok () ∧ got.validate = .ok () := by
  have hm : Social.operations ∈ Catalogue.modules := by decide +kernel
  obtain ⟨draft, hd⟩ : ∃ draft, Social.comment.new Catalogue.registry 1700000000 "s" = .ok draft :=
    ⟨_, rfl⟩
  obtain ⟨got, hgot, -, agree⟩ := decoded_validate_iff ⟨_, rfl⟩ (enrolled_builtIn _ hm)
    (.builtIn hm) (by decide +kernel) rfl (by decide) hd
    [.fields [("object_id", .text "o"), ("user_id", .text "u")], .parents [""]]
  have valid : (draft.after [.fields [("object_id", .text "o"), ("user_id", .text "u")],
      .parents [""]]).validate = .ok () := by
    cases hd
    rfl
  exact ⟨draft, got, hd, hgot, valid, (agree valid).1.2 (by decide +kernel)⟩

/-- A declaration of an event with a required map. -/
def weighedJson : Json :=
  .object [("name", .text "m"), ("package", .text "p"), ("events", .array [.object [
    ("name", .text "WeighEvent"), ("operation", .text "weigh"), ("kind", .int 31001),
    ("fields", .array [.object [("name", .text "weights"), ("type", .text "map"),
      ("required", .bool true)]])]])]

def weighedEvent : EventDeclaration where
  name := "WeighEvent"
  operation := "weigh"
  kind := 31001
  description := ""
  fields := [⟨"weights", "weights", true, true, false⟩]

def weighedModule : OperationModule where
  serial := 0
  name := "m"
  package := "p"
  description := ""
  kinds := ⟨[(31001, "weigh")], by decide⟩
  records := [weighedEvent.recordType (by decide)]
  declared := by decide

theorem suppliedModule_weighed : SuppliedModule weighedModule := by
  have read : Declaration.ofJson weighedJson = .ok ⟨"m", "p", "", [weighedEvent]⟩ := by
    decide +kernel
  have flawless : weighedEvent.typeFlaw? = none :=
    EventDeclaration.typeFlaw?_of_plainNames (by decide +kernel)
  have types : [weighedEvent].mapM EventDeclaration.toRecordType = .ok weighedModule.records := by
    rw [List.mapM_cons, EventDeclaration.toRecordType_of_typeFlaw? flawless]
    rfl
  have made : Declaration.toModule ⟨"m", "p", "", [weighedEvent]⟩ 0 = .ok weighedModule :=
    bind_eq_ok_iff.2 ⟨_, types, rfl⟩
  exact .declared read made

/-- Of a map whose only key holds a separator nothing is read, so it is missing at the receiver. -/
theorem not_valid_decoded_weighed : SuppliedModule weighedModule ∧
    (Registry.run [.whole weighedModule]).module? weighedModule.name = some weighedModule ∧
      ∃ t draft built got, weighedModule.records = [t] ∧ t.role = .plain ∧
        t.new (.run [.whole weighedModule]) 1700000000 "s" = .ok draft ∧
          draft.editAll? [.fields [("weights", .entries [("a:b", "c")])]] = some built ∧
            built.validate = .ok () ∧
              ((Registry.run [.whole weighedModule]).decode built.header.envelope).outcome =
                .ok got ∧ got.validate = .error (.rejected (.missingTag "weights")) :=
  ⟨suppliedModule_weighed, rfl, _, _, _, _, rfl, rfl, rfl, rfl, rfl, rfl, rfl⟩

end SubspaceOps
