import SubspaceOps.Proofs.Record.Assignments
import SubspaceOps.Proofs.Routing.CommonTags

/-!
# Runs of edits

A draft is edited in any order, and an edit may fail part of the way. The invariant `Tracks` says
what the envelope of the record shows at every point of the run: its tags read as the header of the
record, its content is that of the record, and the payload scan finds exactly the assignments that
were sent. It is kept by each way of writing to a record, hence by edits and by runs.
-/
namespace SubspaceOps.Record

/-! ## Edits as assignments -/

theorem put_eq (r : Record) (f : PayloadField) (v : FieldValue) :
    r.put f v = { r with
      assigned := r.assigned.put f.name v
      header := { r.header with envelope := { r.header.envelope with
        tags := r.header.envelope.tags ++ (f.tagFor? v).toList } } } := by
  unfold put
  cases f.tagFor? v with
  | none => simp
  | some tag => rfl

/-- Make assignments one after the other. -/
def putAll (r : Record) (as : List Assignment) : Record := as.foldl (fun r a => r.put a.1 a.2) r

/-- Assignments enter their values and write their tags, one behind the other, and change nothing
else. -/
theorem putAll_eq (r : Record) (as : List Assignment) :
    r.putAll as = { r with
      assigned := r.assigned.putAll (as.map fun a => (a.1.name, a.2))
      header := { r.header with envelope := { r.header.envelope with
        tags := r.header.envelope.tags ++ as.flatMap fun a => (a.1.tagFor? a.2).toList } } } := by
  induction as generalizing r with
  | nil => simp [putAll, Table.putAll]
  | cons a as ih =>
    change (r.put a.1 a.2).putAll as = _
    rw [ih, put_eq]
    simp [Table.putAll]

theorem header_putAll (r : Record) (as : List Assignment) :
    (r.putAll as).header = { r.header with envelope := { r.header.envelope with
      tags := r.header.envelope.tags ++ as.flatMap fun a => (a.1.tagFor? a.2).toList } } := by
  rw [putAll_eq]

theorem setInOrder_of_unknown {r : Record} {i : String × FieldInput}
    (unknown : r.type.field? i.1 = none) (rest : List (String × FieldInput)) :
    r.setInOrder (i :: rest) = (r, some (.unknownField r.type.name i.1)) := by
  simp only [setInOrder, setField, unknown]

theorem setInOrder_of_accept {r : Record} {i : String × FieldInput} {f : PayloadField}
    {v : FieldValue} (found : r.type.field? i.1 = some f) (accepted : f.accept i.2 = .ok v)
    (rest : List (String × FieldInput)) :
    r.setInOrder (i :: rest) = (r.put f v).setInOrder rest := by
  simp only [setInOrder, setField, found, accepted, Except.map]

@[simp] theorem type_put (r : Record) (f : PayloadField) (v : FieldValue) :
    (r.put f v).type = r.type := by
  rw [put_eq]

theorem setInOrder_fst (r : Record) (inputs : List (String × FieldInput)) :
    (r.setInOrder inputs).1 = r.putAll (r.type.assignments inputs) := by
  induction inputs generalizing r with
  | nil => rfl
  | cons i rest ih =>
    rw [RecordType.assignments]
    cases hf : r.type.field? i.1 with
    | none => rw [setInOrder_of_unknown hf]; rfl
    | some f =>
      cases hv : f.accept i.2 with
      | error e =>
        simp only [setInOrder, setField, hf, hv]
        rfl
      | ok v =>
        rw [setInOrder_of_accept hf hv, ih, type_put]
        simp only [hv]
        rfl

theorem setFields_of_receiver {r : Record} {values : List (String × FieldInput)}
    (receiver : ∃ i ∈ values, i.1 = "self") :
    r.setFields values = (r, some .receiverName) := by
  obtain ⟨i, hi, hname⟩ := receiver
  rw [setFields, if_pos (List.any_eq_true.2 ⟨i, hi, decide_eq_true hname⟩)]

theorem setFields_of_named {r : Record} {values : List (String × FieldInput)}
    (named : ¬ ∃ i ∈ values, i.1 = "self") :
    r.setFields values = r.setInOrder (Table.ofList values).entries := by
  rw [setFields, if_neg]
  intro receiver
  obtain ⟨i, hi, hname⟩ := List.any_eq_true.1 receiver
  exact named ⟨i, hi, of_decide_eq_true hname⟩

/-- The assignments that an edit makes to a record of the type. -/
def Edit.assignments (t : RecordType) : Edit → List Assignment
  | .fields values =>
    if values.any (·.1 = "self") then [] else t.assignments (Table.ofList values).entries
  | _ => []

/-- The assignments of a list of edits. -/
def assignmentsOf (t : RecordType) (edits : List Edit) : List Assignment :=
  edits.flatMap (Edit.assignments t)

theorem setFields_fst (r : Record) (values : List (String × FieldInput)) :
    (r.setFields values).1 = r.putAll ((Edit.fields values).assignments r.type) := by
  simp only [setFields, Edit.assignments]
  split
  · rfl
  · exact setInOrder_fst r _

theorem Edit.mem_assignments {t : RecordType} {e : Edit} {a : Assignment}
    (h : a ∈ e.assignments t) : a.1 ∈ t.fields ∧ a.2.shape? = some a.1.shape := by
  unfold Edit.assignments at h
  split at h
  · split at h
    · cases h
    · exact RecordType.mem_assignments h
  · cases h

theorem mem_assignmentsOf {t : RecordType} {edits : List Edit} {a : Assignment}
    (h : a ∈ assignmentsOf t edits) : a.1 ∈ t.fields ∧ a.2.shape? = some a.1.shape := by
  obtain ⟨e, -, he⟩ := List.mem_flatMap.1 h
  exact Edit.mem_assignments he

/-- The record after a list of edits, whether they fail or not. -/
def after (r : Record) (edits : List Edit) : Record := edits.foldl (fun r e => (r.edit e).1) r

theorem after_of_editAll? {r built : Record} {edits : List Edit}
    (h : r.editAll? edits = some built) : r.after edits = built := by
  induction edits generalizing r with
  | nil => exact Option.some.inj h
  | cons e edits ih =>
    unfold editAll? at h
    split at h
    · next next he =>
      change (r.edit e).1.after edits = built
      rw [he]
      exact ih h
    · cases h

/-! ## The invariant -/

/-- The record has come from a draft by edits with the given assignments, and its envelope shows
what it holds. -/
structure Tracks (draft : Record) (as : List Assignment) (r : Record) : Prop where
  type : r.type = draft.type
  subspaceId : r.header.subspaceId = draft.header.subspaceId
  operation : r.header.operation = draft.header.operation
  kind : r.header.envelope.kind = draft.header.envelope.kind
  common : CommonTags.read r.header.envelope.tags =
    .ok ⟨r.header.subspaceId, r.header.capability, r.header.parents⟩
  content : r.header.envelope.content = r.content
  assigned : r.assigned = draft.assigned.putAll (as.map fun a => (a.1.name, a.2))
  scanned : draft.type.scan r.header.envelope.tags =
    .ofList ((sent as).map fun a => (a.1.name, a.2.received))

theorem scan_append (t : RecordType) (tags : List Tag) (tag : Tag) :
    t.scan (tags ++ [tag]) = t.readTag (t.scan tags) tag :=
  List.foldl_concat _ _ _ _

theorem readTag_of_no_field {t : RecordType} {name : String}
    (h : ∀ f ∈ t.fields, f.tag ≠ name) (given : Table String FieldValue) (vs : List String) :
    t.readTag given (name :: vs) = given := by
  cases vs with
  | nil => rfl
  | cons v vs => simp only [RecordType.readTag, RecordType.fieldOfTag?_eq_none h]

theorem readTag_of_header {t : RecordType} (own : t.OwnTags) {name : String}
    (hname : name ∈ TagName.parent :: TagName.reserved) (given : Table String FieldValue)
    (vs : List String) : t.readTag given (name :: vs) = given :=
  readTag_of_no_field (fun f hf htag => own.2 f hf (htag ▸ hname)) given vs

theorem readCommonTag_of_field {t : RecordType} (own : t.OwnTags) {f : PayloadField}
    (hf : f ∈ t.fields) (c : CommonTags) (vs : List String) :
    CommonTags.readTag c (f.tag :: vs) = .ok c := by
  have hfree := own.2 f hf
  simp only [TagName.reserved, List.mem_cons, List.not_mem_nil, or_false, not_or] at hfree
  cases vs with
  | nil => rfl
  | cons v vs =>
    simp only [CommonTags.readTag, if_neg hfree.2.1, if_neg hfree.2.2.1, if_neg hfree.1]

theorem readTag_of_sends {t : RecordType} (nodup : (t.fields.map PayloadField.tag).Nodup)
    {f : PayloadField} (hf : f ∈ t.fields) {v : FieldValue} (hv : v.shape? = some f.shape)
    (hsends : f.sends v = true) (given : Table String FieldValue) :
    t.readTag given (f.tag :: v.tagValues) = given.put f.name v.received := by
  cases v with
  | scalar s =>
    have hs : FieldShape.scalar = f.shape := Option.some.inj hv
    simp only [RecordType.readTag, FieldValue.tagValues, RecordType.fieldOfTag?_tag nodup hf, ← hs]
    rfl
  | list xs =>
    have hs : FieldShape.list = f.shape := Option.some.inj hv
    cases xs with
    | nil => simp [PayloadField.sends_iff, FieldValue.isEmpty, ← hs] at hsends
    | cons x xs =>
      simp only [RecordType.readTag, FieldValue.tagValues, RecordType.fieldOfTag?_tag nodup hf,
        ← hs]
      rfl
  | pairs m =>
    have hs : FieldShape.pairs = f.shape := Option.some.inj hv
    simp only [RecordType.readTag, FieldValue.tagValues, RecordType.fieldOfTag?_tag nodup hf, ← hs]
    rfl
  | mark => cases hv

namespace Tracks

variable {draft r : Record} {as : List Assignment}

theorem grant (own : draft.type.OwnTags) (h : Tracks draft as r) (c : Capability) :
    Tracks draft as (r.grant c) where
  type := h.type
  subspaceId := h.subspaceId
  operation := h.operation
  kind := h.kind
  common := by
    change CommonTags.read (r.header.envelope.tags ++ [c.tag]) = _
    rw [CommonTags.read_append h.common, CommonTags.readTag_capability]
    rfl
  content := h.content
  assigned := h.assigned
  scanned := by
    change draft.type.scan (r.header.envelope.tags ++ [c.tag]) = _
    rw [scan_append, Capability.tag, readTag_of_header own (by decide), h.scanned]

theorem addParents (own : draft.type.OwnTags) (h : Tracks draft as r) (parents : List String) :
    Tracks draft as (r.addParents parents) := by
  cases parents with
  | nil => exact h
  | cons p ps =>
    exact {
      type := h.type
      subspaceId := h.subspaceId
      operation := h.operation
      kind := h.kind
      common := by
        change CommonTags.read (r.header.envelope.tags ++ [TagName.parent :: p :: ps]) = _
        rw [CommonTags.read_append h.common, CommonTags.readTag_parents]
        rfl
      content := h.content
      assigned := h.assigned
      scanned := by
        change draft.type.scan (r.header.envelope.tags ++ [TagName.parent :: p :: ps]) = _
        rw [scan_append, readTag_of_header own (by decide), h.scanned] }

theorem setContent (h : Tracks draft as r) (content : String) :
    Tracks draft as (r.setContent content) :=
  ⟨h.type, h.subspaceId, h.operation, h.kind, h.common, rfl, h.assigned, h.scanned⟩

theorem put (own : draft.type.OwnTags) (h : Tracks draft as r) {a : Assignment}
    (hf : a.1 ∈ draft.type.fields) (hv : a.2.shape? = some a.1.shape) :
    Tracks draft (as ++ [a]) (r.put a.1 a.2) := by
  rw [put_eq]
  have assigned : r.assigned.put a.1.name a.2 =
      draft.assigned.putAll ((as ++ [a]).map fun a => (a.1.name, a.2)) := by
    rw [List.map_append, Table.putAll_append, h.assigned]
    rfl
  cases hs : a.1.sends a.2 with
  | false =>
    have unsent : sent (as ++ [a]) = sent as := by simp [sent, hs]
    have no_tag : a.1.tagFor? a.2 = none := by simpa [PayloadField.sends] using hs
    rw [no_tag, Option.toList_none, List.append_nil]
    exact ⟨h.type, h.subspaceId, h.operation, h.kind, h.common, h.content, assigned,
      unsent ▸ h.scanned⟩
  | true =>
    have appended : sent (as ++ [a]) = sent as ++ [a] := by simp [sent, hs]
    rw [PayloadField.tagFor?_of_sends hs, Option.toList_some]
    refine ⟨h.type, h.subspaceId, h.operation, h.kind, ?_, h.content, assigned, ?_⟩
    · exact (CommonTags.read_append h.common _).trans (readCommonTag_of_field own hf _ _)
    · rw [scan_append, h.scanned, readTag_of_sends own.1 hf hv hs, appended, List.map_append,
        Table.ofList, Table.ofList, Table.putAll_append]
      rfl

theorem putAll (own : draft.type.OwnTags) (h : Tracks draft as r) {bs : List Assignment}
    (hbs : ∀ b ∈ bs, b.1 ∈ draft.type.fields ∧ b.2.shape? = some b.1.shape) :
    Tracks draft (as ++ bs) (r.putAll bs) := by
  induction bs generalizing as r with
  | nil =>
    rw [List.append_nil]
    exact h
  | cons b bs ih =>
    rw [List.forall_mem_cons] at hbs
    have := ih (h.put own hbs.1.1 hbs.1.2) hbs.2
    rw [List.append_assoc] at this
    exact this

theorem edit (own : draft.type.OwnTags) (h : Tracks draft as r) (e : Edit) :
    Tracks draft (as ++ e.assignments draft.type) (r.edit e).1 := by
  cases e with
  | capability action key expiry =>
    change Tracks draft (as ++ []) (r.setCapability action key expiry).1
    rw [List.append_nil]
    unfold setCapability
    split
    · exact h.grant own _
    · exact h
  | parents parents =>
    change Tracks draft (as ++ []) (r.addParents parents)
    rw [List.append_nil]
    exact h.addParents own parents
  | content content =>
    change Tracks draft (as ++ []) (r.setContent content)
    rw [List.append_nil]
    exact h.setContent content
  | fields values =>
    change Tracks draft _ (r.setFields values).1
    rw [setFields_fst, h.type]
    exact h.putAll own fun _ hb => Edit.mem_assignments hb

theorem run (own : draft.type.OwnTags) (h : Tracks draft as r) (edits : List Edit) :
    Tracks draft (as ++ assignmentsOf draft.type edits) (r.after edits) := by
  induction edits generalizing as r with
  | nil =>
    rw [assignmentsOf, List.flatMap_nil, List.append_nil]
    exact h
  | cons e edits ih =>
    rw [assignmentsOf, List.flatMap_cons, ← List.append_assoc]
    exact ih (h.edit own e)

end Tracks

end SubspaceOps.Record
