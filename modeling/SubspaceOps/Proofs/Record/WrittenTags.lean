import SubspaceOps.Proofs.Record.Run

/-!
# Tags that a run of edits writes

Edits only append: each one adds its tags behind those of the envelope and its assignments behind
those of the record, also when it fails part of the way (`extended_after`). The tag of the parents
may carry a field too. What the payload scan finds in the tags of a run is then the list of its
readings, which has two sources: the assignments that are sent, and the lists of parents
(`foldl_readTag_tagsOf`).
-/
namespace SubspaceOps

/-- The payload tags differ from each other and from those of the header, apart from the tag of the
parents. -/
def RecordType.TagsApart (t : RecordType) : Prop :=
  (t.fields.map PayloadField.tag).Nodup ∧ ∀ f ∈ t.fields, f.tag ∉ TagName.reserved

instance (t : RecordType) : Decidable t.TagsApart := inferInstanceAs (Decidable (_ ∧ _))

namespace Record

variable {t : RecordType}

theorem readTag_of_reserved (apart : t.TagsApart) {name : String}
    (hname : name ∈ TagName.reserved) (given : Table String FieldValue) (vs : List String) :
    t.readTag given (name :: vs) = given :=
  readTag_of_no_field (fun f hf htag => apart.2 f hf (htag ▸ hname)) given vs

/-! ## What edits append -/

/-- The tags of a list of assignments. -/
def assignmentTags (as : List Assignment) : List Tag :=
  as.flatMap fun a => (a.1.tagFor? a.2).toList

theorem exists_of_mem_assignmentTags {as : List Assignment} {tag : Tag}
    (h : tag ∈ assignmentTags as) : ∃ a ∈ as, tag = a.1.tag :: a.2.tagValues := by
  obtain ⟨a, ha, htag⟩ := List.mem_flatMap.1 h
  refine ⟨a, ha, ?_⟩
  cases hs : a.1.sends a.2 with
  | false =>
    have no_tag : a.1.tagFor? a.2 = none := by simpa [PayloadField.sends] using hs
    rw [no_tag] at htag
    cases htag
  | true =>
    rw [PayloadField.tagFor?_of_sends hs] at htag
    exact (Option.some.inj (Option.mem_toList.1 htag)).symm

/-- The tags that an edit of a record of the type writes. -/
def Edit.tags (t : RecordType) : Edit → List Tag
  | .capability action key expiry =>
    match Capability.new action key expiry with
    | .ok c => [c.tag]
    | .error _ => []
  | .parents [] => []
  | .parents (p :: ps) => [TagName.parent :: p :: ps]
  | .content _ => []
  | .fields values => assignmentTags ((Edit.fields values).assignments t)

/-- The tags of a list of edits. -/
def tagsOf (t : RecordType) (edits : List Edit) : List Tag := edits.flatMap (Edit.tags t)

/-- The second record has come from the first by appending tags and making assignments. -/
structure Extended (r : Record) (tags : List Tag) (as : List Assignment) (r' : Record) : Prop where
  type : r'.type = r.type
  kind : r'.header.envelope.kind = r.header.envelope.kind
  tags : r'.header.envelope.tags = r.header.envelope.tags ++ tags
  assigned : r'.assigned = r.assigned.putAll (as.map fun a => (a.1.name, a.2))

namespace Extended

variable {r r' r'' : Record} {tags tags' : List Tag} {as as' : List Assignment}

theorem refl (r : Record) : Extended r [] [] r := ⟨rfl, rfl, by simp, rfl⟩

theorem trans (h : Extended r tags as r') (h' : Extended r' tags' as' r'') :
    Extended r (tags ++ tags') (as ++ as') r'' where
  type := h'.type.trans h.type
  kind := h'.kind.trans h.kind
  tags := by rw [h'.tags, h.tags, List.append_assoc]
  assigned := by rw [h'.assigned, h.assigned, List.map_append, Table.putAll_append]

end Extended

theorem extended_putAll (r : Record) (as : List Assignment) :
    Extended r (assignmentTags as) as (r.putAll as) := by
  rw [putAll_eq]
  exact ⟨rfl, rfl, rfl, rfl⟩

theorem extended_edit (r : Record) (e : Edit) :
    Extended r (e.tags r.type) (e.assignments r.type) (r.edit e).1 := by
  cases e with
  | capability action key expiry =>
    change Extended r _ [] (r.setCapability action key expiry).1
    rw [setCapability, Edit.tags]
    cases Capability.new action key expiry with
    | ok c => exact ⟨rfl, rfl, rfl, rfl⟩
    | error e => exact .refl r
  | parents parents =>
    cases parents with
    | nil => exact .refl r
    | cons p ps => exact ⟨rfl, rfl, rfl, rfl⟩
  | content content => exact ⟨rfl, rfl, by simp [edit, setContent, Edit.tags], rfl⟩
  | fields values =>
    change Extended r _ _ (r.setFields values).1
    rw [setFields_fst]
    exact extended_putAll r _

/-- A run appends the tags and the assignments of its edits, whether they fail or not. -/
theorem extended_after (r : Record) (edits : List Edit) :
    Extended r (tagsOf r.type edits) (assignmentsOf r.type edits) (r.after edits) := by
  induction edits generalizing r with
  | nil => exact .refl r
  | cons e edits ih =>
    have first := extended_edit r e
    have rest := ih (r.edit e).1
    rw [first.type] at rest
    exact first.trans rest

/-! ## What the tags are read as -/

/-- The values that the tags of an edit are read as. Parents are read as a value of the field in
their tag. -/
def Edit.readings (t : RecordType) : Edit → List Assignment
  | .parents (p :: ps) =>
    (t.fieldOfTag? TagName.parent).toList.map fun f => (f, f.shape.ofTag p ps)
  | .fields values =>
    (sent ((Edit.fields values).assignments t)).map fun a => (a.1, a.2.received)
  | _ => []

/-- The values that the tags of a list of edits are read as. -/
def readingsOf (t : RecordType) (edits : List Edit) : List Assignment :=
  edits.flatMap (Edit.readings t)

theorem foldl_readTag_assignmentTags (apart : t.TagsApart) {as : List Assignment}
    (has : ∀ a ∈ as, a.1 ∈ t.fields ∧ a.2.shape? = some a.1.shape)
    (given : Table String FieldValue) :
    (assignmentTags as).foldl t.readTag given =
      given.putAll ((sent as).map fun a => (a.1.name, a.2.received)) := by
  induction as generalizing given with
  | nil => rfl
  | cons a as ih =>
    rw [List.forall_mem_cons] at has
    rw [assignmentTags, List.flatMap_cons, List.foldl_append]
    cases hs : a.1.sends a.2 with
    | false =>
      have no_tag : a.1.tagFor? a.2 = none := by simpa [PayloadField.sends] using hs
      have unsent : sent (a :: as) = sent as := by simp [sent, hs]
      rw [no_tag, unsent]
      exact ih has.2 given
    | true =>
      have appended : sent (a :: as) = a :: sent as := by simp [sent, hs]
      rw [PayloadField.tagFor?_of_sends hs, appended]
      change (assignmentTags as).foldl t.readTag (t.readTag given (a.1.tag :: a.2.tagValues)) = _
      rw [readTag_of_sends apart.1 has.1.1 has.1.2 hs, ih has.2]
      rfl

theorem foldl_readTag_tags (apart : t.TagsApart) (e : Edit) (given : Table String FieldValue) :
    (e.tags t).foldl t.readTag given =
      given.putAll ((e.readings t).map fun a => (a.1.name, a.2)) := by
  cases e with
  | capability action key expiry =>
    rw [Edit.tags]
    cases Capability.new action key expiry with
    | ok c => exact readTag_of_reserved apart (by decide) given [c.text]
    | error e => rfl
  | parents parents =>
    cases parents with
    | nil => rfl
    | cons p ps =>
      simp only [Edit.tags, Edit.readings, List.foldl_cons, List.foldl_nil, RecordType.readTag]
      cases t.fieldOfTag? TagName.parent <;> rfl
  | content content => rfl
  | fields values =>
    rw [Edit.tags, foldl_readTag_assignmentTags apart fun _ ha => Edit.mem_assignments ha,
      Edit.readings, List.map_map]
    rfl

/-- The payload scan enters the readings of the edits one behind the other. -/
theorem foldl_readTag_tagsOf (apart : t.TagsApart) (edits : List Edit)
    (given : Table String FieldValue) :
    (tagsOf t edits).foldl t.readTag given =
      given.putAll ((readingsOf t edits).map fun a => (a.1.name, a.2)) := by
  induction edits generalizing given with
  | nil => rfl
  | cons e edits ih =>
    rw [tagsOf, readingsOf, List.flatMap_cons, List.flatMap_cons, List.foldl_append,
      foldl_readTag_tags apart, List.map_append, Table.putAll_append]
    exact ih _

theorem mem_readings {e : Edit} {a : Assignment} (h : a ∈ e.readings t) : a.1 ∈ t.fields := by
  unfold Edit.readings at h
  split at h
  · obtain ⟨f, hf, rfl⟩ := List.mem_map.1 h
    have found : t.fieldOfTag? TagName.parent = some f := by simpa using hf
    exact (List.mem_filter.1 (List.mem_of_getLast? found)).1
  · obtain ⟨b, hb, rfl⟩ := List.mem_map.1 h
    exact (Edit.mem_assignments (List.mem_filter.1 hb).1).1
  · cases h

theorem mem_readingsOf {edits : List Edit} {a : Assignment} (h : a ∈ readingsOf t edits) :
    a.1 ∈ t.fields := by
  obtain ⟨e, -, he⟩ := List.mem_flatMap.1 h
  exact mem_readings he

/-! ## The header -/

theorem readable_of_mem_tags (apart : t.TagsApart) {e : Edit} {tag : Tag} {text : String}
    (htag : tag ∈ e.tags t) (htext : CommonTags.capabilityText? tag = some text) :
    CommonTags.Readable text := by
  cases e with
  | capability action key expiry =>
    simp only [Edit.tags] at htag
    split at htag
    · next c _ =>
      cases List.mem_singleton.1 htag
      cases htext
      exact ⟨c, Capability.read_text c⟩
    · cases htag
  | parents parents =>
    cases parents with
    | nil => cases htag
    | cons p ps =>
      cases List.mem_singleton.1 htag
      cases htext
  | content content => cases htag
  | fields values =>
    obtain ⟨a, ha, rfl⟩ := exists_of_mem_assignmentTags htag
    have own : a.1.tag ≠ TagName.capability := fun e =>
      apart.2 _ (Edit.mem_assignments ha).1 (by rw [e]; decide)
    unfold CommonTags.capabilityText? at htext
    split at htext
    · next hcons =>
      rw [if_neg ((List.cons.inj hcons).1 ▸ own)] at htext
      cases htext
    · cases htext

theorem exists_read_append (apart : t.TagsApart) {tags : List Tag} {c : CommonTags}
    (h : CommonTags.read tags = .ok c) (edits : List Edit) :
    ∃ c', CommonTags.read (tags ++ tagsOf t edits) = .ok c' := by
  rw [CommonTags.read_isOk_iff, CommonTags.capabilityTexts, List.filterMap_append]
  intro text htext
  rcases List.mem_append.1 htext with before | behind
  · exact CommonTags.read_isOk_iff.1 ⟨c, h⟩ text before
  · obtain ⟨tag, htag, htext⟩ := List.mem_filterMap.1 behind
    obtain ⟨e, -, htag⟩ := List.mem_flatMap.1 htag
    exact readable_of_mem_tags apart htag htext

end Record

end SubspaceOps
