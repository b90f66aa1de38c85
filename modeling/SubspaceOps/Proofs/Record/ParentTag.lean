import Mathlib.Data.List.Induction
import SubspaceOps.Proofs.Catalogue
import SubspaceOps.Proofs.Record.ReadBack

/-!
# A payload field in the tag of the parents

Some types keep a text in the tag that also lists the causal parents. The tag then has two writers,
and the payload scan takes the first text of its last occurrence, whoever wrote it. So the field is
read as the value last assigned to it, unless parents were added behind this assignment: then the
first parent of the last list stands in its place (`decoded_parent_field`).
-/
namespace SubspaceOps

open Record

variable {t : RecordType} {f : PayloadField} {draft r : Record} {v : Option FieldValue}

/-! ## Who wrote last -/

namespace Record

/-- The first of the parents that an edit adds. -/
def Edit.firstParent? : Edit → Option String
  | .parents ps => ps.head?
  | _ => none

/-- The edit assigns a value to the field. -/
def Edit.assigns (t : RecordType) (f : PayloadField) (e : Edit) : Bool :=
  (lastAssigned f (e.assignments t)).isSome

/-- The first parent of the last list that was added behind the last assignment to the field. -/
def parentBehind? (t : RecordType) (f : PayloadField) (edits : List Edit) : Option String :=
  (edits.reverse.takeWhile fun e => !e.assigns t f).findSome? Edit.firstParent?

/-- The value that the two writers have left in the tag. -/
def leftInParentTag (t : RecordType) (f : PayloadField) (edits : List Edit) : Option FieldValue :=
  ((parentBehind? t f edits).map .scalar).or (lastAssigned f (assignmentsOf t edits))

end Record

theorem lastAssigned_append (f : PayloadField) (as bs : List Assignment) :
    lastAssigned f (as ++ bs) = (lastAssigned f bs).or (lastAssigned f as) := by
  simp only [lastAssigned, List.filter_append, List.getLast?_append, Option.map_or]

theorem assignmentsOf_concat (t : RecordType) (edits : List Edit) (e : Edit) :
    assignmentsOf t (edits ++ [e]) = assignmentsOf t edits ++ e.assignments t := by
  simp [assignmentsOf]

theorem parentBehind?_concat (t : RecordType) (f : PayloadField) (edits : List Edit) (e : Edit) :
    parentBehind? t f (edits ++ [e]) =
      if e.assigns t f then none else e.firstParent?.or (parentBehind? t f edits) := by
  cases h : e.assigns t f with
  | true => simp [parentBehind?, h]
  | false =>
    cases hp : e.firstParent? <;> simp [parentBehind?, h, hp]

theorem leftInParentTag_concat (t : RecordType) (f : PayloadField) (edits : List Edit) (e : Edit) :
    leftInParentTag t f (edits ++ [e]) = (lastAssigned f (e.assignments t)).or
      ((e.firstParent?.map .scalar).or (leftInParentTag t f edits)) := by
  rw [leftInParentTag, leftInParentTag, parentBehind?_concat, assignmentsOf_concat,
    lastAssigned_append, Edit.assigns]
  cases lastAssigned f (e.assignments t) with
  | some v => simp
  | none => cases e.firstParent? <;> simp

/-! ## Types with such a field -/

/-- A text field shares its tag with the parents; else the tags of the type are its own. -/
structure KeepsParent (t : RecordType) (f : PayloadField) : Prop where
  plain : t.role = .plain
  unhidden : t.Unhidden
  tags_nodup : (t.fields.map PayloadField.tag).Nodup
  unreserved : ∀ g ∈ t.fields, g.tag ∉ TagName.reserved
  mem : f ∈ t.fields
  shape : f.shape = .scalar
  tag : f.tag = TagName.parent

theorem keepsParent_builtIn {m : OperationModule} (hm : m ∈ Catalogue.modules) (ht : t ∈ m.records)
    (hf : f ∈ t.fields) (htag : f.tag = TagName.parent) : KeepsParent t f := by
  have texts : ∀ m ∈ Catalogue.modules, ∀ t ∈ m.records, ∀ f ∈ t.fields,
      f.tag = TagName.parent → t.role = .plain ∧ f.shape = .scalar := by decide +kernel
  have ht' : t ∈ Catalogue.modules.flatMap OperationModule.records :=
    List.mem_flatMap.2 ⟨m, hm, ht⟩
  have ⟨plain, shape⟩ := texts m hm t ht f hf htag
  have ⟨nodup, unreserved⟩ := tags_builtIn t ht'
  exact ⟨plain, unhidden_builtIn t ht', nodup, unreserved, hf, shape, htag⟩

namespace KeepsParent

variable (h : KeepsParent t f)
include h

theorem tag_ne {g : PayloadField} (hg : g ∈ t.fields) {name : String}
    (hname : name ∈ TagName.reserved) : g.tag ≠ name :=
  fun e => h.unreserved g hg (e ▸ hname)

theorem readTag_parents (given : Table String FieldValue) (p : String) (ps : List String) :
    t.readTag given (TagName.parent :: p :: ps) = given.put f.name (.scalar p) := by
  have found : t.fieldOfTag? TagName.parent = some f :=
    h.tag ▸ RecordType.fieldOfTag?_tag h.tags_nodup h.mem
  simp only [RecordType.readTag, found, h.shape, FieldShape.ofTag]

end KeepsParent

/-! ## The invariant -/

/-- The record has come from a draft by edits; its envelope can be decoded, and the payload scan
finds the given value for the field. -/
structure ShowsField (draft : Record) (f : PayloadField) (v : Option FieldValue) (r : Record) :
    Prop where
  type : r.type = draft.type
  kind : r.header.envelope.kind = draft.header.envelope.kind
  readable : ∃ c, CommonTags.read r.header.envelope.tags = .ok c
  scanned : (draft.type.scan r.header.envelope.tags).get? f.name = v

namespace ShowsField

theorem grant (keeps : KeepsParent draft.type f) (h : ShowsField draft f v r) (c : Capability) :
    ShowsField draft f v (r.grant c) where
  type := h.type
  kind := h.kind
  readable := by
    obtain ⟨common, read⟩ := h.readable
    change ∃ c', CommonTags.read (r.header.envelope.tags ++ [c.tag]) = .ok c'
    rw [CommonTags.read_append read, CommonTags.readTag_capability]
    exact ⟨_, rfl⟩
  scanned := by
    change (draft.type.scan (r.header.envelope.tags ++ [c.tag])).get? f.name = v
    rw [scan_append, Capability.tag,
      readTag_of_no_field fun g hg => keeps.tag_ne hg (by decide), h.scanned]

theorem addParents (keeps : KeepsParent draft.type f) (h : ShowsField draft f v r)
    (parents : List String) :
    ShowsField draft f ((parents.head?.map .scalar).or v) (r.addParents parents) := by
  cases parents with
  | nil => exact h
  | cons p ps =>
    obtain ⟨common, read⟩ := h.readable
    refine ⟨h.type, h.kind, ?_, ?_⟩
    · change ∃ c, CommonTags.read (r.header.envelope.tags ++ [TagName.parent :: p :: ps]) = .ok c
      rw [CommonTags.read_append read, CommonTags.readTag_parents]
      exact ⟨_, rfl⟩
    · change (draft.type.scan (r.header.envelope.tags ++ [TagName.parent :: p :: ps])).get?
        f.name = _
      rw [scan_append, keeps.readTag_parents, Table.get?_put_self]
      rfl

theorem setContent (h : ShowsField draft f v r) (content : String) :
    ShowsField draft f v (r.setContent content) :=
  ⟨h.type, h.kind, h.readable, h.scanned⟩

theorem put (keeps : KeepsParent draft.type f) (h : ShowsField draft f v r) {a : Assignment}
    (ha : a.1 ∈ draft.type.fields) (hshape : a.2.shape? = some a.1.shape)
    (filled : a.1 = f → a.2.isEmpty = false) :
    ShowsField draft f ((lastAssigned f [a]).or v) (r.put a.1 a.2) := by
  rw [put_eq]
  have other_name : a.1 ≠ f → f.name ≠ a.1.name := fun hne e =>
    hne (RecordType.eq_of_name_eq ha keeps.mem e.symm)
  cases hs : a.1.sends a.2 with
  | false =>
    -- what is not sent was assigned to another field
    have hne : a.1 ≠ f := fun e => by
      rw [PayloadField.sends_iff.2 (.inl (filled e))] at hs
      cases hs
    have no_tag : a.1.tagFor? a.2 = none := by simpa [PayloadField.sends] using hs
    have unshown : lastAssigned f [a] = none := by simp [lastAssigned, hne]
    rw [no_tag, Option.toList_none, List.append_nil, unshown, Option.none_or]
    exact ⟨h.type, h.kind, h.readable, h.scanned⟩
  | true =>
    obtain ⟨common, read⟩ := h.readable
    rw [PayloadField.tagFor?_of_sends hs, Option.toList_some]
    refine ⟨h.type, h.kind, ?_, ?_⟩
    · have no_capability : CommonTags.capabilityText? (a.1.tag :: a.2.tagValues) = none := by
        unfold CommonTags.capabilityText?
        split
        · next hcons =>
          rw [List.cons.injEq] at hcons
          rw [if_neg (hcons.1 ▸ keeps.tag_ne ha (by decide))]
        · rfl
      change ∃ c, CommonTags.read (r.header.envelope.tags ++ [_]) = .ok c
      rw [CommonTags.read_append read]
      exact CommonTags.readTag_of_no_text no_capability
    · change (draft.type.scan (r.header.envelope.tags ++ [_])).get? f.name = _
      rw [scan_append, readTag_of_sends keeps.tags_nodup ha hshape hs, Table.get?_put, h.scanned]
      by_cases hf : a.1 = f
      · have text : a.2.received = a.2 := by
          rw [hf, keeps.shape] at hshape
          cases hv : a.2 <;> rw [hv] at hshape <;> cases hshape
          rfl
        simp [lastAssigned, hf, text]
      · simp [lastAssigned, hf, other_name hf]

theorem putAll (keeps : KeepsParent draft.type f) (h : ShowsField draft f v r)
    {as : List Assignment}
    (has : ∀ a ∈ as, a.1 ∈ draft.type.fields ∧ a.2.shape? = some a.1.shape)
    (filled : ∀ a ∈ as, a.1 = f → a.2.isEmpty = false) :
    ShowsField draft f ((lastAssigned f as).or v) (r.putAll as) := by
  induction as generalizing v r with
  | nil => exact h
  | cons a as ih =>
    rw [List.forall_mem_cons] at has filled
    have := ih (h.put keeps has.1.1 has.1.2 filled.1) has.2 filled.2
    rw [← Option.or_assoc, ← lastAssigned_append] at this
    exact this

/-- What an edit leaves in the tag is what is shown behind it. -/
theorem edit (keeps : KeepsParent draft.type f) (h : ShowsField draft f v r) (e : Edit)
    (filled : ∀ a ∈ e.assignments draft.type, a.1 = f → a.2.isEmpty = false) :
    ShowsField draft f ((lastAssigned f (e.assignments draft.type)).or
      ((e.firstParent?.map .scalar).or v)) (r.edit e).1 := by
  cases e with
  | capability action key expiry =>
    change ShowsField draft f v (r.setCapability action key expiry).1
    unfold setCapability
    split
    · exact h.grant keeps _
    · exact h
  | parents parents => exact h.addParents keeps parents
  | content content => exact h.setContent content
  | fields values =>
    change ShowsField draft f _ (r.setFields values).1
    rw [setFields_fst, h.type]
    exact h.putAll keeps (fun _ ha => Edit.mem_assignments ha) filled

theorem run (keeps : KeepsParent draft.type f) (start : ShowsField draft f none draft)
    (edits : List Edit)
    (filled : ∀ a ∈ assignmentsOf draft.type edits, a.1 = f → a.2.isEmpty = false) :
    ShowsField draft f (leftInParentTag draft.type f edits) (draft.after edits) := by
  induction edits using List.reverseRecOn with
  | nil => exact start
  | append_singleton edits e ih =>
    rw [assignmentsOf_concat, List.forall_mem_append] at filled
    rw [leftInParentTag_concat, after, List.foldl_concat]
    exact (ih filled.1).edit keeps e filled.2

end ShowsField

/-! ## What a receiver reads -/

variable {reg : Registry} {kind now : Int} {sid : String}

theorem ShowsField.of_new (keeps : KeepsParent t f) (hk : reg.kind? t.operation = some kind)
    (hd : t.new reg now sid = .ok draft) : ShowsField draft f none draft := by
  obtain ⟨-, rfl⟩ := (RecordType.new_eq_ok_iff keeps.plain hk).1 hd
  refine ⟨rfl, rfl, ⟨_, rfl⟩, ?_⟩
  have skip {name : String} (hname : name ∈ TagName.reserved) :=
    readTag_of_no_field fun g hg => keeps.tag_ne hg hname
  simp only [RecordType.scan, Envelope.unsigned, List.foldl_cons, List.foldl_nil]
  rw [skip (by decide), skip (by decide), skip (by decide), Table.get?_empty]

theorem exists_decoded_of_shows (keeps : KeepsParent t f) (hr : reg.Routes t kind)
    (hd : t.new reg now sid = .ok draft) (h : ShowsField draft f v r) :
    ∃ got, Routing.outcome reg r.header.envelope = .ok got ∧ got.type = t ∧
      got.value f = v.getD f.shape.default := by
  obtain ⟨-, rfl⟩ := (RecordType.new_eq_ok_iff keeps.plain hr.found).1 hd
  obtain ⟨c, read⟩ := h.readable
  refine ⟨_, (outcome_of_routes keeps.plain hr h.kind read).trans
    (RecordType.start_of_unhidden keeps.unhidden _ _ _), rfl, ?_⟩
  rw [Record.value, Table.getD, h.scanned]

/-- Every run of edits on a draft of a built-in type with a field in the tag of the parents is
decoded, if the field is never assigned the empty text. The field is read as the value last assigned
to it, or as empty if there was none, whatever parents were added before; if parents were added
behind the last assignment, the first parent of the last list is read instead. -/
theorem decoded_parent_field {m : OperationModule} (hm : m ∈ Catalogue.modules) (ht : t ∈ m.records)
    (hf : f ∈ t.fields) (htag : f.tag = TagName.parent) (now : Int) (sid : String)
    (edits : List Edit)
    (filled : ∀ a ∈ assignmentsOf t edits, a.1 = f → a.2.isEmpty = false) :
    ∃ draft got, t.new Catalogue.registry now sid = .ok draft ∧
      (Catalogue.registry.decode (draft.after edits).header.envelope).outcome = .ok got ∧
        got.type = t ∧ got.value f = match parentBehind? t f edits with
          | none => (lastAssigned f (assignmentsOf t edits)).getD (.scalar "")
          | some p => .scalar p := by
  have keeps := keepsParent_builtIn hm ht hf htag
  obtain ⟨kind, routes⟩ := exists_routes_builtIn hm ht
  obtain ⟨draft, hd⟩ := RecordType.exists_draft keeps.plain keeps.unhidden routes.found now sid
  obtain rfl := RecordType.type_of_new keeps.plain routes.found hd
  have shows := (ShowsField.of_new keeps routes.found hd).run keeps edits filled
  obtain ⟨got, hgot, type, value⟩ := exists_decoded_of_shows keeps routes hd shows
  refine ⟨draft, got, hd, hgot, type, ?_⟩
  rw [value, leftInParentTag, keeps.shape]
  cases parentBehind? draft.type f edits <;> rfl

/-- A comment whose parent is set again behind a list of parents shows what was set. -/
theorem decoded_parent_comment : ∃ draft got,
    Social.comment.new Catalogue.registry 1700000000 "s" = .ok draft ∧
      (Catalogue.registry.decode (draft.after [.fields [("parent", .text "c0")],
        .parents ["p1", "p2"], .fields [("parent", .text "c1")]]).header.envelope).outcome =
          .ok got ∧
        got.type = Social.comment ∧
          got.value ((PayloadField.named "parent").optional) = .scalar "c1" := by
  have hm : Social.operations ∈ Catalogue.modules := by decide +kernel
  exact decoded_parent_field hm (by decide +kernel) (by decide) rfl 1700000000 "s" _
    (by decide +kernel)

/-- A comment whose parent is set before a list of parents shows the first of the list. -/
theorem decoded_parent_ne_assigned_comment : ∃ draft built got,
    Social.comment.new Catalogue.registry 1700000000 "s" = .ok draft ∧
      draft.editAll? [.fields [("parent", .text "c0")], .parents ["p1"]] = some built ∧
        (Catalogue.registry.decode built.header.envelope).outcome = .ok got ∧
          built.payload.lookup "parent" = some (.scalar "c0") ∧
            got.payload.lookup "parent" = some (.scalar "p1") :=
  ⟨_, _, _, rfl, rfl, rfl, rfl, rfl⟩

end SubspaceOps
