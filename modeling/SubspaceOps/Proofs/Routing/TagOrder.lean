import SubspaceOps.Proofs.Envelope.LookUps
import SubspaceOps.Proofs.Routing.Ownership

/-!
# The order of tags

Decoding takes values from the tags of certain names only: those of the header, those of the
payload fields and those that a lifecycle operation requires. Of each such name it sees the tags in
their order, but not how they stand among the tags of other names. So two lists of tags that agree
name by name are decoded alike, rejections included (`decode_alike`).
-/
namespace SubspaceOps

open Envelope

variable {names : List String} {tags tags' : List Tag}

/-! ## Lists that agree name by name -/

/-- Under each of the names the lists have the same tags in the same order. -/
def SameTags (names : List String) (tags tags' : List Tag) : Prop :=
  ∀ name ∈ names, tags.filter (carries name) = tags'.filter (carries name)

/-- The second list is the first one with tags inserted that carry none of the names. -/
inductive Inserted (names : List String) : List Tag → List Tag → Prop
  | done : Inserted names [] []
  | keep (tag : Tag) {tags tags' : List Tag} (rest : Inserted names tags tags') :
      Inserted names (tag :: tags) (tag :: tags')
  | insert {tag : Tag} (unread : ∀ name ∈ names, carries name tag = false)
      {tags tags' : List Tag} (rest : Inserted names tags tags') :
      Inserted names tags (tag :: tags')

theorem Inserted.sameTags (h : Inserted names tags tags') : SameTags names tags tags' := by
  intro name hname
  induction h with
  | done => rfl
  | keep tag _ ih => simp only [List.filter_cons, ih]
  | insert unread _ ih => simpa [List.filter_cons, unread name hname] using ih

theorem SameTags.mono {more : List String} (h : SameTags more tags tags')
    (sub : ∀ name ∈ names, name ∈ more) : SameTags names tags tags' :=
  fun name hname => h name (sub name hname)

/-! ## The header -/

namespace CommonTags

/-- The names of the tags that the header is read from. -/
def tagNames : List String := [TagName.subspaceId, TagName.capability, TagName.parent]

theorem read_congr (h : SameTags tagNames tags tags') : read tags = read tags' := by
  have sid := h TagName.subspaceId (by decide)
  have capability := h TagName.capability (by decide)
  have parent := h TagName.parent (by decide)
  rw [read, read, foldlM_readTag_eq, foldlM_readTag_eq, sid, capability, parent]

end CommonTags

/-! ## The payload -/

namespace RecordType

variable {t : RecordType} {given given' : Table String FieldValue}

theorem get?_foldl_readTag_of_unread {name : String}
    (unread : ∀ f, t.fieldOfTag? f.tag = some f → f.name ≠ name) (tags : List Tag)
    (given : Table String FieldValue) :
    (tags.foldl t.readTag given).get? name = given.get? name := by
  induction tags generalizing given with
  | nil => rfl
  | cons tag tags ih =>
    rw [List.foldl_cons, ih]
    match tag with
    | [] | [_] => rfl
    | tag_name :: v :: vs =>
      simp only [readTag]
      cases hf : t.fieldOfTag? tag_name with
      | none => rfl
      | some f =>
        have same : f.tag = tag_name :=
          of_decide_eq_true (List.mem_filter.1 (List.mem_of_getLast? hf)).2
        exact Table.get?_put_of_ne given (unread f (same ▸ hf)).symm _

/-- Payload tags that agree name by name give every field the same value. -/
theorem get?_scan_congr (h : SameTags (t.fields.map PayloadField.tag) tags tags')
    (name : String) : (t.scan tags).get? name = (t.scan tags').get? name := by
  by_cases read : ∃ f, t.fieldOfTag? f.tag = some f ∧ f.name = name
  · obtain ⟨f, last, rfl⟩ := read
    have hf : f ∈ t.fields := (List.mem_filter.1 (List.mem_of_getLast? last)).1
    have same := h f.tag (List.mem_map_of_mem hf)
    have read_last (tags : List Tag) := view_of_foldl (fun given => Table.get? given f.name)
      (get?_readTag_of_fieldOfTag? last) tags .empty
    rw [scan, scan, read_last, read_last, same]
  · have unread : ∀ f, t.fieldOfTag? f.tag = some f → f.name ≠ name :=
      fun f last e => read ⟨f, last, e⟩
    rw [scan, scan, get?_foldl_readTag_of_unread unread, get?_foldl_readTag_of_unread unread]

/-! ## Starting a record -/

section Start

variable (h : ∀ name, given.get? name = given'.get? name)

include h

theorem takesDefault_congr (f : PayloadField) :
    t.takesDefault given f = t.takesDefault given' f := by
  simp only [takesDefault, hidesMark, Table.contains, h]

theorem keepsMark_congr (f : PayloadField) : t.keepsMark given f = t.keepsMark given' f := by
  simp only [keepsMark, hidesMark, Table.contains, h]

theorem canStart_congr : t.canStart given = t.canStart given' := by
  simp only [canStart, takesDefault_congr h]

theorem settledValue?_congr (f : PayloadField) :
    t.settledValue? given f = t.settledValue? given' f := by
  rw [settledValue?, settledValue?, keepsMark_congr h, takesDefault_congr h]

theorem get?_settle_congr (name : String) :
    (t.settle given).get? name = (t.settle given').get? name := by
  simp only [settle, Table.get?_putAll, settledValue?_congr h, h]

end Start

end RecordType

/-! ## Records that say the same -/

/-- The records have one type and show the same; the tags of their envelopes may differ. -/
structure Record.ShowsSame (r r' : Record) : Prop where
  type : r'.type = r.type
  subspaceId : r'.header.subspaceId = r.header.subspaceId
  operation : r'.header.operation = r.header.operation
  capability : r'.header.capability = r.header.capability
  parents : r'.header.parents = r.header.parents
  content : r'.content = r.content
  payload : r'.payload = r.payload
  profile : r'.profile = r.profile

/-- The same fault, or records that show the same. -/
inductive Alike : Except Fault Record → Except Fault Record → Prop
  | faults (f : Fault) : Alike (.error f) (.error f)
  | records {r r' : Record} (same : r.ShowsSame r') : Alike (.ok r) (.ok r')

/-- The names of tags whose presence is checked for the role. -/
def Role.requiredTags : Role → List String
  | .plain => []
  | .creation => Creation.requiredTags
  | .joining => [TagName.marker, TagName.subspaceId]

/-- The names of the tags that a record of the type is read from. -/
def RecordType.tagNames (t : RecordType) : List String :=
  CommonTags.tagNames ++ t.fields.map PayloadField.tag ++ t.role.requiredTags

-- Of the names that a role requires only the one of the marker is read for nothing else.
example : ∀ t ∈ Lifecycle.operations.records, ∀ name ∈ t.role.requiredTags,
    name = TagName.marker ∨ name ∈ CommonTags.tagNames ∨ name ∈ t.fields.map PayloadField.tag := by
  decide

/-! ## The checks of a role -/

theorem Envelope.tag?_congr {e : Envelope} {name : String}
    (h : e.tags.filter (carries name) = tags.filter (carries name)) :
    tag? { e with tags := tags } name = e.tag? name :=
  congrArg List.getLast? h.symm

theorem Envelope.requireTags_congr {e : Envelope} (h : SameTags names e.tags tags) :
    requireTags { e with tags := tags } names = e.requireTags names := by
  induction names with
  | nil => rfl
  | cons name names ih =>
    rw [requireTags, requireTags, tag?_congr (h name List.mem_cons_self),
      ih (h.mono fun _ => List.mem_cons_of_mem name)]

/-- The header with other tags in its envelope. -/
def Header.withTags (h : Header) (tags : List Tag) : Header :=
  { h with envelope := { h.envelope with tags := tags } }

section Checks

variable {t : RecordType} {h : Header} {content : String} {given given' : Table String FieldValue}
  (values : ∀ name, given.get? name = given'.get? name)

include values

theorem showsSame_of_values (profile : Option Profile) :
    Record.ShowsSame ⟨t, h, content, given, profile⟩
      ⟨t, h.withTags tags, content, given', profile⟩ where
  type := rfl
  subspaceId := rfl
  operation := rfl
  capability := rfl
  parents := rfl
  content := rfl
  payload := by simp only [Record.payload, Record.value, Table.getD, values]
  profile := rfl

theorem Creation.check_congr (same : SameTags Creation.requiredTags h.envelope.tags tags)
    (profile : Profile) :
    Creation.check ⟨t, h.withTags tags, content, given', none⟩ profile =
      Creation.check ⟨t, h, content, given, none⟩ profile := by
  have text (name : String) : Record.text ⟨t, h.withTags tags, content, given', none⟩ name =
      Record.text ⟨t, h, content, given, none⟩ name := by
    simp only [Record.text, values]
  have required : requireTags (h.withTags tags).envelope Creation.requiredTags =
      h.envelope.requireTags Creation.requiredTags := requireTags_congr same
  simp only [Creation.check, text, required]
  rfl

theorem Creation.complete_alike (same : SameTags Creation.requiredTags h.envelope.tags tags) :
    Alike (Creation.complete ⟨t, h, content, given, none⟩)
      (Creation.complete ⟨t, h.withTags tags, content, given', none⟩) := by
  unfold Creation.complete
  cases Creation.readContent content with
  | error f => exact .faults f
  | ok profile =>
    have same_check : Creation.check ⟨t, h.withTags tags, content, given', none⟩ profile =
        Creation.check ⟨t, h, content, given, none⟩ profile := check_congr values same profile
    change Alike (Creation.check _ profile >>= _) (Creation.check _ profile >>= _)
    rw [same_check]
    cases Creation.check ⟨t, h, content, given, none⟩ profile with
    | error f => exact .faults f
    | ok _ => exact .records (showsSame_of_values values (some profile))

theorem Joining.checked_alike
    (same : SameTags [TagName.marker, TagName.subspaceId] h.envelope.tags tags) :
    Alike (Joining.check ⟨t, h, content, given, none⟩ >>= fun _ =>
        pure ⟨t, h, content, given, none⟩)
      (Joining.check ⟨t, h.withTags tags, content, given', none⟩ >>= fun _ =>
        pure ⟨t, h.withTags tags, content, given', none⟩) := by
  have required : requireTags (h.withTags tags).envelope [TagName.marker, TagName.subspaceId] =
      h.envelope.requireTags [TagName.marker, TagName.subspaceId] := requireTags_congr same
  have same_check : Joining.check ⟨t, h.withTags tags, content, given', none⟩ =
      Joining.check ⟨t, h, content, given, none⟩ := by
    simp only [Joining.check, required]
    rfl
  rw [same_check]
  cases Joining.check ⟨t, h, content, given, none⟩ with
  | error f => exact .faults f
  | ok _ => exact .records (showsSame_of_values values none)

end Checks

/-! ## Decoding -/

theorem RecordType.decode_alike {t : RecordType} {h : Header}
    (same : SameTags t.tagNames h.envelope.tags tags) :
    Alike (t.decode h) (t.decode (h.withTags tags)) := by
  have fields : SameTags (t.fields.map PayloadField.tag) h.envelope.tags tags :=
    same.mono fun _ mem => List.mem_append_left _ (List.mem_append_right _ mem)
  have required : SameTags t.role.requiredTags h.envelope.tags tags :=
    same.mono fun _ => List.mem_append_right _
  have scanned (name : String) : (t.scan h.envelope.tags).get? name =
      (t.scan (h.withTags tags).envelope.tags).get? name := get?_scan_congr fields name
  have values := get?_settle_congr (t := t) scanned
  rw [decode, decode, start, start, ← canStart_congr (t := t) scanned]
  cases t.canStart (t.scan h.envelope.tags) with
  | false => exact .faults .hiddenPart
  | true =>
    simp only [if_true]
    cases hr : t.role with
    | plain => exact .records (showsSame_of_values values none)
    | creation =>
      rw [hr] at required
      exact Creation.complete_alike values required
    | joining =>
      rw [hr] at required
      exact Joining.checked_alike values required

/-- The record type that the owner of a kind reads it by. -/
def Registry.decoder? (r : Registry) (kind : Int) : Option RecordType :=
  (r.owner? kind).bind fun m => (r.operation? kind).bind m.recordType?

/-- The names of the tags that envelopes of a kind are read from. -/
def Registry.tagNames (r : Registry) (kind : Int) : List String :=
  match r.decoder? kind with
  | some t => t.tagNames
  | none => CommonTags.tagNames

variable {r : Registry} {e : Envelope}

theorem Registry.mem_tagNames {kind : Int} {name : String} (h : name ∈ CommonTags.tagNames) :
    name ∈ r.tagNames kind := by
  unfold tagNames
  split
  · exact List.mem_append_left _ (List.mem_append_left _ h)
  · exact h

theorem Routing.outcome_alike (same : SameTags (r.tagNames e.kind) e.tags tags) :
    Alike (outcome r e) (outcome r { e with tags := tags }) := by
  have common : CommonTags.read e.tags = CommonTags.read tags :=
    CommonTags.read_congr (same.mono fun _ => Registry.mem_tagNames)
  cases owner : r.owner? e.kind with
  | none =>
    simp only [outcome, owner]
    cases r.operation? e.kind <;> exact .faults _
  | some m =>
    simp only [outcome, owner]
    cases hc : CommonTags.read e.tags with
    | error f =>
      simp only [outcomeWith, ← common, hc]
      exact .faults f
    | ok c =>
      cases operation : r.operation? e.kind with
      | none =>
        simp only [outcomeWith, ← common, hc, operation]
        exact .faults _
      | some o =>
        cases implements : m.recordType? o with
        | none =>
          simp only [outcomeWith, ← common, hc, operation, bind, Except.bind, implements]
          exact .faults _
        | some t =>
          have decoder : r.decoder? e.kind = some t := by
            simp [Registry.decoder?, owner, operation, implements]
          have names : r.tagNames e.kind = t.tagNames := by rw [Registry.tagNames, decoder]
          rw [names] at same
          have hc' : CommonTags.read tags = .ok c := common ▸ hc
          rw [outcomeWith_of_recordType hc operation implements,
            outcomeWith_of_recordType (e := { e with tags := tags }) hc' operation implements]
          exact RecordType.decode_alike same

theorem Routing.report_congr {x x' : Except Fault Record} (h : Alike x x') (owner : String) :
    report owner { e with tags := tags } x' = report owner e x := by
  cases h with
  | faults f => cases f <;> rfl
  | records same =>
    simp only [report, same.operation, same.subspaceId]
    rfl

/-- The outcomes are alike and the journals equal. -/
structure Journal.Logged.Alike (x x' : Journal.Logged Record) : Prop where
  outcome : SubspaceOps.Alike x.outcome x'.outcome
  journal : x'.journal = x.journal

theorem Registry.decode_alike (same : SameTags (r.tagNames e.kind) e.tags tags) :
    (r.decode e).Alike (r.decode { e with tags := tags }) where
  outcome := Routing.outcome_alike same
  journal := Routing.report_congr (Routing.outcome_alike same) _

/-- Decoding sees the tags of each name in their order and nothing else of the list of tags. Two
envelopes whose tags differ are decoded alike when under each name that the kind is read from they
have the same tags in the same order, so in particular when this is so under all names; and tags of
any other name, or without a value, can be inserted anywhere. The outcomes are the same fault, or
records of one type that show the same, and the journal is the same. -/
theorem Registry.decode_reads_by_name (r : Registry) (e : Envelope) (tags : List Tag) :
    (SameTags (r.tagNames e.kind) e.tags tags →
      (r.decode e).Alike (r.decode { e with tags := tags })) ∧
    (Inserted (r.tagNames e.kind) e.tags tags →
      (r.decode e).Alike (r.decode { e with tags := tags })) :=
  ⟨decode_alike, fun inserted => decode_alike inserted.sameTags⟩

/-- A vote whose tags stand in another order, with a tag that votes are not read from. -/
theorem Registry.decode_reads_by_name_vote :
    let tags : List Tag := [["vote", "yes"], ["d", "x"], [TagName.subspaceId, "s"], ["reason"],
      ["proposal_id", "p"]]
    SameTags (Catalogue.registry.tagNames plainVote.kind) plainVote.tags tags ∧
      (Catalogue.registry.decode plainVote).Alike
        (Catalogue.registry.decode { plainVote with tags := tags }) := by
  intro tags
  have same : SameTags (Catalogue.registry.tagNames plainVote.kind) plainVote.tags tags := by
    unfold SameTags
    decide +kernel
  exact ⟨same, (decode_reads_by_name Catalogue.registry plainVote tags).1 same⟩

end SubspaceOps
