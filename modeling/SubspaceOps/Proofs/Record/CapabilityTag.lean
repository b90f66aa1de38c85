import SubspaceOps.Proofs.Lifecycle.CreationRoundTrip
import SubspaceOps.Proofs.Record.PayloadAgreement

/-!
# The capability that a reader finds

A capability that is granted is written to its own tag, and a reader of the header takes the last of
these tags. No field of a supplied type is carried in one. So at each point of a run of edits a
reader finds the capability that was granted last, and this is the one in the header of the record
(`capability_of_after`). It does not matter whether the record was drafted or decoded (`Opened`).
-/
namespace SubspaceOps

open Envelope

/-! ## The last tag -/

namespace CommonTags

variable {c c' : CommonTags} {tags : List Tag}

theorem capability_of_foldlM {granted : List Capability} (h : tags.foldlM readTag c = .ok c')
    (tags_granted : tags.filter (carries TagName.capability) = granted.map Capability.tag) :
    c'.capability = granted.getLast?.or c.capability := by
  rw [foldlM_readTag_eq, tags_granted] at h
  obtain ⟨cap, hcap, rfl⟩ := map_eq_ok_iff.1 h
  obtain ⟨-, rfl⟩ := foldlM_readCapability_eq_ok_iff.1 hcap
  rw [List.getLast?_map]
  cases granted.getLast? with
  | none => rfl
  | some cap =>
    have value : (Capability.read (cap.tag.tail.headD "")).toOption = some cap :=
      congrArg Except.toOption (Capability.read_text cap)
    rw [Option.map_some, Option.map_some, value, Option.getD_some, Option.some_or]

theorem read_append_capability (tags : List Tag) (cap : Capability) :
    read (tags ++ [cap.tag]) = (read tags).map fun c => { c with capability := some cap } := by
  cases h : read tags with
  | ok c => exact (read_append h cap.tag).trans (readTag_capability c cap)
  | error e =>
    rw [read] at h ⊢
    rw [List.foldlM_append, h]
    rfl

end CommonTags

/-! ## Runs of edits -/

namespace Record

variable {t : RecordType} {r start : Record}

/-- The capability that an edit grants. -/
def Edit.granted? : Edit → Option Capability
  | .capability action key expiry => (Capability.new action key expiry).toOption
  | _ => none

/-- The capabilities that a list of edits grants. -/
def granted (edits : List Edit) : List Capability := edits.filterMap Edit.granted?

theorem filter_assignmentTags {name : String} {as : List Assignment}
    (other : ∀ a ∈ as, a.1.tag ≠ name) : (assignmentTags as).filter (carries name) = [] := by
  refine List.filter_eq_nil_iff.2 fun tag htag hcarries => ?_
  obtain ⟨v, vs, rfl⟩ := carries_iff.1 hcarries
  obtain ⟨a, ha, same⟩ := exists_of_mem_assignmentTags htag
  exact other a ha (List.cons.inj same).1.symm

theorem filter_tags (apart : t.TagsApart) (e : Edit) :
    (e.tags t).filter (carries TagName.capability) = e.granted?.toList.map Capability.tag := by
  cases e with
  | capability action key expiry =>
    rw [Edit.tags, Edit.granted?]
    cases Capability.new action key expiry <;> rfl
  | parents parents => cases parents <;> rfl
  | content content => rfl
  | fields values =>
    refine filter_assignmentTags fun a ha own => ?_
    exact apart.2 _ (Edit.mem_assignments ha).1 (by rw [own]; decide)

theorem filter_tagsOf (apart : t.TagsApart) (edits : List Edit) :
    (tagsOf t edits).filter (carries TagName.capability) = (granted edits).map Capability.tag := by
  induction edits with
  | nil => rfl
  | cons e edits ih =>
    rw [tagsOf, List.flatMap_cons, List.filter_append, filter_tags apart, granted,
      List.filterMap_cons]
    change _ ++ (tagsOf t edits).filter _ = _
    rw [ih]
    cases e.granted? <;> rfl

/-- An edit that grants a capability puts it in the header; others leave the one that is there. -/
theorem capability_edit (r : Record) (e : Edit) :
    (r.edit e).1.header.capability = e.granted?.or r.header.capability := by
  cases e with
  | capability action key expiry =>
    change (r.setCapability action key expiry).1.header.capability = _
    rw [setCapability, Edit.granted?]
    cases Capability.new action key expiry <;> rfl
  | parents parents => cases parents <;> rfl
  | content content => rfl
  | fields values =>
    change (r.setFields values).1.header.capability = _
    rw [setFields_fst, header_putAll]
    rfl

theorem capability_after (r : Record) (edits : List Edit) :
    (r.after edits).header.capability = (granted edits).getLast?.or r.header.capability := by
  induction edits generalizing r with
  | nil => rfl
  | cons e edits ih =>
    change ((r.edit e).1.after edits).header.capability = _
    rw [ih, capability_edit, granted, granted, List.filterMap_cons]
    cases e.granted? with
    | none => rfl
    | some c => simp [List.getLast?_cons, Option.or_some]

/-- A reader of the envelope finds the capability of the header. -/
def ShowsCapability (r : Record) : Prop :=
  ∃ c, CommonTags.read r.header.envelope.tags = .ok c ∧ c.capability = r.header.capability

theorem ShowsCapability.after (h : r.ShowsCapability) (apart : r.type.TagsApart)
    (edits : List Edit) : (r.after edits).ShowsCapability := by
  obtain ⟨c, read, shown⟩ := h
  obtain ⟨c', read'⟩ := exists_read_append apart read edits
  rw [ShowsCapability, (extended_after r edits).tags]
  refine ⟨c', read', ?_⟩
  rw [CommonTags.read] at read read'
  rw [List.foldlM_append, read] at read'
  rw [CommonTags.capability_of_foldlM read' (filter_tagsOf apart edits), capability_after, shown]

end Record

/-! ## Records that are opened -/

/-- A record as it is when writing begins: a draft, or what was read from an envelope. -/
inductive Opened : Record → Prop
  | drafted {t : RecordType} {r : Registry} {now : Int} {sid : String} {draft : Record}
      (h : t.new r now sid = .ok draft) : Opened draft
  | creation (now : Int) (name ops rules description imageUrl : String) :
      Opened (Creation.new now name ops rules description imageUrl)
  | joining (now : Int) (sid : String) : Opened (Joining.new now sid)
  | decoded {r : Registry} {e : Envelope} {got : Record} (h : (r.decode e).outcome = .ok got) :
      Opened got
  | decodedBy {m : OperationModule} {r : Registry} {e : Envelope} {got : Record}
      (h : (m.decode r e).outcome = .ok got) : Opened got

theorem showsCapability_of_outcomeWith {m : OperationModule} {r : Registry} {e : Envelope}
    {got : Record} (h : Routing.outcomeWith m r e = .ok got) : got.ShowsCapability := by
  obtain ⟨c, operation, t, read, -, -, decoded⟩ := outcomeWith_eq_ok_iff.1 h
  obtain ⟨profile, rfl⟩ := Creation.exists_profile_of_decode decoded
  exact ⟨c, read, rfl⟩

theorem Opened.showsCapability {r : Record} (h : Opened r) : r.ShowsCapability := by
  cases h with
  | @drafted t r now sid _ h =>
    unfold RecordType.new at h
    split at h
    · obtain ⟨header, hheader, hstart⟩ := bind_eq_ok_iff.1 h
      obtain ⟨-, rfl⟩ := RecordType.start_eq_ok_iff.1 hstart
      unfold Registry.skeleton at hheader
      split at hheader
      · cases hheader
      · cases hheader
        exact ⟨_, rfl, rfl⟩
    · cases h
  | creation now name ops rules description imageUrl =>
    refine ⟨_, Creation.read_tags_new now name ops rules description imageUrl, ?_⟩
    rw [Creation.header_new]
  | joining now sid => exact ⟨_, rfl, rfl⟩
  | decoded h =>
    obtain ⟨m, -, h⟩ := outcome_eq_ok_iff.1 h
    exact showsCapability_of_outcomeWith h
  | decodedBy h => exact showsCapability_of_outcomeWith h

end SubspaceOps
