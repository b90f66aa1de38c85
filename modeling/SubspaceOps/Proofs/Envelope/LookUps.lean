import SubspaceOps.Proofs.Record.Assignments
import SubspaceOps.Proofs.Routing.CommonTags

/-!
# Scanning and looking up

The readers of the header and of the payload pass over all tags once; an envelope can also be asked
for its last tag of a name. The reader of the header consists of three that do not see each other's
tags (`foldlM_readTag_eq`), and a scan that takes a value from each tag of one name and from no
other ends with the value of the tag that is looked up (`view_of_foldl`). So both readers find what
the look-ups give (`read_eq_ok_iff`, `get?_scan`).
-/
namespace SubspaceOps

namespace Envelope

/-- The first value of the last tag with the given name. -/
def lastValue? (e : Envelope) (name : String) : Option String :=
  (e.tag? name).bind fun tag => tag.tail.head?

variable {e : Envelope} {name : String} {tag : Tag}

theorem carries_iff : carries name tag = true ↔ ∃ v vs, tag = name :: v :: vs := by
  unfold carries
  split
  · next n v vs =>
    simp only [decide_eq_true_eq, List.cons.injEq]
    constructor
    · rintro rfl
      exact ⟨v, vs, rfl, rfl, rfl⟩
    · rintro ⟨_, _, rfl, -⟩
      rfl
  · next h =>
    simp only [Bool.false_eq_true, false_iff]
    rintro ⟨v, vs, rfl⟩
    exact h name v vs rfl

theorem carries_eq_false {other : String} (h : carries name tag = true) (hne : name ≠ other) :
    carries other tag = false := by
  obtain ⟨v, vs, rfl⟩ := carries_iff.1 h
  simpa [carries] using hne

theorem exists_of_tag? (h : e.tag? name = some tag) : ∃ v vs, tag = name :: v :: vs :=
  carries_iff.1 (List.mem_filter.1 (List.mem_of_getLast? h)).2

@[simp] theorem isSome_lastValue? (e : Envelope) (name : String) :
    (e.lastValue? name).isSome = (e.tag? name).isSome := by
  cases h : e.tag? name with
  | none => simp [lastValue?, h]
  | some tag =>
    obtain ⟨v, vs, rfl⟩ := exists_of_tag? h
    simp [lastValue?, h]

theorem map_tag? (e : Envelope) (name : String) :
    (e.tag? name).map (fun tag => tag.tail.headD "") = e.lastValue? name := by
  cases h : e.tag? name with
  | none => simp [lastValue?, h]
  | some tag =>
    obtain ⟨v, vs, rfl⟩ := exists_of_tag? h
    simp [lastValue?, h]

/-- A view that changes at the tags of one name only shows the last of these tags in the end. -/
theorem view_of_foldl {σ α : Type} {step : σ → Tag → σ} (view : σ → α) {value : Tag → α}
    (h : ∀ s tag, view (step s tag) = if carries name tag then value tag else view s)
    (tags : List Tag) (s : σ) :
    view (tags.foldl step s) =
      (((tags.filter (carries name)).getLast?).map value).getD (view s) := by
  induction tags generalizing s with
  | nil => rfl
  | cons tag tags ih =>
    rw [List.foldl_cons, ih, h]
    cases hc : carries name tag with
    | false => rw [List.filter_cons_of_neg (by simp [hc]), if_neg Bool.false_ne_true]
    | true =>
      rw [List.filter_cons_of_pos hc, List.getLast?_cons, if_pos rfl]
      cases (tags.filter (carries name)).getLast? <;> rfl

end Envelope

open Envelope

variable {e : Envelope} {t : RecordType} {f : PayloadField}

/-! ## The header -/

namespace CommonTags

theorem readTag_eq (c : CommonTags) (tag : Tag) :
    readTag c tag =
      if carries TagName.subspaceId tag then .ok { c with subspaceId := tag.tail.headD "" }
      else if carries TagName.capability tag then
        (Capability.read (tag.tail.headD "")).map fun cap => { c with capability := some cap }
      else if carries TagName.parent tag then .ok { c with parents := c.parents ++ tag.tail }
      else .ok c := by
  match tag with
  | [] | [_] => rfl
  | name :: v :: vs => simp [readTag, carries]

/-- The last capability, when all are well formed. -/
def readCapability (_ : Option Capability) (tag : Tag) : Except Fault (Option Capability) :=
  (Capability.read (tag.tail.headD "")).map some

/-- The header is read by three readers that do not see each other's tags. -/
theorem foldlM_readTag_eq (tags : List Tag) (c : CommonTags) :
    tags.foldlM readTag c =
      ((tags.filter (carries TagName.capability)).foldlM readCapability c.capability).map
        fun cap =>
          ⟨((tags.filter (carries TagName.subspaceId)).getLast?.map fun tag =>
              tag.tail.headD "").getD c.subspaceId,
            cap, c.parents ++ (tags.filter (carries TagName.parent)).flatMap List.tail⟩ := by
  induction tags generalizing c with
  | nil => simp [Except.map, pure, Except.pure]
  | cons tag tags ih =>
    rw [List.foldlM_cons, readTag_eq]
    -- the three names differ, so each tag stays in one of the three filtered lists at most
    by_cases sid : carries TagName.subspaceId tag
    · have capability : carries TagName.capability tag = false := carries_eq_false sid (by decide)
      have parent : carries TagName.parent tag = false := carries_eq_false sid (by decide)
      simp only [List.filter_cons, sid, capability, parent, if_true, Bool.false_eq_true, if_false,
        List.getLast?_cons]
      change tags.foldlM readTag _ = _
      rw [ih]
      cases (tags.filter (carries TagName.subspaceId)).getLast? <;> rfl
    · by_cases capability : carries TagName.capability tag
      · have parent : carries TagName.parent tag = false :=
          carries_eq_false capability (by decide)
        simp only [List.filter_cons, sid, capability, parent, if_true, Bool.false_eq_true, if_false,
          List.foldlM_cons, readCapability]
        cases Capability.read (tag.tail.headD "") with
        | error f => rfl
        | ok cap => exact ih _
      · by_cases parent : carries TagName.parent tag
        · simp only [List.filter_cons, sid, capability, parent, if_true, Bool.false_eq_true,
            if_false, List.flatMap_cons, ← List.append_assoc]
          exact ih _
        · simp only [List.filter_cons, sid, capability, parent, Bool.false_eq_true, if_false]
          exact ih c

theorem foldlM_readCapability_eq_ok_iff {tags : List Tag} {cap cap' : Option Capability} :
    tags.foldlM readCapability cap = .ok cap' ↔
      (∀ tag ∈ tags, Readable (tag.tail.headD "")) ∧
        cap' = (tags.getLast?.map fun tag =>
          (Capability.read (tag.tail.headD "")).toOption).getD cap := by
  induction tags generalizing cap with
  | nil =>
    constructor
    · rintro ⟨⟩
      exact ⟨List.forall_mem_nil _, rfl⟩
    · rintro ⟨-, rfl⟩
      rfl
  | cons tag tags ih =>
    rw [List.foldlM_cons, bind_eq_ok_iff, List.forall_mem_cons, List.getLast?_cons]
    constructor
    · rintro ⟨_, first, rest⟩
      obtain ⟨c, hc, rfl⟩ := map_eq_ok_iff.1 first
      obtain ⟨readable, rfl⟩ := ih.1 rest
      refine ⟨⟨⟨c, hc⟩, readable⟩, ?_⟩
      cases tags.getLast? with
      | none => exact (congrArg Except.toOption hc).symm
      | some last => rfl
    · rintro ⟨⟨⟨c, hc⟩, readable⟩, rfl⟩
      refine ⟨some c, map_eq_ok_iff.2 ⟨c, hc, rfl⟩, ih.2 ⟨readable, ?_⟩⟩
      cases tags.getLast? with
      | none => exact congrArg Except.toOption hc
      | some last => rfl

/-- The header holds what the look-ups in the envelope give: the last identifier, the last
capability, and the values of all parents. -/
structure LookedUp (c : CommonTags) (e : Envelope) : Prop where
  subspaceId : c.subspaceId = (e.lastValue? TagName.subspaceId).getD ""
  capability : c.capability =
    (e.lastValue? TagName.capability).bind fun text => (Capability.read text).toOption
  parents : c.parents = e.tagValues TagName.parent

theorem forall_readable_iff {tags : List Tag} :
    (∀ tag ∈ tags.filter (carries TagName.capability), Readable (tag.tail.headD "")) ↔
      ∀ v vs, TagName.capability :: v :: vs ∈ tags → Readable v := by
  constructor
  · intro h v vs mem
    have readable := h _ (List.mem_filter.2 ⟨mem, carries_iff.2 ⟨v, vs, rfl⟩⟩)
    exact readable
  · intro h tag htag
    obtain ⟨mem, carried⟩ := List.mem_filter.1 htag
    obtain ⟨v, vs, rfl⟩ := carries_iff.1 carried
    exact h v vs mem

/-- The header of an envelope is read when every text in a tag of capabilities is one, and then it
holds what is looked up. -/
theorem read_eq_ok_iff {c : CommonTags} :
    read e.tags = .ok c ↔
      (∀ v vs, TagName.capability :: v :: vs ∈ e.tags → Readable v) ∧ c.LookedUp e := by
  have looked_up : ∀ name, (e.tags.filter (carries name)).getLast? = e.tag? name := fun _ => rfl
  have last_capability : ((e.tag? TagName.capability).map fun tag =>
      (Capability.read (tag.tail.headD "")).toOption).getD none =
        (e.lastValue? TagName.capability).bind fun text => (Capability.read text).toOption := by
    rw [← map_tag?, Option.bind_map]
    cases e.tag? TagName.capability <;> rfl
  rw [read, foldlM_readTag_eq, map_eq_ok_iff]
  simp only [foldlM_readCapability_eq_ok_iff, forall_readable_iff, empty, looked_up,
    last_capability, map_tag?, List.nil_append]
  constructor
  · rintro ⟨_, ⟨readable, rfl⟩, rfl⟩
    exact ⟨readable, rfl, rfl, rfl⟩
  · rintro ⟨readable, sid, capability, parents⟩
    refine ⟨_, ⟨readable, rfl⟩, ?_⟩
    cases c
    cases sid
    cases capability
    cases parents
    rfl

theorem subspaceId_of_read {c : CommonTags} (h : read e.tags = .ok c) :
    c.subspaceId = (e.lastValue? TagName.subspaceId).getD "" :=
  (read_eq_ok_iff.1 h).2.subspaceId

end CommonTags

/-! ## The payload -/

/-- The value of the field in a tag. -/
def PayloadField.read? (f : PayloadField) : Tag → Option FieldValue
  | _ :: v :: vs => some (f.shape.ofTag v vs)
  | _ => none

theorem get?_readTag_of_fieldOfTag? (last : t.fieldOfTag? f.tag = some f)
    (given : Table String FieldValue) (tag : Tag) :
    (t.readTag given tag).get? f.name =
      if carries f.tag tag then f.read? tag else given.get? f.name := by
  have hf : f ∈ t.fields := (List.mem_filter.1 (List.mem_of_getLast? last)).1
  match tag with
  | [] | [_] => rfl
  | name :: v :: vs =>
    simp only [RecordType.readTag, carries, PayloadField.read?, decide_eq_true_eq]
    by_cases hname : name = f.tag
    · rw [if_pos hname, hname, last, Table.get?_put_self]
    · rw [if_neg hname]
      cases hg : t.fieldOfTag? name with
      | none => rfl
      | some g =>
        obtain ⟨hg_mem, hg_tag⟩ := List.mem_filter.1 (List.mem_of_getLast? hg)
        have hne : f.name ≠ g.name := fun e => hname
          (RecordType.eq_of_name_eq hf hg_mem e ▸ (of_decide_eq_true hg_tag).symm)
        exact Table.get?_put_of_ne given hne _

theorem get?_readTag (nodup : (t.fields.map PayloadField.tag).Nodup) (hf : f ∈ t.fields)
    (given : Table String FieldValue) (tag : Tag) :
    (t.readTag given tag).get? f.name =
      if carries f.tag tag then f.read? tag else given.get? f.name :=
  get?_readTag_of_fieldOfTag? (RecordType.fieldOfTag?_tag nodup hf) given tag

/-- Under distinct tags, each field is read from the last tag of its name. -/
theorem get?_scan (nodup : (t.fields.map PayloadField.tag).Nodup) (hf : f ∈ t.fields)
    (e : Envelope) : (t.scan e.tags).get? f.name = (e.tag? f.tag).bind f.read? := by
  rw [RecordType.scan, view_of_foldl (fun given => Table.get? given f.name)
    (get?_readTag nodup hf), Table.get?_empty]
  change ((e.tag? f.tag).map f.read?).getD none = _
  cases e.tag? f.tag <;> rfl

theorem get?_scan_of_scalar (nodup : (t.fields.map PayloadField.tag).Nodup) (hf : f ∈ t.fields)
    (hs : f.shape = .scalar) (e : Envelope) :
    (t.scan e.tags).get? f.name = (e.lastValue? f.tag).map .scalar := by
  rw [get?_scan nodup hf]
  cases ht : e.tag? f.tag with
  | none => simp [lastValue?, ht]
  | some tag =>
    obtain ⟨v, vs, rfl⟩ := exists_of_tag? ht
    simp [lastValue?, ht, PayloadField.read?, hs, FieldShape.ofTag]

end SubspaceOps
