import SubspaceOps.Proofs.Envelope.LookUps
import SubspaceOps.Proofs.Record.ReadBack

/-!
# Decoding as looking up

Decoding passes over the tags of an envelope twice, once for the header and once for the payload.
Under distinct tags, a field has the value that a look-up of its tag gives: the first value of the
last such tag, all values of it, or the map in the first one, and the default where there is no such
tag. This is so for every envelope exactly when the type hides no part that its records need
(`decoded_as_lookedUp`).
-/
namespace SubspaceOps

open Envelope

variable {t : RecordType} {f : PayloadField} {h : Header} {got : Record}

/-- The record of a header, before the checks that its type asks for. -/
def RecordType.decodeFields (t : RecordType) (h : Header) : Except Fault Record :=
  t.start h h.envelope.content (t.scan h.envelope.tags)

theorem RecordType.decode_of_plain (plain : t.role = .plain) (h : Header) :
    t.decode h = t.decodeFields h := by
  rw [decode, plain]
  exact bind_pure _

/-- The value that the look-ups in an envelope give a field. -/
def PayloadField.lookedUp (f : PayloadField) (e : Envelope) : FieldValue :=
  match f.shape with
  | .scalar => .scalar ((e.lastValue? f.tag).getD "")
  | .list => .list (((e.tag? f.tag).map List.tail).getD [])
  | .pairs => .pairs (((e.lastValue? f.tag).map decodePairs).getD .empty)

theorem PayloadField.getD_read? (f : PayloadField) (e : Envelope) :
    ((e.tag? f.tag).bind f.read?).getD f.shape.default = f.lookedUp e := by
  cases ht : e.tag? f.tag with
  | none => cases hs : f.shape <;> simp [lookedUp, lastValue?, ht, hs, FieldShape.default]
  | some tag =>
    obtain ⟨v, vs, rfl⟩ := exists_of_tag? ht
    cases hs : f.shape <;> simp [lookedUp, lastValue?, ht, hs, read?, FieldShape.ofTag]

/-- Every header is decoded, and each field has the value that is looked up. -/
def RecordType.DecodesByLookUp (t : RecordType) : Prop :=
  ∀ h : Header, ∃ got, t.decodeFields h = .ok got ∧
    ∀ f ∈ t.fields, got.value f = f.lookedUp h.envelope

theorem value_of_decodeFields (nodup : (t.fields.map PayloadField.tag).Nodup)
    (hgot : t.decodeFields h = .ok got) (hf : f ∈ t.fields) :
    got.value f = (t.settledValue? (t.scan h.envelope.tags) f).getD (f.lookedUp h.envelope) := by
  obtain ⟨-, rfl⟩ := RecordType.start_eq_ok_iff.1 hgot
  rw [Record.value, Table.getD, RecordType.get?_settle _ hf, get?_scan nodup hf,
    ← PayloadField.getD_read?]
  cases t.settledValue? (t.scan h.envelope.tags) f <;> rfl

theorem RecordType.Unhidden.decodesByLookUp (unhidden : t.Unhidden)
    (nodup : (t.fields.map PayloadField.tag).Nodup) : t.DecodesByLookUp := by
  intro h
  have start := RecordType.start_of_unhidden unhidden h h.envelope.content
    (t.scan h.envelope.tags)
  refine ⟨_, start, fun f hf => ?_⟩
  rw [value_of_decodeFields nodup start hf, RecordType.settledValue?_of_unhidden unhidden _ hf,
    Option.getD_none]

namespace RecordType.DecodesByLookUp

variable (decodes : t.DecodesByLookUp) (nodup : (t.fields.map PayloadField.tag).Nodup)
include decodes nodup

theorem eq_lookedUp_of_settled (hf : f ∈ t.fields) (tags : List Tag) {v : FieldValue}
    (settled : t.settledValue? (t.scan tags) f = some v) :
    v = f.lookedUp (.unsigned 0 0 tags) := by
  obtain ⟨got, hgot, shown⟩ := decodes ⟨"", "", none, [], .unsigned 0 0 tags⟩
  have value := (value_of_decodeFields nodup hgot hf).symm.trans (shown f hf)
  rwa [show t.settledValue? (t.scan (Envelope.unsigned 0 0 tags).tags) f = some v from settled,
    Option.getD_some] at value

theorem not_emptied (hf : f ∈ t.fields) (hs : f.shape ≠ .scalar) :
    ¬ ∀ given, t.settledValue? given f = some f.shape.default := by
  intro empties
  -- the text is a value of a list as well as an entry of a map, so neither look-up is empty
  have telling := decodes.eq_lookedUp_of_settled nodup hf [[f.tag, "k:v"]] (empties _)
  have found : (Envelope.unsigned 0 0 [[f.tag, "k:v"]]).tag? f.tag = some [f.tag, "k:v"] := by
    simp [tag?, unsigned, carries]
  have read : (decodePairs "k:v").entries ≠ [] := by decide +kernel
  cases hshape : f.shape with
  | scalar => exact hs hshape
  | list => simp [hshape, PayloadField.lookedUp, found, FieldShape.default] at telling
  | pairs =>
    simp only [hshape, PayloadField.lookedUp, lastValue?, found, FieldShape.default,
      FieldValue.pairs.injEq] at telling
    exact read (congrArg Table.entries telling).symm

theorem not_marked (hf : f ∈ t.fields) :
    ¬ ∀ given, given.get? f.name = none → t.settledValue? given f = some .mark := by
  intro marks
  have marked := decodes.eq_lookedUp_of_settled nodup hf [] (marks _ rfl)
  unfold PayloadField.lookedUp at marked
  split at marked <;> cases marked

theorem unhidden : t.Unhidden := by
  obtain ⟨got, hgot, -⟩ := decodes ⟨"", "", none, [], .unsigned 0 0 []⟩
  exact unhidden_of_canStart (start_eq_ok_iff.1 hgot).1
    (fun f hf hs _ => decodes.not_emptied nodup hf hs) fun f hf _ => decodes.not_marked nodup hf

end RecordType.DecodesByLookUp

/-- The header of an envelope is read when every text in a tag of capabilities is one, and then it
holds what is looked up. For a type of distinct tags, every envelope is decoded with the values that
are looked up exactly when the type hides no part that its records need. -/
theorem decoded_as_lookedUp (nodup : (t.fields.map PayloadField.tag).Nodup) :
    (∀ (e : Envelope) (c : CommonTags), CommonTags.read e.tags = .ok c ↔
      (∀ v vs, TagName.capability :: v :: vs ∈ e.tags → CommonTags.Readable v) ∧ c.LookedUp e) ∧
      (t.Unhidden ↔ t.DecodesByLookUp) :=
  ⟨fun _ _ => CommonTags.read_eq_ok_iff,
    fun unhidden => unhidden.decodesByLookUp nodup, fun decodes => decodes.unhidden nodup⟩

/-- A review among whose tags some have no value, some are repeated, and one has a segment that is
no entry of a map. -/
def reviewedTags : List Tag :=
  [["sid", "s"], ["sid"], ["auth", "action=1,key=1,exp=9"], ["paper_id", "p1"], ["auth"],
    ["aspects", "novelty:4"], ["parent", "e1", "e2"], ["paper_id", "p2", "p3"],
    ["aspects", "novelty:5,clear", "x:y"], ["parent"], ["parent", "e3"],
    ["auth", "exp=8,key=2,action=3"], ["paper_id"]]

/-- The capability that the review was granted last. -/
def reviewerCapability : Capability := ⟨3, 2, 8⟩

/-- Its header and its payload are decoded as they are looked up. -/
theorem decoded_as_lookedUp_review :
    let e := Envelope.unsigned 1700000000 30702 reviewedTags
    let c : CommonTags := ⟨"s", some reviewerCapability, ["e1", "e2", "e3"]⟩
    (OpenResearch.review.fields.map PayloadField.tag).Nodup ∧ OpenResearch.review.Unhidden ∧
      CommonTags.read e.tags = .ok c ∧
        ∃ got, OpenResearch.review.decode
          ⟨c.subspaceId, Operation.review, c.capability, c.parents, e⟩ = .ok got ∧
            got.payload = [("paper_id", .scalar "p2"), ("rating", .scalar ""),
              ("aspects", .pairs (.ofList [("novelty", "5")]))] := by
  intro e c
  have nodup : (OpenResearch.review.fields.map PayloadField.tag).Nodup := by decide
  have unhidden : OpenResearch.review.Unhidden := by decide +kernel
  obtain ⟨header, payload⟩ := decoded_as_lookedUp nodup
  have first : Capability.read "action=1,key=1,exp=9" = .ok ⟨1, 1, 9⟩ := by decide +kernel
  have last : Capability.read "exp=8,key=2,action=3" = .ok reviewerCapability := by
    decide +kernel
  have readable : ∀ v vs, TagName.capability :: v :: vs ∈ e.tags → CommonTags.Readable v := by
    intro v vs mem
    simp only [e, unsigned, reviewedTags, TagName.capability, List.mem_cons, List.cons.injEq,
      String.reduceEq, false_and, reduceCtorEq, and_self, true_and, and_false, List.not_mem_nil,
      or_self, or_false, false_or] at mem
    rcases mem with ⟨rfl, -⟩ | ⟨rfl, -⟩
    · exact ⟨_, first⟩
    · exact ⟨_, last⟩
  have found : e.lastValue? TagName.capability = some "exp=8,key=2,action=3" := by decide +kernel
  have read : CommonTags.read e.tags = .ok c := by
    refine (header e c).2 ⟨readable, rfl, ?_, rfl⟩
    rw [found, Option.bind_some, last]
    rfl
  obtain ⟨got, hgot, shown⟩ := payload.1 unhidden
    ⟨c.subspaceId, Operation.review, c.capability, c.parents, e⟩
  refine ⟨nodup, unhidden, read, got, (RecordType.decode_of_plain rfl _).trans hgot, ?_⟩
  have type : got.type = OpenResearch.review := by
    obtain ⟨-, rfl⟩ := RecordType.start_eq_ok_iff.1 hgot
    rfl
  have looked_up : OpenResearch.review.fields.map (fun f => (f.name, f.lookedUp e)) =
      [("paper_id", .scalar "p2"), ("rating", .scalar ""),
        ("aspects", .pairs (.ofList [("novelty", "5")]))] := by decide +kernel
  rw [Record.payload, type, ← looked_up]
  exact List.map_congr_left fun f hf => congrArg _ (shown f hf)

/-- Of the list in the tag of a field that has the name of the mark, decoding shows nothing. -/
theorem not_lookedUp_mark :
    let e := Envelope.unsigned 1700000000 31000 [[RecordType.markName, "a"]]
    ∃ t f got, markModule.records = [t] ∧ t.fields = [f] ∧
      (t.fields.map PayloadField.tag).Nodup ∧
        t.decodeFields ⟨"", t.operation, none, [], e⟩ = .ok got ∧
          f.lookedUp e = .list ["a"] ∧ got.value f = .list [] :=
  ⟨_, _, _, rfl, rfl, by decide, rfl, rfl, rfl⟩

end SubspaceOps
