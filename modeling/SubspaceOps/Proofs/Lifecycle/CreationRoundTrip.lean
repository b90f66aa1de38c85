import SubspaceOps.Proofs.Json.RoundTrip
import SubspaceOps.Proofs.Lifecycle.Creation
import SubspaceOps.Proofs.Record.Run

/-!
# Drafted creation events are read back

The event of a draft shows its five texts in tags and content; the tag of empty rules is left out,
which a reader cannot tell from an empty one. So the identifier is always right, and of all checks
of the decoder only those on the description and the declared operations can fail.
-/
namespace SubspaceOps.Creation

open Envelope

variable (now : Int) (name ops rules description imageUrl : String)

/-! ## Content -/

theorem read_contentOf : Json.read (contentOf description imageUrl) =
    .ok (.object [(↑"desc", .text ↑description), (↑"img_url", .text ↑imageUrl)]) := by
  have distinct : ["desc", "img_url"].Nodup := by decide
  refine Json.read_write Json.Style.separates_compact (.object distinct fun m hm => ?_)
  simp only [List.mem_cons, List.not_mem_nil, or_false] at hm
  rcases hm with rfl | rfl
  · exact .text description
  · exact .text imageUrl

theorem readContent_contentOf :
    readContent (contentOf description imageUrl) = .ok ⟨description, imageUrl⟩ :=
  readContent_eq_ok_iff.2 ⟨_, read_contentOf description imageUrl,
    textMember_eq_ok_iff.2 (.inl rfl), textMember_eq_ok_iff.2 (.inl rfl)⟩

/-! ## Header -/

theorem header_new : (new now name ops rules description imageUrl).header =
    ⟨SubspaceId.ofConfiguration name ops rules, Operation.subspaceCreate, none, [],
      ⟨"", "", now, Kind.subspaceCreate,
        [[TagName.marker, Operation.subspaceCreate],
          [TagName.subspaceId, SubspaceId.ofConfiguration name ops rules],
          ["subspace_name", name], ["ops", ops]] ++ if rules = "" then [] else [["rules", rules]],
        contentOf description imageUrl, none⟩⟩ := by
  have assigned : (Record.Edit.fields [("subspace_name", .text name), ("ops", .text ops),
      ("rules", .text rules)]).assignments recordType =
        [((PayloadField.named "subspace_name").needed, .scalar name),
          ((PayloadField.named "ops").needed, .scalar ops),
          ((PayloadField.named "rules").optional, .scalar rules)] := rfl
  have needed (s v : String) : (PayloadField.named s).needed.tagFor? (.scalar v) = some [s, v] := by
    simp [PayloadField.tagFor?, PayloadField.named, PayloadField.needed, FieldValue.tagValues]
  have optional : ((PayloadField.named "rules").optional.tagFor? (.scalar rules)).toList =
      if rules = "" then [] else [["rules", rules]] := by
    by_cases h : rules = "" <;> simp [PayloadField.tagFor?, PayloadField.named,
      PayloadField.optional, FieldValue.tagValues, FieldValue.isEmpty, h]
  simp only [new, Record.setFields_fst]
  rw [Record.setContent, show (Record.blank recordType _).type = recordType from rfl, assigned,
    Record.header_putAll]
  simp [needed, optional, Envelope.unsigned, Record.blank]

theorem read_tags_new :
    CommonTags.read (new now name ops rules description imageUrl).header.envelope.tags =
      .ok ⟨SubspaceId.ofConfiguration name ops rules, none, []⟩ := by
  rw [header_new]
  dsimp only
  split <;> rfl

theorem lastValues_new :
    let e := (new now name ops rules description imageUrl).header.envelope
    e.lastValue? "subspace_name" = some name ∧ e.lastValue? "ops" = some ops ∧
      (e.lastValue? "rules").getD "" = rules := by
  rw [header_new]
  by_cases h : rules = "" <;>
    simp [lastValue?, tag?, carries, TagName.marker, TagName.subspaceId, h]

theorem requiredTags_new : ∀ tag ∈ requiredTags,
    ((new now name ops rules description imageUrl).header.envelope.tag? tag).isSome := by
  rw [header_new]
  by_cases h : rules = "" <;> simp [requiredTags, tag?, carries, h]

/-- The event of a draft declares what it was drafted from, if it could be accepted at all. -/
theorem declares_new (described : description ≠ "")
    (declared : ∀ part ∈ Text.split ',' ops, '=' ∈ part.toList) :
    Declares (new now name ops rules description imageUrl).header.envelope
      ⟨SubspaceId.ofConfiguration name ops rules, name, ops, rules, description, imageUrl⟩ := by
  obtain ⟨hname, hops, hrules⟩ := lastValues_new now name ops rules description imageUrl
  have read := read_tags_new now name ops rules description imageUrl
  have present := requiredTags_new now name ops rules description imageUrl
  have sid := CommonTags.subspaceId_of_read read
  obtain ⟨v, hv⟩ := Option.isSome_iff_exists.1
    ((isSome_lastValue? _ _).trans (present TagName.subspaceId (by decide)))
  rw [hv, Option.getD_some] at sid
  have header := header_new now name ops rules description imageUrl
  exact {
    kind := by rw [header]
    capabilities := CommonTags.read_isOk_iff.1 ⟨_, read⟩
    marked := present _ (by decide)
    subspaceId := hv.trans (congrArg some sid.symm)
    name := hname
    ops := hops
    rules := hrules
    identified := rfl
    content := by
      rw [header]
      exact ⟨_, read_contentOf description imageUrl, rfl, .inl rfl⟩
    described := fun h => described (CodeText.ofString_inj.1 h)
    declared }

/-- The event of a draft is decoded to a record with the values it was drafted from, unless the
description is empty or else a declared operation has no kind. -/
theorem decodeCreation_new : ∃ x : Record,
    Carries x ⟨(new now name ops rules description imageUrl).header.subspaceId, name, ops, rules,
      description, imageUrl⟩ ∧
    (Lifecycle.decodeCreation Catalogue.registry
        (new now name ops rules description imageUrl).header.envelope).outcome =
      if description = "" then .error (.rejected (.missingContentField "description"))
      else if ∀ part ∈ Text.split ',' ops, '=' ∈ part.toList then .ok x
      else .error (.rejected (.invalidOps ops)) := by
  obtain ⟨hname, hops, hrules⟩ := lastValues_new now name ops rules description imageUrl
  have read := read_tags_new now name ops rules description imageUrl
  have present := requiredTags_new now name ops rules description imageUrl
  have header := header_new now name ops rules description imageUrl
  generalize (new now name ops rules description imageUrl).header = h at *
  have kind : h.envelope.kind = Kind.subspaceCreate := by rw [header]
  have sid : h.subspaceId = SubspaceId.ofConfiguration name ops rules := by rw [header]
  have content : readContent h.envelope.content = .ok ⟨description, imageUrl⟩ := by
    rw [header]
    exact readContent_contentOf description imageUrl
  have decoded : (Lifecycle.decodeCreation Catalogue.registry h.envelope).outcome =
      complete (started h) := by
    rw [outcome_decodeCreation_builtIn kind read, ← decode_eq_complete, header]
  let c : Charter := ⟨h.subspaceId, name, ops, rules, description, imageUrl⟩
  have completed := complete_started (c := c) content kind present rfl hname hops hrules sid
  simp only [c, CodeText.ofString_inj] at completed
  exact ⟨_, carries_started (c := c) rfl hname hops hrules, decoded.trans completed⟩

end SubspaceOps.Creation
