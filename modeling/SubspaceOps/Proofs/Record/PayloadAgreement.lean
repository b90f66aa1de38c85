import SubspaceOps.Proofs.Catalogue
import SubspaceOps.Proofs.Declaration.Acceptance
import SubspaceOps.Proofs.Record.PairsText
import SubspaceOps.Proofs.Record.ReadBack
import SubspaceOps.Proofs.Record.WrittenTags

/-!
# What a receiver sees of a payload

Tags are added and never taken back, and an empty list, map or optional text adds none. So a value
that was sent can be withdrawn by the writer without the receiver learning of it. The payload that
is decoded is that of the writer exactly when no value was withdrawn (`decoded_payload_iff`).
-/
namespace SubspaceOps

open Record

variable {t : RecordType} {f : PayloadField} {as : List Assignment} {v : FieldValue}

/-! ## Types with tags of their own -/

/-- The record types of the built-in modules and of declarations. -/
inductive Supplied : RecordType → Prop
  | builtIn {m : OperationModule} {t : RecordType} (hm : m ∈ Catalogue.modules)
      (ht : t ∈ m.records) : Supplied t
  | declared {v : Json} {d : Declaration} {e : EventDeclaration} {t : RecordType}
      (hd : Declaration.ofJson v = .ok d) (he : e ∈ d.events) (ht : e.toRecordType = .ok t) :
      Supplied t

theorem fields_of_toRecordType {e : EventDeclaration} (h : e.toRecordType = .ok t) :
    t.fields = e.payloadFields := by
  unfold EventDeclaration.toRecordType at h
  split at h
  · cases h
    rfl
  · cases h

theorem EventDeclaration.Accepted.tags_payloadFields {e : EventDeclaration} (h : e.Accepted) :
    (e.payloadFields.map PayloadField.tag).Nodup ∧
      ∀ f ∈ e.payloadFields, f.tag ∉ TagName.reserved := by
  constructor
  · have tags : e.payloadFields.map PayloadField.tag =
        (e.fields.filter fun f => !f.isProperty).map FieldDeclaration.tag := by
      rw [EventDeclaration.payloadFields, List.map_map]
      rfl
    rw [tags]
    exact h.tags_nodup.sublist (List.filter_sublist.map _)
  · intro f hf
    obtain ⟨g, hg, rfl⟩ := List.mem_map.1 hf
    exact h.unreserved g (List.mem_filter.1 hg).1

theorem Supplied.tagsApart (h : Supplied t) : t.TagsApart := by
  cases h with
  | builtIn hm ht => exact tags_builtIn t (List.mem_flatMap.2 ⟨_, hm, ht⟩)
  | declared hd he ht =>
    rw [RecordType.TagsApart, fields_of_toRecordType ht]
    exact (Declaration.accepted_of_ofJson hd _ he).tags_payloadFields

theorem Supplied.ownTags (h : Supplied t) (no_parent : ∀ f ∈ t.fields, f.tag ≠ TagName.parent) :
    t.OwnTags := by
  refine ⟨h.tagsApart.1, fun f hf => ?_⟩
  rw [List.mem_cons, not_or]
  exact ⟨no_parent f hf, h.tagsApart.2 f hf⟩

/-! ## Withdrawn values -/

/-- The last value of the field was not sent, but one before it was. -/
def Withdrawn (as : List Assignment) (f : PayloadField) : Prop :=
  ∃ v ∈ lastAssigned f as, f.sends v = false ∧ lastSent f as ≠ none

instance (as : List Assignment) (f : PayloadField) : Decidable (Withdrawn as f) :=
  inferInstanceAs (Decidable (∃ v ∈ lastAssigned f as, _))

/-- A map is free of separators in its keys and values. -/
def FieldValue.SeparatorFree : FieldValue → Prop
  | pairs m => SeparatorFreeMap m
  | _ => True

instance : DecidablePred FieldValue.SeparatorFree
  | .pairs m => inferInstanceAs (Decidable (SeparatorFreeMap m))
  | .scalar _ => inferInstanceAs (Decidable True)
  | .list _ => inferInstanceAs (Decidable True)
  | .mark => inferInstanceAs (Decidable True)

theorem received_of_separatorFree (h : v.SeparatorFree) : v.received = v := by
  cases v with
  | pairs m => exact congrArg _ (decodePairs_encodePairs h)
  | _ => rfl

theorem received_of_lastSent (free : ∀ a ∈ as, a.2.SeparatorFree) (f : PayloadField) :
    (lastSent f as).map FieldValue.received = lastSent f as := by
  cases h : lastSent f as with
  | none => rfl
  | some v =>
    have hmem : (f, v) ∈ as := (List.mem_filter.1 (mem_of_lastAssigned h)).1
    rw [Option.map_some, received_of_separatorFree (free (f, v) hmem)]

/-- Two views of a field, by the last value and by the last one sent, agree unless a value was
withdrawn. -/
theorem getD_lastSent_eq_iff (fits : ∀ a ∈ as, a.2.shape? = some a.1.shape) :
    (lastSent f as).getD f.shape.default = (lastAssigned f as).getD f.shape.default ↔
      ¬ Withdrawn as f := by
  cases ha : lastAssigned f as with
  | none =>
    rw [lastSent_eq_none ha]
    refine ⟨fun _ => ?_, fun _ => rfl⟩
    rintro ⟨v, hv, -⟩
    cases ha.symm.trans hv
  | some v =>
    cases hs : f.sends v with
    | true =>
      rw [lastSent_of_lastAssigned ha hs]
      refine ⟨fun _ => ?_, fun _ => rfl⟩
      rintro ⟨w, hw, hsilent, -⟩
      cases ha.symm.trans hw
      rw [hs] at hsilent
      cases hsilent
    | false =>
      -- The writer is back at the default, from which everything that was sent differs.
      have silent : v = f.shape.default :=
        PayloadField.eq_default_of_not_sends (fits _ (mem_of_lastAssigned ha)) hs
      rw [Option.getD_some, silent]
      cases hl : lastSent f as with
      | none =>
        refine ⟨fun _ => ?_, fun _ => rfl⟩
        rintro ⟨w, -, -, hsent⟩
        exact hsent hl
      | some w =>
        have differs := PayloadField.ne_default_of_sends hs (sends_of_lastSent hl)
        refine ⟨fun e => absurd e differs, fun h => absurd ⟨v, ha, hs, ?_⟩ h⟩
        rw [hl]
        exact Option.some_ne_none w

/-! ## The two payloads -/

theorem value_of_tracks {r : Registry} {kind now : Int} {sid : String} {draft built : Record}
    (plain : t.role = .plain) (unhidden : t.Unhidden) (hk : r.kind? t.operation = some kind)
    (hd : t.new r now sid = .ok draft) (h : Tracks draft as built)
    (has : ∀ a ∈ as, a.1 ∈ t.fields) (hf : f ∈ t.fields) :
    built.value f = (lastAssigned f as).getD f.shape.default := by
  obtain ⟨-, rfl⟩ := (RecordType.new_eq_ok_iff plain hk).1 hd
  have held := get?_putAll_assignments hf has .empty fun v => v
  rw [Record.value, Table.getD, h.assigned, RecordType.settle_of_unhidden unhidden, held,
    Option.map_id', Table.get?_empty, Option.or_none]

theorem payload_eq_iff {a b : Record} (ha : a.type = t) (hb : b.type = t) :
    a.payload = b.payload ↔ ∀ f ∈ t.fields, a.value f = b.value f := by
  rw [payload, payload, ha, hb, List.map_inj_left]
  simp only [Prod.mk.injEq, true_and]

/-- Every run of calls on a draft of a supplied type is decoded, whether its calls fail or not. The
receiver sees in every field the last value that was sent, and the payload of the writer exactly
when no value was withdrawn. -/
theorem decoded_payload_iff {r : Registry} {m : OperationModule} {kind : Int}
    (reachable : r.Reachable) (found : r.kind? t.operation = some kind)
    (owner : r.owner? kind = some m) (implements : m.recordType? t.operation = some t)
    (plain : t.role = .plain) (supplied : Supplied t)
    (no_parent : ∀ f ∈ t.fields, f.tag ≠ TagName.parent) (unhidden : t.Unhidden)
    (now : Int) (sid : String) (calls : List (List (String × FieldInput)))
    (free : ∀ a ∈ assignmentsOf t (calls.map .fields), a.2.SeparatorFree) :
    ∃ draft got, t.new r now sid = .ok draft ∧
      (r.decode (draft.after (calls.map .fields)).header.envelope).outcome = .ok got ∧
        (∀ f ∈ t.fields, got.value f =
          (lastSent f (assignmentsOf t (calls.map .fields))).getD f.shape.default) ∧
          (got.payload = (draft.after (calls.map .fields)).payload ↔
            ∀ f ∈ t.fields, ¬ Withdrawn (assignmentsOf t (calls.map .fields)) f) := by
  have own := supplied.ownTags no_parent
  have routes := reachable.consistent.routes_of_owner found owner implements
  obtain ⟨draft, hd⟩ := RecordType.exists_draft plain unhidden found now sid
  have tracked := tracks_after plain own found hd (calls.map .fields)
  have fields_mem : ∀ a ∈ assignmentsOf t (calls.map .fields), a.1 ∈ t.fields :=
    fun _ ha => (mem_assignmentsOf ha).1
  obtain ⟨got, hgot, back⟩ := exists_readsBack plain unhidden routes hd tracked fields_mem
  have sent_value : ∀ f ∈ t.fields, got.value f =
      (lastSent f (assignmentsOf t (calls.map .fields))).getD f.shape.default := by
    intro f hf
    rw [back.payload f hf, received_of_lastSent free]
  have built_type : (draft.after (calls.map .fields)).type = t :=
    tracked.type.trans (RecordType.type_of_new plain found hd)
  refine ⟨draft, got, hd, hgot, sent_value, ?_⟩
  rw [payload_eq_iff back.type built_type]
  refine forall₂_congr fun f hf => ?_
  rw [sent_value f hf, value_of_tracks plain unhidden found hd tracked fields_mem hf]
  exact getD_lastSent_eq_iff fun _ ha => (mem_assignmentsOf ha).2

/-- Members that are set once are seen as they are set. -/
theorem payload_agrees_project : ∃ draft got,
    CommonGraph.project.new Catalogue.registry 1700000000 "s" = .ok draft ∧
      (Catalogue.registry.decode (draft.after
        [.fields [("members", .items ["a"])]]).header.envelope).outcome = .ok got ∧
        got.payload = (draft.after [.fields [("members", .items ["a"])]]).payload := by
  have found : Catalogue.registry.kind? CommonGraph.project.operation = some Kind.project := by
    decide +kernel
  have owner : Catalogue.registry.owner? Kind.project = some CommonGraph.operations := by
    decide +kernel
  have supplied : Supplied CommonGraph.project :=
    .builtIn (by decide +kernel : CommonGraph.operations ∈ Catalogue.modules) (by decide +kernel)
  obtain ⟨draft, got, hd, hgot, -, agrees⟩ := decoded_payload_iff ⟨_, rfl⟩ found owner rfl rfl
    supplied (by decide) (by decide +kernel) 1700000000 "s" [[("members", .items ["a"])]]
    (by decide +kernel)
  exact ⟨draft, got, hd, hgot, agrees.2 (by decide +kernel)⟩

/-- Members that are set and then emptied are still seen. -/
theorem not_payload_agrees_project : ∃ draft built got,
    CommonGraph.project.new Catalogue.registry 1700000000 "s" = .ok draft ∧
      draft.editAll? [.fields [("members", .items ["a"])], .fields [("members", .items [])]] =
        some built ∧
        (Catalogue.registry.decode built.header.envelope).outcome = .ok got ∧
          built.payload.lookup "members" = some (.list []) ∧
            got.payload.lookup "members" = some (.list ["a"]) :=
  ⟨_, _, _, rfl, rfl, rfl, rfl, rfl⟩

end SubspaceOps
