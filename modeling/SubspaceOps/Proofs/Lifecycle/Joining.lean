import SubspaceOps.Proofs.Lifecycle.AllowedOperations

/-!
# Which joining events are accepted

A joining event names a subspace by an identifier of the right form (`Joins`). The checks on the
header, on the tags and on the identifier ask for exactly this (`exists_accepted_iff`). The
identifier of a configuration has the form, so every subspace with an accepted creation event can be
joined.
-/
namespace SubspaceOps

namespace SubspaceId

/-- The identifier is `0x` and sixty-four hexadecimal digits of either case. -/
def WellFormed (sid : String) : Prop :=
  ∃ digits, sid = "0x" ++ String.ofList digits ∧ digits.length = 64 ∧
    ∀ c ∈ digits, c ∈ "0123456789abcdefABCDEF".toList

theorem isHexDigit_iff {c : Char} :
    Text.isHexDigit c = true ↔ c ∈ "0123456789abcdefABCDEF".toList := by
  -- All these characters are ASCII, so the question is settled for each code point below 128.
  have ascii : ∀ n < 128, Text.isHexDigit (Char.ofNat n) = true ↔
      Char.ofNat n ∈ "0123456789abcdefABCDEF".toList := by decide +kernel
  by_cases low : c.toNat < 128
  · simpa only [Char.ofNat_toNat] using ascii c.toNat low
  · have above {d : Char} (hd : d.toNat < 128) : ¬ c ≤ d := fun h =>
      low (Nat.lt_of_le_of_lt (UInt32.le_iff_toNat_le.1 h) hd)
    have not_hex : Text.isHexDigit c = false := by
      simp [Text.isHexDigit, Text.hexValue?, above (d := '9') (by decide),
        above (d := 'f') (by decide), above (d := 'F') (by decide)]
    have listed : ∀ d ∈ "0123456789abcdefABCDEF".toList, d.toNat < 128 := by simp
    exact iff_of_false (by simp [not_hex]) fun mem => low (listed c mem)

theorem isValid_iff {sid : String} : isValid sid = true ↔ WellFormed sid := by
  simp only [WellFormed, ← isHexDigit_iff]
  constructor
  · intro h
    unfold isValid at h
    split at h
    · next digits text =>
      simp only [Bool.and_eq_true, decide_eq_true_eq, List.all_eq_true] at h
      refine ⟨digits, ?_, h.1, h.2⟩
      apply String.toList_inj.1
      simp [text]
    · cases h
  · rintro ⟨digits, rfl, length, hex⟩
    simp only [isValid, String.toList_append, String.toList_ofList]
    simpa [length] using hex

theorem validate_eq_ok_iff {sid : String} : validate sid = .ok () ↔ WellFormed sid := by
  rw [← isValid_iff, validate]
  split <;> simp_all

theorem wellFormed_ofConfiguration (name ops rules : String) :
    WellFormed (ofConfiguration name ops rules) :=
  isValid_iff.1 (isValid_ofConfiguration name ops rules)

end SubspaceId

namespace Joining

open Envelope

/-- The envelope is a joining event for the subspace with this identifier. Of repeated tags the last
one counts; tags without value do not count. -/
structure Joins (e : Envelope) (sid : String) : Prop where
  kind : e.kind = Kind.subspaceJoin
  capabilities : ∀ text ∈ CommonTags.capabilityTexts e.tags, CommonTags.Readable text
  marked : (e.tag? TagName.marker).isSome
  subspaceId : e.lastValue? TagName.subspaceId = some sid
  wellFormed : SubspaceId.WellFormed sid

variable {e : Envelope} {r x : Record} {sid : String}

theorem check_eq_ok_iff : check r = .ok () ↔ r.header.envelope.kind = Kind.subspaceJoin ∧
    (∀ name ∈ [TagName.marker, TagName.subspaceId], (r.header.envelope.tag? name).isSome) ∧
      SubspaceId.WellFormed r.header.subspaceId := by
  unfold check
  dsimp only
  by_cases kind : r.header.envelope.kind = Kind.subspaceJoin
  · rw [if_neg (not_not.2 kind), bind_eq_ok_iff]
    simp only [SubspaceId.validate_eq_ok_iff, kind, true_and]
    constructor
    · rintro ⟨_, tags, valid⟩
      exact ⟨(requireTags_eq_ok_iff _ _).1 tags, valid⟩
    · rintro ⟨tags, valid⟩
      exact ⟨(), (requireTags_eq_ok_iff _ _).2 tags, valid⟩
  · simp [kind]

/-- The record of a header, before it is checked. -/
def started (h : Header) : Record :=
  ⟨recordType, h, h.envelope.content, recordType.scan h.envelope.tags, none⟩

theorem decode_eq_ok_iff {h : Header} :
    recordType.decode h = .ok x ↔ check (started h) = .ok () ∧ x = started h := by
  have unhidden : recordType.Unhidden := by decide
  have decoded : recordType.decode h = check (started h) >>= fun _ => .ok (started h) := by
    rw [RecordType.decode, RecordType.start_of_unhidden unhidden]
    rfl
  rw [decoded, bind_eq_ok_iff]
  constructor
  · rintro ⟨_, passed, ⟨⟩⟩
    exact ⟨passed, rfl⟩
  · rintro ⟨passed, rfl⟩
    exact ⟨(), passed, rfl⟩

/-! ## Routed envelopes -/

theorem outcome_decodeJoining_builtIn {common : CommonTags} (kind : e.kind = Kind.subspaceJoin)
    (read : CommonTags.read e.tags = .ok common) :
    (Lifecycle.decodeJoining Catalogue.registry e).outcome = recordType.decode
      ⟨common.subspaceId, Operation.subspaceJoin, common.capability, common.parents, e⟩ := by
  have named : Catalogue.registry.operation? Kind.subspaceJoin = some Operation.subspaceJoin := by
    decide +kernel
  rw [Lifecycle.decodeJoining, Lifecycle.outcome_decodeKind kind]
  exact Routing.outcomeWith_of_recordType read (kind ▸ named) rfl

/-- An event is accepted when it joins the subspace of its header, and as the record of this
header. -/
theorem decodeJoining_eq_ok_iff :
    (Lifecycle.decodeJoining Catalogue.registry e).outcome = .ok x ↔
      ∃ common, CommonTags.read e.tags = .ok common ∧ Joins e common.subspaceId ∧
        x = started
          ⟨common.subspaceId, Operation.subspaceJoin, common.capability, common.parents, e⟩ := by
  constructor
  · intro accepted
    obtain ⟨kind, common, read⟩ := Lifecycle.kind_and_tags_of_decodeKind accepted
    rw [outcome_decodeJoining_builtIn kind read] at accepted
    obtain ⟨passed, rfl⟩ := decode_eq_ok_iff.1 accepted
    obtain ⟨-, present, wellFormed⟩ := check_eq_ok_iff.1 passed
    refine ⟨common, read, ?_, rfl⟩
    have found := (isSome_lastValue? e TagName.subspaceId).trans (present _ (by simp))
    obtain ⟨sid, hsid⟩ := Option.isSome_iff_exists.1 found
    have shown := CommonTags.subspaceId_of_read read
    rw [hsid, Option.getD_some] at shown
    exact {
      kind, wellFormed
      capabilities := CommonTags.read_isOk_iff.1 ⟨common, read⟩
      marked := present _ (by simp)
      subspaceId := shown ▸ hsid }
  · rintro ⟨common, read, joins, rfl⟩
    rw [outcome_decodeJoining_builtIn joins.kind read]
    refine decode_eq_ok_iff.2 ⟨check_eq_ok_iff.2 ⟨joins.kind, ?_, joins.wellFormed⟩, rfl⟩
    simp only [List.forall_mem_cons]
    exact ⟨joins.marked, Creation.isSome_of_lastValue? joins.subspaceId, List.forall_mem_nil _⟩

theorem Joins.subspaceId_of_read {common : CommonTags} (joins : Joins e sid)
    (read : CommonTags.read e.tags = .ok common) : common.subspaceId = sid := by
  rw [CommonTags.subspaceId_of_read read, joins.subspaceId, Option.getD_some]

theorem exists_accepted_iff :
    (∃ x, (Lifecycle.decodeJoining Catalogue.registry e).outcome = .ok x) ↔ ∃ sid, Joins e sid := by
  constructor
  · rintro ⟨x, accepted⟩
    obtain ⟨common, -, joins, -⟩ := decodeJoining_eq_ok_iff.1 accepted
    exact ⟨_, joins⟩
  · rintro ⟨sid, joins⟩
    obtain ⟨common, read⟩ := CommonTags.read_isOk_iff.2 joins.capabilities
    have same := joins.subspaceId_of_read read
    exact ⟨_, decodeJoining_eq_ok_iff.2 ⟨common, read, same ▸ joins, rfl⟩⟩

theorem subspaceId_of_accepted
    (accepted : (Lifecycle.decodeJoining Catalogue.registry e).outcome = .ok x)
    (joins : Joins e sid) : x.header.subspaceId = sid := by
  obtain ⟨common, read, -, rfl⟩ := decodeJoining_eq_ok_iff.1 accepted
  exact joins.subspaceId_of_read read

theorem joins_new (now : Int) (wellFormed : SubspaceId.WellFormed sid) :
    Joins (new now sid).header.envelope sid where
  kind := rfl
  capabilities := fun _ => nofun
  marked := rfl
  subspaceId := rfl
  wellFormed := wellFormed

/-- With the registry of the built-in modules, exactly the envelopes that join a subspace are
accepted as joining events, and the record has the identifier of the subspace. The identifier of an
accepted creation event can be joined: the event that is drafted for it is accepted, with this
identifier. -/
theorem decodeJoining_iff (e : Envelope) (now : Int) :
    ((∃ x, (Lifecycle.decodeJoining Catalogue.registry e).outcome = .ok x) ↔ ∃ sid, Joins e sid) ∧
      (∀ x sid, (Lifecycle.decodeJoining Catalogue.registry e).outcome = .ok x → Joins e sid →
        x.header.subspaceId = sid) ∧
      ∀ x, (Lifecycle.decodeCreation Catalogue.registry e).outcome = .ok x →
        ∃ y, (Lifecycle.decodeJoining Catalogue.registry
            (new now x.header.subspaceId).header.envelope).outcome = .ok y ∧
          y.header.subspaceId = x.header.subspaceId := by
  refine ⟨exists_accepted_iff, fun x sid => subspaceId_of_accepted, fun x created => ?_⟩
  obtain ⟨c, h, declares, -, shown, rfl⟩ := Creation.started_of_accepted created
  have wellFormed : SubspaceId.WellFormed h.subspaceId := by
    rw [shown, declares.identified]
    exact SubspaceId.wellFormed_ofConfiguration c.name c.ops c.rules
  have joins := joins_new now wellFormed
  obtain ⟨y, accepted⟩ := exists_accepted_iff.2 ⟨_, joins⟩
  exact ⟨y, accepted, subspaceId_of_accepted accepted joins⟩

/-- The subspace of a creation event is joined. -/
theorem joined_research :
    ∃ x, (Lifecycle.decodeCreation Catalogue.registry
        (Creation.new 1700000000 "research" "post=30300" "" "notes" "").header.envelope).outcome =
          .ok x ∧
      ∃ y, (Lifecycle.decodeJoining Catalogue.registry
          (new 1700000001 x.header.subspaceId).header.envelope).outcome = .ok y ∧
        y.header.subspaceId = x.header.subspaceId := by
  obtain ⟨x, created, -⟩ := Creation.exists_accepted_new 1700000000 "research" "post=30300" ""
    "notes" "" (by decide) (by decide)
  obtain ⟨-, -, joined⟩ := decodeJoining_iff
    (Creation.new 1700000000 "research" "post=30300" "" "notes" "").header.envelope 1700000001
  exact ⟨x, created, joined x created⟩

end Joining

end SubspaceOps
