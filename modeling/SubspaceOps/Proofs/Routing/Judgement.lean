import SubspaceOps.Proofs.Catalogue
import SubspaceOps.Proofs.Routing.CommonTags

/-!
# Decoding ends with a record or a rejection

The tags of the header are read up to the first capability that is not accepted. A rejection of it
is a judgement; a numeral that is too long is not. Behind the header everything is judged but the
start of a record whose type hides a part that it needs. For envelopes whose texts are of Unicode
scalar values, which are all there are here, these are the only two ways past a judgement
(`judged_decode_iff`), and no built-in type takes the second.

An envelope with an unpaired surrogate has a third way. When a creation event declares one in its
name, operations or rules, the identity of the configuration has no UTF-8 form, and the
`UnicodeEncodeError` of its digest is neither a record nor a rejection.
-/
namespace SubspaceOps

open CommonTags

/-! ## Past the header -/

theorem judged_textMember (members : List (CodeText × Json CodeText)) (name : String) :
    Judged (Creation.textMember members name) := by
  unfold Creation.textMember
  split
  · exact judged_ok _
  · exact judged_ok _
  · exact judged_rejected _

theorem judged_readContent (content : String) : Judged (Creation.readContent content) := by
  unfold Creation.readContent
  split
  · exact judged_rejected _
  · exact (judged_textMember _ _).bind fun _ => (judged_textMember _ _).bind fun _ => judged_ok _
  · exact judged_rejected _

theorem judged_requireTags (e : Envelope) (names : List String) :
    Judged (e.requireTags names) := by
  induction names with
  | nil => exact judged_ok _
  | cons name names ih => exact judged_ite ih (judged_rejected _)

theorem judged_creationCheck (r : Record) (profile : Profile) :
    Judged (Creation.check r profile) := by
  refine judged_ite (judged_rejected _) ((judged_requireTags _ _).bind fun _ => ?_)
  exact judged_ite (judged_rejected _) (judged_ite (judged_rejected _)
    (judged_ite (judged_rejected _) (judged_ok _)))

theorem judged_complete (r : Record) : Judged (Creation.complete r) :=
  (judged_readContent _).bind fun _ => (judged_creationCheck _ _).bind fun _ => judged_ok _

theorem judged_joiningCheck (r : Record) : Judged (Joining.check r) := by
  refine judged_ite (judged_rejected _) ((judged_requireTags _ _).bind fun _ => ?_)
  exact judged_ite (judged_ok _) (judged_rejected _)

/-- Decoding a header is judged exactly when a record can be started from it. -/
theorem judged_recordDecode_iff (t : RecordType) (h : Header) :
    Judged (t.decode h) ↔ t.canStart (t.scan h.envelope.tags) = true := by
  unfold RecordType.decode RecordType.start
  cases t.canStart (t.scan h.envelope.tags) with
  | false =>
    rw [if_neg Bool.false_ne_true]
    refine ⟨fun hj => ?_, nofun⟩
    obtain ⟨q, hq⟩ := judged_error_iff.1 hj
    cases hq
  | true =>
    rw [if_pos rfl]
    refine ⟨fun _ => rfl, fun _ => ?_⟩
    refine (judged_ok _).bind fun r => ?_
    cases t.role with
    | plain => exact judged_ok _
    | creation => exact judged_complete r
    | joining => exact (judged_joiningCheck r).bind fun _ => judged_ok _

/-! ## Whole envelopes -/

/-- Reading the tags comes to a capability that stops the reader at a numeral. -/
def StopsAtNumeral (tags : List Tag) : Prop :=
  ∃ done text rest, capabilityTexts tags = done ++ text :: rest ∧ (∀ t ∈ done, Readable t) ∧
    Capability.Overlong text

/-- The tags are read, but the record of the operation cannot be started from them. -/
def Unstartable (m : OperationModule) (r : Registry) (e : Envelope) : Prop :=
  (∀ t ∈ capabilityTexts e.tags, Readable t) ∧
    ∃ operation t, r.operation? e.kind = some operation ∧ m.recordType? operation = some t ∧
      t.canStart (t.scan e.tags) = false

theorem judged_readTags_iff {tags : List Tag} :
    Judged (CommonTags.read tags) ↔ ¬ StopsAtNumeral tags := by
  cases hr : CommonTags.read tags with
  | ok c =>
    refine ⟨fun _ => ?_, fun _ => judged_ok c⟩
    rintro ⟨done, text, rest, htexts, -, long⟩
    obtain ⟨cap, hcap⟩ := read_isOk_iff.1 ⟨c, hr⟩ text (by simp [htexts])
    cases hcap.symm.trans (Capability.read_eq_longNumeral_iff.2 long)
  | error e =>
    obtain ⟨done, text, rest, htexts, hdone, htext⟩ := read_eq_error_iff.1 hr
    constructor
    · rintro hj ⟨done', text', rest', htexts', hdone', long⟩
      have := read_eq_error_iff.2
        ⟨done', text', rest', htexts', hdone', Capability.read_eq_longNumeral_iff.2 long⟩
      cases hr.symm.trans this
      obtain ⟨q, hq⟩ := judged_error_iff.1 hj
      cases hq
    · intro hs
      obtain ⟨flaw, rfl⟩ | rfl := Capability.read_error htext
      · exact judged_rejected _
      · exact absurd ⟨done, text, rest, htexts, hdone,
          Capability.read_eq_longNumeral_iff.1 htext⟩ hs

theorem judged_outcomeWith_iff (m : OperationModule) (r : Registry) (e : Envelope) :
    Judged (Routing.outcomeWith m r e) ↔ ¬ StopsAtNumeral e.tags ∧ ¬ Unstartable m r e := by
  cases hr : CommonTags.read e.tags with
  | error f =>
    have unread : ¬ Unstartable m r e := fun h => by
      obtain ⟨c, hc⟩ := read_isOk_iff.2 h.1
      cases hr.symm.trans hc
    rw [and_iff_left unread, ← judged_readTags_iff, Routing.outcomeWith, hr, judged_error_iff]
    exact judged_error_iff
  | ok c =>
    have goes_on : ¬ StopsAtNumeral e.tags := judged_readTags_iff.1 (hr ▸ judged_ok c)
    have all_read : ∀ t ∈ capabilityTexts e.tags, Readable t := read_isOk_iff.1 ⟨c, hr⟩
    rw [and_iff_right goes_on, Unstartable, and_iff_right all_read]
    cases ho : r.operation? e.kind with
    | none =>
      rw [Routing.outcomeWith, hr, ho]
      refine ⟨fun _ => ?_, fun _ => judged_rejected _⟩
      rintro ⟨_, _, ho', -⟩
      cases ho'
    | some operation =>
      cases ht : m.recordType? operation with
      | none =>
        simp only [Routing.outcomeWith, hr, ho, ht]
        refine ⟨fun _ => ?_, fun _ => judged_rejected _⟩
        rintro ⟨_, t, ho', ht', -⟩
        cases ho'
        cases ht.symm.trans ht'
      | some t =>
        rw [Routing.outcomeWith_of_recordType hr ho ht, judged_recordDecode_iff]
        constructor
        · rintro hstart ⟨_, t', ho', ht', hstart'⟩
          cases ho'
          cases ht.symm.trans ht'
          rw [hstart] at hstart'
          cases hstart'
        · intro h
          by_contra hstart
          exact h ⟨operation, t, rfl, ht, by simpa using hstart⟩

theorem not_unstartable_of_unhidden {m : OperationModule} (h : ∀ t ∈ m.records, t.Unhidden)
    (r : Registry) (e : Envelope) : ¬ Unstartable m r e := by
  rintro ⟨-, operation, t, -, ht, hstart⟩
  have ht := (OperationModule.mem_records_of_recordType? ht).1
  rw [RecordType.canStart_of_unhidden (h t ht)] at hstart
  cases hstart

/-- For an envelope whose texts are of Unicode scalar values, decoding by a module, or by the owner
of the kind, ends with a record or a rejection unless a numeral stops the reading of the tags, or
the record of the operation cannot be started. The second never happens in modules of types that
hide no part, such as all built-in ones. The text of a capability is accepted or rejected as
malformed unless it is overlong. -/
theorem judged_decode_iff (r : Registry) (e : Envelope) :
    (∀ m : OperationModule, Judged (m.decode r e).outcome ↔
        ¬ StopsAtNumeral e.tags ∧ ¬ Unstartable m r e) ∧
      (Judged (r.decode e).outcome ↔ ∀ m, r.owner? e.kind = some m →
        ¬ StopsAtNumeral e.tags ∧ ¬ Unstartable m r e) ∧
      (∀ m : OperationModule, (∀ t ∈ m.records, t.Unhidden) → ¬ Unstartable m r e) ∧
      (∀ t ∈ Catalogue.modules.flatMap OperationModule.records, t.Unhidden) ∧
      ∀ text, ((∃ c, Capability.read text = .ok c) ∨ ∃ flaw, Capability.read text =
        .error (.rejected (.malformedCapability text flaw))) ↔ ¬ Capability.Overlong text := by
  refine ⟨fun m => judged_outcomeWith_iff m r e, ?_,
    fun m h => not_unstartable_of_unhidden h r e, unhidden_builtIn, fun text => ?_⟩
  · rw [Registry.outcome_decode, Routing.outcome]
    cases ho : r.owner? e.kind with
    | none =>
      refine ⟨fun _ => nofun, fun _ => ?_⟩
      dsimp only
      split <;> exact judged_rejected _
    | some m =>
      rw [judged_outcomeWith_iff]
      refine ⟨fun h m' hm' => ?_, fun h => h m rfl⟩
      cases hm'
      exact h
  · rw [← Capability.read_eq_longNumeral_iff]
    cases hr : Capability.read text with
    | ok c => exact ⟨fun _ => nofun, fun _ => .inl ⟨c, rfl⟩⟩
    | error f =>
      constructor
      · rintro (⟨c, hc⟩ | ⟨flaw, hf⟩) hl
        · cases hc
        · cases hf.symm.trans hl
      · intro hl
        obtain ⟨flaw, rfl⟩ | rfl := Capability.read_error hr
        · exact .inr ⟨flaw, rfl⟩
        · exact absurd rfl hl

/-- A vote whose capability has a numeral of too many digits. -/
def overlongVote : Envelope :=
  .unsigned 1700000000 Kind.vote [[TagName.capability,
    Capability.shape (String.ofList (List.replicate (Text.maxDigits + 1) '9')) "1" "1"]]

/-- The registry of the built-in modules neither decodes this vote nor rejects it. -/
theorem not_judged_overlongVote : ¬ Judged (Catalogue.registry.decode overlongVote).outcome := by
  have digits : Text.isDigits (List.replicate (Text.maxDigits + 1) '9') = true := by
    simp [Text.isDigits]
  have long : Capability.Overlong
      (Capability.shape (String.ofList (List.replicate (Text.maxDigits + 1) '9')) "1" "1") :=
    Capability.overlong_shape _ ['1'] ['1'] digits rfl rfl (by simp)
  have owner : Catalogue.registry.owner? Kind.vote = some Governance.operations := by
    decide +kernel
  have stops : Routing.outcome Catalogue.registry overlongVote = .error .longNumeral := by
    have read : CommonTags.read overlongVote.tags = .error .longNumeral :=
      read_eq_error_iff.2 ⟨[], _, [], rfl, List.forall_mem_nil _,
        Capability.read_eq_longNumeral_iff.2 long⟩
    unfold Routing.outcome
    rw [show overlongVote.kind = Kind.vote from rfl, owner]
    simp only [Routing.outcomeWith, read]
    rfl
  rw [Registry.outcome_decode, stops, judged_error_iff]
  rintro ⟨q, hq⟩
  cases hq

end SubspaceOps
