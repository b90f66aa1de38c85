import SubspaceOps.Proofs.Catalogue
import SubspaceOps.Proofs.Envelope.LookUps
import SubspaceOps.Proofs.Routing.Ownership

/-!
# Which creation events are accepted

A charter is what a creation event says about a subspace. `Declares` lists what makes an envelope a
creation event with a given charter, in terms of its last tags and its content. The checks of the
decoder are spread over the header, the payload and the content; together they ask for exactly this
(`decodeCreation_iff`), and no registry can lead a creation record past them.

The texts of an envelope are of Unicode scalar values, but its content can escape unpaired
surrogates. They reach the charter as they are.
-/
namespace SubspaceOps.Creation

open Envelope

/-- The declared configuration of a subspace, its identifier, and what is shown of it. What the
content says is of code points, where unpaired surrogates can stand. -/
structure Charter where
  subspaceId : String
  name : String
  ops : String
  rules : String
  description : CodeText
  imageUrl : CodeText
  deriving DecidableEq

/-- The envelope is a creation event with this charter. Of repeated tags the last one counts; tags
without value do not count. -/
structure Declares (e : Envelope) (c : Charter) : Prop where
  kind : e.kind = Kind.subspaceCreate
  capabilities : ∀ text ∈ CommonTags.capabilityTexts e.tags, CommonTags.Readable text
  marked : (e.tag? TagName.marker).isSome
  subspaceId : e.lastValue? TagName.subspaceId = some c.subspaceId
  name : e.lastValue? "subspace_name" = some c.name
  ops : e.lastValue? "ops" = some c.ops
  rules : (e.lastValue? "rules").getD "" = c.rules
  identified : c.subspaceId = SubspaceId.ofConfiguration c.name c.ops c.rules
  content : ∃ members, Json.read e.content = .ok (.object members) ∧
    Json.member? members "desc" = some (.text c.description) ∧
      (Json.member? members "img_url" = some (.text c.imageUrl) ∨
        Json.member? members "img_url" = none ∧ c.imageUrl = "")
  described : c.description ≠ ""
  declared : ∀ part ∈ Text.split ',' c.ops, '=' ∈ part.toList

/-- The record is a creation record with the values of the charter. -/
structure Carries (r : Record) (c : Charter) : Prop where
  type : r.type = recordType
  subspaceId : r.header.subspaceId = c.subspaceId
  payload : r.payload =
    [("subspace_name", .scalar c.name), ("ops", .scalar c.ops), ("rules", .scalar c.rules)]
  profile : r.profile = some ⟨c.description, c.imageUrl⟩

variable {e : Envelope} {r x : Record} {c : Charter} {profile : Profile}

/-! ## The checks, one by one -/

theorem textMember_eq_ok_iff {members : List (CodeText × Json CodeText)} {name : String}
    {s : CodeText} :
    textMember members name = .ok s ↔
      Json.member? members name = some (.text s) ∨ Json.member? members name = none ∧ s = "" := by
  unfold textMember
  split
  · next h => simp [h, eq_comm]
  · next h => simp [h]
  · next h => simp [h]; grind

theorem readContent_eq_ok_iff {content : String} :
    readContent content = .ok profile ↔ ∃ members, Json.read content = .ok (.object members) ∧
      textMember members "desc" = .ok profile.description ∧
        textMember members "img_url" = .ok profile.imageUrl := by
  unfold readContent
  split
  · next h => simp [h]
  · next members h =>
    simp only [h, bind_eq_ok_iff, Except.ok.injEq, Json.object.injEq, exists_eq_left']
    constructor
    · rintro ⟨_, hd, _, hi, ⟨⟩⟩
      exact ⟨hd, hi⟩
    · rintro ⟨hd, hi⟩
      exact ⟨_, hd, _, hi, rfl⟩
  · next v other h =>
    simp only [h, reduceCtorEq, Except.ok.injEq, false_iff]
    rintro ⟨members, rfl, -⟩
    exact other members rfl

/-- An unpaired surrogate stays in the description. -/
example : (readContent "\x7b\"desc\": \"\\ud834\\udd1e \\udd1e\"\x7d").toOption =
    some ⟨⟨[.char '𝄞', .char ' ', .surrogate ⟨0xdd1e, by decide, by decide⟩]⟩, ""⟩ := by
  decide +kernel

theorem looksDeclared_iff {ops : String} :
    AllowedOperations.looksDeclared ops = true ↔
      ∀ part ∈ Text.split ',' ops, '=' ∈ part.toList := by
  simp [AllowedOperations.looksDeclared]

theorem check_of_identified (hkind : r.header.envelope.kind = Kind.subspaceCreate)
    (htags : ∀ name ∈ requiredTags, (r.header.envelope.tag? name).isSome)
    (hid : r.header.subspaceId =
      SubspaceId.ofConfiguration (r.text "subspace_name") (r.text "ops") (r.text "rules")) :
    check r profile =
      if profile.description = "" then .error (.rejected (.missingContentField "description"))
      else if !AllowedOperations.looksDeclared (r.text "ops") then
        .error (.rejected (.invalidOps (r.text "ops")))
      else .ok () := by
  have present := (requireTags_eq_ok_iff _ _).2 htags
  unfold check
  simp only [hkind, ne_eq, not_true_eq_false, if_false, present, ← hid]
  rfl

theorem check_eq_ok_iff :
    check r profile = .ok () ↔ r.header.envelope.kind = Kind.subspaceCreate ∧
      (∀ name ∈ requiredTags, (r.header.envelope.tag? name).isSome) ∧
        r.header.subspaceId =
          SubspaceId.ofConfiguration (r.text "subspace_name") (r.text "ops") (r.text "rules") ∧
          profile.description ≠ "" ∧ ∀ part ∈ Text.split ',' (r.text "ops"), '=' ∈ part.toList := by
  rw [← looksDeclared_iff]
  constructor
  · intro h
    unfold check at h
    dsimp only at h
    split at h
    · cases h
    · next hkind =>
      obtain ⟨_, htags, h⟩ := bind_eq_ok_iff.1 h
      have htags := (requireTags_eq_ok_iff _ _).1 htags
      split at h
      · cases h
      · next hid =>
        rw [not_not] at hkind hid
        split at h
        · cases h
        · next hdesc =>
          split at h
          · cases h
          · next hops => exact ⟨hkind, htags, hid, hdesc, by simpa using hops⟩
  · rintro ⟨hkind, htags, hid, hdesc, hops⟩
    rw [check_of_identified hkind htags hid, if_neg hdesc, hops]
    rfl

theorem complete_eq_ok_iff :
    complete r = .ok x ↔ ∃ profile, readContent r.content = .ok profile ∧
      check r profile = .ok () ∧ x = { r with profile := some profile } := by
  unfold complete
  simp only [bind_eq_ok_iff]
  constructor
  · rintro ⟨profile, hread, ⟨⟩, hcheck, ⟨⟩⟩
    exact ⟨profile, hread, hcheck, rfl⟩
  · rintro ⟨profile, hread, hcheck, rfl⟩
    exact ⟨profile, hread, (), hcheck, rfl⟩

theorem complete_of_identified (hcontent : readContent r.content = .ok profile)
    (hkind : r.header.envelope.kind = Kind.subspaceCreate)
    (htags : ∀ name ∈ requiredTags, (r.header.envelope.tag? name).isSome)
    (hid : r.header.subspaceId =
      SubspaceId.ofConfiguration (r.text "subspace_name") (r.text "ops") (r.text "rules")) :
    complete r =
      if profile.description = "" then .error (.rejected (.missingContentField "description"))
      else if ∀ part ∈ Text.split ',' (r.text "ops"), '=' ∈ part.toList then
        .ok { r with profile := some profile }
      else .error (.rejected (.invalidOps (r.text "ops"))) := by
  rw [complete, hcontent]
  change (check r profile >>= fun _ => .ok { r with profile := some profile }) = _
  rw [check_of_identified hkind htags hid]
  simp only [← looksDeclared_iff]
  by_cases described : profile.description = ""
  · simp only [described, if_true]
    rfl
  · simp only [described, if_false]
    cases AllowedOperations.looksDeclared (r.text "ops") <;> rfl

/-! ## The record of a header -/

/-- The record that is checked when a header is decoded. -/
def started (h : Header) : Record :=
  ⟨recordType, h, h.envelope.content, recordType.scan h.envelope.tags, none⟩

theorem decode_eq_complete (h : Header) : recordType.decode h = complete (started h) := by
  have unhidden : recordType.Unhidden := by decide
  rw [RecordType.decode, RecordType.start_of_unhidden unhidden]
  rfl

theorem get?_started {f : PayloadField} (hf : f ∈ recordType.fields) (h : Header) :
    (started h).assigned.get? f.name = (h.envelope.lastValue? f.name).map .scalar := by
  have nodup : (recordType.fields.map PayloadField.tag).Nodup := by decide
  have texts : ∀ f ∈ recordType.fields, f.shape = .scalar ∧ f.tag = f.name := by decide
  obtain ⟨shape, tag⟩ := texts f hf
  exact tag ▸ get?_scan_of_scalar nodup hf shape h.envelope

theorem text_started {name : String} (hname : name ∈ recordType.fields.map PayloadField.name)
    (h : Header) : (started h).text name = (h.envelope.lastValue? name).getD "" := by
  obtain ⟨f, hf, rfl⟩ := List.mem_map.1 hname
  rw [Record.text, get?_started hf]
  cases h.envelope.lastValue? f.name <;> rfl

theorem payload_started (h : Header) : (started h).payload =
    [("subspace_name", .scalar ((h.envelope.lastValue? "subspace_name").getD "")),
      ("ops", .scalar ((h.envelope.lastValue? "ops").getD "")),
      ("rules", .scalar ((h.envelope.lastValue? "rules").getD ""))] := by
  have value : ∀ f ∈ recordType.fields, (f.name, (started h).value f) =
      (f.name, FieldValue.scalar ((h.envelope.lastValue? f.name).getD "")) := by
    intro f hf
    have texts : ∀ f ∈ recordType.fields, f.shape = .scalar := by decide
    rw [Record.value, Table.getD, get?_started hf, texts f hf]
    cases h.envelope.lastValue? f.name <;> rfl
  exact List.map_congr_left value

theorem carries_started {h : Header} (sid : h.subspaceId = c.subspaceId)
    (name : h.envelope.lastValue? "subspace_name" = some c.name)
    (ops : h.envelope.lastValue? "ops" = some c.ops)
    (rules : (h.envelope.lastValue? "rules").getD "" = c.rules) :
    Carries { started h with profile := some ⟨c.description, c.imageUrl⟩ } c where
  type := rfl
  subspaceId := sid
  payload := by
    refine (payload_started h).trans ?_
    rw [name, ops, rules]
    rfl
  profile := rfl

theorem complete_started {h : Header}
    (content : readContent h.envelope.content = .ok ⟨c.description, c.imageUrl⟩)
    (kind : h.envelope.kind = Kind.subspaceCreate)
    (present : ∀ name ∈ requiredTags, (h.envelope.tag? name).isSome)
    (sid : h.subspaceId = c.subspaceId)
    (name : h.envelope.lastValue? "subspace_name" = some c.name)
    (ops : h.envelope.lastValue? "ops" = some c.ops)
    (rules : (h.envelope.lastValue? "rules").getD "" = c.rules)
    (identified : c.subspaceId = SubspaceId.ofConfiguration c.name c.ops c.rules) :
    complete (started h) =
      if c.description = "" then .error (.rejected (.missingContentField "description"))
      else if ∀ part ∈ Text.split ',' c.ops, '=' ∈ part.toList then
        .ok { started h with profile := some ⟨c.description, c.imageUrl⟩ }
      else .error (.rejected (.invalidOps c.ops)) := by
  have name_text : (started h).text "subspace_name" = c.name := by
    rw [text_started (by decide), name, Option.getD_some]
  have ops_text : (started h).text "ops" = c.ops := by
    rw [text_started (by decide), ops, Option.getD_some]
  have own : h.subspaceId = SubspaceId.ofConfiguration ((started h).text "subspace_name")
      ((started h).text "ops") ((started h).text "rules") := by
    rw [name_text, ops_text, text_started (by decide), rules, sid, identified]
  rw [complete_of_identified (r := started h) content kind present own, ops_text]

/-! ## Charters and decoding -/

theorem isSome_of_lastValue? {name v : String} (h : e.lastValue? name = some v) :
    (e.tag? name).isSome := by
  rw [← isSome_lastValue?, h, Option.isSome_some]

theorem Declares.requiredTags (h : Declares e c) :
    ∀ name ∈ Creation.requiredTags, (e.tag? name).isSome := by
  simp only [Creation.requiredTags, List.forall_mem_cons]
  exact ⟨h.marked, isSome_of_lastValue? h.subspaceId, isSome_of_lastValue? h.name,
    isSome_of_lastValue? h.ops, List.forall_mem_nil _⟩

theorem Declares.unique {c' : Charter} (h : Declares e c) (h' : Declares e c') : c = c' := by
  obtain ⟨sid, name, ops, rules, description, imageUrl⟩ := c
  obtain ⟨sid', name', ops', rules', description', imageUrl'⟩ := c'
  cases h.subspaceId.symm.trans h'.subspaceId
  cases h.name.symm.trans h'.name
  cases h.ops.symm.trans h'.ops
  cases h.rules.symm.trans h'.rules
  obtain ⟨members, hread, hdesc, himage⟩ := h.content
  obtain ⟨members', hread', hdesc', himage'⟩ := h'.content
  cases hread.symm.trans hread'
  cases hdesc.symm.trans hdesc'
  rcases himage with himage | ⟨himage, rfl⟩ <;> rcases himage' with himage' | ⟨himage', rfl⟩ <;>
    cases himage.symm.trans himage'
  · rfl
  · rfl

section

variable {common : CommonTags} (read : CommonTags.read e.tags = .ok common) (operation : String)
include read

/-- The header is decoded exactly when the envelope declares a charter. -/
theorem decode_eq_ok_iff :
    recordType.decode ⟨common.subspaceId, operation, common.capability, common.parents, e⟩ =
        .ok x ↔
      ∃ c, Declares e c ∧ x = { started ⟨common.subspaceId, operation, common.capability,
        common.parents, e⟩ with profile := some ⟨c.description, c.imageUrl⟩ } := by
  have sid := CommonTags.subspaceId_of_read read
  rw [decode_eq_complete]
  constructor
  · intro hx
    have text {name : String} (hname : name ∈ recordType.fields.map PayloadField.name) :=
      text_started hname ⟨common.subspaceId, operation, common.capability, common.parents, e⟩
    obtain ⟨profile, hcontent, hcheck, rfl⟩ := complete_eq_ok_iff.1 hx
    obtain ⟨members, hjson, hdesc, himage⟩ := readContent_eq_ok_iff.1 hcontent
    obtain ⟨kind, present, identified, described, declared⟩ := check_eq_ok_iff.1 hcheck
    rw [text (by decide), text (by decide), text (by decide)] at identified
    rw [text (by decide)] at declared
    -- the required tags are there, so the values that the record shows are not defaults
    have found : ∀ name ∈ requiredTags, e.lastValue? name = some ((e.lastValue? name).getD "") := by
      intro name hname
      have found := (isSome_lastValue? e name).trans (present name hname)
      obtain ⟨v, hv⟩ := Option.isSome_iff_exists.1 found
      rw [hv, Option.getD_some]
    refine ⟨⟨common.subspaceId, (e.lastValue? "subspace_name").getD "",
      (e.lastValue? "ops").getD "", (e.lastValue? "rules").getD "", profile.description,
      profile.imageUrl⟩, ?_, rfl⟩
    exact {
      kind, identified, described, declared
      capabilities := CommonTags.read_isOk_iff.1 ⟨common, read⟩
      marked := present _ (by decide)
      subspaceId := sid ▸ found _ (by decide)
      name := found _ (by decide)
      ops := found _ (by decide)
      rules := rfl
      content := ⟨members, hjson,
        (textMember_eq_ok_iff.1 hdesc).resolve_right fun h => described h.2,
        textMember_eq_ok_iff.1 himage⟩ }
  · rintro ⟨c, h, rfl⟩
    obtain ⟨members, hjson, hdesc, himage⟩ := h.content
    have content : readContent e.content = .ok ⟨c.description, c.imageUrl⟩ :=
      readContent_eq_ok_iff.2 ⟨members, hjson, textMember_eq_ok_iff.2 (.inl hdesc),
        textMember_eq_ok_iff.2 himage⟩
    rw [h.subspaceId] at sid
    have decoded := complete_started
      (h := ⟨common.subspaceId, operation, common.capability, common.parents, e⟩)
      content h.kind h.requiredTags sid h.name h.ops h.rules h.identified
    rw [decoded, if_neg h.described, if_pos h.declared]

theorem carries_of_decode
    (hx : recordType.decode ⟨common.subspaceId, operation, common.capability, common.parents, e⟩ =
      .ok x) : ∃ c, Declares e c ∧ Carries x c := by
  obtain ⟨c, h, rfl⟩ := (decode_eq_ok_iff read operation).1 hx
  have sid := CommonTags.subspaceId_of_read read
  rw [h.subspaceId] at sid
  exact ⟨c, h, carries_started sid h.name h.ops h.rules⟩

end

/-! ## Routed envelopes -/

/-- A decoded record shows the type and the header that it was decoded with, and what is read from
the envelope; only the profile depends on the role of the type. -/
theorem exists_profile_of_decode {t : RecordType} {h : Header} (hx : t.decode h = .ok x) :
    ∃ profile, x = ⟨t, h, h.envelope.content, t.settle (t.scan h.envelope.tags), profile⟩ := by
  obtain ⟨r, hstart, hx⟩ := bind_eq_ok_iff.1 hx
  unfold RecordType.start at hstart
  split at hstart
  · cases hstart
    revert hx
    cases t.role with
    | plain =>
      rintro ⟨⟩
      exact ⟨none, rfl⟩
    | creation =>
      intro hx
      obtain ⟨profile, -, -, rfl⟩ := complete_eq_ok_iff.1 hx
      exact ⟨some profile, rfl⟩
    | joining =>
      intro hx
      obtain ⟨_, -, ⟨⟩⟩ := bind_eq_ok_iff.1 hx
      exact ⟨none, rfl⟩
  · cases hstart

theorem type_of_decode {t : RecordType} {h : Header} (hx : t.decode h = .ok x) : x.type = t := by
  obtain ⟨profile, rfl⟩ := exists_profile_of_decode hx
  rfl

/-- Whatever module and registry a creation record comes from, its envelope declares its charter. -/
theorem carries_of_outcomeWith {m : OperationModule} {reg : Registry}
    (hx : Routing.outcomeWith m reg e = .ok x) (type : x.type = recordType) :
    ∃ c, Declares e c ∧ Carries x c := by
  obtain ⟨common, operation, t, read, -, -, decoded⟩ := outcomeWith_eq_ok_iff.1 hx
  obtain rfl := (type_of_decode decoded).symm.trans type
  exact carries_of_decode read operation decoded

theorem outcome_decodeCreation (hkind : e.kind = Kind.subspaceCreate) (reg : Registry) :
    (Lifecycle.decodeCreation reg e).outcome = Routing.outcomeWith Lifecycle.operations reg e :=
  Lifecycle.outcome_decodeKind hkind reg

/-- The registry of the built-in modules leads creation events to the type of creation records. -/
theorem outcome_decodeCreation_builtIn {common : CommonTags}
    (hkind : e.kind = Kind.subspaceCreate) (read : CommonTags.read e.tags = .ok common) :
    (Lifecycle.decodeCreation Catalogue.registry e).outcome = recordType.decode
      ⟨common.subspaceId, Operation.subspaceCreate, common.capability, common.parents, e⟩ := by
  have named : Catalogue.registry.operation? Kind.subspaceCreate =
      some Operation.subspaceCreate := by decide +kernel
  rw [outcome_decodeCreation hkind]
  exact Routing.outcomeWith_of_recordType read (hkind ▸ named) rfl

/-- An accepted event declares a charter, and its record is started from its header and completed
by the profile of the charter. -/
theorem started_of_accepted
    (accepted : (Lifecycle.decodeCreation Catalogue.registry e).outcome = .ok x) :
    ∃ c h, Declares e c ∧ h.envelope = e ∧ h.subspaceId = c.subspaceId ∧
      x = { started h with profile := some ⟨c.description, c.imageUrl⟩ } := by
  obtain ⟨kind, common, read⟩ := Lifecycle.kind_and_tags_of_decodeKind accepted
  rw [outcome_decodeCreation_builtIn kind read] at accepted
  obtain ⟨c, h, rfl⟩ := (decode_eq_ok_iff read Operation.subspaceCreate).1 accepted
  have sid := CommonTags.subspaceId_of_read read
  rw [h.subspaceId] at sid
  exact ⟨c, _, h, rfl, sid, rfl⟩

theorem accepted_of_declares (h : Declares e c) :
    ∃ x, (Lifecycle.decodeCreation Catalogue.registry e).outcome = .ok x := by
  obtain ⟨common, read⟩ := CommonTags.read_isOk_iff.2 h.capabilities
  rw [outcome_decodeCreation_builtIn h.kind read]
  exact ⟨_, (decode_eq_ok_iff read _).2 ⟨c, h, rfl⟩⟩

/-- With the registry of the built-in modules, exactly the envelopes that declare a charter are
accepted as creation events, and the record carries this charter. With any registry, a creation
record comes only from an envelope that declares what the record carries, by whatever module it is
decoded. -/
theorem decodeCreation_iff (e : Envelope) :
    ((∃ x, (Lifecycle.decodeCreation Catalogue.registry e).outcome = .ok x) ↔
        ∃ c, Declares e c) ∧
      (∀ x c, (Lifecycle.decodeCreation Catalogue.registry e).outcome = .ok x → Declares e c →
        Carries x c) ∧
      ∀ (reg : Registry) (x : Record), x.type = recordType →
        ((∃ m : OperationModule, (m.decode reg e).outcome = .ok x) ∨
          (reg.decode e).outcome = .ok x) → ∃ c, Declares e c ∧ Carries x c := by
  have sound : ∀ x, (Lifecycle.decodeCreation Catalogue.registry e).outcome = .ok x →
      ∃ c, Declares e c ∧ Carries x c := by
    intro x hx
    by_cases hkind : e.kind = Kind.subspaceCreate
    · obtain ⟨common, read⟩ : ∃ common, CommonTags.read e.tags = .ok common := by
        rw [outcome_decodeCreation hkind] at hx
        obtain ⟨common, -, -, read, -⟩ := outcomeWith_eq_ok_iff.1 hx
        exact ⟨common, read⟩
      rw [outcome_decodeCreation_builtIn hkind read] at hx
      exact carries_of_decode read _ hx
    · rw [Lifecycle.decodeCreation, Lifecycle.decodeKind, if_neg hkind] at hx
      cases hx
  refine ⟨⟨?_, ?_⟩, ?_, ?_⟩
  · rintro ⟨x, hx⟩
    obtain ⟨c, h, -⟩ := sound x hx
    exact ⟨c, h⟩
  · rintro ⟨c, h⟩
    obtain ⟨common, read⟩ := CommonTags.read_isOk_iff.2 h.capabilities
    rw [outcome_decodeCreation_builtIn h.kind read]
    exact ⟨_, (decode_eq_ok_iff read _).2 ⟨c, h, rfl⟩⟩
  · intro x c hx h
    obtain ⟨c', h', carries⟩ := sound x hx
    exact h.unique h' ▸ carries
  · rintro reg x type (⟨m, hx⟩ | hx)
    · exact carries_of_outcomeWith hx type
    · obtain ⟨m, -, hx⟩ := outcome_eq_ok_iff.1 hx
      exact carries_of_outcomeWith hx type

end SubspaceOps.Creation
