import SubspaceOps.Proofs.Record.SingleCall

/-!
# Modules made of accepted declarations

The rules for declarations keep kinds, operations, names and tags apart, so a module that is made of
an accepted declaration can be registered and implements every operation that it declares. They also
reserve names for what every record has, but miss a few: that of the receiver of a call, those of
properties of a type, and those of the parts that start a record. A call on a new record comes back
from its receiver, whatever it sets, exactly when the event has no field of these names
(`roundTrips_iff`).
-/
namespace SubspaceOps

open Record

variable {e : EventDeclaration} {t : RecordType} {r : Registry} {kind : Int}

/-! ## Names that the rules miss -/

/-- No field has the name of the receiver of a call, of a property of the type or of a part that
starts its records. -/
structure EventDeclaration.FreeNames (e : EventDeclaration) : Prop where
  receiver : ∀ f ∈ e.fields, f.name ≠ "self"
  properties : ∀ f ∈ e.fields, f.isProperty = false
  completion : ∀ f ∈ e.fields, f.name = RecordType.completionName → f.shape ≠ .scalar
  sources : ∀ f ∈ e.fields, f.shape ≠ .scalar → ∀ g ∈ e.fields,
    g.name ≠ f.payloadField.sourceName ∧ g.name ≠ RecordType.markName

/-- The names and shapes of the fields that are declared. -/
def EventDeclaration.slots (e : EventDeclaration) : List (String × FieldShape) :=
  e.fields.map fun f => (f.name, f.shape)

/-- Every call on a new record that gives some of the fields a value of their shape succeeds, and
the receiver gets a record of the type with the payload of the writer. -/
def RoundTrips (r : Registry) (t : RecordType) (slots : List (String × FieldShape)) : Prop :=
  ∀ (now : Int) (sid : String) (values : List (String × FieldInput)), Assigns slots values →
    ∃ draft built got, t.new r now sid = .ok draft ∧ draft.setFields values = (built, none) ∧
      (r.decode built.header.envelope).outcome = .ok got ∧ got.type = t ∧
        got.payload = built.payload

theorem RecordType.field?_eq_none_iff {name : String} :
    t.field? name = none ↔ ∀ f ∈ t.fields, f.name ≠ name := by
  simp [RecordType.field?]

theorem EventDeclaration.Accepted.tagsApart (h : e.Accepted) (ht : e.toRecordType = .ok t) :
    t.TagsApart := by
  rw [RecordType.TagsApart, fields_of_toRecordType ht]
  exact h.tags_payloadFields

theorem role_of_toRecordType (ht : e.toRecordType = .ok t) : t.role = .plain := by
  unfold EventDeclaration.toRecordType at ht
  split at ht
  · cases ht
    rfl
  · cases ht

theorem fields_of_no_properties (ht : e.toRecordType = .ok t)
    (properties : ∀ f ∈ e.fields, f.isProperty = false) :
    t.fields = e.fields.map FieldDeclaration.payloadField := by
  rw [fields_of_toRecordType ht, EventDeclaration.payloadFields,
    List.filter_eq_self.2 fun f hf => by simp [properties f hf]]

theorem slots_of_no_properties (ht : e.toRecordType = .ok t)
    (properties : ∀ f ∈ e.fields, f.isProperty = false) : t.slots = e.slots := by
  rw [RecordType.slots, fields_of_no_properties ht properties, EventDeclaration.slots, List.map_map]
  rfl

/-- Apart from the receiver and properties, the free names are those that hide nothing. -/
theorem unhidden_iff (ht : e.toRecordType = .ok t)
    (properties : ∀ f ∈ e.fields, f.isProperty = false) :
    t.Unhidden ↔ (∀ f ∈ e.fields, f.name = RecordType.completionName → f.shape ≠ .scalar) ∧
      ∀ f ∈ e.fields, f.shape ≠ .scalar → ∀ g ∈ e.fields,
        g.name ≠ f.payloadField.sourceName ∧ g.name ≠ RecordType.markName := by
  have fields := fields_of_no_properties ht properties
  simp only [RecordType.Unhidden, RecordType.field?_eq_none_iff, fields, List.forall_mem_map,
    imp_and, forall_and]
  exact Iff.rfl

theorem Assigns.named {values : List (String × FieldInput)} (h : Assigns e.slots values)
    (receiver : ∀ f ∈ e.fields, f.name ≠ "self") : ∀ i ∈ values, i.1 ≠ "self" := by
  intro i hi
  obtain ⟨s, mem, -⟩ := h.fits i hi
  obtain ⟨f, hf, same⟩ := List.mem_map.1 mem
  exact (Prod.mk.inj same).1 ▸ receiver f hf

theorem roundTrips_of_freeNames (accepted : e.Accepted) (ht : e.toRecordType = .ok t)
    (hr : r.Routes t kind) (free : e.FreeNames) : RoundTrips r t e.slots := by
  intro now sid values assigns
  have unhidden : t.Unhidden :=
    (unhidden_iff ht free.properties).2 ⟨free.completion, free.sources⟩
  have plain := role_of_toRecordType ht
  have named := assigns.named free.receiver
  rw [← slots_of_no_properties ht free.properties] at assigns
  obtain ⟨draft, hd⟩ := RecordType.exists_draft plain unhidden hr.found now sid
  obtain ⟨built, got, call, hgot, built_type, type, agree⟩ :=
    exists_decoded_call assigns named plain (accepted.tagsApart ht) unhidden hr hd
  refine ⟨draft, built, got, hd, call, hgot, type, (payload_eq_iff type built_type).2 ?_⟩
  intro f hf
  exact (agree f hf).2.trans (agree f hf).1.symm

namespace RoundTrips

variable (h : RoundTrips r t e.slots) (accepted : e.Accepted) (ht : e.toRecordType = .ok t)
  (hr : r.Routes t kind)
include h ht hr

theorem found {f : FieldDeclaration} (hf : f ∈ e.fields) :
    f.name ≠ "self" ∧ ∃ g ∈ t.fields, g.name = f.name := by
  obtain ⟨input, fits, -⟩ := FieldInput.exists_default f.shape
  have assigns : Assigns e.slots [(f.name, input)] :=
    .single (List.mem_map.2 ⟨f, hf, rfl⟩) fits
  obtain ⟨draft, built, -, hd, call, -⟩ := h 0 "" _ assigns
  have succeeds : (draft.setFields [(f.name, input)]).2 = none := by rw [call]
  obtain ⟨named, fields⟩ := (setFields_snd_eq_none_iff assigns.nodup).1 succeeds
  obtain ⟨g, -, hg, -⟩ := fields _ List.mem_cons_self
  rw [RecordType.type_of_new (role_of_toRecordType ht) hr.found hd] at hg
  exact ⟨named _ List.mem_cons_self, g, RecordType.field?_eq_some_iff.1 hg⟩

theorem no_properties : ∀ f ∈ e.fields, f.isProperty = false := by
  intro f hf
  obtain ⟨-, g, hg, same⟩ := h.found ht hr hf
  rw [fields_of_toRecordType ht] at hg
  obtain ⟨f', hf', rfl⟩ := List.mem_map.1 hg
  have kept : f'.isProperty = false := by simpa using (List.mem_filter.1 hf').2
  have same_name : f'.name = f.name := same
  rwa [FieldDeclaration.isProperty, same_name] at kept

theorem assigns_single {f : PayloadField} (hf : f ∈ t.fields) {input : FieldInput}
    (fits : input.Fits f.shape) : Assigns t.slots [(f.name, input)] ∧
      Assigns e.slots [(f.name, input)] ∧ f.name ≠ "self" := by
  have same_slots := slots_of_no_properties ht (h.no_properties ht hr)
  have mem : (f.name, f.shape) ∈ t.slots := List.mem_map.2 ⟨f, hf, rfl⟩
  have declared := mem
  rw [same_slots] at declared
  obtain ⟨f', hf', same⟩ := List.mem_map.1 declared
  exact ⟨.single mem fits, .single declared fits, (Prod.mk.inj same).1 ▸ (h.found ht hr hf').1⟩

include accepted

theorem readValue_eq {values : List (String × FieldInput)} (assigns : Assigns e.slots values)
    {f : PayloadField} (hf : f ∈ t.fields) :
    readValue t [.fields values] f = writtenValue t [.fields values] f := by
  have plain := role_of_toRecordType ht
  obtain ⟨draft, built, got, hd, call, hgot, type, payload⟩ := h 0 "" values assigns
  have after : draft.after [.fields values] = built := by
    change (draft.setFields values).1 = built
    rw [call]
  obtain ⟨got', hgot', -, read⟩ :=
    exists_decoded_after plain (accepted.tagsApart ht) hr hd [.fields values]
  rw [after] at hgot'
  cases hgot.symm.trans hgot'
  have built_type := after ▸ type_after plain hr.found hd [.fields values]
  have agree := (payload_eq_iff type built_type).1 payload f hf
  rw [← read f hf, agree, ← after, value_after plain hr.found hd _ hf]

/-- After a call for one field the receiver has the value of the call, and a value that is not sent
leaves nothing to read. -/
theorem readValue_single {f : PayloadField} (hf : f ∈ t.fields) {input : FieldInput}
    (fits : input.Fits f.shape) :
    readValue t [.fields [(f.name, input)]] f = input.value ∧
      (f.sends input.value = false →
        (readTable t [.fields [(f.name, input)]]).get? f.name = none) := by
  obtain ⟨assigns, declared, not_receiver⟩ := h.assigns_single ht hr hf fits
  have named : ∀ i ∈ [(f.name, input)], i.1 ≠ "self" := by simpa using not_receiver
  have last : lastAssigned f (assignmentsOf t [.fields [(f.name, input)]]) = some input.value := by
    simp [lastAssigned_call assigns named hf]
  constructor
  · rw [h.readValue_eq accepted ht hr declared hf, writtenValue, last]
    rfl
  · intro silent
    have unsent : lastSent f (assignmentsOf t [.fields [(f.name, input)]]) = none := by
      by_contra was_sent
      exact not_withdrawn_call assigns named ⟨_, last, silent, was_sent⟩
    rw [get?_readTable hf, lastAssigned_readings_call, unsent]
    rfl

theorem not_emptied {f : PayloadField} (hf : f ∈ t.fields) :
    ¬ ∀ given, t.settledValue? given f = some f.shape.default := by
  intro empties
  obtain ⟨input, fits, telling⟩ := FieldInput.exists_telling f.shape
  have read := (h.readValue_single accepted ht hr hf fits).1
  rw [readValue, empties] at read
  exact telling read.symm

theorem not_marked {f : PayloadField} (hf : f ∈ t.fields) (hs : f.shape ≠ .scalar) :
    ¬ ∀ given, given.get? f.name = none → t.settledValue? given f = some .mark := by
  intro marks
  obtain ⟨input, fits, silent⟩ := FieldInput.exists_default f.shape
  obtain ⟨read, unread⟩ := h.readValue_single accepted ht hr hf fits
  have not_sent : f.sends input.value = false := by
    by_contra sends
    rcases PayloadField.sends_iff.1 (by simpa using sends) with filled | ⟨is_scalar, -⟩
    · rw [silent, isEmpty_default] at filled
      cases filled
    · exact hs is_scalar
  rw [readValue, marks _ (unread not_sent), silent] at read
  cases hshape : f.shape <;> rw [hshape] at read <;> cases read

theorem unhidden : t.Unhidden := by
  obtain ⟨draft, -, -, hd, -⟩ := h 0 "" [] ⟨List.nodup_nil, List.forall_mem_nil _⟩
  have starts := ((RecordType.new_eq_ok_iff (role_of_toRecordType ht) hr.found).1 hd).1
  exact RecordType.unhidden_of_canStart starts
    (fun f hf _ _ => h.not_emptied accepted ht hr hf)
    fun f hf hs => h.not_marked accepted ht hr hf hs

end RoundTrips

/-- Every call on a new record of an accepted event comes back exactly when the event has no field
of a name that the rules miss. -/
theorem roundTrips_iff (accepted : e.Accepted) (ht : e.toRecordType = .ok t)
    (hr : r.Routes t kind) : RoundTrips r t e.slots ↔ e.FreeNames := by
  refine ⟨fun h => ?_, roundTrips_of_freeNames accepted ht hr⟩
  have properties := h.no_properties ht hr
  obtain ⟨completion, sources⟩ := (unhidden_iff ht properties).1 (h.unhidden accepted ht hr)
  exact ⟨fun f hf => (h.found ht hr hf).1, properties, completion, sources⟩

/-! ## The module of a declaration -/

theorem OperationModule.exists_new {kinds : Table Int String} {records : List RecordType}
    (declared : ∀ t ∈ records, t.operation ∈ kinds.values) (serial : Nat)
    (name package description : String) :
    ∃ m, OperationModule.new serial name package description kinds records = .ok m := by
  unfold OperationModule.new
  split
  · next t undeclared =>
    have absent := List.find?_some undeclared
    simp [declared t (List.mem_of_find?_eq_some undeclared)] at absent
  · exact ⟨_, rfl⟩

namespace Declaration

variable {v : Json} {d : Declaration} {serial : Nat} {m : OperationModule}

theorem entries_kinds (hd : ofJson v = .ok d) :
    d.kinds.entries = d.events.map fun e => (e.kind, e.operation) := by
  refine Table.entries_ofList ?_
  simpa [Function.comp_def] using nodup_kinds_of_ofJson hd

theorem exists_toRecordType_iff {e : EventDeclaration} :
    (∃ t, e.toRecordType = .ok t) ↔ e.typeFlaw? = none := by
  unfold EventDeclaration.toRecordType
  split
  · next made => simp [made]
  · next flaw flawed => simp [flawed]

/-- A module is made when a type is made of each event: the types implement declared operations. -/
theorem exists_toModule_iff (hd : ofJson v = .ok d) :
    (∃ m, d.toModule serial = .ok m) ↔ ∀ e ∈ d.events, e.typeFlaw? = none := by
  simp only [← exists_toRecordType_iff]
  rw [← exists_mapM_eq_ok_iff]
  constructor
  · rintro ⟨m, hm⟩
    exact ⟨m.records, records_of_toModule hm⟩
  · rintro ⟨records, hrecords⟩
    have declared : ∀ t ∈ records, t.operation ∈ d.kinds.values := by
      intro t ht
      obtain ⟨e, he, made⟩ := exists_of_mem_mapM hrecords ht
      rw [Table.values, entries_kinds hd, operation_of_toRecordType made, List.map_map]
      exact List.mem_map.2 ⟨e, he, rfl⟩
    obtain ⟨m, hm⟩ := OperationModule.exists_new declared serial d.name d.package d.description
    exact ⟨m, bind_eq_ok_iff.2 ⟨records, hrecords, hm⟩⟩

theorem declarations_of_toModule (hd : ofJson v = .ok d) (hm : d.toModule serial = .ok m) :
    m.declarations = d.events.map fun e => (e.kind, e.operation) := by
  obtain ⟨records, hrecords, hm⟩ := bind_eq_ok_iff.1 hm
  unfold OperationModule.new at hm
  split at hm
  · cases hm
  · cases hm
    exact entries_kinds hd

theorem exists_registerModule (hd : ofJson v = .ok d) (hm : d.toModule serial = .ok m) :
    ∃ r, Registry.empty.registerModule m = .ok r := by
  have operations : (m.declarations.map Prod.snd).Nodup := by
    rw [declarations_of_toModule hd hm, List.map_map]
    exact nodup_operations_of_ofJson hd
  exact ⟨_, Registry.registerModule_eq_ok_iff.2 ⟨rfl, rfl, fun _ _ => rfl, operations, rfl⟩⟩

/-- A module is made of an accepted declaration as long as a type can be made of each event. It
declares the kinds and operations of the declaration and has a type for each of them, and a new
registry accepts it. There every call on a new record that gives some of the fields a value of their
shape is decoded to a record of the type with the same payload, exactly when the event has no field
of a name that the rules miss. -/
theorem module_of_accepted (hd : ofJson v = .ok d) (serial : Nat) :
    ((∃ m, d.toModule serial = .ok m) ↔ ∀ e ∈ d.events, e.typeFlaw? = none) ∧
      ∀ m, d.toModule serial = .ok m →
        m.declarations = d.events.map (fun e => (e.kind, e.operation)) ∧
          ∃ r, Registry.empty.registerModule m = .ok r ∧
            ∀ e ∈ d.events, ∃ t, m.recordType? e.operation = some t ∧ e.toRecordType = .ok t ∧
              (RoundTrips r t e.slots ↔ e.FreeNames) := by
  refine ⟨exists_toModule_iff hd, fun m hm => ⟨declarations_of_toModule hd hm, ?_⟩⟩
  obtain ⟨r, hr⟩ := exists_registerModule hd hm
  refine ⟨r, hr, fun e he => ?_⟩
  obtain ⟨t, ht, made⟩ := exists_mem_of_mapM (records_of_toModule hm) he
  have implements : m.recordType? t.operation = some t :=
    SuppliedModule.recordType?_eq (.declared hd hm) ht
  have attempted : Registry.empty.attempt (.whole m) = .ok r := hr
  have consistent : r.Consistent := Registry.consistent_empty.attempt attempted
  have enrolled : r.module? m.name = some m := by
    obtain ⟨-, -, -, -, rfl⟩ := Registry.registerModule_eq_ok_iff.1 hr
    rw [Registry.module?_enroll, if_pos rfl]
  obtain ⟨kind, routes⟩ := consistent.exists_routes_of_module enrolled implements
  rw [operation_of_toRecordType made] at implements
  exact ⟨t, implements, made, roundTrips_iff (accepted_of_ofJson hd e he) made routes⟩

/-- The declaration of a ballot, with a text, a list and a map. -/
def ballotJson : Json :=
  .object [("name", .text "voting"), ("package", .text "cip10"), ("events", .array [.object [
    ("name", .text "Ballot"), ("operation", .text "ballot"), ("kind", .int 31000),
    ("fields", .array [.object [("name", .text "proposal_id"), ("required", .bool true)],
      .object [("name", .text "choices"), ("multiple", .bool true)],
      .object [("name", .text "weights"), ("type", .text "map")]])]])]

def ballotEvent : EventDeclaration where
  name := "Ballot"
  operation := "ballot"
  kind := 31000
  description := ""
  fields := [⟨"proposal_id", "proposal_id", false, true, false⟩,
    ⟨"choices", "choices", false, false, true⟩, ⟨"weights", "weights", true, false, false⟩]

/-- Every call on a new ballot comes back. -/
theorem module_of_accepted_ballot :
    ofJson ballotJson = .ok ⟨"voting", "cip10", "", [ballotEvent]⟩ ∧ ballotEvent.FreeNames ∧
      ∃ m r t, Declaration.toModule ⟨"voting", "cip10", "", [ballotEvent]⟩ 0 = .ok m ∧
        m.declarations = [(31000, "ballot")] ∧ Registry.empty.registerModule m = .ok r ∧
          m.recordType? "ballot" = some t ∧ RoundTrips r t ballotEvent.slots := by
  have accepted : ofJson ballotJson = .ok ⟨"voting", "cip10", "", [ballotEvent]⟩ := by
    decide +kernel
  have free : ballotEvent.FreeNames :=
    ⟨by decide, by decide, by decide, by decide +kernel⟩
  have flawless : ballotEvent.typeFlaw? = none :=
    EventDeclaration.typeFlaw?_of_plainNames (by decide +kernel)
  obtain ⟨made, works⟩ := module_of_accepted accepted 0
  obtain ⟨m, hm⟩ := made.2 fun e he => List.mem_singleton.1 he ▸ flawless
  obtain ⟨declared, r, hr, types⟩ := works m hm
  obtain ⟨t, implements, -, comes_back⟩ := types ballotEvent List.mem_cons_self
  exact ⟨accepted, free, m, r, t, hm, declared, hr, implements, comes_back.2 free⟩

/-- The declaration of an event whose fields have the names of the receiver and of the mark. -/
def clashingJson : Json :=
  .object [("name", .text "m"), ("package", .text "p"), ("events", .array [.object [
    ("name", .text "LinkEvent"), ("operation", .text "link"), ("kind", .int 31002),
    ("fields", .array [.object [("name", .text "self")],
      .object [("name", .text "_HAS_DEFAULT_FACTORY"), ("multiple", .bool true)]])]])]

def clashingEvent : EventDeclaration where
  name := "LinkEvent"
  operation := "link"
  kind := 31002
  description := ""
  fields := [⟨"self", "self", false, false, false⟩,
    ⟨RecordType.markName, RecordType.markName, false, false, true⟩]

def clashingModule : OperationModule where
  serial := 0
  name := "m"
  package := "p"
  description := ""
  kinds := ⟨[(31002, "link")], by decide⟩
  records := [clashingEvent.recordType (by decide)]
  declared := by decide

/-- The module is made and registered, but a call that gives the first field a text fails, and of
the list that a call gives the second field nothing comes back. -/
theorem not_roundTrips_clashing :
    (∃ d, ofJson clashingJson = .ok d ∧ d.events = [clashingEvent] ∧
      d.toModule 0 = .ok clashingModule) ∧
    ∃ r t draft built got, Registry.empty.registerModule clashingModule = .ok r ∧
      clashingModule.records = [t] ∧ t.new r 1700000000 "s" = .ok draft ∧
        Assigns clashingEvent.slots [("self", .text "a")] ∧
          draft.setFields [("self", .text "a")] = (draft, some .receiverName) ∧
            Assigns clashingEvent.slots [(RecordType.markName, .items ["a"])] ∧
              draft.setFields [(RecordType.markName, .items ["a"])] = (built, none) ∧
                (r.decode built.header.envelope).outcome = .ok got ∧
                  built.payload = [("self", .scalar ""), (RecordType.markName, .list ["a"])] ∧
                    got.payload = [("self", .scalar ""), (RecordType.markName, .list [])] := by
  have accepted : ofJson clashingJson = .ok ⟨"m", "p", "", [clashingEvent]⟩ := by decide +kernel
  have flawless : clashingEvent.typeFlaw? = none :=
    EventDeclaration.typeFlaw?_of_plainNames (by decide +kernel)
  have types : [clashingEvent].mapM EventDeclaration.toRecordType = .ok clashingModule.records := by
    rw [List.mapM_cons, EventDeclaration.toRecordType_of_typeFlaw? flawless]
    rfl
  have made : Declaration.toModule ⟨"m", "p", "", [clashingEvent]⟩ 0 = .ok clashingModule :=
    bind_eq_ok_iff.2 ⟨_, types, rfl⟩
  exact ⟨⟨_, accepted, rfl, made⟩, _, _, _, _, _, rfl, rfl, rfl, .single (by decide) (.text "a"),
    rfl, .single (by decide) (.items ["a"]), rfl, rfl, rfl, rfl⟩

end Declaration

end SubspaceOps
