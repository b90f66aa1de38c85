import SubspaceOps.Catalogue
import SubspaceOps.Declaration.Generation
import SubspaceOps.Proofs.Record.Run
import SubspaceOps.Proofs.Registry.Consistency
import SubspaceOps.Registry.Skeleton

/-!
# Reading back what was written

A receiver who decodes the envelope of a record by the same registry gets a record of the same type
with the same header and content, and in every field the last value that was sent. This is so for
every run of edits exactly when the type hides no part that its records need
(`unhidden_iff_alwaysReadsBack`): a field of the name of the mark is always read as empty.
-/
namespace SubspaceOps

open Record

variable {r : Registry} {t : RecordType} {kind now : Int} {sid : String} {draft built got : Record}
  {as : List Assignment} {f : PayloadField}

/-! ## Values that do not follow from the given ones -/

theorem lastAssigned_filterMap (derived : PayloadField → Option FieldValue)
    {fields : List PayloadField} (hf : f ∈ fields) (nodup : fields.Nodup) :
    lastAssigned f (fields.filterMap fun g => (derived g).map (g, ·)) = derived f := by
  have others : ∀ fs : List PayloadField, f ∉ fs →
      (fs.filterMap fun g => (derived g).map (g, ·)).filter (·.1 = f) = [] := by
    intro fs hfs
    refine List.filter_eq_nil_iff.2 fun a ha => ?_
    obtain ⟨g, hg, hga⟩ := List.mem_filterMap.1 ha
    obtain ⟨v, -, rfl⟩ := Option.map_eq_some_iff.1 hga
    have hne : g ≠ f := fun e => hfs (e ▸ hg)
    simpa using hne
  obtain ⟨before, behind, rfl⟩ := List.append_of_mem hf
  have hbehind : f ∉ behind := (List.nodup_cons.1 (List.nodup_append.1 nodup).2.1).1
  have hbefore : f ∉ before := fun h =>
    (List.nodup_append.1 nodup).2.2 f h f List.mem_cons_self rfl
  rw [lastAssigned, List.filterMap_append, List.filter_append, others before hbefore,
    List.nil_append]
  cases hd : derived f with
  | none => rw [List.filterMap_cons_none (by rw [hd]; rfl), others behind hbehind]; rfl
  | some v =>
    rw [List.filterMap_cons_some (by rw [hd]; rfl), List.filter_cons_of_pos (by simp),
      others behind hbehind]
    rfl

namespace RecordType

theorem nodup_fields (t : RecordType) : t.fields.Nodup := List.Nodup.of_map _ t.distinct

theorem get?_settle (given : Table String FieldValue) (hf : f ∈ t.fields) :
    (t.settle given).get? f.name = (t.settledValue? given f).or (given.get? f.name) := by
  have settled : t.fields.filterMap (fun g => (t.settledValue? given g).map fun v => (g.name, v)) =
      (t.fields.filterMap fun g => (t.settledValue? given g).map (g, ·)).map
        fun a => (a.1.name, id a.2) := by
    rw [List.map_filterMap]
    refine List.filterMap_congr fun g _ => ?_
    rw [Option.map_map]
    rfl
  rw [settle, settled, get?_putAll_assignments hf, lastAssigned_filterMap _ hf t.nodup_fields,
    Option.map_id_fun, id_eq]
  intro a ha
  obtain ⟨g, hg, hga⟩ := List.mem_filterMap.1 ha
  obtain ⟨v, -, rfl⟩ := Option.map_eq_some_iff.1 hga
  exact hg

theorem settledValue?_of_name_eq_mark (hs : f.shape ≠ .scalar) (hname : f.name = markName)
    (given : Table String FieldValue) : t.settledValue? given f = some f.shape.default := by
  simp [settledValue?, keepsMark, takesDefault, hs, hname]

theorem settledValue?_of_text_mark {g : PayloadField} (hf : f ∈ t.fields) (hs : f.shape ≠ .scalar)
    (hg : t.field? markName = some g) (scalar : g.shape = .scalar) {given : Table String FieldValue}
    (absent : given.get? f.name = none) : t.settledValue? given f = some .mark := by
  -- Fields of one name are one field, and this one is no text.
  have hname : f.name ≠ markName := by
    intro hname
    obtain ⟨hgmem, hgname⟩ := field?_eq_some_iff.1 hg
    exact hs (eq_of_name_eq hf hgmem (hname.trans hgname.symm) ▸ scalar)
  simp [settledValue?, keepsMark, hidesMark, Table.contains, absent, hs, hname, hg, scalar]

/-- Of a type whose records can be started without values, no text hides the completing step. A
field of the name of the mark shows in the lists and maps: it is one and always empty, or a text
and leaves its mark in the others. Where neither happens, the defaults of all lists and maps are
taken, so their sources are not hidden either. -/
theorem unhidden_of_canStart (starts : t.canStart .empty = true)
    (not_emptied : ∀ f ∈ t.fields, f.shape ≠ .scalar → f.name = markName →
      ¬ ∀ given, t.settledValue? given f = some f.shape.default)
    (not_marked : ∀ f ∈ t.fields, f.shape ≠ .scalar →
      ¬ ∀ given, given.get? f.name = none → t.settledValue? given f = some .mark) :
    t.Unhidden := by
  simp only [canStart, hidesCompletion, Bool.and_eq_true, Bool.not_eq_true', List.any_eq_false,
    List.all_eq_true, decide_eq_true_eq, not_and] at starts
  refine ⟨starts.1, fun f hf hs => ?_⟩
  have free : t.field? markName = none := by
    refine Option.eq_none_iff_forall_ne_some.2 fun g hg => ?_
    obtain ⟨hgmem, hgname⟩ := field?_eq_some_iff.1 hg
    by_cases scalar : g.shape = .scalar
    · exact not_marked f hf hs fun _ => settledValue?_of_text_mark hf hs hg scalar
    · exact not_emptied g hgmem scalar hgname (settledValue?_of_name_eq_mark scalar hgname)
  have takes : t.takesDefault .empty f = true := by
    simp [takesDefault, hidesMark, Table.contains, free, hs]
  refine ⟨?_, free⟩
  simpa [takes] using starts.2 f hf

theorem start_eq_ok_iff {h : Header} {content : String} {given : Table String FieldValue} :
    t.start h content given = .ok got ↔
      t.canStart given = true ∧ got = ⟨t, h, content, t.settle given, none⟩ := by
  unfold start
  cases t.canStart given <;> simp [eq_comm]

theorem new_eq_ok_iff (plain : t.role = .plain) (hk : r.kind? t.operation = some kind) :
    t.new r now sid = .ok draft ↔ t.canStart .empty = true ∧ draft =
      ⟨t, ⟨sid, t.operation, none, [], .unsigned now kind [[TagName.marker, operationMarker],
        [TagName.subspaceId, sid], [TagName.operation, t.operation]]⟩, "", t.settle .empty,
        none⟩ := by
  rw [← start_eq_ok_iff, new, plain]
  simp only [Registry.skeleton, hk]
  rfl

theorem type_of_new (plain : t.role = .plain) (hk : r.kind? t.operation = some kind)
    (hd : t.new r now sid = .ok draft) : draft.type = t := by
  obtain ⟨-, rfl⟩ := (new_eq_ok_iff plain hk).1 hd
  rfl

theorem exists_draft (plain : t.role = .plain) (unhidden : t.Unhidden)
    (hk : r.kind? t.operation = some kind) (now : Int) (sid : String) :
    ∃ draft, t.new r now sid = .ok draft :=
  ⟨_, (new_eq_ok_iff plain hk).2 ⟨canStart_of_unhidden unhidden .empty, rfl⟩⟩

end RecordType

/-! ## What a receiver gets -/

/-- The values that are read from the tags which the assignments write. -/
def receivedTable (as : List Assignment) : Table String FieldValue :=
  .ofList ((sent as).map fun a => (a.1.name, a.2.received))

theorem get?_receivedTable (hf : f ∈ t.fields) (has : ∀ a ∈ as, a.1 ∈ t.fields) :
    (receivedTable as).get? f.name = (lastSent f as).map FieldValue.received := by
  have sent_fields : ∀ a ∈ sent as, a.1 ∈ t.fields := fun a ha => has a (List.mem_filter.1 ha).1
  rw [receivedTable, Table.ofList, get?_putAll_assignments hf sent_fields, Table.get?_empty,
    Option.or_none]
  rfl

theorem Record.Tracks.refl (plain : t.role = .plain) (own : t.OwnTags)
    (hk : r.kind? t.operation = some kind) (hd : t.new r now sid = .ok draft) :
    Tracks draft [] draft := by
  obtain ⟨-, rfl⟩ := (RecordType.new_eq_ok_iff plain hk).1 hd
  refine ⟨rfl, rfl, rfl, rfl, rfl, rfl, rfl, ?_⟩
  simp only [RecordType.scan, Envelope.unsigned, List.foldl_cons, List.foldl_nil]
  rw [readTag_of_header own (by decide), readTag_of_header own (by decide),
    readTag_of_header own (by decide)]
  rfl

theorem tracks_after (plain : t.role = .plain) (own : t.OwnTags)
    (hk : r.kind? t.operation = some kind) (hd : t.new r now sid = .ok draft)
    (edits : List Edit) : Tracks draft (assignmentsOf t edits) (draft.after edits) := by
  obtain rfl := RecordType.type_of_new plain hk hd
  exact (Tracks.refl plain own hk hd).run own edits

/-- Where the operation of a plain type is routed to the type, decoding starts a record of it from
what the scan of the payload finds. -/
theorem outcome_of_routes (plain : t.role = .plain) (hr : r.Routes t kind) {e : Envelope}
    (hkind : e.kind = kind) {c : CommonTags} (read : CommonTags.read e.tags = .ok c) :
    Routing.outcome r e = t.start ⟨c.subspaceId, t.operation, c.capability, c.parents, e⟩ e.content
      (t.scan e.tags) := by
  obtain ⟨m, owner, implements⟩ := hr.owned
  have named := hr.named
  rw [← hkind] at owner named
  rw [Routing.outcome, owner]
  change Routing.outcomeWith m r e = _
  rw [Routing.outcomeWith_of_recordType read named implements, RecordType.decode, plain]
  exact bind_pure _

theorem outcome_of_tracks (plain : t.role = .plain) (hr : r.Routes t kind)
    (hd : t.new r now sid = .ok draft) (h : Tracks draft as built) :
    Routing.outcome r built.header.envelope =
      t.start built.header built.content (receivedTable as) := by
  obtain ⟨-, rfl⟩ := (RecordType.new_eq_ok_iff plain hr.found).1 hd
  have header : (⟨built.header.subspaceId, t.operation, built.header.capability,
      built.header.parents, built.header.envelope⟩ : Header) = built.header := by
    rw [show t.operation = built.header.operation from h.operation.symm]
  rw [outcome_of_routes plain hr h.kind h.common, header, h.content]
  exact congrArg _ h.scanned

/-- The record that is got has the type, the header and the content of the one that was built, and
in every field the last value that was sent, or the default. -/
structure ReadsBack (t : RecordType) (as : List Assignment) (built got : Record) : Prop where
  type : got.type = t
  header : got.header = built.header
  content : got.content = built.content
  payload : ∀ f ∈ t.fields,
    got.value f = ((lastSent f as).map FieldValue.received).getD f.shape.default

theorem value_of_start {h : Header} {content : String} (has : ∀ a ∈ as, a.1 ∈ t.fields)
    (hgot : t.start h content (receivedTable as) = .ok got) (hf : f ∈ t.fields) :
    got.value f = ((t.settledValue? (receivedTable as) f).or
      ((lastSent f as).map FieldValue.received)).getD f.shape.default := by
  obtain ⟨-, rfl⟩ := RecordType.start_eq_ok_iff.1 hgot
  rw [Record.value, Table.getD, RecordType.get?_settle _ hf, get?_receivedTable hf has]

/-- Where no needed part is hidden, the receiver gets back what was written. -/
theorem exists_readsBack (plain : t.role = .plain) (unhidden : t.Unhidden)
    (hr : r.Routes t kind) (hd : t.new r now sid = .ok draft) (h : Tracks draft as built)
    (has : ∀ a ∈ as, a.1 ∈ t.fields) :
    ∃ got, Routing.outcome r built.header.envelope = .ok got ∧ ReadsBack t as built got := by
  have start := RecordType.start_of_unhidden unhidden built.header built.content (receivedTable as)
  refine ⟨_, (outcome_of_tracks plain hr hd h).trans start, rfl, rfl, rfl, fun f hf => ?_⟩
  rw [value_of_start has start hf, RecordType.settledValue?_of_unhidden unhidden _ hf,
    Option.none_or]

/-! ## Hidden parts -/

theorem exists_telling_input (f : PayloadField) : ∃ input v,
    f.accept input = .ok v ∧ f.sends v = true ∧ v.received ≠ f.shape.default := by
  have fits : ∀ v : FieldValue, v.isEmpty = false → f.sends v = true := fun v hv =>
    PayloadField.sends_iff.2 (.inl hv)
  cases hs : f.shape with
  | scalar =>
    refine ⟨.text "a", .scalar "a", by simp [PayloadField.accept, hs], fits _ (by decide), ?_⟩
    decide
  | list =>
    refine ⟨.items ["a"], .list ["a"], by simp [PayloadField.accept, hs], fits _ (by decide), ?_⟩
    decide
  | pairs =>
    refine ⟨.entries [("a", "b")], .pairs (.ofList [("a", "b")]),
      by simp [PayloadField.accept, hs], fits _ (by decide), ?_⟩
    decide +kernel

theorem editAll?_single {input : FieldInput} {v : FieldValue} (hf : f ∈ draft.type.fields)
    (hname : f.name ≠ "self") (hv : f.accept input = .ok v) :
    draft.editAll? [.fields [(f.name, input)]] = some (draft.put f v) ∧
      assignmentsOf draft.type [.fields [(f.name, input)]] = [(f, v)] := by
  have found : draft.type.field? f.name = some f := RecordType.field?_eq_some_iff.2 ⟨hf, rfl⟩
  have entries : (Table.ofList [(f.name, input)]).entries = [(f.name, input)] := rfl
  constructor
  · simp [editAll?, edit, setFields, hname, entries, setInOrder, setField, found, hv, Except.map]
  · simp [assignmentsOf, Edit.assignments, hname, entries, RecordType.assignments, found, hv]

/-- For every run of edits on a draft, the receiver gets back what was written. -/
def AlwaysReadsBack (r : Registry) (t : RecordType) : Prop :=
  ∀ (now : Int) (sid : String) (edits : List Edit), ∃ draft, t.new r now sid = .ok draft ∧
    ∀ built, draft.editAll? edits = some built →
      ∃ got, (r.decode built.header.envelope).outcome = .ok got ∧
        ReadsBack t (assignmentsOf t edits) built got

namespace AlwaysReadsBack

variable (h : AlwaysReadsBack r t) (plain : t.role = .plain) (own : t.OwnTags)
  (hr : r.Routes t kind)
include h plain own hr

theorem exists_started (edits : List Edit)
    (succeeds : ∀ draft : Record, draft.type = t → ∃ built, draft.editAll? edits = some built) :
    ∃ built got, t.start built.header built.content (receivedTable (assignmentsOf t edits)) =
      .ok got ∧ ReadsBack t (assignmentsOf t edits) built got := by
  obtain ⟨draft, hd, read⟩ := h 0 "" edits
  obtain ⟨built, hbuilt⟩ := succeeds draft (RecordType.type_of_new plain hr.found hd)
  obtain ⟨got, hgot, back⟩ := read built hbuilt
  have tracked := tracks_after plain own hr.found hd edits
  rw [after_of_editAll? hbuilt] at tracked
  rw [Registry.outcome_decode, outcome_of_tracks plain hr hd tracked] at hgot
  exact ⟨built, got, hgot, back⟩

/-- A list or map that is not sent is empty, so it cannot be left with its mark. -/
theorem not_marked (hf : f ∈ t.fields) :
    ¬ ∀ given, given.get? f.name = none → t.settledValue? given f = some .mark := by
  intro marks
  obtain ⟨built, got, hstart, back⟩ :=
    h.exists_started plain own hr [] fun draft _ => ⟨draft, rfl⟩
  have unassigned : assignmentsOf t [] = [] := rfl
  rw [unassigned] at hstart back
  have value := (value_of_start (List.forall_mem_nil _) hstart hf).symm.trans (back.payload f hf)
  rw [marks (receivedTable []) rfl] at value
  cases hshape : f.shape <;> rw [hshape] at value <;> cases value

theorem not_emptied (hf : f ∈ t.fields) (hname : f.name ≠ "self") :
    ¬ ∀ given, t.settledValue? given f = some f.shape.default := by
  intro empties
  obtain ⟨input, v, accepted, sends, telling⟩ := exists_telling_input f
  have call (draft : Record) (htype : draft.type = t) :=
    editAll?_single (htype ▸ hf : f ∈ draft.type.fields) hname accepted
  obtain ⟨built, got, hstart, back⟩ := h.exists_started plain own hr
    [.fields [(f.name, input)]] fun draft htype => ⟨_, (call draft htype).1⟩
  -- The assignments depend on the type only, so any record of the type shows them.
  have assigned : assignmentsOf t [.fields [(f.name, input)]] = [(f, v)] :=
    (call (.blank t ⟨"", "", none, [], .unsigned 0 0 []⟩) rfl).2
  rw [assigned] at hstart back
  have last : lastSent f [(f, v)] = some v := by simp [lastSent, lastAssigned, sent, sends]
  have value := (value_of_start (by simpa using hf) hstart hf).symm.trans (back.payload f hf)
  rw [empties, last] at value
  exact telling value.symm

theorem unhidden : t.Unhidden := by
  obtain ⟨draft, hd, -⟩ := h 0 "" []
  have starts := ((RecordType.new_eq_ok_iff plain hr.found).1 hd).1
  refine RecordType.unhidden_of_canStart starts (fun f hf _ hname => ?_)
    fun f hf _ => h.not_marked plain own hr hf
  exact h.not_emptied plain own hr hf (by rw [hname]; decide)

end AlwaysReadsBack

/-- For a type of an enrolled module whose payload tags are its own, every run of edits is read
back exactly when the type hides no part that its records need. -/
theorem unhidden_iff_alwaysReadsBack {m : OperationModule} (reachable : r.Reachable)
    (enrolled : r.module? m.name = some m) (implements : m.recordType? t.operation = some t)
    (plain : t.role = .plain) (own : t.OwnTags) : t.Unhidden ↔ AlwaysReadsBack r t := by
  obtain ⟨kind, hr⟩ := reachable.consistent.exists_routes_of_module enrolled implements
  refine ⟨fun unhidden now sid edits => ?_, fun h => h.unhidden plain own hr⟩
  obtain ⟨draft, hd⟩ := RecordType.exists_draft plain unhidden hr.found now sid
  refine ⟨draft, hd, fun built hbuilt => ?_⟩
  have tracked := tracks_after plain own hr.found hd edits
  rw [after_of_editAll? hbuilt] at tracked
  exact exists_readsBack plain unhidden hr hd tracked fun a ha => (mem_assignmentsOf ha).1

/-- Projects, which hold a list, are read back after every run. -/
theorem alwaysReadsBack_project :
    CommonGraph.project.Unhidden ∧ AlwaysReadsBack Catalogue.registry CommonGraph.project := by
  have unhidden : CommonGraph.project.Unhidden := by decide +kernel
  have enrolled : Catalogue.registry.module? CommonGraph.operations.name =
      some CommonGraph.operations := by decide +kernel
  exact ⟨unhidden, (unhidden_iff_alwaysReadsBack ⟨_, rfl⟩ enrolled rfl rfl (by decide)).1 unhidden⟩

/-- An event whose only field, a list, has the name of the mark. -/
def markEvent : EventDeclaration where
  name := "XEvent"
  operation := "x"
  kind := 31000
  description := ""
  fields := [⟨RecordType.markName, RecordType.markName, false, false, true⟩]

def markModule : OperationModule where
  serial := 0
  name := "m"
  package := "p"
  description := ""
  kinds := ⟨[(31000, "x")], by decide⟩
  records := [markEvent.recordType (by decide)]
  declared := by decide

/-- The list that is sent for this field is read back as empty. -/
theorem not_readsBack_mark :
    (Registry.run [.whole markModule]).module? markModule.name = some markModule ∧
      ∃ t draft built got, markModule.records = [t] ∧ t.OwnTags ∧
        t.new (.run [.whole markModule]) 1700000000 "s" = .ok draft ∧
          draft.editAll? [.fields [(RecordType.markName, .items ["a"])]] = some built ∧
            ((Registry.run [.whole markModule]).decode built.header.envelope).outcome = .ok got ∧
              built.payload = [(RecordType.markName, .list ["a"])] ∧
                got.payload = [(RecordType.markName, .list [])] :=
  ⟨rfl, _, _, _, _, rfl, by decide, rfl, rfl, rfl, rfl, rfl⟩

end SubspaceOps
