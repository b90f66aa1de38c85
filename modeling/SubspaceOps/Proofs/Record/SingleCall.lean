import SubspaceOps.Proofs.Record.Validity

/-!
# One call on a draft

One call with named values assigns every field at most once, so nothing is withdrawn and no parents
stand in the way. What a receiver reads of each field is then the value of the call, or the default
where the call has none (`exists_decoded_call`). The values have the shapes of their fields, and
maps are free of separators.
-/
namespace SubspaceOps

open Record

variable {t : RecordType} {f : PayloadField} {values : List (String × FieldInput)}
  {shapes : List (String × FieldShape)}

/-! ## Values of a call -/

namespace FieldInput

/-- The value that an input stands for in a field of its own shape. -/
def value : FieldInput → FieldValue
  | text s => .scalar s
  | items xs => .list xs
  | entries es => .pairs (.ofList es)

/-- The input has the shape, and a map is free of separators. -/
inductive Fits : FieldShape → FieldInput → Prop
  | text (s : String) : Fits .scalar (.text s)
  | items (xs : List String) : Fits .list (.items xs)
  | entries {es : List (String × String)} (free : SeparatorFreeMap (.ofList es)) :
      Fits .pairs (.entries es)

instance decidableFits (shape : FieldShape) (input : FieldInput) : Decidable (Fits shape input) :=
  match shape, input with
  | .scalar, text s => .isTrue (.text s)
  | .list, items xs => .isTrue (.items xs)
  | .pairs, entries es =>
    decidable_of_iff (SeparatorFreeMap (.ofList es)) ⟨.entries, fun | .entries free => free⟩
  | .scalar, items _ | .scalar, entries _ | .list, text _ | .list, entries _ | .pairs, text _
  | .pairs, items _ => .isFalse nofun

variable {input : FieldInput}

theorem accept_of_fits (h : Fits f.shape input) : f.accept input = .ok input.value := by
  generalize hs : f.shape = s at h
  cases h <;> simp [PayloadField.accept, hs, value]

theorem Fits.separatorFree {s : FieldShape} (h : Fits s input) : input.value.SeparatorFree := by
  cases h with
  | text _ => trivial
  | items _ => trivial
  | entries free => exact free

theorem exists_telling (s : FieldShape) :
    ∃ input, Fits s input ∧ input.value ≠ s.default := by
  cases s with
  | scalar => exact ⟨.text "a", .text _, by decide⟩
  | list => exact ⟨.items ["a"], .items _, by decide⟩
  | pairs => exact ⟨.entries [("a", "b")], .entries (by decide +kernel), by decide +kernel⟩

theorem exists_default (s : FieldShape) : ∃ input, Fits s input ∧ input.value = s.default := by
  cases s with
  | scalar => exact ⟨.text "", .text _, rfl⟩
  | list => exact ⟨.items [], .items _, rfl⟩
  | pairs => exact ⟨.entries [], .entries (List.forall_mem_nil _), rfl⟩

end FieldInput

/-- The call gives some of the names, each once, a value that fits the shape under this name. -/
structure Assigns (shapes : List (String × FieldShape)) (values : List (String × FieldInput)) :
    Prop where
  nodup : (values.map Prod.fst).Nodup
  fits : ∀ i ∈ values, ∃ s, (i.1, s) ∈ shapes ∧ i.2.Fits s

theorem Assigns.single {name : String} {s : FieldShape} {input : FieldInput}
    (mem : (name, s) ∈ shapes) (fits : input.Fits s) : Assigns shapes [(name, input)] := by
  refine ⟨List.nodup_singleton name, fun i hi => ?_⟩
  cases List.mem_singleton.1 hi
  exact ⟨s, mem, fits⟩

/-- The value that a field has after one call on a draft. -/
def callValue (values : List (String × FieldInput)) (f : PayloadField) : FieldValue :=
  ((values.lookup f.name).map FieldInput.value).getD f.shape.default

/-- The names and shapes of the fields of a type. -/
def RecordType.slots (t : RecordType) : List (String × FieldShape) :=
  t.fields.map fun f => (f.name, f.shape)

theorem RecordType.exists_field_of_mem_slots {name : String} {s : FieldShape}
    (h : (name, s) ∈ t.slots) : ∃ f, t.field? name = some f ∧ f.shape = s := by
  obtain ⟨f, hf, same⟩ := List.mem_map.1 h
  obtain ⟨rfl, rfl⟩ := Prod.mk.inj same
  exact ⟨f, RecordType.field?_eq_some_iff.2 ⟨hf, rfl⟩, rfl⟩

/-! ## The call at the writer -/

theorem setInOrder_snd_eq_none_iff {r : Record} :
    (r.setInOrder values).2 = none ↔
      ∀ i ∈ values, ∃ f v, r.type.field? i.1 = some f ∧ f.accept i.2 = .ok v := by
  induction values generalizing r with
  | nil => simp [setInOrder]
  | cons i rest ih =>
    rw [List.forall_mem_cons]
    cases hf : r.type.field? i.1 with
    | none => simp [setInOrder_of_unknown hf]
    | some f =>
      cases hv : f.accept i.2 with
      | error e => simp [setInOrder, setField, hf, hv, Except.map]
      | ok v => simp [setInOrder_of_accept hf hv, ih, hv]

theorem setFields_snd_eq_none_iff (nodup : (values.map Prod.fst).Nodup) {r : Record} :
    (r.setFields values).2 = none ↔ (∀ i ∈ values, i.1 ≠ "self") ∧
      ∀ i ∈ values, ∃ f v, r.type.field? i.1 = some f ∧ f.accept i.2 = .ok v := by
  by_cases receiver : ∃ i ∈ values, i.1 = "self"
  · rw [setFields_of_receiver receiver]
    refine ⟨nofun, fun h => ?_⟩
    obtain ⟨i, hi, hname⟩ := receiver
    exact absurd hname (h.1 i hi)
  · have named : ∀ i ∈ values, i.1 ≠ "self" := fun i hi hname => receiver ⟨i, hi, hname⟩
    rw [setFields_of_named receiver, Table.entries_ofList nodup, setInOrder_snd_eq_none_iff]
    exact ⟨fun h => ⟨named, h⟩, And.right⟩

theorem setFields_snd_eq_none (h : Assigns t.slots values)
    (named : ∀ i ∈ values, i.1 ≠ "self") {r : Record} (hr : r.type = t) :
    (r.setFields values).2 = none := by
  refine (setFields_snd_eq_none_iff h.nodup).2 ⟨named, fun i hi => ?_⟩
  obtain ⟨s, mem, fits⟩ := h.fits i hi
  obtain ⟨f, hf, rfl⟩ := RecordType.exists_field_of_mem_slots mem
  exact ⟨f, _, hr ▸ hf, FieldInput.accept_of_fits fits⟩

theorem map_assignments (fits : ∀ i ∈ values, ∃ s, (i.1, s) ∈ t.slots ∧ i.2.Fits s) :
    (t.assignments values).map (fun a => (a.1.name, a.2)) =
      values.map fun i => (i.1, i.2.value) := by
  induction values with
  | nil => rfl
  | cons i rest ih =>
    rw [List.forall_mem_cons] at fits
    obtain ⟨⟨s, mem, fits_input⟩, fits_rest⟩ := fits
    obtain ⟨f, hf, rfl⟩ := RecordType.exists_field_of_mem_slots mem
    have name : f.name = i.1 := (RecordType.field?_eq_some_iff.1 hf).2
    rw [RecordType.assignments]
    simp only [hf, FieldInput.accept_of_fits fits_input, List.map_cons, ih fits_rest, name]

theorem lookup_map_value (values : List (String × FieldInput)) (name : String) :
    (values.map fun i => (i.1, i.2.value)).lookup name =
      (values.lookup name).map FieldInput.value := by
  induction values with
  | nil => rfl
  | cons i rest ih =>
    obtain ⟨n, input⟩ := i
    by_cases h : name = n
    · subst h
      simp
    · simp [List.lookup_cons, beq_false_of_ne h, ih]

section Call

variable (h : Assigns t.slots values) (named : ∀ i ∈ values, i.1 ≠ "self")
include h named

theorem assignmentsOf_call : assignmentsOf t [.fields values] = t.assignments values := by
  have not_receiver : values.any (·.1 = "self") = false := by
    simpa [List.any_eq_false] using named
  simp [assignmentsOf, Edit.assignments, not_receiver, Table.entries_ofList h.nodup]

theorem lastAssigned_call (hf : f ∈ t.fields) :
    lastAssigned f (assignmentsOf t [.fields values]) =
      (values.lookup f.name).map FieldInput.value := by
  have of_fields : ∀ a ∈ t.assignments values, a.1 ∈ t.fields :=
    fun _ ha => (RecordType.mem_assignments ha).1
  have entered := get?_putAll_assignments hf of_fields .empty fun v => v
  have distinct : ((values.map fun i => (i.1, i.2.value)).map Prod.fst).Nodup := by
    simpa [Function.comp_def] using h.nodup
  rw [map_assignments h.fits, Option.map_id', Table.get?_empty, Option.or_none] at entered
  rw [assignmentsOf_call h named, ← lookup_map_value, ← entered]
  exact congrArg (List.lookup f.name) (Table.entries_ofList distinct)

theorem separatorFree_of_mem_call {a : Assignment} (ha : a ∈ assignmentsOf t [.fields values]) :
    a.2.SeparatorFree := by
  rw [assignmentsOf_call h named] at ha
  have entered : (a.1.name, a.2) ∈ values.map fun i => (i.1, i.2.value) := by
    rw [← map_assignments h.fits]
    exact List.mem_map_of_mem ha
  obtain ⟨i, hi, same⟩ := List.mem_map.1 entered
  obtain ⟨s, -, fits⟩ := h.fits i hi
  rw [← (Prod.mk.inj same).2]
  exact fits.separatorFree

/-- A call assigns a field once, so it cannot take back what it sends. -/
theorem not_withdrawn_call : ¬ Withdrawn (assignmentsOf t [.fields values]) f := by
  have once : ((assignmentsOf t [.fields values]).map fun a => a.1.name).Nodup := by
    have names := congrArg (List.map Prod.fst) (map_assignments h.fits)
    simp only [List.map_map, Function.comp_def] at names
    rw [assignmentsOf_call h named, names]
    exact h.nodup
  rintro ⟨v, hv, silent, was_sent⟩
  obtain ⟨w, hw⟩ := Option.ne_none_iff_exists'.1 was_sent
  have assigned := (List.mem_filter.1 (mem_of_lastAssigned hw)).1
  cases List.inj_on_of_nodup_map once (mem_of_lastAssigned hv) assigned rfl
  rw [sends_of_lastSent hw] at silent
  cases silent

/-! ## The call at the receiver -/

theorem lastSent_call (f : PayloadField) :
    ((lastSent f (assignmentsOf t [.fields values])).map FieldValue.received).getD
        f.shape.default =
      (lastAssigned f (assignmentsOf t [.fields values])).getD f.shape.default := by
  rw [received_of_lastSent fun _ ha => separatorFree_of_mem_call h named ha]
  exact (getD_lastSent_eq_iff fun _ ha => (mem_assignmentsOf ha).2).2 (not_withdrawn_call h named)

omit h named in
theorem lastAssigned_readings_call (f : PayloadField) :
    lastAssigned f (readingsOf t [.fields values]) =
      (lastSent f (assignmentsOf t [.fields values])).map FieldValue.received := by
  have readings : readingsOf t [.fields values] =
      (sent (assignmentsOf t [.fields values])).map fun a => (a.1, a.2.received) := by
    simp [readingsOf, assignmentsOf, Edit.readings]
  rw [readings, lastSent, lastAssigned, lastAssigned, List.filter_map, List.getLast?_map,
    Option.map_map, Option.map_map]
  rfl

theorem writtenValue_call (unhidden : t.Unhidden) (hf : f ∈ t.fields) :
    writtenValue t [.fields values] f = callValue values f := by
  rw [writtenValue, RecordType.settledValue?_of_unhidden unhidden _ hf, Option.or_none,
    lastAssigned_call h named hf, callValue]

theorem readValue_call (unhidden : t.Unhidden) (hf : f ∈ t.fields) :
    readValue t [.fields values] f = callValue values f := by
  rw [readValue, RecordType.settledValue?_of_unhidden unhidden _ hf, Option.none_or,
    lastAssigned_readings_call, lastSent_call h named, lastAssigned_call h named hf, callValue]

/-- One call on a draft succeeds, and the receiver reads its values. -/
theorem exists_decoded_call {r : Registry} {kind now : Int} {sid : String} {draft : Record}
    (plain : t.role = .plain) (apart : t.TagsApart) (unhidden : t.Unhidden)
    (hr : r.Routes t kind) (hd : t.new r now sid = .ok draft) :
    ∃ built got, draft.setFields values = (built, none) ∧
      Routing.outcome r built.header.envelope = .ok got ∧ built.type = t ∧ got.type = t ∧
        ∀ f ∈ t.fields, built.value f = callValue values f ∧ got.value f = callValue values f := by
  have draft_type := RecordType.type_of_new plain hr.found hd
  obtain ⟨got, hgot, type, read⟩ := exists_decoded_after plain apart hr hd [.fields values]
  refine ⟨(draft.setFields values).1, got, ?_, hgot, ?_, type, fun f hf => ⟨?_, ?_⟩⟩
  · rw [← setFields_snd_eq_none h named draft_type]
  · exact type_after plain hr.found hd [.fields values]
  · rw [← writtenValue_call h named unhidden hf, ← value_after plain hr.found hd _ hf]
    rfl
  · rw [read f hf, readValue_call h named unhidden hf]

end Call

end SubspaceOps
