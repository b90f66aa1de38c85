import Mathlib.Data.List.Nodup
import SubspaceOps.Record.Draft

/-!
# Assignments to payload fields

A call with named values assigns to fields in order, up to the first value that is refused. What a
field holds after a list of assignments is the last value assigned to it; what a receiver can read
is the last value that was sent, since empty lists, maps and optional texts write no tag.
-/
namespace SubspaceOps

/-! ## Fields by name and by tag -/

namespace RecordType

variable {t : RecordType} {f g : PayloadField}

theorem eq_of_name_eq (hf : f ∈ t.fields) (hg : g ∈ t.fields) (h : f.name = g.name) : f = g :=
  List.inj_on_of_nodup_map t.distinct hf hg h

theorem field?_eq_some_iff {name : String} :
    t.field? name = some f ↔ f ∈ t.fields ∧ f.name = name := by
  constructor
  · intro h
    exact ⟨List.mem_of_find?_eq_some h, by simpa using List.find?_some h⟩
  · rintro ⟨hf, rfl⟩
    cases hg : t.field? f.name with
    | none => simpa using List.find?_eq_none.1 hg f hf
    | some g =>
      have hname : g.name = f.name := by simpa using List.find?_some hg
      rw [eq_of_name_eq (List.mem_of_find?_eq_some hg) hf hname]

/-- The payload tags differ from each other and from the tags of the header. -/
def OwnTags (t : RecordType) : Prop :=
  (t.fields.map PayloadField.tag).Nodup ∧
    ∀ f ∈ t.fields, f.tag ∉ TagName.parent :: TagName.reserved

instance (t : RecordType) : Decidable t.OwnTags := inferInstanceAs (Decidable (_ ∧ _))

theorem fieldOfTag?_tag (nodup : (t.fields.map PayloadField.tag).Nodup) (hf : f ∈ t.fields) :
    t.fieldOfTag? f.tag = some f := by
  unfold fieldOfTag?
  cases hg : (t.fields.filter (·.tag = f.tag)).getLast? with
  | none =>
    rw [List.getLast?_eq_none_iff, List.filter_eq_nil_iff] at hg
    simpa using hg f hf
  | some g =>
    obtain ⟨hmem, htag⟩ := List.mem_filter.1 (List.mem_of_getLast? hg)
    rw [List.inj_on_of_nodup_map nodup hmem hf (by simpa using htag)]

theorem fieldOfTag?_eq_none {name : String} (h : ∀ f ∈ t.fields, f.tag ≠ name) :
    t.fieldOfTag? name = none := by
  rw [fieldOfTag?, List.getLast?_eq_none_iff, List.filter_eq_nil_iff]
  simpa using h

end RecordType

/-! ## Shapes of values -/

namespace FieldValue

/-- The shape of a value; a mark has none. -/
def shape? : FieldValue → Option FieldShape
  | scalar _ => some .scalar
  | list _ => some .list
  | pairs _ => some .pairs
  | mark => none

/-- What is read back for a value that is sent. -/
def received : FieldValue → FieldValue
  | pairs t => .pairs (decodePairs (encodePairs t))
  | v => v

end FieldValue

namespace PayloadField

variable {f : PayloadField} {v : FieldValue}

theorem shape?_entriesOf {xs : List String} (h : entriesOf xs = .ok v) :
    v.shape? = some .pairs := by
  unfold entriesOf at h
  split at h
  · cases h
    rfl
  · cases h

theorem shape?_of_accept {input : FieldInput} (h : f.accept input = .ok v) :
    v.shape? = some f.shape := by
  unfold accept at h
  split at h
  · next hs =>
    cases h
    rw [hs]
    rfl
  · next hs =>
    cases h
    rw [hs]
    rfl
  · next hs =>
    cases h
    rw [hs]
    rfl
  · next hs =>
    cases h
    rw [hs]
    rfl
  · next hs => rw [shape?_entriesOf h, hs]
  · next hs => rw [shape?_entriesOf h, hs]
  · cases h

/-- A tag is written for the value. -/
def sends (f : PayloadField) (v : FieldValue) : Bool := (f.tagFor? v).isSome

/-- Everything is sent but empty lists, maps and optional texts. -/
theorem sends_iff :
    f.sends v = true ↔ v.isEmpty = false ∨ f.shape = .scalar ∧ f.omitEmpty = false := by
  cases hv : v.isEmpty <;> cases ho : f.omitEmpty <;> cases hs : f.shape <;>
    simp [sends, tagFor?, hv, ho, hs]

theorem tagFor?_of_sends (h : f.sends v = true) : f.tagFor? v = some (f.tag :: v.tagValues) := by
  unfold sends tagFor? at *
  dsimp only at *
  split at h
  · cases h
  · next hsilent => rw [if_neg hsilent]

/-- Where something is not sent, what is sent differs from the default. -/
theorem ne_default_of_sends {w : FieldValue} (hv : f.sends v = false) (hw : f.sends w = true) :
    w ≠ f.shape.default := by
  rintro rfl
  have default_empty : f.shape.default.isEmpty = true := by cases f.shape <;> rfl
  rcases sends_iff.1 hw with hfilled | halways
  · rw [default_empty] at hfilled
    cases hfilled
  · rw [sends_iff.2 (.inr halways)] at hv
    cases hv

theorem eq_default_of_not_sends (hv : v.shape? = some f.shape) (h : f.sends v = false) :
    v = f.shape.default := by
  have hempty : v.isEmpty = true := by
    by_contra hne
    rw [sends_iff.2 (.inl (by simpa using hne))] at h
    cases h
  cases v with
  | scalar s =>
    cases hv' : f.shape <;> simp_all [FieldValue.shape?, FieldValue.isEmpty, FieldShape.default]
  | list xs =>
    cases hv' : f.shape <;> simp_all [FieldValue.shape?, FieldValue.isEmpty, FieldShape.default]
  | pairs t =>
    cases hv' : f.shape <;> simp_all [FieldValue.shape?, FieldValue.isEmpty, FieldShape.default]
    exact Table.ext hempty
  | mark => cases hempty

end PayloadField

/-! ## Lists of assignments -/

/-- A field with the value that it is given. -/
abbrev Assignment := PayloadField × FieldValue

namespace RecordType

/-- The assignments of a list of named inputs, up to the first that is refused. -/
def assignments (t : RecordType) : List (String × FieldInput) → List Assignment
  | [] => []
  | (name, input) :: rest =>
    match t.field? name with
    | none => []
    | some f =>
      match f.accept input with
      | .ok v => (f, v) :: t.assignments rest
      | .error _ => []

theorem mem_assignments {t : RecordType} {inputs : List (String × FieldInput)} {a : Assignment}
    (h : a ∈ t.assignments inputs) : a.1 ∈ t.fields ∧ a.2.shape? = some a.1.shape := by
  induction inputs with
  | nil => cases h
  | cons i rest ih =>
    unfold assignments at h
    cases hf : t.field? i.1 with
    | none =>
      simp only [hf] at h
      cases h
    | some f =>
      cases hv : f.accept i.2 with
      | error e =>
        simp only [hf, hv] at h
        cases h
      | ok v =>
        simp only [hf, hv] at h
        rcases List.mem_cons.1 h with rfl | h
        · exact ⟨(field?_eq_some_iff.1 hf).1, PayloadField.shape?_of_accept hv⟩
        · exact ih h

end RecordType

/-- The last value assigned to a field. -/
def lastAssigned (f : PayloadField) (as : List Assignment) : Option FieldValue :=
  ((as.filter (·.1 = f)).getLast?).map Prod.snd

/-- The assignments for which a tag is written. -/
def sent (as : List Assignment) : List Assignment := as.filter fun a => a.1.sends a.2

/-- The last value of a field for which a tag is written. -/
def lastSent (f : PayloadField) (as : List Assignment) : Option FieldValue :=
  lastAssigned f (sent as)

theorem mem_of_lastAssigned {f : PayloadField} {as : List Assignment} {v : FieldValue}
    (h : lastAssigned f as = some v) : (f, v) ∈ as := by
  obtain ⟨a, ha, rfl⟩ := Option.map_eq_some_iff.1 h
  obtain ⟨hmem, hf⟩ := List.mem_filter.1 (List.mem_of_getLast? ha)
  rw [← of_decide_eq_true hf]
  exact hmem

theorem sends_of_lastSent {f : PayloadField} {as : List Assignment} {v : FieldValue}
    (h : lastSent f as = some v) : f.sends v = true :=
  (List.mem_filter.1 (mem_of_lastAssigned h)).2

theorem lastSent_of_lastAssigned {f : PayloadField} {as : List Assignment} {v : FieldValue}
    (h : lastAssigned f as = some v) (hv : f.sends v = true) : lastSent f as = some v := by
  obtain ⟨a, ha, rfl⟩ := Option.map_eq_some_iff.1 h
  obtain ⟨before, hbefore⟩ := List.getLast?_eq_some_iff.1 ha
  have hf : a.1 = f := of_decide_eq_true (List.mem_filter.1 (List.mem_of_getLast? ha)).2
  have last : [a].filter (fun b => b.1.sends b.2) = [a] := List.filter_cons_of_pos (hf ▸ hv)
  rw [lastSent, lastAssigned, sent, List.filter_comm, hbefore, List.filter_append, last,
    List.getLast?_concat]
  rfl

theorem lastSent_eq_none {f : PayloadField} {as : List Assignment}
    (h : lastAssigned f as = none) : lastSent f as = none := by
  rw [lastAssigned, Option.map_eq_none_iff, List.getLast?_eq_none_iff] at h
  rw [lastSent, lastAssigned, sent, List.filter_comm, h]
  rfl

theorem get?_putAll_assignments {t : RecordType} {f : PayloadField} {as : List Assignment}
    (hf : f ∈ t.fields) (has : ∀ a ∈ as, a.1 ∈ t.fields) (given : Table String FieldValue)
    (entered : FieldValue → FieldValue) :
    (given.putAll (as.map fun a => (a.1.name, entered a.2))).get? f.name =
      ((lastAssigned f as).map entered).or (given.get? f.name) := by
  have same : as.filter ((fun e : String × FieldValue => decide (e.1 = f.name)) ∘
      fun a => (a.1.name, entered a.2)) = as.filter (·.1 = f) := by
    refine List.filter_congr fun a ha => ?_
    simp only [Function.comp_apply, decide_eq_decide]
    exact ⟨RecordType.eq_of_name_eq (has a ha) hf, fun h => h ▸ rfl⟩
  rw [Table.get?_putAll, List.filter_map, same, List.getLast?_map, lastAssigned, Option.map_map,
    Option.map_map]
  rfl

end SubspaceOps
