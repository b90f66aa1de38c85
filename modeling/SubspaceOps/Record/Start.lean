import SubspaceOps.Record.Basic

/-!
# Starting records

A record is started from the values that are given for its fields; a field without one takes its
default. The start itself has named parts: a step that completes the record, the source of the
default of each list and map, and the mark that says which of them are to be taken. A field of the
name of such a part hides it. A start that needs a hidden step or source fails; behind a hidden
mark, defaults are left out. Where no field hides a part that its type needs, every start succeeds
with the given values (`start_of_unhidden`).
-/
namespace SubspaceOps

/-- The name of the source of the default of a list or map. -/
def PayloadField.sourceName (f : PayloadField) : String := "_dflt_" ++ f.name

namespace RecordType

/-- The name of the step that completes a record. -/
def completionName : String := "__post_init__"

/-- The name of the mark of a default that is to be taken. -/
def markName : String := "_HAS_DEFAULT_FACTORY"

/-- A text stands in the place of the completing step. -/
def hidesCompletion (t : RecordType) : Bool :=
  t.fields.any fun f => f.name = completionName && f.shape = .scalar

/-- The mark is not known as such, because a field of its name has a value of its own. -/
def hidesMark (t : RecordType) (given : Table String FieldValue) : Bool :=
  (t.field? markName).any fun f => f.shape = .scalar || given.contains markName

/-- The start takes the default of a field. A list or map of the name of the mark is always taken
for one that has no value. -/
def takesDefault (t : RecordType) (given : Table String FieldValue) (f : PayloadField) : Bool :=
  f.shape ≠ .scalar &&
    (f.name = markName || (!given.contains f.name && !t.hidesMark given))

/-- A field is left with its mark. -/
def keepsMark (t : RecordType) (given : Table String FieldValue) (f : PayloadField) : Bool :=
  f.shape ≠ .scalar && f.name ≠ markName && !given.contains f.name && t.hidesMark given

/-- A record of the type can be started from the given values: no text hides the completing step,
and no field hides the source of a default that is taken. -/
def canStart (t : RecordType) (given : Table String FieldValue) : Bool :=
  !t.hidesCompletion &&
    t.fields.all fun f => !t.takesDefault given f || (t.field? f.sourceName).isNone

/-- The value of a field that does not follow from the given ones. -/
def settledValue? (t : RecordType) (given : Table String FieldValue) (f : PayloadField) :
    Option FieldValue :=
  if t.keepsMark given f then some .mark
  else if f.name = markName && t.takesDefault given f then some f.shape.default
  else none

/-- The values with which a record starts. -/
def settle (t : RecordType) (given : Table String FieldValue) : Table String FieldValue :=
  given.putAll (t.fields.filterMap fun f => (t.settledValue? given f).map fun v => (f.name, v))

/-- The record that starts from a header, a content and values of fields. -/
def start (t : RecordType) (h : Header) (content : String) (given : Table String FieldValue) :
    Except Fault Record :=
  if t.canStart given then .ok ⟨t, h, content, t.settle given, none⟩ else .error .hiddenPart

/-- No field hides a part that records of the type need: no text stands in the place of the
completing step and, for each list or map, neither its source nor the mark is hidden. -/
def Unhidden (t : RecordType) : Prop :=
  (∀ f ∈ t.fields, f.name = completionName → f.shape ≠ .scalar) ∧
    ∀ f ∈ t.fields, f.shape ≠ .scalar → t.field? f.sourceName = none ∧ t.field? markName = none

instance (t : RecordType) : Decidable t.Unhidden := inferInstanceAs (Decidable (_ ∧ _))

theorem canStart_of_unhidden {t : RecordType} (h : t.Unhidden) (given : Table String FieldValue) :
    t.canStart given = true := by
  simp only [canStart, hidesCompletion, Bool.and_eq_true, Bool.not_eq_true', List.any_eq_false,
    List.all_eq_true, decide_eq_true_eq, not_and]
  refine ⟨h.1, fun f hf => ?_⟩
  by_cases hs : f.shape = .scalar
  · simp [takesDefault, hs]
  · simp [(h.2 f hf hs).1]

theorem settledValue?_of_unhidden {t : RecordType} (h : t.Unhidden)
    (given : Table String FieldValue) {f : PayloadField} (hf : f ∈ t.fields) :
    t.settledValue? given f = none := by
  by_cases hs : f.shape = .scalar
  · simp [settledValue?, keepsMark, takesDefault, hs]
  · have mark_free := (h.2 f hf hs).2
    have hname : f.name ≠ markName := by
      simpa using List.find?_eq_none.1 mark_free f hf
    simp [settledValue?, keepsMark, hidesMark, mark_free, hname]

theorem settle_of_unhidden {t : RecordType} (h : t.Unhidden) (given : Table String FieldValue) :
    t.settle given = given := by
  have none_settled : ∀ f ∈ t.fields,
      (t.settledValue? given f).map (fun v => (f.name, v)) = none := fun f hf => by
    rw [settledValue?_of_unhidden h given hf, Option.map_none]
  rw [settle, List.filterMap_eq_nil_iff.2 none_settled]
  rfl

theorem start_of_unhidden {t : RecordType} (h : t.Unhidden) (hd : Header) (content : String)
    (given : Table String FieldValue) :
    t.start hd content given = .ok ⟨t, hd, content, given, none⟩ := by
  rw [start, if_pos (canStart_of_unhidden h given), settle_of_unhidden h]

end RecordType

end SubspaceOps
