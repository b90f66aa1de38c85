import SubspaceOps.Declaration.Basic
import SubspaceOps.OperationModule
import SubspaceOps.Text.NormalForm

/-!
# Modules of declarations

Every event of a declaration becomes a record type, and a module is made of all of them. Records
are started from named parameters: the record itself, its header, its content and the fields. Names
are compared by their normal forms, of which no two may be equal, and have to be written in normal
form. A few names belong to the type and not to its records.
-/
namespace SubspaceOps

namespace FieldDeclaration

/-- Names of parts that lay out a record type. -/
def layoutNames : List String := ["__slots__", "__qualname__", "__classcell__"]

/-- Names of properties of a record type. A field of such a name is a parameter without a place in
the payload. -/
def propertyNames : List String :=
  ["__name__", "__mro__", "__bases__", "__base__", "__basicsize__", "__itemsize__", "__flags__",
    "__weakrefoffset__", "__dictoffset__", "__text_signature__"]

def isProperty (f : FieldDeclaration) : Bool := propertyNames.contains f.name

end FieldDeclaration

namespace EventDeclaration

/-- The name of the record itself, which makes way for a field of this name. -/
def receiverName (e : EventDeclaration) : String :=
  if e.fields.any (·.name = "self") then "__dataclass_self__" else "self"

/-- The names of the parameters from which a record is started. -/
def parameters (e : EventDeclaration) : List String :=
  e.receiverName :: "header" :: "content" :: e.fields.map (·.name)

/-- The name of a constant, which is no parameter. -/
def constantName : String := "__debug__"

def hasText (e : EventDeclaration) (name : String) : Bool :=
  e.fields.any fun f => f.name = name && f.shape = .scalar

/-- Why no record type is made of the event. The signature of a type is asked for when there is no
description, and a text `__signature__` or `__wrapped__` is then in the way. This is so in those 3.11
releases whose class machinery does not guard the look-up; release 3.11.10 guards it and makes a type
of both. -/
def typeFlaw? (e : EventDeclaration) : Option Declaration.TypeFlaw :=
  let forms := e.parameters.map Text.normalForm
  if e.fields.any fun f => FieldDeclaration.layoutNames.contains f.name then some .layoutName
  else if ¬ forms.Nodup ∨ constantName ∈ forms then some .sharedName
  else if e.fields.any fun f => !Text.isNormal f.name then some .notNormal
  else if e.description ≠ "" then none
  else if e.hasText "__signature__" then some .signatureName
  else if e.hasText "__wrapped__" then some .wrappedName
  else none

theorem nodup_names_of_typeFlaw? {e : EventDeclaration} (h : e.typeFlaw? = none) :
    (e.fields.map (·.name)).Nodup := by
  by_cases forms_nodup : (e.parameters.map Text.normalForm).Nodup
  · have parameters_nodup : e.parameters.Nodup :=
      List.Pairwise.of_map Text.normalForm (fun a b hne hab => hne (hab ▸ rfl)) forms_nodup
    exact parameters_nodup.sublist (((List.sublist_cons_self _ _).cons _).cons _)
  · simp only [typeFlaw?, forms_nodup, not_false_eq_true, true_or, if_true] at h
    split at h <;> cases h

theorem mem_parameters_iff {e : EventDeclaration} {name : String} :
    name ∈ e.parameters ↔ name = e.receiverName ∨ name = "header" ∨ name = "content" ∨
      ∃ f ∈ e.fields, f.name = name := by
  simp [parameters]

theorem ascii_receiverName (e : EventDeclaration) : e.receiverName.toList.all (·.toNat < 0x80) := by
  unfold receiverName
  split <;> decide

/-- All names are in ASCII and differ, and none of them is special. -/
def PlainNames (e : EventDeclaration) : Prop :=
  (∀ f ∈ e.fields, f.name.toList.all (·.toNat < 0x80) ∧
    f.name ∉ FieldDeclaration.layoutNames) ∧ e.parameters.Nodup ∧ constantName ∉ e.parameters ∧
      e.hasText "__signature__" = false ∧ e.hasText "__wrapped__" = false

instance (e : EventDeclaration) : Decidable e.PlainNames := inferInstanceAs (Decidable (_ ∧ _))

/-- Names in ASCII are their own normal forms, so nothing stands in the way of a type. -/
theorem typeFlaw?_of_plainNames {e : EventDeclaration} (h : e.PlainNames) :
    e.typeFlaw? = none := by
  obtain ⟨fields, distinct, constant, signature, wrapped⟩ := h
  have own_form {name : String} (h : name.toList.all (·.toNat < 0x80)) :
      Text.normalForm name = name :=
    Text.normalForm_of_ascii (by simpa using h)
  have own_forms : ∀ name ∈ e.parameters, Text.normalForm name = name := by
    intro name hname
    rcases mem_parameters_iff.1 hname with rfl | rfl | rfl | ⟨f, hf, rfl⟩
    · exact own_form e.ascii_receiverName
    · exact own_form (by decide)
    · exact own_form (by decide)
    · exact own_form (fields f hf).1
  have forms : e.parameters.map Text.normalForm = e.parameters :=
    (List.map_congr_left own_forms).trans (List.map_id' _)
  have no_layout : ¬ e.fields.any fun f => FieldDeclaration.layoutNames.contains f.name := by
    simpa using fun f hf => (fields f hf).2
  have all_normal : ¬ e.fields.any fun f => !Text.isNormal f.name := by
    simpa [Text.isNormal] using fun f hf => own_form (fields f hf).1
  simp only [typeFlaw?, if_neg no_layout, forms, distinct, constant, not_true, or_self, if_false,
    if_neg all_normal, signature, wrapped, Bool.false_eq_true, ite_self]

/-- The payload fields of the records of an event. -/
def payloadFields (e : EventDeclaration) : List PayloadField :=
  (e.fields.filter fun f => !f.isProperty).map FieldDeclaration.payloadField

/-- The record type that an event describes, whose fields differ in name. -/
def recordType (e : EventDeclaration) (distinct : (e.fields.map (·.name)).Nodup) : RecordType where
  name := e.name
  operation := e.operation
  fields := e.payloadFields
  setters := []
  role := .plain
  properties := (e.fields.filter FieldDeclaration.isProperty).map (·.name)
  distinct := distinct.sublist (by
    simpa [payloadFields, Function.comp_def, FieldDeclaration.payloadField] using
      (List.filter_sublist (p := fun f => !f.isProperty)).map FieldDeclaration.name)

/-- The record type of an event, unless it has a flaw. -/
def toRecordType (e : EventDeclaration) : Except Fault RecordType :=
  match h : e.typeFlaw? with
  | none => .ok (e.recordType (nodup_names_of_typeFlaw? h))
  | some flaw => .error (.unmadeType flaw)

theorem toRecordType_of_typeFlaw? {e : EventDeclaration} (h : e.typeFlaw? = none) :
    e.toRecordType = .ok (e.recordType (nodup_names_of_typeFlaw? h)) := by
  unfold toRecordType
  split
  · rfl
  · next flawed => cases h.symm.trans flawed

end EventDeclaration

namespace Declaration

/-- The kinds that the module reserves. -/
def kinds (d : Declaration) : Table Int String :=
  .ofList (d.events.map fun e => (e.kind, e.operation))

/-- The module that is declared. The first event with a flaw decides. -/
def toModule (d : Declaration) (serial : Nat) : Except Fault OperationModule := do
  let records ← d.events.mapM EventDeclaration.toRecordType
  OperationModule.new serial d.name d.package d.description d.kinds records

end Declaration

end SubspaceOps
