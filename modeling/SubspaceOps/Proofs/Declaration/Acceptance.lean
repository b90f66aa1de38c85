import Mathlib.Data.List.Forall2
import SubspaceOps.Declaration.Reader

/-!
# Declarations that are accepted

The rules for declarations are stated of the members of a JSON object, with the value that stands
for an absent member, and do not mention how it is read. A check decides a relation when it accepts
exactly the values that stand in it, wherever they are found (`Decides`). The checks of parts decide
the rules of parts, so a JSON value is accepted as a declaration exactly when it follows the rules
for declarations (`ofJson_eq_ok_iff`); everything else is refused with a list of issues.
-/
namespace SubspaceOps

/-! ## The rules -/

/-- The member of an object, or the value that stands for it when it is absent. -/
def Json.memberD (members : List (String × Json)) (name : String) (absent : Json) : Json :=
  (Json.member? members name).getD absent

/-- The value is an object whose members are as the predicate says. -/
def Json.ObjectOf (P : List (String × Json) → Prop) (v : Json) : Prop :=
  ∃ members, v = .object members ∧ P members

/-- The members describe the field. Its tag is its name when no other one is given. -/
structure FieldDeclaration.DescribedBy (f : FieldDeclaration) (members : List (String × Json)) :
    Prop where
  name : Json.member? members "name" = some (.text f.name)
  isName : Text.isName f.name = true
  name_unreserved : f.name ∉ FieldDeclaration.reservedNames
  tag : ∃ tag, Json.memberD members "tag" (.text "") = .text tag ∧
    f.tag = if tag = "" then f.name else tag
  tag_unreserved : f.tag ∉ TagName.reserved
  type : Json.memberD members "type" (.text "string") =
    .text (if f.isMap then "map" else "string")
  required : Json.memberD members "required" (.bool false) = .bool f.required
  multiple : Json.memberD members "multiple" (.bool false) = .bool f.multiple

/-- The members describe the event. Its fields stand under `fields`, or under `payload` when there
is no such member, and differ in name and tag. -/
structure EventDeclaration.DescribedBy (e : EventDeclaration) (members : List (String × Json)) :
    Prop where
  name : Json.member? members "name" = some (.text e.name)
  isName : Text.isName e.name = true
  operation : Json.member? members "operation" = some (.text e.operation)
  operation_filled : e.operation ≠ ""
  kind : Json.member? members "kind" = some (.int e.kind)
  kind_nonneg : 0 ≤ e.kind
  description : Json.memberD members "description" (.text "") = .text e.description
  fields : ∃ vs, ((Json.member? members "fields").or (Json.member? members "payload")).getD
    (.array []) = .array vs ∧ List.Forall₂ (fun v f => v.ObjectOf f.DescribedBy) vs e.fields
  names_nodup : (e.fields.map (·.name)).Nodup
  tags_nodup : (e.fields.map (·.tag)).Nodup

/-- The members describe the module, whose events differ in kind and operation. -/
structure Declaration.DescribedBy (d : Declaration) (members : List (String × Json)) :
    Prop where
  name : Json.member? members "name" = some (.text d.name)
  name_filled : d.name ≠ ""
  package : Json.member? members "package" = some (.text d.package)
  package_filled : d.package ≠ ""
  description : Json.memberD members "description" (.text "") = .text d.description
  events : ∃ vs, Json.member? members "events" = some (.array vs) ∧
    List.Forall₂ (fun v e => v.ObjectOf e.DescribedBy) vs d.events
  events_filled : d.events ≠ []
  kinds_nodup : (d.events.map (·.kind)).Nodup
  operations_nodup : (d.events.map (·.operation)).Nodup

/-- What the rules say of the fields of an event. -/
structure EventDeclaration.Accepted (e : EventDeclaration) : Prop where
  names_nodup : (e.fields.map (·.name)).Nodup
  tags_nodup : (e.fields.map (·.tag)).Nodup
  unreserved : ∀ f ∈ e.fields, f.tag ∉ TagName.reserved

namespace Declaration

variable {α β : Type} {path : Path} {members : List (String × Json)} {name : String}

/-! ## What checks decide -/

/-- The check accepts exactly the values that stand in the relation to what it makes of them,
wherever they are found. -/
def Decides (check : Path → Json → Checked α) (R : Json → α → Prop) : Prop :=
  ∀ path v a, check path v = .ok a ↔ R v a

namespace Checked

theorem ap_eq_ok_iff {f : Checked (α → β)} {x : Checked α} {b : β} :
    ap f x = .ok b ↔ ∃ g a, f = .ok g ∧ x = .ok a ∧ g a = b := by
  cases f <;> cases x <;> simp [ap]

theorem ensure_eq_ok_iff {x : Checked α} {fault? : α → Option Cause} {a : α} :
    x.ensure path fault? = .ok a ↔ x = .ok a ∧ fault? a = none := by
  cases x with
  | error e => simp [ensure]
  | ok a' =>
    cases h : fault? a' with
    | none =>
      simp only [ensure, h, Except.ok.injEq]
      constructor
      · rintro rfl
        exact ⟨rfl, h⟩
      · exact And.left
    | some c =>
      simp only [ensure, h, issue, reduceCtorEq, Except.ok.injEq, false_iff, not_and]
      rintro rfl
      simp [h]

end Checked

namespace Decides

variable {check : Path → Json → Checked α} {R : Json → α → Prop} {a : α}

theorem items (h : Decides check R) {i : Nat} {vs : List Json} {as : List α} :
    Checked.items check path i vs = .ok as ↔ List.Forall₂ R vs as := by
  induction vs generalizing i as with
  | nil =>
    rw [Checked.items, Except.ok.injEq, List.forall₂_nil_left_iff]
    exact eq_comm
  | cons v vs ih =>
    simp only [Checked.items, Checked.ap_eq_ok_iff, List.forall₂_cons_left_iff]
    constructor
    · rintro ⟨_, rest, ⟨_, a, ⟨⟩, ha, rfl⟩, hrest, rfl⟩
      exact ⟨a, rest, (h _ v a).1 ha, ih.1 hrest, rfl⟩
    · rintro ⟨a, rest, ha, hrest, rfl⟩
      exact ⟨_, rest, ⟨_, a, rfl, (h _ v a).2 ha, rfl⟩, ih.2 hrest, rfl⟩

theorem array (h : Decides check R) :
    Decides (readArray check) fun v as => ∃ vs, v = .array vs ∧ List.Forall₂ R vs as := by
  intro path v as
  cases v with
  | array vs => simpa [readArray] using h.items
  | _ => simp [readArray, Checked.issue]

theorem needed (h : Decides check R) : needed check path members name = .ok a ↔
    ∃ v, Json.member? members name = some v ∧ R v a := by
  unfold Declaration.needed
  cases Json.member? members name with
  | none => simp [Checked.issue]
  | some v => simp [h _ v a]

/-- A member whose absence counts as a value of which the check would make the same. -/
theorem memberOr (h : Decides check R) {w : Json} {absent : α} (hw : ∀ a, R w a ↔ a = absent) :
    memberOr absent check path members name = .ok a ↔ R (Json.memberD members name w) a := by
  unfold Declaration.memberOr Json.memberD
  cases Json.member? members name with
  | none => simp [hw, eq_comm]
  | some v => exact h _ v a

end Decides

theorem decides_readObject {check : Path → List (String × Json) → Checked α}
    {P : α → List (String × Json) → Prop}
    (h : ∀ path members a, check path members = .ok a ↔ P a members) :
    Decides (readObject check) fun v a => v.ObjectOf (P a) := by
  intro path v a
  cases v with
  | object members => simp [readObject, Json.ObjectOf, h]
  | _ => simp [readObject, Json.ObjectOf, Checked.issue]

/-! ## Texts, numbers and Booleans -/

theorem decides_readText : Decides readText fun v s => v = .text s := by
  intro path v s
  cases v <;> simp [readText, Checked.issue]

theorem decides_readFilledText : Decides readFilledText fun v s => v = .text s ∧ s ≠ "" := by
  intro path v s
  rw [readFilledText, Checked.ensure_eq_ok_iff, decides_readText path v s]
  simp

theorem decides_readBool : Decides readBool fun v b => v = .bool b := by
  intro path v b
  cases v <;> simp [readBool, Checked.issue]

theorem decides_readKind : Decides readKind fun v n => v = .int n ∧ 0 ≤ n := by
  intro path v n
  cases v with
  | int m =>
    by_cases negative : m < 0
    · simp only [readKind, if_pos negative, Checked.issue, reduceCtorEq, Json.int.injEq, false_iff]
      omega
    · simp only [readKind, if_neg negative, Except.ok.injEq, Json.int.injEq]
      omega
  | _ => simp [readKind, Checked.issue]

theorem decides_readName : Decides readName fun v s => v = .text s ∧ Text.isName s = true := by
  intro path v s
  rw [readName, Checked.ensure_eq_ok_iff, decides_readText path v s]
  simp

theorem decides_readFieldName : Decides readFieldName fun v s =>
    (v = .text s ∧ Text.isName s = true) ∧ s ∉ FieldDeclaration.reservedNames := by
  intro path v s
  rw [readFieldName, Checked.ensure_eq_ok_iff, decides_readName path v s]
  simp

theorem decides_readFieldType :
    Decides readFieldType fun v isMap => v = .text (if isMap then "map" else "string") := by
  intro path v isMap
  cases v with
  | text s =>
    by_cases string : s = "string"
    · cases isMap <;> simp [readFieldType, string]
    · by_cases map : s = "map"
      · cases isMap <;> simp [readFieldType, map]
      · cases isMap <;> simp [readFieldType, string, map, Checked.issue]
  | _ => simp [readFieldType, Checked.issue]

theorem memberOr_readText_eq_ok_iff {s : String} :
    memberOr "" readText path members name = .ok s ↔
      Json.memberD members name (.text "") = .text s :=
  decides_readText.memberOr fun s => by simp [eq_comm]

theorem memberOr_readBool_eq_ok_iff {b : Bool} :
    memberOr false readBool path members name = .ok b ↔
      Json.memberD members name (.bool false) = .bool b :=
  decides_readBool.memberOr fun b => by simp [eq_comm]

theorem memberOr_readFieldType_eq_ok_iff {isMap : Bool} :
    memberOr false readFieldType path members name = .ok isMap ↔
      Json.memberD members name (.text "string") = .text (if isMap then "map" else "string") :=
  decides_readFieldType.memberOr fun isMap => by cases isMap <;> simp

/-! ## Fields -/

theorem readFieldMembers_eq_ok_iff {f : FieldDeclaration} :
    readFieldMembers path members = .ok f ↔ f.DescribedBy members := by
  -- each check of a member becomes its rule; what is left is to put the rules in order
  simp only [readFieldMembers, Checked.ensure_eq_ok_iff, Checked.ap_eq_ok_iff,
    decides_readFieldName.needed, memberOr_readText_eq_ok_iff, memberOr_readBool_eq_ok_iff,
    memberOr_readFieldType_eq_ok_iff]
  constructor
  · rintro ⟨⟨_, multiple, ⟨_, required, ⟨_, isMap, ⟨_, tag, ⟨_, name, ⟨⟩, hname, rfl⟩, htag, rfl⟩,
      htype, rfl⟩, hrequired, rfl⟩, hmultiple, rfl⟩, unreserved⟩
    obtain ⟨_, found, ⟨rfl, isName⟩, name_unreserved⟩ := hname
    exact ⟨found, isName, name_unreserved, ⟨tag, htag, rfl⟩, by simpa using unreserved, htype,
      hrequired, hmultiple⟩
  · rintro ⟨found, isName, name_unreserved, ⟨tag, htag, resolved⟩, tag_unreserved, htype,
      hrequired, hmultiple⟩
    refine ⟨⟨_, _, ⟨_, _, ⟨_, _, ⟨_, _, ⟨_, _, rfl, ⟨_, found, ⟨rfl, isName⟩, name_unreserved⟩,
      rfl⟩, htag, rfl⟩, htype, rfl⟩, hrequired, rfl⟩, hmultiple, ?_⟩, by simpa using tag_unreserved⟩
    rw [resolvedField, ← resolved]

theorem decides_readField : Decides readField fun v f => v.ObjectOf f.DescribedBy :=
  decides_readObject fun _ _ _ => readFieldMembers_eq_ok_iff

/-! ## Events -/

theorem fieldClash?_eq_none_iff {e : EventDeclaration} :
    fieldClash? e = none ↔ (e.fields.map (·.name)).Nodup ∧ (e.fields.map (·.tag)).Nodup := by
  unfold fieldClash?
  by_cases names : (e.fields.map (·.name)).Nodup <;>
    by_cases tags : (e.fields.map (·.tag)).Nodup <;> simp [names, tags]

theorem readEventFields_eq_ok_iff {fs : List FieldDeclaration} :
    readEventFields path members = .ok fs ↔
      ∃ vs, ((Json.member? members "fields").or (Json.member? members "payload")).getD
        (.array []) = .array vs ∧ List.Forall₂ (fun v f => v.ObjectOf f.DescribedBy) vs fs := by
  have absent : ∀ fs : List FieldDeclaration, (∃ vs, Json.array [] = .array vs ∧
      List.Forall₂ (fun v (f : FieldDeclaration) => v.ObjectOf f.DescribedBy) vs fs) ↔ fs = [] := by
    simp
  unfold readEventFields
  rw [decides_readField.array.memberOr absent, Json.memberD]
  cases h : Json.member? members "fields" with
  | none => simp
  | some v => simp [h]

theorem readEventMembers_eq_ok_iff {e : EventDeclaration} :
    readEventMembers path members = .ok e ↔ e.DescribedBy members := by
  simp only [readEventMembers, Checked.ensure_eq_ok_iff, Checked.ap_eq_ok_iff,
    decides_readName.needed, decides_readFilledText.needed, decides_readKind.needed,
    memberOr_readText_eq_ok_iff, readEventFields_eq_ok_iff, fieldClash?_eq_none_iff]
  constructor
  · rintro ⟨⟨_, fields, ⟨_, description, ⟨_, kind, ⟨_, operation, ⟨_, name, ⟨⟩, hname, rfl⟩,
      hoperation, rfl⟩, hkind, rfl⟩, hdescription, rfl⟩, hfields, rfl⟩, names_nodup, tags_nodup⟩
    obtain ⟨_, name_found, rfl, isName⟩ := hname
    obtain ⟨_, operation_found, rfl, filled⟩ := hoperation
    obtain ⟨_, kind_found, rfl, nonneg⟩ := hkind
    exact ⟨name_found, isName, operation_found, filled, kind_found, nonneg, hdescription, hfields,
      names_nodup, tags_nodup⟩
  · rintro ⟨name_found, isName, operation_found, filled, kind_found, nonneg, hdescription, hfields,
      names_nodup, tags_nodup⟩
    exact ⟨⟨_, _, ⟨_, _, ⟨_, _, ⟨_, _, ⟨_, _, rfl, ⟨_, name_found, rfl, isName⟩, rfl⟩,
      ⟨_, operation_found, rfl, filled⟩, rfl⟩, ⟨_, kind_found, rfl, nonneg⟩, rfl⟩, hdescription,
      rfl⟩, hfields, rfl⟩, names_nodup, tags_nodup⟩

theorem decides_readEvent : Decides readEvent fun v e => v.ObjectOf e.DescribedBy :=
  decides_readObject fun _ _ _ => readEventMembers_eq_ok_iff

/-! ## Modules -/

theorem eventClash?_eq_none_iff {d : Declaration} :
    eventClash? d = none ↔
      (d.events.map (·.kind)).Nodup ∧ (d.events.map (·.operation)).Nodup := by
  unfold eventClash?
  by_cases kinds : (d.events.map (·.kind)).Nodup <;>
    by_cases operations : (d.events.map (·.operation)).Nodup <;> simp [kinds, operations]

theorem decides_readEvents : Decides readEvents fun v es =>
    (∃ vs, v = .array vs ∧ List.Forall₂ (fun v e => v.ObjectOf e.DescribedBy) vs es) ∧ es ≠ [] := by
  intro path v es
  rw [readEvents, Checked.ensure_eq_ok_iff, decides_readEvent.array path v es]
  simp

theorem readMembers_eq_ok_iff {d : Declaration} :
    readMembers path members = .ok d ↔ d.DescribedBy members := by
  simp only [readMembers, Checked.ensure_eq_ok_iff, Checked.ap_eq_ok_iff,
    decides_readFilledText.needed, memberOr_readText_eq_ok_iff, decides_readEvents.needed,
    eventClash?_eq_none_iff]
  constructor
  · rintro ⟨⟨_, events, ⟨_, description, ⟨_, package, ⟨_, name, ⟨⟩, hname, rfl⟩, hpackage, rfl⟩,
      hdescription, rfl⟩, hevents, rfl⟩, kinds_nodup, operations_nodup⟩
    obtain ⟨_, name_found, rfl, name_filled⟩ := hname
    obtain ⟨_, package_found, rfl, package_filled⟩ := hpackage
    obtain ⟨_, events_found, ⟨vs, rfl, described⟩, events_filled⟩ := hevents
    exact ⟨name_found, name_filled, package_found, package_filled, hdescription,
      ⟨vs, events_found, described⟩, events_filled, kinds_nodup, operations_nodup⟩
  · rintro ⟨name_found, name_filled, package_found, package_filled, hdescription,
      ⟨vs, events_found, described⟩, events_filled, kinds_nodup, operations_nodup⟩
    exact ⟨⟨_, _, ⟨_, _, ⟨_, _, ⟨_, _, rfl, ⟨_, name_found, rfl, name_filled⟩, rfl⟩,
      ⟨_, package_found, rfl, package_filled⟩, rfl⟩, hdescription, rfl⟩,
      ⟨_, events_found, ⟨vs, rfl, described⟩, events_filled⟩, rfl⟩, kinds_nodup, operations_nodup⟩

/-- A JSON value is accepted as a declaration exactly when it is an object that describes it. -/
theorem ofJson_eq_ok_iff {v : Json} {d : Declaration} :
    ofJson v = .ok d ↔ v.ObjectOf d.DescribedBy := by
  have decides : Decides (readObject readMembers) fun v (d : Declaration) =>
    v.ObjectOf d.DescribedBy := decides_readObject fun _ _ _ => readMembers_eq_ok_iff
  refine Iff.trans ?_ (decides [] v d)
  unfold ofJson
  split
  · next hd => rw [hd, Except.ok.injEq, Except.ok.injEq]
  · next refused => simp [refused]

/-! ## What follows for accepted declarations -/

theorem forall_of_forall₂ {R : α → β → Prop} {P : β → Prop} (keep : ∀ a b, R a b → P b)
    {as : List α} {bs : List β} (h : List.Forall₂ R as bs) : ∀ b ∈ bs, P b := by
  induction h with
  | nil => exact List.forall_mem_nil P
  | cons hb _ ih => exact List.forall_mem_cons.2 ⟨keep _ _ hb, ih⟩

theorem accepted_of_describedBy {e : EventDeclaration} (h : e.DescribedBy members) :
    e.Accepted := by
  obtain ⟨vs, -, fields⟩ := h.fields
  refine ⟨h.names_nodup, h.tags_nodup, forall_of_forall₂ (fun v f field => ?_) fields⟩
  obtain ⟨members, -, described⟩ := field
  exact described.tag_unreserved

theorem accepted_of_ofJson {v : Json} {d : Declaration} (h : ofJson v = .ok d) :
    ∀ e ∈ d.events, e.Accepted := by
  obtain ⟨members, -, described⟩ := ofJson_eq_ok_iff.1 h
  obtain ⟨vs, -, events⟩ := described.events
  refine forall_of_forall₂ (fun v e event => ?_) events
  obtain ⟨members, -, described⟩ := event
  exact accepted_of_describedBy described

theorem nodup_kinds_of_ofJson {v : Json} {d : Declaration} (h : ofJson v = .ok d) :
    (d.events.map (·.kind)).Nodup := by
  obtain ⟨members, -, described⟩ := ofJson_eq_ok_iff.1 h
  exact described.kinds_nodup

theorem nodup_operations_of_ofJson {v : Json} {d : Declaration} (h : ofJson v = .ok d) :
    (d.events.map (·.operation)).Nodup := by
  obtain ⟨members, -, described⟩ := ofJson_eq_ok_iff.1 h
  exact described.operations_nodup

/-! ## Acceptance and refusal -/

/-- A JSON value that follows the rules for declarations is accepted as the declaration that it
describes, and every other value is refused as a declaration that is not valid. -/
theorem accepted_iff_described (v : Json) :
    (∀ d, ofJson v = .ok d ↔ v.ObjectOf d.DescribedBy) ∧
      ((∃ d : Declaration, v.ObjectOf d.DescribedBy) ∨
        ∃ issues, ofJson v = .error (.rejected (.invalidDeclaration issues))) := by
  refine ⟨fun _ => ofJson_eq_ok_iff, ?_⟩
  cases h : readObject readMembers [] v with
  | ok d => exact .inl ⟨d, ofJson_eq_ok_iff.1 (by rw [ofJson, h])⟩
  | error issues => exact .inr ⟨issues, by rw [ofJson, h]⟩

end Declaration

end SubspaceOps
