import SubspaceOps.Proofs.Lifecycle.AllowedOperations

/-!
# Which subspaces share an identifier

An identifier is the digest of name, operations and rules, written one behind the other without a
separator. Two accepted creation events have the same identifier exactly when these texts run
together to one text, or to two texts that collide (`subspaceId_eq_iff_of_accepted`). One text can
be divided into three in several ways, so the identifier does not tell where the name and the
operations end.
-/
namespace SubspaceOps

open Digest

namespace SubspaceId

variable {name ops rules name' ops' rules' : String}

theorem textDigest_eq_iff {s t : String} :
    textDigest s = textDigest t ↔ s = t ∨ Collide (utf8 s) (utf8 t) := by
  rw [textDigest, textDigest, Text.Hex.encode_inj, sha256_eq_iff, utf8_inj]

theorem ofConfiguration_eq_iff :
    ofConfiguration name ops rules = ofConfiguration name' ops' rules' ↔
      name ++ ops ++ rules = name' ++ ops' ++ rules' ∨
        Collide (utf8 (name ++ ops ++ rules)) (utf8 (name' ++ ops' ++ rules')) := by
  rw [← textDigest_eq_iff]
  constructor
  · intro same
    have chars := congrArg String.toList same
    rw [ofConfiguration, ofConfiguration, String.toList_append, String.toList_append] at chars
    exact String.toList_inj.1 (List.append_cancel_left chars)
  · intro same
    rw [ofConfiguration, ofConfiguration, same]

end SubspaceId

namespace Creation

namespace Charter

variable {c c' : Charter}

/-- The declared texts one behind the other. -/
def configuration (c : Charter) : String := c.name ++ c.ops ++ c.rules

/-- Where the name ends in the configuration, and where the operations end. -/
def boundaries (c : Charter) : Nat × Nat := (c.name.length, c.name.length + c.ops.length)

/-- The charters declare the same three texts. -/
def SameTexts (c c' : Charter) : Prop := c.name = c'.name ∧ c.ops = c'.ops ∧ c.rules = c'.rules

/-- The charters divide one configuration at different places. -/
def Redivides (c c' : Charter) : Prop :=
  c.configuration = c'.configuration ∧ c.boundaries ≠ c'.boundaries

/-- A configuration and the places where it is divided determine the three texts. -/
theorem sameTexts_of_boundaries (same : c.configuration = c'.configuration)
    (places : c.boundaries = c'.boundaries) : c.SameTexts c' := by
  have chars : c.name.toList ++ (c.ops.toList ++ c.rules.toList) =
      c'.name.toList ++ (c'.ops.toList ++ c'.rules.toList) := by
    have := congrArg String.toList same
    simpa only [configuration, String.toList_append, List.append_assoc] using this
  obtain ⟨name_end, ops_end⟩ := Prod.mk.inj places
  have ops_length : c.ops.length = c'.ops.length := by omega
  rw [← String.length_toList, ← String.length_toList] at name_end ops_length
  obtain ⟨name, rest⟩ := List.append_inj chars name_end
  obtain ⟨ops, rules⟩ := List.append_inj rest ops_length
  exact ⟨String.toList_inj.1 name, String.toList_inj.1 ops, String.toList_inj.1 rules⟩

theorem configuration_eq_iff :
    c.configuration = c'.configuration ↔ c.SameTexts c' ∨ c.Redivides c' := by
  constructor
  · intro same
    by_cases places : c.boundaries = c'.boundaries
    · exact .inl (sameTexts_of_boundaries same places)
    · exact .inr ⟨same, places⟩
  · rintro (⟨name, ops, rules⟩ | ⟨same, -⟩)
    · rw [configuration, configuration, name, ops, rules]
    · exact same

end Charter

variable {e e' : Envelope} {x x' : Record}

theorem exists_identified_of_accepted
    (accepted : (Lifecycle.decodeCreation Catalogue.registry e).outcome = .ok x) :
    ∃ c, Declares e c ∧ Carries x c ∧
      x.header.subspaceId = SubspaceId.ofConfiguration c.name c.ops c.rules := by
  obtain ⟨c, h, declares, rfl, sid, rfl⟩ := started_of_accepted accepted
  exact ⟨c, declares, carries_started sid declares.name declares.ops declares.rules,
    sid.trans declares.identified⟩

/-- Two accepted creation events have the same identifier exactly when their configurations are one
text or collide. So apart from collisions they declare the same name, operations and rules, or they
divide one text at different places. -/
theorem subspaceId_eq_iff_of_accepted
    (accepted : (Lifecycle.decodeCreation Catalogue.registry e).outcome = .ok x)
    (accepted' : (Lifecycle.decodeCreation Catalogue.registry e').outcome = .ok x') :
    ∃ c c', (Declares e c ∧ Carries x c) ∧ (Declares e' c' ∧ Carries x' c') ∧
      (x.header.subspaceId = x'.header.subspaceId ↔
        c.configuration = c'.configuration ∨
          Collide (utf8 c.configuration) (utf8 c'.configuration)) ∧
      (c.configuration = c'.configuration ↔ c.SameTexts c' ∨ c.Redivides c') := by
  obtain ⟨c, declares, carries, identified⟩ := exists_identified_of_accepted accepted
  obtain ⟨c', declares', carries', identified'⟩ := exists_identified_of_accepted accepted'
  refine ⟨c, c', ⟨declares, carries⟩, ⟨declares', carries'⟩, ?_, Charter.configuration_eq_iff⟩
  rw [identified, identified']
  exact SubspaceId.ofConfiguration_eq_iff

/-- Two events that divide one text at different places have the same identifier. -/
theorem subspaceId_eq_redivided : ∃ x x',
    (Lifecycle.decodeCreation Catalogue.registry
        (new 1700000000 "lab" "post=30300" "" "notes" "").header.envelope).outcome = .ok x ∧
      (Lifecycle.decodeCreation Catalogue.registry
          (new 1700000000 "labpo" "st=3" "0300" "notes" "").header.envelope).outcome = .ok x' ∧
        x.header.subspaceId = x'.header.subspaceId ∧ x.payload ≠ x'.payload := by
  obtain ⟨x, accepted, ops⟩ := exists_accepted_new 1700000000 "lab" "post=30300" "" "notes" ""
    (by decide) (by decide)
  obtain ⟨x', accepted', ops'⟩ := exists_accepted_new 1700000000 "labpo" "st=3" "0300" "notes" ""
    (by decide) (by decide)
  obtain ⟨c, c', ⟨declares, carries⟩, ⟨declares', carries'⟩, shared, -⟩ :=
    subspaceId_eq_iff_of_accepted accepted accepted'
  have texts := declares_new 1700000000 "lab" "post=30300" "" "notes" "" (by decide) (by decide)
  have texts' := declares_new 1700000000 "labpo" "st=3" "0300" "notes" "" (by decide) (by decide)
  obtain rfl := declares.unique texts
  obtain rfl := declares'.unique texts'
  have different : x.payload ≠ x'.payload := by
    rw [carries.payload, carries'.payload]
    decide
  exact ⟨x, x', accepted, accepted', shared.2 (.inl (by decide)), different⟩

end Creation

end SubspaceOps
