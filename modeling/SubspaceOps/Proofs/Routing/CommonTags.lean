import SubspaceOps.Proofs.Capability.Text
import SubspaceOps.Routing

/-!
# Reading the header

The tags of the header are read one after the other. Only a capability can stop the reader, and the
fault is then that of the first text which is not a capability (`read_eq_error_iff`). A tag at the
end is read with what the tags before it said (`read_append`).
-/
namespace SubspaceOps.CommonTags

/-- The text of a tag that carries a capability. -/
def capabilityText? : Tag → Option String
  | name :: v :: _ => if name = TagName.capability then some v else none
  | _ => none

/-- The texts of all capabilities, in order. -/
def capabilityTexts (tags : List Tag) : List String := tags.filterMap capabilityText?

/-- The text is that of a capability. -/
def Readable (text : String) : Prop := ∃ c, Capability.read text = .ok c

variable {tag : Tag} {tags : List Tag} {c : CommonTags} {text : String}

theorem readTag_of_capabilityText? (h : capabilityText? tag = some text) :
    readTag c tag = (Capability.read text).map fun cap => { c with capability := some cap } := by
  unfold capabilityText? at h
  split at h
  · split at h
    · next hname =>
      cases h
      subst hname
      rfl
    · cases h
  · cases h

theorem readTag_of_no_text (h : capabilityText? tag = none) : ∃ c', readTag c tag = .ok c' := by
  match tag with
  | [] => exact ⟨c, rfl⟩
  | [_] => exact ⟨c, rfl⟩
  | name :: v :: vs =>
    have hname : name ≠ TagName.capability := fun e => by simp [capabilityText?, e] at h
    simp only [readTag, if_neg hname]
    split
    · exact ⟨_, rfl⟩
    · split
      · exact ⟨_, rfl⟩
      · exact ⟨_, rfl⟩

theorem foldlM_readTag_isOk_iff :
    (∃ c', tags.foldlM readTag c = .ok c') ↔ ∀ t ∈ capabilityTexts tags, Readable t := by
  induction tags generalizing c with
  | nil => exact ⟨fun _ => nofun, fun _ => ⟨c, rfl⟩⟩
  | cons tag tags ih =>
    rw [List.foldlM_cons]
    cases ht : capabilityText? tag with
    | none =>
      obtain ⟨c', hc'⟩ := readTag_of_no_text (c := c) ht
      rw [hc', capabilityTexts, List.filterMap_cons_none ht]
      exact ih
    | some text =>
      rw [readTag_of_capabilityText? ht, capabilityTexts, List.filterMap_cons_some ht,
        List.forall_mem_cons]
      cases hr : Capability.read text with
      | error e =>
        constructor
        · rintro ⟨c', h⟩
          cases h
        · rintro ⟨⟨cap, h⟩, -⟩
          cases hr.symm.trans h
      | ok cap =>
        change (∃ c', tags.foldlM readTag { c with capability := some cap } = .ok c') ↔ _
        rw [ih]
        exact ⟨fun h => ⟨⟨cap, hr⟩, h⟩, And.right⟩

theorem read_isOk_iff : (∃ c', read tags = .ok c') ↔ ∀ t ∈ capabilityTexts tags, Readable t :=
  foldlM_readTag_isOk_iff

/-- Reading stops at the first capability that is not read, with the fault of its text. -/
theorem read_eq_error_iff {e : Fault} :
    read tags = .error e ↔
      ∃ done text rest, capabilityTexts tags = done ++ text :: rest ∧ (∀ t ∈ done, Readable t) ∧
        Capability.read text = .error e := by
  rw [read, foldlM_eq_error_iff]
  constructor
  · rintro ⟨done, tag, rest, c, rfl, hdone, htag⟩
    cases ht : capabilityText? tag with
    | none =>
      obtain ⟨c', hc'⟩ := readTag_of_no_text (c := c) ht
      cases hc'.symm.trans htag
    | some text =>
      refine ⟨capabilityTexts done, text, capabilityTexts rest, ?_,
        foldlM_readTag_isOk_iff.1 ⟨c, hdone⟩, ?_⟩
      · rw [capabilityTexts, List.filterMap_append, List.filterMap_cons_some ht]
        rfl
      · rw [readTag_of_capabilityText? ht] at htag
        cases hr : Capability.read text with
        | ok cap =>
          rw [hr] at htag
          cases htag
        | error e' =>
          rw [hr] at htag
          cases htag
          rfl
  · rintro ⟨done, text, rest, htexts, hdone, hr⟩
    obtain ⟨before, others, rfl, hbefore, hothers⟩ := List.filterMap_eq_append_iff.1 htexts
    obtain ⟨plain, tag, behind, rfl, hplain, ht, -⟩ := List.filterMap_eq_cons_iff.1 hothers
    have texts_before : capabilityTexts (before ++ plain) = done := by
      rw [capabilityTexts, List.filterMap_append, hbefore, List.filterMap_eq_nil_iff.2 hplain,
        List.append_nil]
    obtain ⟨c, hc⟩ := (foldlM_readTag_isOk_iff (c := empty)).2 (texts_before ▸ hdone)
    refine ⟨before ++ plain, tag, behind, c, by simp, hc, ?_⟩
    rw [readTag_of_capabilityText? ht, hr]
    rfl

/-! ## One more tag -/

theorem read_append (h : read tags = .ok c) (tag : Tag) :
    read (tags ++ [tag]) = readTag c tag := by
  unfold read at *
  rw [List.foldlM_append, h]
  change [tag].foldlM readTag c = _
  rw [List.foldlM_cons]
  exact bind_pure _

theorem readTag_capability (c : CommonTags) (cap : Capability) :
    readTag c cap.tag = .ok { c with capability := some cap } := by
  have carried : capabilityText? cap.tag = some cap.text := rfl
  rw [readTag_of_capabilityText? carried, Capability.read_text]
  rfl

theorem readTag_parents (c : CommonTags) (p : String) (ps : List String) :
    readTag c (TagName.parent :: p :: ps) = .ok { c with parents := c.parents ++ p :: ps } := rfl

end SubspaceOps.CommonTags
