/-!
# Cutting a text at a separator

`split` and `join` are inverse to each other: joining the pieces of a text gives the text back,
and pieces that are free of the separator are found again in what they were joined to.
-/
namespace SubspaceOps.Text

/-- The pieces between the occurrences of `sep`; there is one more of them than separators. -/
def split (sep : Char) (s : String) : List String :=
  (s.toList.splitOn sep).map String.ofList

/-- The pieces one after the other, with `sep` between neighbours. -/
def join (sep : Char) (ps : List String) : String :=
  String.ofList (List.intercalate [sep] (ps.map String.toList))

theorem map_toList_split (sep : Char) (s : String) :
    (split sep s).map String.toList = s.toList.splitOn sep := by
  simp [split, Function.comp_def]

@[simp] theorem join_split (sep : Char) (s : String) : join sep (split sep s) = s := by
  rw [join, map_toList_split, List.intercalate_splitOn, String.ofList_toList]

theorem split_join {sep : Char} {ps : List String} (hne : ps ≠ [])
    (h : ∀ p ∈ ps, sep ∉ p.toList) : split sep (join sep ps) = ps := by
  rw [split, join, String.toList_ofList, List.splitOn_intercalate sep (by simpa using h) (by simpa)]
  simp [Function.comp_def]

theorem not_mem_of_mem_splitOn {sep : Char} {cs p : List Char} (h : p ∈ cs.splitOn sep) :
    sep ∉ p := by
  induction cs generalizing p with
  | nil =>
    rw [List.splitOn_nil, List.mem_singleton] at h
    rw [h]
    exact List.not_mem_nil
  | cons c cs ih =>
    rw [List.splitOn_cons_eq_if_modifyHead] at h
    split at h
    · rcases List.mem_cons.1 h with rfl | h
      · exact List.not_mem_nil
      · exact ih h
    · next other =>
      obtain ⟨q, qs, hq⟩ := List.exists_cons_of_ne_nil (List.splitOn_ne_nil sep cs)
      rw [hq] at h ih
      rcases List.mem_cons.1 h with rfl | h
      · rw [List.mem_cons, not_or]
        exact ⟨fun e => other (beq_iff_eq.2 e.symm), ih List.mem_cons_self⟩
      · exact ih (List.mem_cons_of_mem q h)

theorem not_mem_of_mem_split {sep : Char} {s p : String} (h : p ∈ split sep s) :
    sep ∉ p.toList := by
  obtain ⟨cs, hcs, rfl⟩ := List.mem_map.1 h
  rw [String.toList_ofList]
  exact not_mem_of_mem_splitOn hcs

theorem split_eq_pair_iff {sep : Char} {s a b : String} : split sep s = [a, b] ↔
    s.toList = a.toList ++ sep :: b.toList ∧ sep ∉ a.toList ∧ sep ∉ b.toList := by
  constructor
  · intro cut
    have free : ∀ p ∈ [a, b], sep ∉ p.toList := fun p hp => not_mem_of_mem_split (cut ▸ hp)
    refine ⟨?_, free a (by simp), free b (by simp)⟩
    rw [← join_split sep s, cut]
    simp [join, List.intercalate]
  · rintro ⟨text, ha, hb⟩
    have joined : s = join sep [a, b] := by
      apply String.toList_inj.1
      rw [text]
      simp [join, List.intercalate]
    rw [joined]
    refine split_join (by simp) fun p hp => ?_
    simp only [List.mem_cons, List.not_mem_nil, or_false] at hp
    rcases hp with rfl | rfl
    · exact ha
    · exact hb

theorem split_append (sep : Char) (s t : String) :
    split sep (s ++ String.singleton sep ++ t) = split sep s ++ split sep t := by
  simp only [split, String.toList_append, String.toList_singleton, List.append_assoc,
    List.singleton_append]
  rw [List.splitOn_append_cons_of_beq _ _ (beq_self_eq_true sep), List.map_append]

end SubspaceOps.Text
