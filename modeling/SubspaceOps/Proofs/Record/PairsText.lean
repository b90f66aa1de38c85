import SubspaceOps.Record.Field

/-!
# Maps in one text

The text of a map is cut at the commas first and each segment at its colon. Where neither separator
occurs in a key or a value, both cuts find again what was joined, and the map is read back with its
order (`decodePairs_encodePairs`). No other map is read back: what stands between two cuts is free
of separators, so every map that is read is (`separatorFreeMap_decodePairs`).
-/
namespace SubspaceOps

/-- Neither of the two separators occurs in the text. -/
def SeparatorFree (s : String) : Prop := ',' ∉ s.toList ∧ ':' ∉ s.toList

instance (s : String) : Decidable (SeparatorFree s) := inferInstanceAs (Decidable (_ ∧ _))

/-- The keys and values of the map are free of separators. -/
def SeparatorFreeMap (m : Table String String) : Prop :=
  ∀ e ∈ m.entries, SeparatorFree e.1 ∧ SeparatorFree e.2

instance (m : Table String String) : Decidable (SeparatorFreeMap m) :=
  inferInstanceAs (Decidable (∀ e ∈ m.entries, _))

variable {k v : String}

theorem comma_not_mem_segment (hk : SeparatorFree k) (hv : SeparatorFree v) :
    ',' ∉ (k ++ ":" ++ v).toList := by
  simp [hk.1, hv.1]

theorem segment?_append (hk : SeparatorFree k) (hv : SeparatorFree v) :
    segment? (k ++ ":" ++ v) = some (k, v) := by
  have joined : k ++ ":" ++ v = Text.join ':' [k, v] := by
    apply String.toList_inj.1
    simp [Text.join, List.intercalate]
  have cut : Text.split ':' (Text.join ':' [k, v]) = [k, v] := by
    refine Text.split_join (by simp) fun p hp => ?_
    simp only [List.mem_cons, List.not_mem_nil, or_false] at hp
    rcases hp with rfl | rfl
    · exact hk.2
    · exact hv.2
  rw [segment?, joined, cut]

theorem filterMap_segment? {es : List (String × String)}
    (h : ∀ e ∈ es, SeparatorFree e.1 ∧ SeparatorFree e.2) :
    (es.map fun e => e.1 ++ ":" ++ e.2).filterMap segment? = es := by
  induction es with
  | nil => rfl
  | cons e es ih =>
    rw [List.forall_mem_cons] at h
    rw [List.map_cons, List.filterMap_cons_some (segment?_append h.1.1 h.1.2), ih h.2]

/-- A map without separators is read back, in its order. -/
theorem decodePairs_encodePairs {m : Table String String} (h : SeparatorFreeMap m) :
    decodePairs (encodePairs m) = m := by
  unfold decodePairs encodePairs
  cases hm : m.entries with
  | nil => exact Table.ext hm.symm
  | cons e es =>
    have segments_free : ∀ s ∈ (e :: es).map (fun e => e.1 ++ ":" ++ e.2), ',' ∉ s.toList := by
      intro s hs
      obtain ⟨a, ha, rfl⟩ := List.mem_map.1 hs
      have free := h a (hm ▸ ha)
      exact comma_not_mem_segment free.1 free.2
    rw [Text.split_join (by simp) segments_free, filterMap_segment? fun a ha => h a (hm ▸ ha),
      ← hm, Table.ofList_entries]

theorem separatorFree_of_segment? {s : String} (h : segment? s = some (k, v))
    (comma : ',' ∉ s.toList) : SeparatorFree k ∧ SeparatorFree v := by
  have cut : Text.split ':' s = [k, v] := by
    unfold segment? at h
    split at h
    · next k' v' cut =>
      cases h
      exact cut
    · cases h
  have colon_free : ∀ p ∈ [k, v], ':' ∉ p.toList := fun p hp =>
    Text.not_mem_of_mem_split (cut ▸ hp)
  have parts : s.toList = k.toList ++ ':' :: v.toList := by
    rw [← Text.join_split ':' s, cut]
    simp [Text.join, List.intercalate]
  rw [parts, List.mem_append, List.mem_cons, not_or, not_or] at comma
  exact ⟨⟨comma.1, colon_free k (by simp)⟩, comma.2.2, colon_free v (by simp)⟩

theorem separatorFreeMap_decodePairs (s : String) : SeparatorFreeMap (decodePairs s) := by
  intro e he
  obtain ⟨segment, mem, cut⟩ := List.mem_filterMap.1 (Table.mem_of_mem_entries_ofList he)
  exact separatorFree_of_segment? cut (Text.not_mem_of_mem_split mem)

/-- The maps that come back from their texts, with their order, are those without separators, and
the map that is read from any text is one of them. -/
theorem read_back_iff_separatorFree (m : Table String String) :
    (decodePairs (encodePairs m) = m ↔ SeparatorFreeMap m) ∧
      ∀ s, decodePairs (encodePairs (decodePairs s)) = decodePairs s := by
  refine ⟨⟨fun back => ?_, decodePairs_encodePairs⟩, fun s => ?_⟩
  · exact back ▸ separatorFreeMap_decodePairs (encodePairs m)
  · exact decodePairs_encodePairs (separatorFreeMap_decodePairs s)

end SubspaceOps
