import SubspaceOps.Proofs.Capability.Grammar
import SubspaceOps.Proofs.Lifecycle.AllowedOperations

/-!
# The grammar of lists of operations

A list of operations declares entries, one in each part (`Lists`). As long as no run of digits is
too long, a list is read exactly when each of its parts assigns a kind to a name, and then as the
table in which every name stands where it is declared first, with the kind declared last. Every
other list is invalid as a whole. A table that is not empty is read back from its text, whatever
digits there are in its names.
-/
namespace SubspaceOps.AllowedOperations

/-- The part is the name of the entry, `=`, and decimal digits for its kind. -/
def Declares (part : String) (entry : String × Nat) : Prop :=
  ∃ digits, Assigns part entry.1 digits ∧ Nat.ofDigitChars 10 digits 0 = entry.2

/-- The parts of the list declare the entries, in their order. -/
def Lists (ops : String) (entries : List (String × Nat)) : Prop :=
  List.Forall₂ Declares (Text.split ',' ops) entries

/-- Every name has the place of its first entry and the kind of its last one. -/
structure Tabulates (entries : List (String × Nat)) (t : Table String Nat) : Prop where
  keys : t.keys = (entries.map Prod.fst).eraseDups
  kinds : ∀ name, t.get? name = ((entries.filter (·.1 = name)).getLast?).map Prod.snd

/-- The entry can stand in a list: its name is not empty and free of both separators, and its kind
has no more digits than are read. -/
structure Writable (entry : String × Nat) : Prop where
  named : entry.1 ≠ ""
  separated : '=' ∉ entry.1.toList
  joined : ',' ∉ entry.1.toList
  short : (Nat.toDigits 10 entry.2).length ≤ Text.maxDigits

/-- The part for an entry. -/
def partOf (entry : String × Nat) : String := entry.1 ++ "=" ++ toString entry.2

variable {ops part : String} {entry : String × Nat} {entries : List (String × Nat)}
  {t : Table String Nat}

/-! ## Reading -/

theorem readableKinds_of_shortRuns (short : Capability.ShortRuns ops.toList) :
    ReadableKinds ops := by
  intro part hpart name digits assigns
  have behind : digits <:+: part.toList := ⟨(name ++ "=").toList, [], by simp [assigns.text]⟩
  have ascii := List.all_eq_true.1 (Bool.and_eq_true_iff.1 assigns.digits).2
  exact short.piece hpart digits behind ascii

theorem Gives.declares (h : Gives part entry) : Declares part entry := by
  obtain ⟨digits, assigns, -, value⟩ := h
  exact ⟨digits, assigns, value.symm⟩

theorem forall₂_gives_iff (short : ReadableKinds ops) :
    List.Forall₂ Gives (Text.split ',' ops) entries ↔ Lists ops entries := by
  constructor
  · exact List.Forall₂.imp fun _ _ => Gives.declares
  · intro lists
    have pieces : ∀ part ∈ Text.split ',' ops, part ∈ Text.split ',' ops := fun _ => id
    refine ((List.forall₂_and_left _ _).2 ⟨pieces, lists⟩).imp ?_
    rintro part entry ⟨hpart, digits, assigns, value⟩
    exact ⟨digits, assigns, short part hpart _ digits assigns, value.symm⟩

theorem tabulates_iff : Tabulates entries t ↔ t = .ofList entries := by
  have kinds (name : String) : (Table.ofList entries).get? name =
      ((entries.filter (·.1 = name)).getLast?).map Prod.snd := by
    rw [Table.ofList, Table.get?_putAll, Table.get?_empty, Option.or_none]
  constructor
  · intro h
    exact Table.eq_of_get?_eq (h.keys.trans (Table.keys_ofList entries).symm) fun name =>
      (h.kinds name).trans (kinds name).symm
  · rintro rfl
    exact ⟨Table.keys_ofList entries, kinds⟩

/-- A list is read as the table of the entries that it declares. -/
theorem read_eq_ok_iff_lists (short : ReadableKinds ops) :
    read ops = .ok t ↔ ∃ entries, Lists ops entries ∧ Tabulates entries t := by
  simp only [read_eq_ok_iff, forall₂_gives_iff short, tabulates_iff]

/-! ## Written lists -/

theorem Writable.gives (h : Writable entry) : Gives (partOf entry) entry := by
  refine ⟨Nat.toDigits 10 entry.2, ?_, h.short, Nat.ofDigitChars_ten_toDigits.symm⟩
  exact {
    text := by rw [partOf, Nat.toString_eq_ofList_toDigits]
    named := h.named
    separated := h.separated
    digits := Text.isDigits_toDigits entry.2 }

theorem Writable.comma_not_mem (h : Writable entry) : ',' ∉ (partOf entry).toList := by
  have digits_free : ',' ∉ Nat.toDigits 10 entry.2 := fun hm =>
    absurd (Nat.isDigit_of_mem_toDigits (by decide) (by decide) hm) (by decide)
  simp [partOf, h.joined, digits_free]

/-- A table of entries that can stand in a list is read back, with its order, if it has any. -/
theorem read_write (filled : t.entries ≠ []) (writable : ∀ entry ∈ t.entries, Writable entry) :
    read (write t) = .ok t := by
  have parts : Text.split ',' (write t) = t.entries.map partOf := by
    refine Text.split_join (by simpa using filled) fun part hpart => ?_
    obtain ⟨entry, hentry, rfl⟩ := List.mem_map.1 hpart
    exact (writable entry hentry).comma_not_mem
  refine read_eq_ok_iff.2 ⟨t.entries, ?_, (Table.ofList_entries t).symm⟩
  rw [parts, List.forall₂_map_left_iff, List.forall₂_same]
  exact fun entry hentry => (writable entry hentry).gives

/-- A list without a run of digits that is too long is read exactly when each of its parts assigns a
kind to a name, as the table of the entries that it declares, and every other one is invalid as a
whole. A table of entries that can stand in a list, if it has any, is read back from its text. -/
theorem read_iff_listed (ops : String) (t : Table String Nat) :
    (Capability.ShortRuns ops.toList →
      ((∃ t, read ops = .ok t) ↔ WellFormed ops) ∧
        (∀ t, read ops = .ok t ↔ ∃ entries, Lists ops entries ∧ Tabulates entries t) ∧
          (¬ WellFormed ops → read ops = .error (.rejected (.invalidOps ops)))) ∧
      (t.entries ≠ [] → (∀ entry ∈ t.entries, Writable entry) → read (write t) = .ok t) := by
  refine ⟨fun short => ?_, read_write⟩
  have readable := readableKinds_of_shortRuns short
  refine ⟨⟨?_, fun well => exists_read_of_wellFormed well readable⟩,
    fun t => read_eq_ok_iff_lists readable, fun ill => read_of_not_wellFormed ill readable⟩
  rintro ⟨t, reads⟩
  exact wellFormed_of_read reads

/-- A name with a digit that is declared twice, and a kind with a leading zero. -/
theorem read_listed_repeated :
    let t : Table String Nat := ⟨[("a1", 3), ("b", 2)], by decide⟩
    Capability.ShortRuns "a1=07,b=2,a1=3".toList ∧ read "a1=07,b=2,a1=3" = .ok t ∧
      t.entries ≠ [] ∧ (∀ entry ∈ t.entries, Writable entry) ∧ read (write t) = .ok t := by
  intro t
  have short : Capability.ShortRuns "a1=07,b=2,a1=3".toList :=
    fun run hrun _ => Nat.le_trans hrun.length_le (by decide)
  have lists : Lists "a1=07,b=2,a1=3" [("a1", 7), ("b", 2), ("a1", 3)] := by
    have parts : Text.split ',' "a1=07,b=2,a1=3" = ["a1=07", "b=2", "a1=3"] := by decide +kernel
    rw [Lists, parts]
    exact .cons ⟨['0', '7'], ⟨by decide, by decide, by decide, by decide⟩, by decide⟩
      (.cons ⟨['2'], ⟨by decide, by decide, by decide, by decide⟩, by decide⟩
        (.cons ⟨['3'], ⟨by decide, by decide, by decide, by decide⟩, by decide⟩ .nil))
  have tabulates : Tabulates [("a1", 7), ("b", 2), ("a1", 3)] t :=
    tabulates_iff.2 (by decide +kernel)
  have writable : ∀ entry ∈ t.entries, Writable entry := by
    intro entry hentry
    simp only [t, List.mem_cons, List.not_mem_nil, or_false] at hentry
    rcases hentry with rfl | rfl <;> exact ⟨by decide, by decide, by decide, by decide⟩
  obtain ⟨reading, back⟩ := read_iff_listed "a1=07,b=2,a1=3" t
  obtain ⟨-, table, -⟩ := reading short
  exact ⟨short, (table t).2 ⟨_, lists, tabulates⟩, by decide, writable, back (by decide) writable⟩

end SubspaceOps.AllowedOperations
