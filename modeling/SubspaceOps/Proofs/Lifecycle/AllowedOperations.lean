import SubspaceOps.Proofs.Lifecycle.CreationRoundTrip

/-!
# Operations that a creation event allows

A part of a list of operations assigns a kind to a name (`Assigns`). A list is read exactly when
all of its parts do and no kind is too long to be read; it then has one entry for each name. The
check on creation events is weaker and asks for a separator in each part, so an accepted event may
declare operations that cannot be used.
-/
namespace SubspaceOps

namespace AllowedOperations

/-- The part assigns the kind with these digits to the name. -/
structure Assigns (part name : String) (digits : List Char) : Prop where
  text : part = name ++ "=" ++ String.ofList digits
  named : name ≠ ""
  separated : '=' ∉ name.toList
  digits : Text.isDigits digits = true

/-- Every part of the list assigns a kind to a name. -/
def WellFormed (ops : String) : Prop :=
  ∀ part ∈ Text.split ',' ops, ∃ name digits, Assigns part name digits

/-- No kind of the list has more digits than are read. -/
def ReadableKinds (ops : String) : Prop :=
  ∀ part ∈ Text.split ',' ops, ∀ name digits, Assigns part name digits →
    digits.length ≤ Text.maxDigits

/-! ## One part -/

variable {ops part name : String} {digits : List Char}

theorem split_of_assigns (h : Assigns part name digits) :
    Text.split '=' part = [name, String.ofList digits] := by
  have joined : part = Text.join '=' [name, String.ofList digits] := by
    rw [h.text]
    apply String.toList_inj.1
    simp [Text.join, List.intercalate]
  rw [joined]
  refine Text.split_join (by simp) fun p hp => ?_
  rcases List.mem_pair.1 hp with rfl | rfl
  · exact h.separated
  · rw [String.toList_ofList]
    intro hm
    have ascii := List.all_eq_true.1 (Bool.and_eq_true_iff.1 h.digits).2 _ hm
    exact absurd ascii (by decide)

theorem assigns_of_split (h : Text.split '=' part = [name, String.ofList digits])
    (named : name ≠ "") (hdigits : Text.isDigits digits = true) : Assigns part name digits where
  text := by
    rw [← Text.join_split '=' part, h]
    apply String.toList_inj.1
    simp [Text.join, List.intercalate]
  named := named
  separated := Text.not_mem_of_mem_split (h ▸ List.mem_cons_self)
  digits := hdigits

theorem readPart_of_assigns (h : Assigns part name digits)
    (short : digits.length ≤ Text.maxDigits) :
    readPart ops part = .ok (name, Nat.ofDigitChars 10 digits 0) := by
  simp [readPart, split_of_assigns h, h.named, h.digits, Text.digitsValue?, short]

theorem readPart_of_not_assigns (h : ¬ ∃ name digits, Assigns part name digits) :
    readPart ops part = .error (.rejected (.invalidOps ops)) := by
  unfold readPart
  split
  · next name digits hsplit =>
    rw [if_pos]
    rw [Bool.or_eq_true, decide_eq_true_eq, Bool.not_eq_true']
    by_contra sound
    rw [not_or, Bool.not_eq_false] at sound
    exact h ⟨name, digits.toList, assigns_of_split (by simpa using hsplit) sound.1 sound.2⟩
  · rfl

/-! ## The whole list -/

/-- The part gives the name of the entry its kind. -/
def Gives (part : String) (entry : String × Nat) : Prop :=
  ∃ digits, Assigns part entry.1 digits ∧ digits.length ≤ Text.maxDigits ∧
    entry.2 = Nat.ofDigitChars 10 digits 0

theorem readPart_eq_ok_iff {entry : String × Nat} :
    readPart ops part = .ok entry ↔ Gives part entry := by
  constructor
  · intro h
    by_cases assigned : ∃ name digits, Assigns part name digits
    · obtain ⟨name, digits, assigns⟩ := assigned
      by_cases short : digits.length ≤ Text.maxDigits
      · rw [readPart_of_assigns assigns short] at h
        cases h
        exact ⟨digits, assigns, short, rfl⟩
      · simp [readPart, split_of_assigns assigns, assigns.named, assigns.digits,
          Text.digitsValue?, short] at h
    · rw [readPart_of_not_assigns assigned] at h
      cases h
  · rintro ⟨digits, assigns, short, value⟩
    rw [readPart_of_assigns assigns short, ← value]

theorem read_eq_ok_iff {t : Table String Nat} :
    read ops = .ok t ↔
      ∃ entries, List.Forall₂ Gives (Text.split ',' ops) entries ∧ t = .ofList entries := by
  rw [read, map_eq_ok_iff]
  simp only [mapM_eq_ok_iff, readPart_eq_ok_iff, eq_comm (a := t)]

theorem exists_read_eq_ok_iff :
    (∃ t, read ops = .ok t) ↔ ∀ part ∈ Text.split ',' ops, ∃ entry, Gives part entry := by
  have parts : (∃ t, read ops = .ok t) ↔
      ∃ entries, (Text.split ',' ops).mapM (readPart ops) = .ok entries := by
    rw [read]
    cases (Text.split ',' ops).mapM (readPart ops) <;> simp [Except.map]
  rw [parts, exists_mapM_eq_ok_iff]
  simp only [readPart_eq_ok_iff]

theorem wellFormed_of_read {t : Table String Nat} (reads : read ops = .ok t) : WellFormed ops := by
  intro part hpart
  obtain ⟨entry, digits, assigns, -⟩ := exists_read_eq_ok_iff.1 ⟨t, reads⟩ part hpart
  exact ⟨entry.1, digits, assigns⟩

theorem exists_read_of_wellFormed (well : WellFormed ops) (short : ReadableKinds ops) :
    ∃ t, read ops = .ok t := by
  refine exists_read_eq_ok_iff.2 fun part hpart => ?_
  obtain ⟨name, digits, assigns⟩ := well part hpart
  exact ⟨(name, _), digits, assigns, short part hpart name digits assigns, rfl⟩

theorem read_of_not_wellFormed (ill : ¬ WellFormed ops) (short : ReadableKinds ops) :
    read ops = .error (.rejected (.invalidOps ops)) := by
  cases stopped : (Text.split ',' ops).mapM (readPart ops) with
  | ok entries =>
    have reads : read ops = .ok (.ofList entries) := by rw [read, stopped, Except.map]
    exact absurd (wellFormed_of_read reads) ill
  | error fault =>
    obtain ⟨part, hpart, hread⟩ := exists_of_mapM_eq_error stopped
    rw [read, stopped]
    by_cases assigned : ∃ name digits, Assigns part name digits
    · obtain ⟨name, digits, assigns⟩ := assigned
      rw [readPart_of_assigns assigns (short part hpart name digits assigns)] at hread
      cases hread
    · rw [readPart_of_not_assigns assigned] at hread
      cases hread
      rfl

/-- A kind is shorter than its part, so lists of short parts have no kind that is too long. -/
theorem readableKinds_of_length (h : ∀ part ∈ Text.split ',' ops, part.length ≤ Text.maxDigits) :
    ReadableKinds ops := by
  intro part hpart name digits assigns
  have length : part.length = name.length + 1 + digits.length := by
    simp [assigns.text, show "=".length = 1 by decide]
  have := h part hpart
  omega

end AllowedOperations

namespace Creation

open AllowedOperations

variable {e : Envelope} {x : Record}

theorem text_ops_of_accepted
    (accepted : (Lifecycle.decodeCreation Catalogue.registry e).outcome = .ok x) :
    e.lastValue? "ops" = some (x.text "ops") := by
  obtain ⟨c, h, declares, rfl, -, rfl⟩ := started_of_accepted accepted
  have ops : (started h).text "ops" = c.ops := by
    rw [text_started (by decide), declares.ops, Option.getD_some]
  exact declares.ops.trans (congrArg some ops.symm)

/-- An event that is created under a description is accepted when all parts of its list have a
separator, and holds the list. -/
theorem exists_accepted_new (now : Int) (name ops rules description imageUrl : String)
    (described : description ≠ "") (declared : ∀ part ∈ Text.split ',' ops, '=' ∈ part.toList) :
    ∃ x, (Lifecycle.decodeCreation Catalogue.registry
        (new now name ops rules description imageUrl).header.envelope).outcome = .ok x ∧
      x.text "ops" = ops := by
  have declares := declares_new now name ops rules description imageUrl described declared
  obtain ⟨x, accepted⟩ := accepted_of_declares declares
  have same := declares.ops.symm.trans (text_ops_of_accepted accepted)
  exact ⟨x, accepted, (Option.some.inj same).symm⟩

/-- The operations of an accepted event can be used when each part of the declared list assigns a
kind to a name, which the check does not ask for, and then there is one entry for each name that is
declared. They cannot be used otherwise, since the list is invalid as a whole. -/
theorem allowedOperations_of_accepted
    (accepted : (Lifecycle.decodeCreation Catalogue.registry e).outcome = .ok x) :
    e.lastValue? "ops" = some (x.text "ops") ∧
      (WellFormed (x.text "ops") → ReadableKinds (x.text "ops") →
        ∃ entries : List (String × Nat),
          List.Forall₂ Gives (Text.split ',' (x.text "ops")) entries ∧
            allowedOperations x = .ok (.ofList entries) ∧
              (Table.ofList entries).keys = (entries.map Prod.fst).eraseDups) ∧
      (¬ WellFormed (x.text "ops") → (∀ t, allowedOperations x ≠ .ok t) ∧
        (ReadableKinds (x.text "ops") →
          allowedOperations x = .error (.rejected (.invalidOps (x.text "ops"))))) := by
  refine ⟨text_ops_of_accepted accepted, fun well short => ?_, fun ill => ⟨fun t reads => ?_, ?_⟩⟩
  · obtain ⟨t, reads⟩ := exists_read_of_wellFormed well short
    obtain ⟨entries, given, rfl⟩ := read_eq_ok_iff.1 reads
    exact ⟨entries, given, reads, Table.keys_ofList entries⟩
  · exact ill (wellFormed_of_read reads)
  · exact read_of_not_wellFormed ill

/-- Three parts that declare two operations. -/
theorem allowedOperations_research :
    ∃ x, (Lifecycle.decodeCreation Catalogue.registry (new 1700000000 "research"
        "post=30300,vote=30302,post=30301" "" "notes" "").header.envelope).outcome = .ok x ∧
      ReadableKinds (x.text "ops") ∧ WellFormed (x.text "ops") ∧
        ∃ t, allowedOperations x = .ok t ∧ t.entries = [("post", 30301), ("vote", 30302)] := by
  obtain ⟨x, accepted, ops⟩ := exists_accepted_new 1700000000 "research"
    "post=30300,vote=30302,post=30301" "" "notes" "" (by decide) (by decide)
  have short : ReadableKinds (x.text "ops") := readableKinds_of_length (by rw [ops]; decide)
  have value : (read (x.text "ops")).toOption.map Table.entries =
      some [("post", 30301), ("vote", 30302)] := by
    rw [ops]
    decide +kernel
  have well : WellFormed (x.text "ops") := by
    cases reads : read (x.text "ops") with
    | ok t => exact wellFormed_of_read reads
    | error fault =>
      rw [reads] at value
      cases value
  obtain ⟨-, usable, -⟩ := allowedOperations_of_accepted accepted
  obtain ⟨entries, -, reads, -⟩ := usable well short
  rw [show read (x.text "ops") = .ok (.ofList entries) from reads] at value
  exact ⟨x, accepted, short, well, _, reads, Option.some.inj value⟩

/-- A blank in front of a kind passes the check, but the operation cannot be used. -/
theorem not_usable_blankKind :
    ∃ x, (Lifecycle.decodeCreation Catalogue.registry (new 1700000000 "research" "post= 30300" ""
        "notes" "").header.envelope).outcome = .ok x ∧
      allowedOperations x = .error (.rejected (.invalidOps "post= 30300")) := by
  obtain ⟨x, accepted, ops⟩ := exists_accepted_new 1700000000 "research" "post= 30300" "" "notes" ""
    (by decide) (by decide)
  refine ⟨x, accepted, ?_⟩
  rw [allowedOperations, ops]
  rfl

end Creation

end SubspaceOps
