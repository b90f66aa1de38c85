import Mathlib.Data.List.Basic
import SubspaceOps.Proofs.Steps
import SubspaceOps.Proofs.Text.Numeral
import SubspaceOps.RewardRules

/-!
# Reward rules are collected segment by segment

A rule is a segment of two numerals with a colon between them (`IsRule`). The rules of a text can be
entered one after the other into a table in place, where a numeral that cannot be read raises a
fault and the fault is passed over; this always ends well, with the table that is read
(`exec_collect`). Two texts with a comma between them are read as the first one updated by the
second one, and what is written for a table of rules is read back, whatever other segments stand
between the rules (`read_join`).
-/
namespace SubspaceOps.RewardRules

/-- The segment is a numeral for the kind, a colon, and a numeral for the points. -/
def IsRule (segment : String) (kind points : Int) : Prop :=
  ∃ k p, segment = k ++ ":" ++ p ∧ Text.Denotes k kind ∧ Text.Denotes p points

/-- The segment is no rule. -/
def Malformed (segment : String) : Prop := ∀ kind points, ¬ IsRule segment kind points

/-- The longer list results from the shorter one when elements with the property are inserted. -/
inductive Amid {α : Type} (other : α → Prop) : List α → List α → Prop
  | nil : Amid other [] []
  | keep {a : α} {l l' : List α} (h : Amid other l l') : Amid other (a :: l) (a :: l')
  | insert {a : α} {l l' : List α} (ha : other a) (h : Amid other l l') : Amid other l (a :: l')

/-- The text of one rule. -/
def segmentOf (rule : Int × Int) : String := toString rule.1 ++ ":" ++ toString rule.2

/-- The text of a table of rules. -/
def write (rules : Table Int Int) : String := Text.join ',' (rules.entries.map segmentOf)

/-! ## Segments -/

variable {segment : String} {kind points : Int}

theorem segment?_eq_some_iff :
    segment? segment = some (kind, points) ↔ IsRule segment kind points := by
  constructor
  · intro h
    unfold segment? at h
    split at h
    · next k p cut =>
      simp only [Option.bind_eq_bind, Option.bind_eq_some_iff, Option.pure_def, Option.some.injEq,
        Prod.mk.injEq] at h
      obtain ⟨_, hk, _, hp, rfl, rfl⟩ := h
      refine ⟨k, p, ?_, Text.readInteger?_eq_some_iff.1 hk, Text.readInteger?_eq_some_iff.1 hp⟩
      apply String.toList_inj.1
      rw [(Text.split_eq_pair_iff.1 cut).1]
      simp
    · cases h
  · rintro ⟨k, p, rfl, hk, hp⟩
    have cut : Text.split ':' (k ++ ":" ++ p) = [k, p] :=
      Text.split_eq_pair_iff.2 ⟨by simp, hk.not_mem (by decide), hp.not_mem (by decide)⟩
    rw [segment?, cut]
    dsimp only
    rw [Text.readInteger?_eq_some_iff.2 hk, Text.readInteger?_eq_some_iff.2 hp]
    rfl

theorem segment?_eq_none_iff : segment? segment = none ↔ Malformed segment := by
  simp only [Option.eq_none_iff_forall_ne_some, Prod.forall, ne_eq, segment?_eq_some_iff,
    Malformed]

theorem isRule_segmentOf {rule : Int × Int} (kind : Text.FewDigits rule.1)
    (points : Text.FewDigits rule.2) : IsRule (segmentOf rule) rule.1 rule.2 :=
  ⟨_, _, rfl, Text.denotes_toString kind, Text.denotes_toString points⟩

theorem comma_not_mem_segmentOf {rule : Int × Int} (kind : Text.FewDigits rule.1)
    (points : Text.FewDigits rule.2) : ',' ∉ (segmentOf rule).toList := by
  have kind_free := (Text.denotes_toString kind).not_mem (c := ',') (by decide)
  have points_free := (Text.denotes_toString points).not_mem (c := ',') (by decide)
  simp only [segmentOf, String.toList_append, List.mem_append, kind_free, points_free, false_or,
    or_false]
  decide

/-! ## Collecting in place -/

/-- The integer of a text; there is a fault if it is no numeral. -/
def integer (s : String) : Steps (Table Int Int) Int :=
  match Text.readInteger? s with
  | some n => pure n
  | none => throw .notNumber

/-- Enter a rule. The points are converted before the kind. -/
def enter (kind points : String) : Steps (Table Int Int) Unit := do
  let points ← integer points
  let kind ← integer kind
  modify fun t => t.put kind points

/-- Carry out steps and pass over a text that is no numeral. -/
def passOver (x : Steps (Table Int Int) Unit) : Steps (Table Int Int) Unit :=
  tryCatch x fun
    | .notNumber => pure ()
    | e => throw e

/-- Enter the rule of a segment, if it is one. -/
def collectSegment (segment : String) : Steps (Table Int Int) Unit :=
  match Text.split ':' segment with
  | [kind, points] => passOver (enter kind points)
  | _ => pure ()

/-- Enter the rules of segments one after the other. -/
def collect : List String → Steps (Table Int Int) Unit
  | [] => pure ()
  | segment :: rest => do
    collectSegment segment
    collect rest

/-- Every segment ends well: a rule is entered, and any other segment leaves the table as it is. -/
theorem exec_collectSegment (t : Table Int Int) : (collectSegment segment).exec t =
    (.ok (), match segment? segment with
      | some rule => t.put rule.1 rule.2
      | none => t) := by
  unfold collectSegment segment?
  generalize Text.split ':' segment = parts
  match parts with
  | [k, p] =>
    dsimp only
    unfold passOver enter integer
    rw [Steps.exec_tryCatch, Steps.exec_bind]
    -- Both faults arise in front of the write, so the handler finds the table as it was.
    cases Text.readInteger? p <;> cases Text.readInteger? k <;> rfl
  | [] | [_] | _ :: _ :: _ :: _ => rfl

theorem exec_collect (segments : List String) (t : Table Int Int) :
    (collect segments).exec t = (.ok (), t.putAll (segments.filterMap segment?)) := by
  induction segments generalizing t with
  | nil => rfl
  | cons segment rest ih =>
    rw [collect, Steps.exec_bind, exec_collectSegment]
    dsimp only
    rw [ih]
    cases h : segment? segment with
    | none => rw [List.filterMap_cons_none h]
    | some rule =>
      rw [List.filterMap_cons_some h]
      rfl

/-! ## Whole texts -/

theorem filterMap_of_amid {l l' : List String} (h : Amid Malformed l l') :
    l'.filterMap segment? = l.filterMap segment? := by
  induction h with
  | nil => rfl
  | keep h ih => rw [List.filterMap_cons, List.filterMap_cons, ih]
  | insert malformed h ih => rw [List.filterMap_cons_none (segment?_eq_none_iff.2 malformed), ih]

/-- Rules are read back from their segments, whatever other segments stand between them. -/
theorem read_join {rules : Table Int Int}
    (few : ∀ rule ∈ rules.entries, Text.FewDigits rule.1 ∧ Text.FewDigits rule.2)
    {segments : List String} (amid : Amid Malformed (rules.entries.map segmentOf) segments)
    (cut : ∀ segment ∈ segments, ',' ∉ segment.toList) :
    read (Text.join ',' segments) = rules := by
  have own : (rules.entries.map segmentOf).filterMap segment? = rules.entries := by
    have each : ∀ rule ∈ rules.entries, (segment? ∘ segmentOf) rule = some (id rule) :=
      fun rule hrule =>
        segment?_eq_some_iff.2 (isRule_segmentOf (few rule hrule).1 (few rule hrule).2)
    rw [List.filterMap_map, List.filterMap_eq_map_iff_forall_eq_some.2 each, List.map_id]
  have collected : read (Text.join ',' segments) = .ofList (segments.filterMap segment?) := by
    by_cases filled : segments = []
    · subst filled
      rfl
    · rw [read, Text.split_join filled cut]
  rw [collected, filterMap_of_amid amid, own, Table.ofList_entries]

/-- Two texts with a comma between them are read as the first, updated by the second. -/
theorem read_append (s t : String) :
    read (s ++ "," ++ t) = (read s).putAll (read t).entries := by
  rw [read, show "," = String.singleton ',' from rfl, Text.split_append, List.filterMap_append,
    Table.ofList, Table.putAll_append, read, read, Table.putAll_entries_ofList]
  rfl

theorem amid_self {α : Type} (other : α → Prop) (l : List α) : Amid other l l := by
  induction l with
  | nil => exact .nil
  | cons a l ih => exact .keep ih

/-- Collecting the rules of a text always ends well, with the table that is read. Texts with a comma
between them are read as the first one updated by the second one. A table of rules whose numbers are
not too long is read back from its text, with its order, and from every text in which segments that
are no rules stand amid its own. -/
theorem collected_merged_and_read_back (s t : String) (rules : Table Int Int) :
    (collect (Text.split ',' s)).exec .empty = (.ok (), read s) ∧
      read (s ++ "," ++ t) = (read s).putAll (read t).entries ∧
      ((∀ rule ∈ rules.entries, Text.FewDigits rule.1 ∧ Text.FewDigits rule.2) →
        read (write rules) = rules ∧
          ∀ segments, Amid Malformed (rules.entries.map segmentOf) segments →
            (∀ segment ∈ segments, ',' ∉ segment.toList) →
              read (Text.join ',' segments) = rules) := by
  refine ⟨exec_collect _ _, read_append s t, fun few => ⟨?_, fun _ => read_join few⟩⟩
  refine read_join few (amid_self _ _) fun segment hsegment => ?_
  obtain ⟨rule, hrule, rfl⟩ := List.mem_map.1 hsegment
  exact comma_not_mem_segmentOf (few rule hrule).1 (few rule hrule).2

/-- A rule with a negative kind stands between segments of too few parts and without numeral; of two
other texts the second one overwrites what the first one has. -/
theorem read_back_amid_malformed :
    let rules : Table Int Int := ⟨[(30300, 5), (-7, 2)], by decide⟩
    (∀ rule ∈ rules.entries, Text.FewDigits rule.1 ∧ Text.FewDigits rule.2) ∧
      read "bad,30300:5,30301:x,-7:2" = rules ∧
        read ("30300: +1_0 ,1:2:3" ++ "," ++ "bad,30300:5") = ⟨[(30300, 5)], by decide⟩ := by
  intro rules
  have few : ∀ rule ∈ rules.entries, Text.FewDigits rule.1 ∧ Text.FewDigits rule.2 := by
    unfold Text.FewDigits
    decide
  have malformed : Malformed "bad" ∧ Malformed "30301:x" :=
    ⟨segment?_eq_none_iff.1 (by decide +kernel), segment?_eq_none_iff.1 (by decide +kernel)⟩
  have own : rules.entries.map segmentOf = ["30300:5", "-7:2"] := by decide +kernel
  have amid : Amid Malformed (rules.entries.map segmentOf)
      ["bad", "30300:5", "30301:x", "-7:2"] := by
    rw [own]
    exact .insert malformed.1 (.keep (.insert malformed.2 (.keep .nil)))
  obtain ⟨-, merged, back⟩ :=
    collected_merged_and_read_back "30300: +1_0 ,1:2:3" "bad,30300:5" rules
  have text : Text.join ',' ["bad", "30300:5", "30301:x", "-7:2"] = "bad,30300:5,30301:x,-7:2" := by
    decide +kernel
  refine ⟨few, text ▸ (back few).2 _ amid (by decide), merged.trans ?_⟩
  decide +kernel

end SubspaceOps.RewardRules
