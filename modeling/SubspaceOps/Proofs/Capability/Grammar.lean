import Mathlib.Data.List.Perm.Subperm
import SubspaceOps.Proofs.Capability.Text

/-!
# The grammar of capability texts

A text is written for three numbers when its parts, joined by commas, are the name of a field, `=`
and decimal digits for its number, one part for each field, in any order (`Written`). As long as
the texts have no run of digits beyond the limit, the reader accepts those that are written for
numbers within the width of their fields, yields these numbers, and rejects every other text as
malformed (`read_iff_written`).
-/
namespace SubspaceOps.Capability

/-- The number of a field. -/
def value (c : Capability) : (f : Field) → BitVec f.bits
  | .action => c.action
  | .key => c.key
  | .expiry => c.expiry

/-- The digits spell the number in decimal; leading zeros are allowed. -/
def Spells (digits : List Char) (n : Nat) : Prop :=
  digits ≠ [] ∧ (∀ c ∈ digits, c.isDigit = true) ∧ Nat.ofDigitChars 10 digits 0 = n

/-- The part is the name of the field, `=` and digits of the number. -/
def IsPart (part : String) (f : Field) (n : Nat) : Prop :=
  ∃ digits, part = f.name ++ "=" ++ String.ofList digits ∧ Spells digits n

/-- The text consists of one part for each field, in some order, with commas between them. -/
def Written (text : String) (value : Field → Nat) : Prop :=
  ∃ (parts : List String) (order : List Field), text = Text.join ',' parts ∧
    order.Perm [.action, .key, .expiry] ∧
      List.Forall₂ (fun part f => IsPart part f (value f)) parts order

/-- No run of digits is longer than numerals may be. -/
def ShortRuns (cs : List Char) : Prop :=
  ∀ run, run <:+: cs → (∀ c ∈ run, c.isDigit = true) → run.length ≤ Text.maxDigits

variable {text part : String} {c : Capability}

/-! ## Parts -/

theorem infix_intercalate {α : Type} {sep p : List α} {ps : List (List α)} (h : p ∈ ps) :
    p <:+: List.intercalate sep ps := by
  obtain ⟨i, hi, rfl⟩ := List.getElem_of_mem h
  refine List.infix_of_mem_flatten ?_
  rw [List.getElem_eq_getElem_intersperse_two_mul hi]
  exact List.getElem_mem _

theorem ShortRuns.piece (short : ShortRuns text.toList) (h : part ∈ Text.split ',' text) :
    ShortRuns part.toList := by
  intro run hrun digits
  refine short run (hrun.trans ?_) digits
  have joined := congrArg String.toList (Text.join_split ',' text)
  rw [Text.join, String.toList_ofList] at joined
  rw [← joined]
  exact infix_intercalate (List.mem_map_of_mem h)

theorem spells_iff {digits : List Char} {n : Nat} :
    Spells digits n ↔ Text.isDigits digits = true ∧ Nat.ofDigitChars 10 digits 0 = n := by
  simp [Spells, Text.isDigits, and_assoc]

theorem writes_iff {f : Field} {digits : List Char} : Writes part f digits ↔
    part = f.name ++ "=" ++ String.ofList digits ∧ Text.isDigits digits = true := by
  constructor
  · rintro ⟨cut, hdigits⟩
    have joined := Text.join_split '=' part
    rw [cut] at joined
    refine ⟨?_, hdigits⟩
    apply String.toList_inj.1
    rw [← joined]
    simp [Text.join, List.intercalate]
  · rintro ⟨rfl, hdigits⟩
    exact writes_of_isDigits f hdigits

theorem Gives.isPart {f : Field} {n : BitVec f.bits} (h : Gives part ⟨f, n⟩) :
    IsPart part f n.toNat := by
  obtain ⟨digits, writes, hvalue⟩ := h
  obtain ⟨rfl, hdigits⟩ := writes_iff.1 writes
  refine ⟨digits, rfl, spells_iff.2 ⟨hdigits, ?_⟩⟩
  unfold Text.digitsValue? at hvalue
  split at hvalue
  · exact Option.some.inj hvalue
  · cases hvalue

/-- Where runs of digits are short, every number that is spelled is given to the field. -/
theorem IsPart.gives {f : Field} {n : BitVec f.bits} (h : IsPart part f n.toNat)
    (short : ShortRuns part.toList) : Gives part ⟨f, n⟩ := by
  obtain ⟨digits, rfl, spelled⟩ := h
  obtain ⟨hdigits, hvalue⟩ := spells_iff.1 spelled
  have few : digits.length ≤ Text.maxDigits :=
    short digits ⟨(f.name ++ "=").toList, [], by simp⟩ spelled.2.1
  refine ⟨digits, writes_of_isDigits f hdigits, ?_⟩
  rw [Text.digitsValue?, if_pos few, hvalue]

theorem IsPart.comma_not_mem {f : Field} {n : Nat} (h : IsPart part f n) : ',' ∉ part.toList := by
  obtain ⟨digits, rfl, -, hdigits, -⟩ := h
  have digits_free : ',' ∉ digits := fun hm => ne_of_isDigit (hdigits _ hm) (by decide) rfl
  cases f <;> simp [Field.name, digits_free]

/-! ## What has been found -/

namespace Found

variable {found : Found} {xs : List Entry}

theorem fill_of_not_mem {f : Field} (h : f ∉ xs.map Sigma.fst) : found.fill xs f = found f := by
  induction xs generalizing found with
  | nil => rfl
  | cons x xs ih =>
    rw [List.map_cons, List.mem_cons, not_or] at h
    exact (ih h.2).trans (set_of_ne found h.1 x.2)

theorem fill_of_mem (nodup : (xs.map Sigma.fst).Nodup) {x : Entry} (h : x ∈ xs) :
    found.fill xs x.1 = some x.2 := by
  induction xs generalizing found with
  | nil => cases h
  | cons y xs ih =>
    rw [List.map_cons, List.nodup_cons] at nodup
    rcases List.mem_cons.1 h with rfl | h
    · exact (fill_of_not_mem nodup.1).trans (set_self found x.1 x.2)
    · exact ih nodup.2 h

end Found

/-! ## Whole texts -/

theorem perm_fields {order : List Field} (nodup : order.Nodup) (three : order.length = 3) :
    order.Perm [.action, .key, .expiry] := by
  have all : order ⊆ [.action, .key, .expiry] := by
    intro f _
    cases f <;> simp
  exact (nodup.subperm all).perm_of_length_le (by simp [three])

/-- A text is read as a capability when its parts give the numbers of the capability to the fields,
in some order. -/
theorem read_eq_ok_iff : read text = .ok c ↔ ∃ order : List Field,
    order.Perm [.action, .key, .expiry] ∧
      List.Forall₂ (fun part f => Gives part ⟨f, c.value f⟩) (Text.split ',' text) order := by
  let entry (f : Field) : Entry := ⟨f, c.value f⟩
  constructor
  · intro h
    unfold read at h
    dsimp only at h
    split at h
    · cases h
    next three =>
    obtain ⟨found, hfold, h⟩ := bind_eq_ok_iff.1 h
    obtain ⟨xs, gives, nodup, -, rfl⟩ := foldlM_readPart_eq_ok_iff.1 hfold
    have holds : ∀ f, Found.none.fill xs f = some (c.value f) := by
      split at h
      · next a k e ha hk he =>
        cases h
        rintro (_ | _ | _)
        · exact ha
        · exact hk
        · exact he
      · cases h
    -- Three parts for distinct fields leave no field out, so the parts are known from their fields.
    have entries : (xs.map Sigma.fst).map entry = xs := by
      rw [List.map_map]
      refine (List.map_congr_left fun x hx => ?_).trans (List.map_id xs)
      have same := (holds x.1).symm.trans (Found.fill_of_mem nodup hx)
      exact Sigma.ext rfl (heq_of_eq (Option.some.inj same))
    refine ⟨xs.map Sigma.fst, perm_fields nodup ?_, ?_⟩
    · rw [List.length_map, ← gives.length_eq]
      exact not_not.1 three
    · refine List.forall₂_map_right_iff (f := entry).1 ?_
      rwa [entries]
  · rintro ⟨order, perm, gives⟩
    have three : (Text.split ',' text).length = 3 := gives.length_eq.trans perm.length_eq
    have fields : (order.map entry).map Sigma.fst = order := by
      rw [List.map_map]
      exact List.map_id order
    have nodup : ((order.map entry).map Sigma.fst).Nodup := by
      rw [fields]
      exact perm.nodup_iff.2 (by decide)
    have hfold : (Text.split ',' text).foldlM (readPart text) Found.none =
        .ok (Found.none.fill (order.map entry)) :=
      foldlM_readPart_eq_ok_iff.2
        ⟨_, List.forall₂_map_right_iff.2 gives, nodup, fun _ _ => rfl, rfl⟩
    have holds : ∀ f, Found.none.fill (order.map entry) f = some (c.value f) := by
      intro f
      have hf : f ∈ order := perm.mem_iff.2 (by cases f <;> simp)
      exact Found.fill_of_mem nodup (List.mem_map_of_mem hf)
    unfold read
    dsimp only
    rw [if_neg (not_not.2 three), hfold]
    dsimp only [bind, Except.bind]
    rw [holds .action, holds .key, holds .expiry]
    rfl

theorem written_iff {numbers : Field → Nat} : Written text numbers ↔
    ∃ order : List Field, order.Perm [.action, .key, .expiry] ∧
      List.Forall₂ (fun part f => IsPart part f (numbers f)) (Text.split ',' text) order := by
  constructor
  · rintro ⟨parts, order, rfl, perm, written⟩
    refine ⟨order, perm, ?_⟩
    rw [Text.split_join]
    · exact written
    · rintro rfl
      cases written
      cases perm.length_eq
    · have apart := written.imp fun _ _ h => And.intro h.comma_not_mem h
      exact ((List.forall₂_and_left _ _).1 apart).1
  · rintro ⟨order, perm, written⟩
    exact ⟨_, order, (Text.join_split ',' text).symm, perm, written⟩

theorem written_of_read (h : read text = .ok c) : Written text fun f => (c.value f).toNat := by
  obtain ⟨order, perm, gives⟩ := read_eq_ok_iff.1 h
  exact written_iff.2 ⟨order, perm, gives.imp fun _ _ => Gives.isPart⟩

theorem read_of_written (short : ShortRuns text.toList)
    (h : Written text fun f => (c.value f).toNat) : read text = .ok c := by
  obtain ⟨order, perm, written⟩ := written_iff.1 h
  have pieces : ∀ part ∈ Text.split ',' text, ShortRuns part.toList := fun _ => short.piece
  have both := (List.forall₂_and_left _ _).2 ⟨pieces, written⟩
  exact read_eq_ok_iff.2 ⟨order, perm, both.imp fun _ _ h => h.2.gives h.1⟩

theorem exists_value {numbers : Field → Nat} (fits : ∀ f, numbers f < Nat.pow 2 f.bits) :
    ∃ c : Capability, (fun f => (c.value f).toNat) = numbers := by
  refine ⟨⟨.ofNat 8 (numbers .action), .ofNat 32 (numbers .key), .ofNat 64 (numbers .expiry)⟩, ?_⟩
  funext f
  cases f with
  | action => exact Nat.mod_eq_of_lt (fits .action)
  | key => exact Nat.mod_eq_of_lt (fits .key)
  | expiry => exact Nat.mod_eq_of_lt (fits .expiry)

theorem not_overlong (short : ShortRuns text.toList) : ¬ Overlong text := by
  rintro ⟨done, part, rest, xs, f, digits, cut, -, -, -, writes, long⟩
  have piece : part ∈ Text.split ',' text := by
    rw [cut]
    exact List.mem_append_right done List.mem_cons_self
  obtain ⟨rfl, hdigits⟩ := writes_iff.1 writes
  have few := short.piece piece digits ⟨(f.name ++ "=").toList, [], by simp⟩
    (spells_iff.2 ⟨hdigits, rfl⟩).2.1
  exact Nat.not_le.2 long few

/-- A text without a run of digits that is too long is read exactly when it is written for numbers
within the width of their fields, as the capability that has these numbers. Every other such text
is rejected as malformed. -/
theorem read_iff_written (short : ShortRuns text.toList) :
    (∀ c, read text = .ok c ↔ Written text fun f => (c.value f).toNat) ∧
      ((∃ c, read text = .ok c) ↔
        ∃ numbers, Written text numbers ∧ ∀ f, numbers f < Nat.pow 2 f.bits) ∧
      ((¬ ∃ numbers, Written text numbers ∧ ∀ f, numbers f < Nat.pow 2 f.bits) →
        ∃ flaw, read text = .error (.rejected (.malformedCapability text flaw))) := by
  have accepted : (∃ c, read text = .ok c) ↔
      ∃ numbers, Written text numbers ∧ ∀ f, numbers f < Nat.pow 2 f.bits := by
    constructor
    · rintro ⟨c, h⟩
      exact ⟨_, written_of_read h, fun f => (c.value f).isLt⟩
    · rintro ⟨numbers, written, fits⟩
      obtain ⟨c, rfl⟩ := exists_value fits
      exact ⟨c, read_of_written short written⟩
  refine ⟨fun c => ⟨written_of_read, read_of_written short⟩, accepted, fun not_written => ?_⟩
  rw [← accepted] at not_written
  cases h : read text with
  | ok c => exact absurd ⟨c, h⟩ not_written
  | error e =>
    obtain ⟨flaw, rfl⟩ | rfl := read_error h
    · exact ⟨flaw, rfl⟩
    · exact absurd (read_eq_longNumeral_iff.1 h) (not_overlong short)

/-- Leading zeros, another order and the greatest expiry. -/
theorem read_reordered :
    ShortRuns "exp=18446744073709551615,action=007,key=0".toList ∧
      read "exp=18446744073709551615,action=007,key=0" = .ok ⟨7, 0, 18446744073709551615⟩ :=
  have short : ShortRuns "exp=18446744073709551615,action=007,key=0".toList :=
    fun run hrun _ => Nat.le_trans hrun.length_le (by decide)
  have written : Written "exp=18446744073709551615,action=007,key=0"
      fun f => (value ⟨7, 0, 18446744073709551615⟩ f).toNat :=
    ⟨["exp=18446744073709551615", "action=007", "key=0"], [.expiry, .action, .key], by decide,
      by decide,
      .cons ⟨"18446744073709551615".toList, by decide, spells_iff.2 (by decide)⟩
        (.cons ⟨"007".toList, by decide, spells_iff.2 (by decide)⟩
          (.cons ⟨"0".toList, by decide, spells_iff.2 (by decide)⟩ .nil))⟩
  ⟨short, ((read_iff_written short).1 _).2 written⟩

end SubspaceOps.Capability
