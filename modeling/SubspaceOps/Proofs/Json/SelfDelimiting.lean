import SubspaceOps.Proofs.Json.RoundTrip

/-!
# Texts that show where they end

Values are written without lengths, so a text that holds several of them is unambiguous only when
each value shows where it ends. Texts and arrays do so by their last character, which is escaped or
balanced inside of them; a numeral does when no digit follows. A family of values inherits this from
its members when it is written as arrays.
-/
namespace SubspaceOps.Json

variable {α : Type} {st : Style} {f : α → Json}

/-- From the text of a value of the family and a rest, both are known, if the rest does not go on
with what could belong to a numeral. -/
def SelfDelimiting (st : Style) (f : α → Json) : Prop :=
  ∀ ⦃a b : α⦄ ⦃rest rest' : List Char⦄, EndsNumeral rest → EndsNumeral rest' →
    (f a).chars st ++ rest = (f b).chars st ++ rest' → a = b ∧ rest = rest'

theorem selfDelimiting_text (st : Style) : SelfDelimiting st .text := by
  intro s t rest rest' _ _ h
  simp only [chars, textChars, List.cons_append, List.append_assoc, List.nil_append,
    List.cons.injEq, true_and] at h
  have read := readText_flatMap st.asciiOnly s rest
  rw [h, readText_flatMap] at read
  obtain ⟨same, behind⟩ := Prod.mk.inj (Except.ok.inj read)
  exact ⟨(CodeText.ofString_inj.1 same).symm, behind.symm⟩

theorem toDigits_append_inj {m n : Nat} {rest rest' : List Char} (ends : EndsNumeral rest)
    (ends' : EndsNumeral rest') (h : Nat.toDigits 10 m ++ rest = Nat.toDigits 10 n ++ rest') :
    m = n ∧ rest = rest' := by
  have cut := integerDigits_toDigits m ends
  rw [h, integerDigits_toDigits n ends', Prod.mk.injEq] at cut
  obtain ⟨digits, rfl⟩ := cut
  refine ⟨?_, rfl⟩
  calc
    m = Nat.ofDigitChars 10 (Nat.toDigits 10 m) 0 := Nat.ofDigitChars_ten_toDigits.symm
    _ = Nat.ofDigitChars 10 (Nat.toDigits 10 n) 0 := by rw [digits]
    _ = n := Nat.ofDigitChars_ten_toDigits

/-- A numeral ends with its last digit, whatever its length. -/
theorem selfDelimiting_int (st : Style) : SelfDelimiting st .int := by
  -- a digit is not a minus sign
  have mixed {m n : Nat} {rest rest' : List Char} :
      Nat.toDigits 10 m ++ rest ≠ '-' :: Nat.toDigits 10 (n + 1) ++ rest' := by
    obtain ⟨d, ds, hd, digit, -⟩ := toDigits_eq_cons m
    rw [hd]
    intro h
    obtain ⟨rfl, -⟩ := List.cons.inj h
    exact absurd digit (by decide)
  intro i j rest rest' ends ends' h
  rw [chars, chars] at h
  cases i with
  | ofNat m =>
    rw [toList_toString_ofNat] at h
    cases j with
    | ofNat n =>
      rw [toList_toString_ofNat] at h
      obtain ⟨rfl, rfl⟩ := toDigits_append_inj ends ends' h
      exact ⟨rfl, rfl⟩
    | negSucc n =>
      rw [toList_toString_negSucc] at h
      exact absurd h mixed
  | negSucc m =>
    rw [toList_toString_negSucc] at h
    cases j with
    | ofNat n =>
      rw [toList_toString_ofNat] at h
      exact absurd h.symm mixed
    | negSucc n =>
      rw [toList_toString_negSucc, List.cons_append, List.cons_append] at h
      obtain ⟨same, rfl⟩ := toDigits_append_inj ends ends' (List.cons.inj h).2
      cases Nat.succ.inj same
      exact ⟨rfl, rfl⟩

section

variable (sep : st.Separates) (delimiting : SelfDelimiting st f)
include sep delimiting

theorem SelfDelimiting.items {xs ys : List α} {rest rest' : List Char}
    (h : itemsChars st (xs.map f) ++ rest = itemsChars st (ys.map f) ++ rest') :
    xs = ys ∧ rest = rest' := by
  obtain ⟨bs, hcomma, -⟩ := sep.comma
  induction xs generalizing ys with
  | nil =>
    cases ys with
    | nil => exact ⟨rfl, (List.cons.inj h).2⟩
    | cons y ys =>
      simp only [List.map_nil, List.map_cons, itemsChars, hcomma, List.cons_append] at h
      exact absurd (List.cons.inj h).1 (by decide)
  | cons x xs ih =>
    cases ys with
    | nil =>
      simp only [List.map_nil, List.map_cons, itemsChars, hcomma, List.cons_append] at h
      exact absurd (List.cons.inj h).1 (by decide)
    | cons y ys =>
      simp only [List.map_cons, itemsChars, List.append_assoc] at h
      obtain ⟨rfl, tails⟩ := delimiting (endsNumeral_itemsChars sep _ rest)
        (endsNumeral_itemsChars sep _ rest') (List.append_cancel_left h)
      obtain ⟨rfl, rfl⟩ := ih tails
      exact ⟨rfl, rfl⟩

/-- Arrays of such values are such values themselves. -/
theorem SelfDelimiting.array (plain : ∀ a, Plain (f a)) :
    SelfDelimiting st fun xs : List α => .array (xs.map f) := by
  -- no element starts with the bracket that would make this the empty array
  have opened {y : α} {tail rest : List Char} : ']' :: rest ≠ (f y).chars st ++ tail := by
    obtain ⟨c, cs, hc, -, not_end⟩ := chars_eq_cons st (plain y)
    rw [hc]
    intro h
    exact not_end (List.cons.inj h).1.symm
  intro xs ys rest rest' _ _ h
  cases xs with
  | nil =>
    cases ys with
    | nil => exact ⟨rfl, by simpa using h⟩
    | cons y ys =>
      simp only [List.map_nil, List.map_cons, chars, List.cons_append, List.append_assoc,
        List.cons.injEq, true_and] at h
      exact absurd h opened
  | cons x xs =>
    cases ys with
    | nil =>
      simp only [List.map_nil, List.map_cons, chars, List.cons_append, List.append_assoc,
        List.cons.injEq, true_and] at h
      exact absurd h.symm opened
    | cons y ys =>
      simp only [List.map_cons, chars, List.cons_append, List.append_assoc, List.cons.injEq,
        true_and] at h
      obtain ⟨rfl, tails⟩ := delimiting (endsNumeral_itemsChars sep _ rest)
        (endsNumeral_itemsChars sep _ rest') h
      obtain ⟨rfl, rfl⟩ := SelfDelimiting.items sep delimiting tails
      exact ⟨rfl, rfl⟩

end

end SubspaceOps.Json
