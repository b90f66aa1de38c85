import SubspaceOps.Text.Numeral

/-!
# The grammar of numerals

A numeral consists of digits of any script behind an optional sign; neighbouring digits may have one
underscore between them, blanks may stand around the whole, and there is a limit to the number of
digits (`Denotes`). The reader accepts exactly these texts (`readInteger?_eq_some_iff`). An integer
that is written in decimal is a numeral for itself, unless it is too long (`denotes_toString`).
-/
namespace SubspaceOps.Text

/-- Digits of any script with these values, with single underscores between some of them. -/
inductive DigitRun : List Char → List Nat → Prop
  | last {c : Char} {d : Nat} (digit : digitValue? c = some d) : DigitRun [c] [d]
  | next {c : Char} {d : Nat} {cs : List Char} {ds : List Nat} (digit : digitValue? c = some d)
      (rest : DigitRun cs ds) : DigitRun (c :: cs) (d :: ds)
  | spaced {c : Char} {d : Nat} {cs : List Char} {ds : List Nat} (digit : digitValue? c = some d)
      (rest : DigitRun cs ds) : DigitRun (c :: '_' :: cs) (d :: ds)

/-- The digits stand for the number, and they are not more than are read. -/
def Spelled (cs : List Char) (n : Nat) : Prop :=
  ∃ ds, DigitRun cs ds ∧ ds.length ≤ maxDigits ∧ ofDigits ds = n

/-- Digits for a number behind an optional sign. -/
inductive Signed : List Char → Int → Prop
  | unsigned {cs : List Char} {n : Nat} (h : Spelled cs n) : Signed cs n
  | positive {cs : List Char} {n : Nat} (h : Spelled cs n) : Signed ('+' :: cs) n
  | negative {cs : List Char} {n : Nat} (h : Spelled cs n) : Signed ('-' :: cs) (-n)

/-- The text is a numeral for the integer, with blanks around it. -/
def Denotes (s : String) (n : Int) : Prop :=
  ∃ before numeral after, s.toList = before ++ numeral ++ after ∧
    (∀ c ∈ before, isBlank c = true) ∧ (∀ c ∈ after, isBlank c = true) ∧ Signed numeral n

/-! ## Digits -/

variable {c : Char} {cs : List Char} {d : Nat} {ds : List Nat} {n : Nat}

theorem isBlank_of_isSome (h : (digitValue? c).isSome) : isBlank c = false := by
  have apart : ∀ z ∈ digitZeros, ∀ r ∈ blankRanges, r.2 < z ∨ z + 10 ≤ r.1 := by decide
  rw [digitValue?, Option.isSome_map] at h
  obtain ⟨z, hz⟩ := Option.isSome_iff_exists.1 h
  have near := List.find?_some hz
  simp only [Bool.and_eq_true, decide_eq_true_eq] at near
  rw [Bool.eq_false_iff, isBlank, Ne, CodeRanges.has_iff]
  rintro ⟨r, hr, above, below⟩
  rcases apart z (List.mem_of_find?_eq_some hz) r hr with h | h <;> omega

theorem DigitRun.head_digit (h : DigitRun cs ds) :
    ∃ c cs', cs = c :: cs' ∧ (digitValue? c).isSome := by
  cases h with
  | last digit => exact ⟨_, _, rfl, Option.isSome_of_eq_some digit⟩
  | next digit _ => exact ⟨_, _, rfl, Option.isSome_of_eq_some digit⟩
  | spaced digit _ => exact ⟨_, _, rfl, Option.isSome_of_eq_some digit⟩

theorem DigitRun.last_digit (h : DigitRun cs ds) :
    ∃ cs' c, cs = cs' ++ [c] ∧ (digitValue? c).isSome := by
  induction h with
  | last digit => exact ⟨[], _, rfl, Option.isSome_of_eq_some digit⟩
  | @next a _ _ _ digit rest ih =>
    obtain ⟨cs', c, rfl, hc⟩ := ih
    exact ⟨a :: cs', c, rfl, hc⟩
  | @spaced a _ _ _ digit rest ih =>
    obtain ⟨cs', c, rfl, hc⟩ := ih
    exact ⟨a :: '_' :: cs', c, rfl, hc⟩

theorem digitRun?_eq_some_iff : digitRun? cs = some ds ↔ DigitRun cs ds := by
  constructor
  · intro h
    fun_induction digitRun? cs generalizing ds with
    | case1 => cases h
    | case2 c =>
      obtain ⟨d, digit, rfl⟩ := Option.map_eq_some_iff.1 h
      exact .last digit
    | case3 c cs ih =>
      simp only [Option.bind_eq_bind, Option.bind_eq_some_iff] at h
      obtain ⟨d, digit, ds, run, ⟨⟩⟩ := h
      exact .spaced digit (ih run)
    | case4 c cs _ _ ih =>
      simp only [Option.bind_eq_bind, Option.bind_eq_some_iff] at h
      obtain ⟨d, digit, ds, run, ⟨⟩⟩ := h
      exact .next digit (ih run)
  · intro h
    induction h with
    | last digit => simp [digitRun?, digit]
    | @next c d cs ds digit rest ih =>
      -- What comes next is a digit, so neither of the clauses before applies.
      obtain ⟨c', cs', rfl, hc'⟩ := rest.head_digit
      rw [digitRun?, digit, ih]
      · rfl
      · exact List.cons_ne_nil _ _
      · rintro _ ⟨⟩
        exact absurd hc' (by decide)
    | spaced digit rest ih => simp [digitRun?, digit, ih]

theorem readNatural?_eq_some_iff : readNatural? cs = some n ↔ Spelled cs n := by
  simp only [readNatural?, Option.bind_eq_bind, Option.bind_eq_some_iff, digitRun?_eq_some_iff,
    Option.ite_none_right_eq_some, Option.some.injEq, Spelled]

/-! ## Blanks -/

theorem trimBlanks_append {before numeral after : List Char}
    (blank_before : ∀ c ∈ before, isBlank c = true) (blank_after : ∀ c ∈ after, isBlank c = true)
    (first : ∃ c cs, numeral = c :: cs ∧ isBlank c = false)
    (last : ∃ cs c, numeral = cs ++ [c] ∧ isBlank c = false) :
    trimBlanks (before ++ numeral ++ after) = numeral := by
  have front : (before ++ numeral ++ after).dropWhile isBlank = numeral ++ after := by
    obtain ⟨c, cs, rfl, hc⟩ := first
    rw [List.append_assoc, List.dropWhile_append_of_pos blank_before, List.cons_append,
      List.dropWhile_cons_of_neg (by simp [hc])]
  have back : (numeral ++ after).reverse.dropWhile isBlank = numeral.reverse := by
    obtain ⟨cs, c, rfl, hc⟩ := last
    rw [List.reverse_append, List.dropWhile_append_of_pos (by simpa using blank_after),
      List.reverse_append, List.reverse_singleton, List.singleton_append,
      List.dropWhile_cons_of_neg (by simp [hc])]
  rw [trimBlanks, front, back, List.reverse_reverse]

theorem exists_blanks_trimBlanks (cs : List Char) :
    ∃ before after, cs = before ++ trimBlanks cs ++ after ∧
      (∀ c ∈ before, isBlank c = true) ∧ ∀ c ∈ after, isBlank c = true := by
  have whole (l : List Char) : l.takeWhile isBlank ++ l.dropWhile isBlank = l :=
    List.takeWhile_append_dropWhile
  have blank (l : List Char) : ∀ c ∈ l.takeWhile isBlank, isBlank c = true :=
    List.all_eq_true.1 List.all_takeWhile
  let rest := cs.dropWhile isBlank
  refine ⟨cs.takeWhile isBlank, (rest.reverse.takeWhile isBlank).reverse, ?_, blank cs, ?_⟩
  · rw [trimBlanks, List.append_assoc, ← List.reverse_append, whole, List.reverse_reverse, whole]
  · exact fun c hc => blank _ c (List.mem_reverse.1 hc)

/-! ## Numerals -/

variable {s : String} {i : Int}

theorem Spelled.first (h : Spelled cs n) : ∃ c cs', cs = c :: cs' ∧ (digitValue? c).isSome := by
  obtain ⟨ds, run, -⟩ := h
  exact run.head_digit

theorem Spelled.last (h : Spelled cs n) : ∃ cs' c, cs = cs' ++ [c] ∧ (digitValue? c).isSome := by
  obtain ⟨ds, run, -⟩ := h
  exact run.last_digit

theorem Signed.first (h : Signed cs i) : ∃ c cs', cs = c :: cs' ∧ isBlank c = false := by
  cases h with
  | unsigned h =>
    obtain ⟨c, cs', rfl, hc⟩ := h.first
    exact ⟨c, cs', rfl, isBlank_of_isSome hc⟩
  | positive h => exact ⟨_, _, rfl, by decide⟩
  | negative h => exact ⟨_, _, rfl, by decide⟩

theorem Signed.last (h : Signed cs i) : ∃ cs' c, cs = cs' ++ [c] ∧ isBlank c = false := by
  cases h with
  | unsigned h =>
    obtain ⟨cs', c, rfl, hc⟩ := h.last
    exact ⟨cs', c, rfl, isBlank_of_isSome hc⟩
  | positive h =>
    obtain ⟨cs', c, rfl, hc⟩ := h.last
    exact ⟨'+' :: cs', c, rfl, isBlank_of_isSome hc⟩
  | negative h =>
    obtain ⟨cs', c, rfl, hc⟩ := h.last
    exact ⟨'-' :: cs', c, rfl, isBlank_of_isSome hc⟩

/-- The reader accepts exactly the numerals, as the integers that they denote. -/
theorem readInteger?_eq_some_iff : readInteger? s = some i ↔ Denotes s i := by
  constructor
  · intro h
    have signed : Signed (trimBlanks s.toList) i := by
      unfold readInteger? at h
      split at h
      · next cs trimmed =>
        obtain ⟨_, lifted, rfl⟩ := Option.map_eq_some_iff.1 h
        obtain ⟨n, hn, ⟨⟩⟩ := Option.bind_eq_some_iff.1 lifted
        rw [trimmed]
        exact .negative (readNatural?_eq_some_iff.1 hn)
      · next cs trimmed =>
        obtain ⟨n, hn, rfl⟩ := Option.map_eq_some_iff.1 h
        rw [trimmed]
        exact .positive (readNatural?_eq_some_iff.1 hn)
      · obtain ⟨n, hn, rfl⟩ := Option.map_eq_some_iff.1 h
        exact .unsigned (readNatural?_eq_some_iff.1 hn)
    obtain ⟨before, after, text, blank_before, blank_after⟩ := exists_blanks_trimBlanks s.toList
    exact ⟨before, _, after, text, blank_before, blank_after, signed⟩
  · rintro ⟨before, numeral, after, text, blank_before, blank_after, signed⟩
    have trimmed : trimBlanks s.toList = numeral := by
      rw [text, trimBlanks_append blank_before blank_after signed.first signed.last]
    rw [readInteger?, trimmed]
    cases signed with
    | unsigned h =>
      -- A digit is no sign, so the number is read from its first digit on.
      obtain ⟨c, cs', rfl, hc⟩ := h.first
      split
      · next eq =>
        cases eq
        exact absurd hc (by decide)
      · next eq =>
        cases eq
        exact absurd hc (by decide)
      · rw [readNatural?_eq_some_iff.2 h]
        rfl
    | positive h =>
      simp only [readNatural?_eq_some_iff.2 h]
      rfl
    | negative h =>
      simp only [readNatural?_eq_some_iff.2 h]
      rfl

/-- The characters that numerals are made of. -/
def isNumeric (c : Char) : Bool :=
  isBlank c || c = '+' || c = '-' || c = '_' || (digitValue? c).isSome

theorem Spelled.isNumeric_of_mem (h : Spelled cs n) : ∀ c ∈ cs, isNumeric c = true := by
  obtain ⟨ds, run, -⟩ := h
  induction run with
  | last digit => simp [isNumeric, digit]
  | next digit _ ih =>
    rw [List.forall_mem_cons]
    exact ⟨by simp [isNumeric, digit], ih⟩
  | spaced digit _ ih =>
    rw [List.forall_mem_cons, List.forall_mem_cons]
    exact ⟨by simp [isNumeric, digit], by decide, ih⟩

theorem Signed.isNumeric_of_mem (h : Signed cs i) : ∀ c ∈ cs, isNumeric c = true := by
  cases h with
  | unsigned h => exact h.isNumeric_of_mem
  | positive h => exact List.forall_mem_cons.2 ⟨by decide, h.isNumeric_of_mem⟩
  | negative h => exact List.forall_mem_cons.2 ⟨by decide, h.isNumeric_of_mem⟩

theorem Denotes.not_mem (h : Denotes s i) (other : isNumeric c = false) : c ∉ s.toList := by
  obtain ⟨before, numeral, after, text, blank_before, blank_after, signed⟩ := h
  intro hc
  rw [text, List.mem_append, List.mem_append] at hc
  have numeric : isNumeric c = true := by
    rcases hc with (hc | hc) | hc
    · simp [isNumeric, blank_before c hc]
    · exact signed.isNumeric_of_mem c hc
    · simp [isNumeric, blank_after c hc]
  cases numeric.symm.trans other

/-! ## Written integers -/

/-- The decimal form of the integer has no more digits than are read. -/
def FewDigits (i : Int) : Prop := (Nat.toDigits 10 i.natAbs).length ≤ maxDigits

theorem digitRun_of_forall_isDigit (h : ∀ c ∈ cs, c.isDigit = true) (filled : cs ≠ []) :
    DigitRun cs (cs.map fun c => c.toNat - '0'.toNat) := by
  induction cs with
  | nil => exact absurd rfl filled
  | cons c cs ih =>
    rw [List.forall_mem_cons] at h
    have digit := digitValue?_of_isDigit h.1
    by_cases more : cs = []
    · subst more
      exact .last digit
    · exact .next digit (ih h.2 more)

theorem spelled_of_isDigits (h : isDigits cs = true) (few : cs.length ≤ maxDigits) :
    Spelled cs (Nat.ofDigitChars 10 cs 0) := by
  simp only [isDigits, Bool.and_eq_true, Bool.not_eq_true', List.isEmpty_eq_false_iff,
    List.all_eq_true] at h
  refine ⟨_, digitRun_of_forall_isDigit h.2 h.1, by rwa [List.length_map], ?_⟩
  rw [ofDigits, List.foldl_map]
  rfl

theorem denotes_toString (h : FewDigits i) : Denotes (toString i) i := by
  have spelled (n : Nat) (few : (Nat.toDigits 10 n).length ≤ maxDigits) :
      Spelled (Nat.toDigits 10 n) n := by
    simpa using spelled_of_isDigits (isDigits_toDigits n) few
  refine ⟨[], (toString i).toList, [], by simp, nofun, nofun, ?_⟩
  cases i with
  | ofNat n =>
    have text : toString (Int.ofNat n) = toString n := rfl
    rw [text, Nat.toString_eq_ofList_toDigits, String.toList_ofList]
    exact .unsigned (spelled n h)
  | negSucc n =>
    have text : toString (Int.negSucc n) = "-" ++ toString (n + 1) := rfl
    rw [text, Nat.toString_eq_ofList_toDigits, String.toList_append, String.toList_ofList,
      String.toList_ofList]
    exact .negative (spelled (n + 1) h)

end SubspaceOps.Text
