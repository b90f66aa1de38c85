import Mathlib.Tactic.SplitIfs
import SubspaceOps.Json.Reader
import SubspaceOps.Json.Writer

/-!
# What is written is read back

The reader finds a value in what the writer makes of it (`read_write`), in every style whose
separators are a comma and a colon with blanks behind them. A written text has no surrogates, so
its code points are those of its characters. Numbers with a point are left out, and
so are values that the reader does not make: numerals beyond its limit and objects with a repeated
member.

The lemmas say what is read from the text of a part followed by any rest, because the parts of a
value are read one after the other. A numeral has no end of its own, so a rest must not go on with
what could belong to it.
-/
namespace SubspaceOps.Json

/-! ## Texts -/

theorem readPoints_unitEscape {n : Nat} (h : n < 0x10000) (cs : List Char) :
    readPoints (unitEscape n ++ cs) = consPoint (.ofUnit n) (readPoints cs) := by
  have digit (m : Nat) : Text.hexValue? (Nat.digitChar (m % 16)) = some (m % 16) :=
    Text.hexValue?_digitChar (Nat.mod_lt _ (by decide))
  have value : unitValue? (Nat.digitChar (n / 16 / 16 / 16 % 16)) (Nat.digitChar (n / 16 / 16 % 16))
      (Nat.digitChar (n / 16 % 16)) (Nat.digitChar (n % 16)) = some n := by
    simp only [unitValue?, digit, Option.pure_def, Option.bind_eq_bind, Option.bind_some,
      Option.some.injEq]
    omega
  simp only [unitEscape, Text.hexPadded, List.nil_append, List.cons_append, readPoints, value]

theorem ofUnit_surrogate (s : Surrogate) : CodePoint.ofUnit s.unit = .surrogate s :=
  dif_pos ⟨s.lower, s.upper⟩

/-- A low surrogate waits for nothing behind it. -/
theorem cons_lowSurrogate {low : Surrogate} (h : low.isHigh = false) (ps : List CodePoint) :
    CodePoint.cons (.surrogate low) ps = .surrogate low :: ps := by
  unfold CodePoint.cons
  split <;> simp_all

theorem consPoint_surrogates {high low : Surrogate} (hhigh : high.isHigh = true)
    (hlow : low.isHigh = false) (r : Read (List CodePoint)) :
    consPoint (.surrogate high) (consPoint (.surrogate low) r) =
      consPoint (.char (high.pair low)) r := by
  cases r with
  | error => rfl
  | ok read =>
    simp only [consPoint, cons_lowSurrogate hlow]
    simp [CodePoint.cons, hhigh, hlow]

theorem readPoints_charEscape (c : Char) (cs : List Char) :
    readPoints (charEscape c ++ cs) = consPoint (.char c) (readPoints cs) := by
  have valid : c.toNat < 0xd800 ∨ 0xdfff < c.toNat ∧ c.toNat < 0x110000 := c.valid
  unfold charEscape
  dsimp only
  split
  · -- a character is never a surrogate, so its single unit stands for itself
    next small =>
    have unpaired : ¬ (0xd800 ≤ c.toNat ∧ c.toNat < 0xe000) := by omega
    rw [readPoints_unitEscape small, CodePoint.ofUnit, dif_neg unpaired, Char.ofNat_toNat]
  · let high : Surrogate := ⟨0xd800 + (c.toNat - 0x10000) / 0x400, by omega, by omega⟩
    let low : Surrogate := ⟨0xdc00 + (c.toNat - 0x10000) % 0x400, by omega, by omega⟩
    have isHigh : high.isHigh = true :=
      decide_eq_true (show 0xd800 + (c.toNat - 0x10000) / 0x400 < 0xdc00 by omega)
    have isLow : low.isHigh = false :=
      decide_eq_false (show ¬ 0xdc00 + (c.toNat - 0x10000) % 0x400 < 0xdc00 by omega)
    have pair : high.pair low = c := by
      rw [Surrogate.pair, show 0x10000 + (0xd800 + (c.toNat - 0x10000) / 0x400 - 0xd800) * 0x400 +
        (0xdc00 + (c.toNat - 0x10000) % 0x400 - 0xdc00) = c.toNat by omega, Char.ofNat_toNat]
    rw [List.append_assoc, readPoints_unitEscape (by omega), readPoints_unitEscape (by omega),
      ofUnit_surrogate high, ofUnit_surrogate low, consPoint_surrogates isHigh isLow, pair]

theorem readPoints_textChar (asciiOnly : Bool) (c : Char) (cs : List Char) :
    readPoints (textChar asciiOnly c ++ cs) = consPoint (.char c) (readPoints cs) := by
  unfold textChar
  split_ifs with quote backslash lineFeed carriageReturn tab backspace formFeed escaped
  · subst quote; rfl
  · subst backslash; rfl
  · subst lineFeed; rfl
  · subst carriageReturn; rfl
  · subst tab; rfl
  · subst backspace; rfl
  · subst formFeed; rfl
  · exact readPoints_charEscape c cs
  · have visible : ¬ c.toNat < 0x20 := fun h => escaped (.inl h)
    rw [List.singleton_append, readPoints, if_neg visible]
    · exact quote
    · exact fun _ _ _ _ _ h _ => backslash h
    · exact fun _ _ h _ => backslash h

theorem readPoints_flatMap (asciiOnly : Bool) (s cs : List Char) :
    readPoints (s.flatMap (textChar asciiOnly) ++ '"' :: cs) = .ok (s.map .char, cs) := by
  induction s with
  | nil => simp [readPoints]
  | cons c s ih =>
    rw [List.flatMap_cons, List.append_assoc, readPoints_textChar, ih]
    rfl

theorem readText_flatMap (asciiOnly : Bool) (s : String) (cs : List Char) :
    readText (s.toList.flatMap (textChar asciiOnly) ++ '"' :: cs) = .ok (↑s, cs) := by
  rw [readText, readPoints_flatMap]
  rfl

/-! ## Numerals -/

/-- The text does not go on with what could belong to a numeral before it. -/
def EndsNumeral (cs : List Char) : Prop :=
  ∀ c ∈ cs.head?, c.isDigit = false ∧ c ≠ '.' ∧ c ≠ 'e' ∧ c ≠ 'E'

theorem toDigits_eq_cons (n : Nat) :
    ∃ d ds, Nat.toDigits 10 n = d :: ds ∧ d.isDigit = true ∧ (d = '0' → ds = []) := by
  induction n using Nat.strongRecOn with
  | ind n ih =>
    by_cases small : n < 10
    · have digit : (Nat.digitChar n).isDigit = true :=
        Nat.isDigit_of_mem_toDigits (by decide) (by decide)
          (Nat.toDigits_of_lt_base small ▸ List.mem_singleton_self _)
      exact ⟨_, [], Nat.toDigits_of_lt_base small, digit, fun _ => rfl⟩
    · obtain ⟨d, ds, h, digit, zero⟩ := ih (n / 10) (by omega)
      refine ⟨d, ds ++ [Nat.digitChar (n % 10)], ?_, digit, fun hd => ?_⟩
      · rw [Nat.toDigits_of_base_le (by decide) (by omega), h, List.cons_append]
      · -- the digits before the last one would be a zero, but they stand for `n / 10`
        have none : n / 10 = 0 := by
          rw [← @Nat.ofDigitChars_ten_toDigits (n / 10), h, hd, zero hd]
          rfl
        omega

theorem integerDigits_toDigits (n : Nat) {cs : List Char} (h : EndsNumeral cs) :
    integerDigits (Nat.toDigits 10 n ++ cs) = (Nat.toDigits 10 n, cs) := by
  obtain ⟨d, ds, hd, -, zero⟩ := toDigits_eq_cons n
  have digits : ∀ c ∈ Nat.toDigits 10 n, c.isDigit = true := fun c hc =>
    Nat.isDigit_of_mem_toDigits (by decide) (by decide) hc
  unfold integerDigits
  split
  · next rest heq =>
    rw [hd, List.cons_append, List.cons.injEq] at heq
    obtain ⟨rfl, rfl⟩ := heq
    rw [hd, zero rfl]
    rfl
  · rw [List.takeWhile_append_of_pos digits, List.dropWhile_append_of_pos digits]
    cases cs with
    | nil => simp
    | cons c cs => simp [(h c rfl).1]

theorem fraction_of_endsNumeral {cs : List Char} (h : EndsNumeral cs) : fraction cs = ([], cs) := by
  unfold fraction
  split
  · exact absurd rfl (h '.' rfl).2.1
  · rfl

theorem exponent_of_endsNumeral {cs : List Char} (h : EndsNumeral cs) :
    exponent cs = (none, cs) := by
  unfold exponent
  split
  · next c rest =>
    have mark : ¬ (c = 'e' ∨ c = 'E') := not_or.2 (h c rfl).2.2
    rw [if_neg mark]
  · rfl

theorem readNumber_toDigits (negative : Bool) {n : Nat} {cs : List Char}
    (fits : (Nat.toDigits 10 n).length ≤ Text.maxDigits) (h : EndsNumeral cs) :
    readNumber negative (Nat.toDigits 10 n ++ cs) =
      .ok (.int (if negative then -(n : Int) else n), cs) := by
  have digits : (Nat.toDigits 10 n).isEmpty = false :=
    List.isEmpty_eq_false_iff.2 Nat.toDigits_ne_nil
  simp [readNumber, integerDigits_toDigits n h, digits, fraction_of_endsNumeral h,
    exponent_of_endsNumeral h, Text.digitsValue?_toDigits fits]

theorem readValue_digit {d : Char} (h : d.isDigit = true) (n : Nat) (cs : List Char) :
    readValue (n + 1) (d :: cs) = readNumber false (d :: cs) := by
  rw [readValue] <;> rintro _ ⟨⟩ <;> exact absurd h (by decide)

theorem readValue_minus {d : Char} (h : d.isDigit = true) (n : Nat) (cs : List Char) :
    readValue (n + 1) ('-' :: d :: cs) = readNumber true (d :: cs) := by
  rw [readValue]
  rintro _ ⟨⟩
  exact absurd h (by decide)

theorem toList_toString_negSucc (n : Nat) :
    (toString (Int.negSucc n)).toList = '-' :: Nat.toDigits 10 (n + 1) := by
  simp [Int.toString_eq_repr, Int.repr, Nat.repr_eq_ofList_toDigits]

theorem toList_toString_ofNat (n : Nat) :
    (toString (Int.ofNat n)).toList = Nat.toDigits 10 n := by
  simp [Int.toString_eq_repr, Int.repr, Nat.repr_eq_ofList_toDigits]

theorem readValue_toString {i : Int} {cs : List Char}
    (fits : (Nat.toDigits 10 i.natAbs).length ≤ Text.maxDigits) (h : EndsNumeral cs) (n : Nat) :
    readValue (n + 1) ((toString i).toList ++ cs) = .ok (.int i, cs) := by
  cases i with
  | ofNat m =>
    obtain ⟨d, ds, hd, digit, -⟩ := toDigits_eq_cons m
    have number := readNumber_toDigits (n := m) false fits h
    rw [hd, List.cons_append] at number
    rw [toList_toString_ofNat, hd, List.cons_append, readValue_digit digit, number]
    rfl
  | negSucc m =>
    obtain ⟨d, ds, hd, digit, -⟩ := toDigits_eq_cons (m + 1)
    have number := readNumber_toDigits (n := m + 1) true fits h
    rw [hd, List.cons_append] at number
    rw [toList_toString_negSucc, hd, List.cons_append, List.cons_append, readValue_minus digit,
      number]
    rfl

/-! ## Separators and blanks -/

/-- The separators are a comma and a colon with blanks behind them. -/
structure Style.Separates (st : Style) : Prop where
  comma : ∃ bs, st.comma = ',' :: bs ∧ ∀ b ∈ bs, Text.isJsonBlank b = true
  colon : ∃ bs, st.colon = ':' :: bs ∧ ∀ b ∈ bs, Text.isJsonBlank b = true

theorem Style.separates_canonical : Style.canonical.Separates :=
  ⟨⟨[], rfl, by simp⟩, [], rfl, by simp⟩

theorem Style.separates_compact : Style.compact.Separates :=
  ⟨⟨[], rfl, by simp⟩, [], rfl, by simp⟩

theorem Style.separates_spaced : Style.spaced.Separates :=
  ⟨⟨[' '], rfl, by simp [Text.isJsonBlank]⟩, [' '], rfl, by simp [Text.isJsonBlank]⟩

theorem skipBlanks_append {bs : List Char} (h : ∀ b ∈ bs, Text.isJsonBlank b = true)
    (cs : List Char) : skipBlanks (bs ++ cs) = skipBlanks cs :=
  List.dropWhile_append_of_pos h

theorem not_blank_of_isDigit {c : Char} (h : c.isDigit = true) : Text.isJsonBlank c = false := by
  rw [← Bool.not_eq_true]
  intro blank
  simp only [Text.isJsonBlank, Bool.or_eq_true, decide_eq_true_eq, or_assoc] at blank
  rcases blank with rfl | rfl | rfl | rfl <;> exact absurd h (by decide)

theorem skipBlanks_of_not_blank {c : Char} (h : Text.isJsonBlank c = false) (cs : List Char) :
    skipBlanks (c :: cs) = c :: cs := by
  rw [skipBlanks, List.dropWhile_cons_of_neg (by simp [h])]

/-! ## Values -/

/-- A value without numbers with a point, numerals beyond the limit of the reader, and repeated
members. -/
inductive Plain : Json → Prop
  | null : Plain .null
  | bool (b : Bool) : Plain (.bool b)
  | int {n : Int} (fits : (Nat.toDigits 10 n.natAbs).length ≤ Text.maxDigits) : Plain (.int n)
  | text (s : String) : Plain (.text s)
  | array {xs : List Json} (items : ∀ x ∈ xs, Plain x) : Plain (.array xs)
  | object {members : List (String × Json)} (distinct : (members.map Prod.fst).Nodup)
      (values : ∀ m ∈ members, Plain m.2) : Plain (.object members)

theorem Plain.array_map {α : Type} {f : α → Json} (h : ∀ a, Plain (f a)) (xs : List α) :
    Plain (.array (xs.map f)) := by
  refine .array fun x hx => ?_
  obtain ⟨a, -, rfl⟩ := List.mem_map.1 hx
  exact h a

theorem mergeMembers_of_nodup {members : List (CodeText × Json CodeText)}
    (h : (members.map Prod.fst).Nodup) : mergeMembers members = members := by
  have table : (Table.ofList members).entries = mergeMembers members :=
    (List.foldl_hom Table.entries fun _ _ => rfl).symm
  rw [← table, Table.ofList_entries ⟨members, h⟩]

theorem nodup_membersInCodePoints {members : List (String × Json)}
    (h : (members.map Prod.fst).Nodup) : ((membersInCodePoints members).map Prod.fst).Nodup := by
  have names (members : List (String × Json)) : (membersInCodePoints members).map Prod.fst =
      (members.map Prod.fst).map CodeText.ofString := by
    induction members with
    | nil => rfl
    | cons m members ih => exact congrArg _ ih
  rw [names]
  exact List.Pairwise.map _ (fun _ _ other same => other (CodeText.ofString_inj.1 same)) h

/-- The value is read from its text, whatever stands behind it. -/
def ReadsBack (st : Style) (x : Json) : Prop :=
  ∀ n rest, (x.chars st).length ≤ n → EndsNumeral rest →
    readValue (n + 1) (x.chars st ++ rest) = .ok (x.inCodePoints, rest)

/-- The text of a value starts with neither a blank nor the end of an array. -/
theorem chars_eq_cons (st : Style) {x : Json} (h : Plain x) :
    ∃ c cs, x.chars st = c :: cs ∧ Text.isJsonBlank c = false ∧ c ≠ ']' := by
  cases h with
  | null => exact ⟨_, _, by rw [chars], by decide, by decide⟩
  | bool b => cases b <;> exact ⟨_, _, by rw [chars], by decide, by decide⟩
  | @int i =>
    cases i with
    | ofNat n =>
      obtain ⟨d, ds, hd, digit, -⟩ := toDigits_eq_cons n
      refine ⟨d, ds, by rw [chars, toList_toString_ofNat, hd], not_blank_of_isDigit digit, ?_⟩
      rintro rfl
      exact absurd digit (by decide)
    | negSucc n => exact ⟨_, _, by rw [chars, toList_toString_negSucc], by decide, by decide⟩
  | text s => exact ⟨_, _, by rw [chars, textChars], by decide, by decide⟩
  | @array xs => cases xs <;> exact ⟨_, _, by rw [chars], by decide, by decide⟩
  | @object members =>
    rcases members with - | ⟨⟨k, x⟩, members⟩ <;> exact ⟨_, _, by rw [chars], by decide, by decide⟩

theorem skipBlanks_chars (st : Style) {x : Json} (h : Plain x) (rest : List Char) :
    skipBlanks (x.chars st ++ rest) = x.chars st ++ rest := by
  obtain ⟨c, cs, hc, not_blank, -⟩ := chars_eq_cons st h
  rw [hc]
  exact skipBlanks_of_not_blank not_blank _

theorem endsNumeral_cons {c : Char} {cs : List Char}
    (h : c.isDigit = false ∧ c ≠ '.' ∧ c ≠ 'e' ∧ c ≠ 'E') : EndsNumeral (c :: cs) := by
  rintro _ ⟨⟩
  exact h

section

variable {st : Style} (sep : st.Separates)
include sep

theorem endsNumeral_itemsChars (xs : List Json) (rest : List Char) :
    EndsNumeral (itemsChars st xs ++ rest) := by
  obtain ⟨bs, hcomma, -⟩ := sep.comma
  cases xs with
  | nil => exact endsNumeral_cons (by decide)
  | cons x xs =>
    rw [itemsChars, hcomma]
    exact endsNumeral_cons (by decide)

theorem endsNumeral_membersChars (members : List (String × Json)) (rest : List Char) :
    EndsNumeral (membersChars st members ++ rest) := by
  obtain ⟨bs, hcomma, -⟩ := sep.comma
  rcases members with - | ⟨⟨k, x⟩, members⟩
  · exact endsNumeral_cons (by decide)
  · rw [membersChars, hcomma]
    exact endsNumeral_cons (by decide)

theorem readItems_chars {x : Json} {xs : List Json} (plain : ∀ y ∈ x :: xs, Plain y)
    (back : ∀ y ∈ x :: xs, ReadsBack st y) {n : Nat} (rest : List Char)
    (fuel : (x.chars st).length + (itemsChars st xs).length ≤ n) :
    readItems (n + 1) (x.chars st ++ (itemsChars st xs ++ rest)) =
      .ok (itemsInCodePoints (x :: xs), rest) := by
  obtain ⟨bs, hcomma, blanks⟩ := sep.comma
  -- what stands behind an element takes at least one character, hence leaves a step for the rest
  induction xs generalizing x n with
  | nil =>
    simp only [itemsChars, List.length_singleton] at fuel
    obtain ⟨n, rfl⟩ := Nat.exists_eq_add_one_of_ne_zero (show n ≠ 0 by omega)
    rw [readItems, back x List.mem_cons_self n _ (by omega) (endsNumeral_itemsChars sep [] rest)]
    rfl
  | cons y ys ih =>
    simp only [itemsChars, hcomma, List.length_append, List.length_cons] at fuel
    obtain ⟨n, rfl⟩ := Nat.exists_eq_add_one_of_ne_zero (show n ≠ 0 by omega)
    have next : skipBlanks (bs ++ (y.chars st ++ (itemsChars st ys ++ rest))) =
        y.chars st ++ (itemsChars st ys ++ rest) := by
      rw [skipBlanks_append blanks, skipBlanks_chars st (plain y (.tail _ List.mem_cons_self))]
    rw [readItems, back x List.mem_cons_self n _ (by omega)
      (endsNumeral_itemsChars sep (y :: ys) rest)]
    simp only [itemsChars, hcomma, List.cons_append, List.append_assoc]
    rw [skipBlanks_of_not_blank (by decide)]
    simp only [next]
    rw [ih (fun z hz => plain z (.tail _ hz)) (fun z hz => back z (.tail _ hz)) (by omega)]
    rfl

theorem readMembers_eq {k : String} {x : Json} (plain : Plain x) (back : ReadsBack st x) {n : Nat}
    (fuel : (x.chars st).length ≤ n) {rest : List Char} (ends : EndsNumeral rest) :
    readMembers (n + 2) (textChars st.asciiOnly k.toList ++ (st.colon ++ (x.chars st ++ rest))) =
      match skipBlanks rest with
      | '\x7d' :: cs => .ok ([(↑k, x.inCodePoints)], cs)
      | ',' :: cs =>
        match readMembers (n + 1) (skipBlanks cs) with
        | .ok (members, cs) => .ok ((↑k, x.inCodePoints) :: members, cs)
        | .error e => .error e
      | _ => .error .malformed := by
  obtain ⟨bs, hcolon, blanks⟩ := sep.colon
  have value : readValue (n + 1) (skipBlanks (bs ++ (x.chars st ++ rest))) =
      .ok (x.inCodePoints, rest) := by
    rw [skipBlanks_append blanks, skipBlanks_chars st plain, back n rest fuel ends]
  have key : textChars st.asciiOnly k.toList ++ (st.colon ++ (x.chars st ++ rest)) =
      '"' :: (k.toList.flatMap (textChar st.asciiOnly) ++
        '"' :: ':' :: (bs ++ (x.chars st ++ rest))) := by
    simp [textChars, hcolon]
  rw [key, readMembers, readText_flatMap]
  dsimp only
  rw [skipBlanks_of_not_blank (by decide)]
  simp only
  generalize readValue (n + 1) (skipBlanks (bs ++ (x.chars st ++ rest))) = read at value ⊢
  subst value
  rfl

theorem readMembers_chars {k : String} {x : Json} {members : List (String × Json)}
    (plain : ∀ m ∈ (k, x) :: members, Plain m.2)
    (back : ∀ m ∈ (k, x) :: members, ReadsBack st m.2) {n : Nat} (rest : List Char)
    (fuel : (x.chars st).length + (membersChars st members).length ≤ n) :
    readMembers (n + 1) (textChars st.asciiOnly k.toList ++
      (st.colon ++ (x.chars st ++ (membersChars st members ++ rest)))) =
        .ok (membersInCodePoints ((k, x) :: members), rest) := by
  obtain ⟨bs, hcomma, blanks⟩ := sep.comma
  induction members generalizing k x n with
  | nil =>
    simp only [membersChars, List.length_singleton] at fuel
    obtain ⟨n, rfl⟩ := Nat.exists_eq_add_one_of_ne_zero (show n ≠ 0 by omega)
    have first : (x.chars st).length ≤ n := by omega
    rw [readMembers_eq sep (plain _ List.mem_cons_self) (back _ List.mem_cons_self) first
      (endsNumeral_membersChars sep [] rest)]
    rfl
  | cons m members ih =>
    obtain ⟨k', x'⟩ := m
    simp only [membersChars, hcomma, List.length_append, List.length_cons] at fuel
    obtain ⟨n, rfl⟩ := Nat.exists_eq_add_one_of_ne_zero (show n ≠ 0 by omega)
    have first : (x.chars st).length ≤ n := by omega
    have next : skipBlanks (bs ++ (textChars st.asciiOnly k'.toList ++ (st.colon ++
        (x'.chars st ++ (membersChars st members ++ rest))))) = textChars st.asciiOnly k'.toList ++
          (st.colon ++ (x'.chars st ++ (membersChars st members ++ rest))) := by
      rw [skipBlanks_append blanks]
      exact skipBlanks_of_not_blank (by decide) _
    rw [readMembers_eq sep (plain _ List.mem_cons_self) (back _ List.mem_cons_self) first
      (endsNumeral_membersChars sep ((k', x') :: members) rest)]
    simp only [membersChars, hcomma, List.cons_append, List.append_assoc]
    rw [skipBlanks_of_not_blank (by decide)]
    simp only [next]
    rw [ih (fun z hz => plain z (.tail _ hz)) (fun z hz => back z (.tail _ hz)) (by omega)]
    rfl

/-- Every plain value is read from its text, in any place. -/
theorem readsBack_of_plain {x : Json} (h : Plain x) : ReadsBack st x := by
  induction h with
  | null => exact fun n rest _ _ => rfl
  | bool b => exact fun n rest _ _ => by cases b <;> rfl
  | int fits =>
    intro n rest _ ends
    rw [chars]
    exact readValue_toString fits ends n
  | text s =>
    intro n rest _ _
    rw [chars, textChars, List.cons_append, List.append_assoc, readValue,
      List.singleton_append, readText_flatMap]
    rfl
  | @array xs plain back =>
    intro n rest fuel _
    cases xs with
    | nil => rfl
    | cons x xs =>
      simp only [chars, List.length_cons, List.length_append] at fuel
      obtain ⟨n, rfl⟩ := Nat.exists_eq_add_one_of_ne_zero (show n ≠ 0 by omega)
      obtain ⟨c, cs, hc, not_blank, not_end⟩ := chars_eq_cons st (plain x List.mem_cons_self)
      have items := readItems_chars sep plain back (n := n) rest (by omega)
      rw [hc, List.cons_append] at items
      rw [chars, List.cons_append, List.append_assoc, readValue, hc, List.cons_append,
        skipBlanks_of_not_blank not_blank]
      split
      · -- no value starts with the bracket that would make this the empty array
        next heq => exact absurd (List.cons.inj heq).1 not_end
      · rw [items]
        rfl
  | @object members distinct plain back =>
    intro n rest fuel _
    rcases members with - | ⟨⟨k, x⟩, members⟩
    · rfl
    · simp only [chars, List.length_cons, List.length_append] at fuel
      obtain ⟨n, rfl⟩ := Nat.exists_eq_add_one_of_ne_zero (show n ≠ 0 by omega)
      have read := readMembers_chars sep plain back (n := n) rest (by omega)
      rw [textChars, List.cons_append] at read
      rw [chars, List.cons_append, readValue, textChars]
      simp only [List.append_assoc, List.cons_append] at read ⊢
      rw [skipBlanks_of_not_blank (by decide)]
      split
      · next heq => exact absurd (List.cons.inj heq).1 (by decide)
      · simp only [read, mergeMembers_of_nodup (nodup_membersInCodePoints distinct)]
        rfl

/-- What is written is read back. -/
theorem read_write {x : Json} (h : Plain x) : Json.read (x.write st) = .ok x.inCodePoints := by
  have start := skipBlanks_chars st h []
  have value := readsBack_of_plain sep h _ [] (Nat.le_refl _) (by simp [EndsNumeral])
  rw [List.append_nil] at start value
  rw [Json.read, write, String.toList_ofList, start, String.length_ofList, value]
  rfl

end

end SubspaceOps.Json
