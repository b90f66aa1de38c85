import SubspaceOps.Proofs.Json.RoundTrip

/-!
# Texts that stand in JSON as they are

A text without quotes, backslashes and control characters is its own JSON form. For every other
text the reader takes more characters than it gives: `readText_cases` counts them. Since the readers
of values and members never give back more than they were given, no text that is read from the
members of an object is as long as what it was read from (`length_lt_of_readMembers`).
-/
namespace SubspaceOps.Json

/-! ## Verbatim texts -/

/-- The character stands for itself between the quotes of a text. -/
def IsVerbatim (c : Char) : Prop := c ≠ '"' ∧ c ≠ '\\' ∧ 0x20 ≤ c.toNat

instance : DecidablePred IsVerbatim := fun _ => inferInstanceAs (Decidable (_ ∧ _ ∧ _))

/-- The text stands for itself between quotes. -/
def Verbatim (s : String) : Prop := ∀ c ∈ s.toList, IsVerbatim c

instance : DecidablePred Verbatim := fun s => List.decidableBAll IsVerbatim s.toList

theorem verbatim_append {s t : String} : Verbatim (s ++ t) ↔ Verbatim s ∧ Verbatim t := by
  simp only [Verbatim, String.toList_append, List.forall_mem_append]

theorem Verbatim.not_mem {s : String} (h : Verbatim s) {c : Char} (hc : ¬ IsVerbatim c) :
    c ∉ s.toList :=
  fun hmem => hc (h c hmem)

theorem isVerbatim_of_isDigit {c : Char} (h : c.isDigit = true) : IsVerbatim c := by
  have range : 0x30 ≤ c.toNat := by
    simp only [Char.isDigit, Bool.and_eq_true, decide_eq_true_eq] at h
    exact h.1
  refine ⟨?_, ?_, by omega⟩ <;> rintro rfl <;> exact absurd h (by decide)

theorem isVerbatim_of_mem_toDigits {n : Nat} {c : Char} (h : c ∈ Nat.toDigits 10 n) :
    IsVerbatim c :=
  isVerbatim_of_isDigit (Nat.isDigit_of_mem_toDigits (by decide) (by decide) h)

theorem textChar_of_isVerbatim {c : Char} (h : IsVerbatim c) : textChar false c = [c] := by
  obtain ⟨quote, backslash, visible⟩ := h
  have other {d : Char} (hd : d.toNat < 0x20) : c ≠ d := by
    rintro rfl
    omega
  have visible : ¬ (c.toNat < 0x20 ∨ (false = true ∧ 0x7f ≤ c.toNat)) := by
    simpa using visible
  rw [textChar, if_neg quote, if_neg backslash, if_neg (other (by decide)),
    if_neg (other (by decide)), if_neg (other (by decide)), if_neg (other (by decide)),
    if_neg (other (by decide)), if_neg visible]

theorem flatMap_textChar {cs : List Char} (h : ∀ c ∈ cs, IsVerbatim c) :
    cs.flatMap (textChar false) = cs := by
  induction cs with
  | nil => rfl
  | cons c cs ih =>
    rw [List.forall_mem_cons] at h
    rw [List.flatMap_cons, textChar_of_isVerbatim h.1, ih h.2, List.singleton_append]

theorem readText_of_verbatim {s : String} (h : Verbatim s) (cs : List Char) :
    readText (s.toList ++ '"' :: cs) = .ok (↑s, cs) := by
  have read := readText_flatMap false s cs
  rwa [flatMap_textChar h] at read

/-! ## What the reader of texts takes -/

theorem length_cons_le (p : CodePoint) (ps : List CodePoint) :
    (p.cons ps).length ≤ ps.length + 1 := by
  unfold CodePoint.cons
  split
  · split <;> simp
  · simp

theorem length_points (s : String) : (s : CodeText).points.length = s.length := by
  rw [CodeText.ofString, List.length_map, String.length_toList]

theorem consPoint_eq_ok {p : CodePoint} {r : Read (List CodePoint)} {ps : List CodePoint}
    {rest : List Char} (h : consPoint p r = .ok (ps, rest)) :
    ∃ ps', r = .ok (ps', rest) ∧ ps = p.cons ps' := by
  unfold consPoint at h
  split at h
  · cases h
    exact ⟨_, rfl, rfl⟩
  · cases h

/-- The code points of a text are at most as many as the characters that are taken for them, and as
many only where each of these stands for itself. -/
theorem readPoints_cases {cs rest : List Char} {ps : List CodePoint}
    (h : readPoints cs = .ok (ps, rest)) :
    ∃ taken, cs = taken ++ '"' :: rest ∧ ps.length ≤ taken.length ∧
      (ps.length = taken.length → ∀ c ∈ taken, IsVerbatim c) := by
  fun_induction readPoints cs generalizing ps with
  | case1 => cases h
  | case2 cs =>
    cases h
    exact ⟨[], rfl, by simp, fun _ => List.forall_mem_nil _⟩
  | case3 a b c d cs hn => cases h
  | case4 a b c d cs n hn ih =>
    obtain ⟨ps', hps, rfl⟩ := consPoint_eq_ok h
    obtain ⟨taken, rfl, count, -⟩ := ih hps
    have := length_cons_le (.ofUnit n) ps'
    refine ⟨'\\' :: 'u' :: a :: b :: c :: d :: taken, rfl, ?_, fun e => ?_⟩
    · simp only [List.length_cons]
      omega
    · simp only [List.length_cons] at e
      omega
  | case5 => cases h
  | case6 c cs _ c' hc ih =>
    obtain ⟨ps', hps, rfl⟩ := consPoint_eq_ok h
    obtain ⟨taken, rfl, count, -⟩ := ih hps
    have := length_cons_le (.char c') ps'
    refine ⟨'\\' :: c :: taken, rfl, ?_, fun e => ?_⟩
    · simp only [List.length_cons]
      omega
    · simp only [List.length_cons] at e
      omega
  | case7 => cases h
  | case8 c cs quote unit escape visible ih =>
    obtain ⟨ps', hps, rfl⟩ := consPoint_eq_ok h
    obtain ⟨taken, rfl, count, all⟩ := ih hps
    have single : (CodePoint.cons (.char c) ps').length = ps'.length + 1 := by
      simp [CodePoint.cons]
    -- a backslash would be followed by the character that it escapes
    have backslash : c ≠ '\\' := fun e => by
      cases taken with
      | nil => exact escape _ _ e rfl
      | cons => exact escape _ _ e rfl
    refine ⟨c :: taken, rfl, ?_, fun e => ?_⟩
    · simp only [List.length_cons]
      omega
    · rw [single, List.length_cons, Nat.add_right_cancel_iff] at e
      exact List.forall_mem_cons.2 ⟨⟨quote, backslash, by omega⟩, all e⟩

theorem readText_cases {cs rest : List Char} {s : CodeText} (h : readText cs = .ok (s, rest)) :
    ∃ taken, cs = taken ++ '"' :: rest ∧ s.points.length ≤ taken.length ∧
      (s.points.length = taken.length → ∀ c ∈ taken, IsVerbatim c) := by
  unfold readText at h
  split at h
  · next hps =>
    cases h
    exact readPoints_cases hps
  · cases h

/-! ## What the other readers take -/

theorem readMembers_succ {n : Nat} {cs rest : List Char}
    {members : List (CodeText × Json CodeText)}
    (h : readMembers (n + 1) cs = .ok (members, rest)) :
    ∃ cs₁ k cs₂ cs₃ x cs₄, cs = '"' :: cs₁ ∧ readText cs₁ = .ok (k, cs₂) ∧
      skipBlanks cs₂ = ':' :: cs₃ ∧ readValue n (skipBlanks cs₃) = .ok (x, cs₄) ∧
        ((skipBlanks cs₄ = '\x7d' :: rest ∧ members = [(k, x)]) ∨
          ∃ cs₅ others, skipBlanks cs₄ = ',' :: cs₅ ∧
            readMembers n (skipBlanks cs₅) = .ok (others, rest) ∧ members = (k, x) :: others) := by
  unfold readMembers at h
  split at h
  · next cs₁ =>
    split at h
    · cases h
    · next k cs₂ hk =>
      split at h
      · next cs₃ hcolon =>
        split at h
        · cases h
        · next x cs₄ hx =>
          refine ⟨cs₁, k, cs₂, cs₃, x, cs₄, rfl, hk, hcolon, hx, ?_⟩
          split at h
          · next hend =>
            cases h
            exact .inl ⟨hend, rfl⟩
          · next cs₅ hcomma =>
            split at h
            · next others _ hothers =>
              cases h
              exact .inr ⟨cs₅, others, hcomma, hothers, rfl⟩
            · cases h
          · cases h
      · cases h
  · cases h

theorem integerDigits_suffix (cs : List Char) : (integerDigits cs).2 <:+ cs := by
  unfold integerDigits
  split
  · exact List.suffix_cons _ _
  · exact List.dropWhile_suffix _

theorem fraction_suffix (cs : List Char) : (fraction cs).2 <:+ cs := by
  unfold fraction
  split
  · dsimp only
    split
    · exact List.suffix_rfl
    · exact (List.dropWhile_suffix _).trans (List.suffix_cons _ _)
  · exact List.suffix_rfl

theorem exponentSign_suffix (cs : List Char) : (exponentSign cs).2 <:+ cs := by
  unfold exponentSign
  split
  · exact List.suffix_cons _ _
  · exact List.suffix_cons _ _
  · exact List.suffix_rfl

theorem exponent_suffix (cs : List Char) : (exponent cs).2 <:+ cs := by
  unfold exponent
  split
  · dsimp only
    split
    · split
      · exact List.suffix_rfl
      · exact ((List.dropWhile_suffix _).trans (exponentSign_suffix _)).trans (List.suffix_cons _ _)
    · exact List.suffix_rfl
  · exact List.suffix_rfl

theorem readNumber_cases {negative : Bool} {cs rest : List Char} {x : Json CodeText}
    (h : readNumber negative cs = .ok (x, rest)) : (∀ s, x ≠ .text s) ∧ rest <:+ cs := by
  have behind : (exponent (fraction (integerDigits cs).2).2).2 <:+ cs :=
    ((exponent_suffix _).trans (fraction_suffix _)).trans (integerDigits_suffix _)
  unfold readNumber at h
  dsimp only at h
  split at h
  · cases h
  · split at h
    · split at h
      · cases h
        exact ⟨nofun, behind⟩
      · cases h
    · cases h
      exact ⟨nofun, behind⟩

theorem readText_suffix {cs rest : List Char} {s : CodeText} (h : readText cs = .ok (s, rest)) :
    rest <:+ cs := by
  obtain ⟨taken, rfl, -⟩ := readText_cases h
  exact (List.suffix_cons _ _).trans (List.suffix_append _ _)

theorem skipBlanks_suffix (cs : List Char) : skipBlanks cs <:+ cs := List.dropWhile_suffix _

theorem suffix_of_skipBlanks {cs rest : List Char} {c : Char} (h : skipBlanks cs = c :: rest) :
    rest <:+ cs :=
  (List.suffix_cons c rest).trans (h ▸ skipBlanks_suffix cs)

theorem readValue_text {n : Nat} {cs rest : List Char} {s : CodeText}
    (h : readValue n cs = .ok (.text s, rest)) :
    ∃ cs', cs = '"' :: cs' ∧ readText cs' = .ok (s, rest) := by
  cases n with
  | zero => cases h
  | succ n =>
    unfold readValue at h
    split at h
    · next cs' =>
      split at h
      · next hs =>
        cases h
        exact ⟨cs', rfl, hs⟩
      · cases h
    · split at h
      · cases h
      · split at h <;> cases h
    · split at h
      · cases h
      · split at h <;> cases h
    · cases h
    · cases h
    · cases h
    · cases h
    · cases h
    · cases h
    · exact absurd rfl ((readNumber_cases h).1 s)
    · exact absurd rfl ((readNumber_cases h).1 s)

theorem readers_suffix (n : Nat) :
    (∀ cs x rest, readValue n cs = .ok (x, rest) → rest <:+ cs) ∧
      (∀ cs xs rest, readItems n cs = .ok (xs, rest) → rest <:+ cs) ∧
      ∀ cs members rest, readMembers n cs = .ok (members, rest) → rest <:+ cs := by
  induction n with
  | zero => exact ⟨nofun, nofun, nofun⟩
  | succ n ih =>
    obtain ⟨value, items, members⟩ := ih
    refine ⟨fun cs x rest h => ?_, fun cs xs rest h => ?_, fun cs ms rest h => ?_⟩
    · unfold readValue at h
      split at h
      · split at h
        · next hs =>
          cases h
          exact (readText_suffix hs).trans (List.suffix_cons _ _)
        · cases h
      · split at h
        · next hend =>
          cases h
          exact (suffix_of_skipBlanks hend).trans (List.suffix_cons _ _)
        · split at h
          · next hitems =>
            cases h
            exact (items _ _ _ hitems).trans ((skipBlanks_suffix _).trans (List.suffix_cons _ _))
          · cases h
      · split at h
        · next hend =>
          cases h
          exact (suffix_of_skipBlanks hend).trans (List.suffix_cons _ _)
        · split at h
          · next hmembers =>
            cases h
            exact (members _ _ _ hmembers).trans
              ((skipBlanks_suffix _).trans (List.suffix_cons _ _))
          · cases h
      · cases h
        exact ⟨['n', 'u', 'l', 'l'], rfl⟩
      · cases h
        exact ⟨['t', 'r', 'u', 'e'], rfl⟩
      · cases h
        exact ⟨['f', 'a', 'l', 's', 'e'], rfl⟩
      · cases h
        exact ⟨['N', 'a', 'N'], rfl⟩
      · cases h
        exact ⟨['I', 'n', 'f', 'i', 'n', 'i', 't', 'y'], rfl⟩
      · cases h
        exact ⟨['-', 'I', 'n', 'f', 'i', 'n', 'i', 't', 'y'], rfl⟩
      · exact (readNumber_cases h).2.trans (List.suffix_cons _ _)
      · exact (readNumber_cases h).2
    · unfold readItems at h
      split at h
      · cases h
      · next hx =>
        refine List.IsSuffix.trans ?_ (value _ _ _ hx)
        split at h
        · next hend =>
          cases h
          exact suffix_of_skipBlanks hend
        · next hcomma =>
          split at h
          · next hitems =>
            cases h
            exact (items _ _ _ hitems).trans
              ((skipBlanks_suffix _).trans (suffix_of_skipBlanks hcomma))
          · cases h
        · cases h
    · obtain ⟨cs₁, k, cs₂, cs₃, x, cs₄, rfl, hk, hcolon, hx, hrest⟩ := readMembers_succ h
      have before : cs₄ <:+ '"' :: cs₁ :=
        (value _ _ _ hx).trans ((skipBlanks_suffix _).trans ((suffix_of_skipBlanks hcolon).trans
          ((readText_suffix hk).trans (List.suffix_cons _ _))))
      refine List.IsSuffix.trans ?_ before
      rcases hrest with ⟨hend, -⟩ | ⟨cs₅, others, hcomma, hothers, -⟩
      · exact suffix_of_skipBlanks hend
      · exact (members _ _ _ hothers).trans
          ((skipBlanks_suffix _).trans (suffix_of_skipBlanks hcomma))

/-- A text among the members of an object is shorter than what the members are read from. -/
theorem length_lt_of_readMembers {n : Nat} {cs rest : List Char}
    {members : List (CodeText × Json CodeText)}
    (h : readMembers n cs = .ok (members, rest)) {k s : CodeText} (hs : (k, .text s) ∈ members) :
    s.points.length < cs.length := by
  induction n generalizing cs members with
  | zero => cases h
  | succ n ih =>
    obtain ⟨cs₁, k', cs₂, cs₃, x, cs₄, rfl, hk, hcolon, hx, hrest⟩ := readMembers_succ h
    have name_behind := (readText_suffix hk).length_le
    have value_behind := ((skipBlanks_suffix cs₃).trans (suffix_of_skipBlanks hcolon)).length_le
    -- the text is the value of the first member or stands behind it
    have first : x = .text s → s.points.length < (skipBlanks cs₃).length := by
      rintro rfl
      obtain ⟨cs', hcs', hs⟩ := readValue_text hx
      obtain ⟨taken, rfl, count, -⟩ := readText_cases hs
      rw [hcs']
      simp only [List.length_cons, List.length_append]
      omega
    have in_first : x = .text s → s.points.length < ('"' :: cs₁).length := fun e => by
      have := first e
      rw [List.length_cons]
      omega
    rcases hrest with ⟨-, rfl⟩ | ⟨cs₅, others, hcomma, hothers, rfl⟩
    · rw [List.mem_singleton, Prod.mk.injEq] at hs
      exact in_first hs.2.symm
    · rcases List.mem_cons.1 hs with e | hs
      · exact in_first (Prod.mk.inj e).2.symm
      · have shorter := ih hothers hs
        have others_behind :=
          ((skipBlanks_suffix cs₅).trans (suffix_of_skipBlanks hcomma)).length_le
        have := ((readers_suffix n).1 _ _ _ hx).length_le
        rw [List.length_cons]
        omega

/-! ## Members that are known -/

variable {n : Nat} {cs rest : List Char}

theorem readValue_quote {x : Json CodeText} (h : readValue n ('"' :: cs) = .ok (x, rest)) :
    ∃ s, readText cs = .ok (s, rest) ∧ x = .text s := by
  cases n with
  | zero => cases h
  | succ n =>
    rw [readValue] at h
    split at h
    · next s _ hs =>
      cases h
      exact ⟨s, hs, rfl⟩
    · cases h

theorem readValue_object {merged : List (CodeText × Json CodeText)}
    (h : readValue n ('\x7b' :: '"' :: cs) = .ok (.object merged, rest)) :
    ∃ n' members, readMembers n' ('"' :: cs) = .ok (members, rest) ∧
      merged = mergeMembers members := by
  cases n with
  | zero => cases h
  | succ n =>
    rw [readValue, skipBlanks_of_not_blank (by decide)] at h
    split at h
    · next heq => exact absurd (List.cons.inj heq).1 (by decide)
    · split at h
      · next members _ hmembers =>
        cases h
        exact ⟨n, members, hmembers, rfl⟩
      · cases h

theorem mem_of_member?_mergeMembers {members : List (CodeText × Json CodeText)} {k : CodeText}
    {x : Json CodeText} (h : member? (mergeMembers members) k = some x) : (k, x) ∈ members := by
  have table : (Table.ofList members).entries = mergeMembers members :=
    (List.foldl_hom Table.entries fun _ _ => rfl).symm
  change (mergeMembers members).lookup k = some x at h
  rw [← table] at h
  change (Table.ofList members).get? k = some x at h
  rw [Table.ofList, Table.get?_putAll, Table.get?_empty, Option.or_none] at h
  obtain ⟨m, hm, rfl⟩ := Option.map_eq_some_iff.1 h
  obtain ⟨hmem, hk⟩ := List.mem_filter.1 (List.mem_of_getLast? hm)
  rw [← of_decide_eq_true hk]
  exact hmem

/-- A name and a text as they stand between quotes, with what follows the closing quote. -/
def memberChars (k v : String) (cs : List Char) : List Char :=
  '"' :: (k.toList ++ '"' :: ':' :: ' ' :: '"' :: (v.toList ++ '"' :: cs))

theorem mem_memberChars_iff {k v : String} {c : Char} (hk : Verbatim k) (hv : Verbatim v)
    (hc : ¬ IsVerbatim c) (quote : c ≠ '"') : c ∈ memberChars k v cs ↔ c ∈ cs := by
  have other {d : Char} (hd : IsVerbatim d) : c ≠ d := fun e => hc (e ▸ hd)
  simp only [memberChars, List.mem_cons, List.mem_append, hk.not_mem hc, hv.not_mem hc, quote,
    other (by decide : IsVerbatim ':'), other (by decide : IsVerbatim ' '), false_or]

theorem readMembers_verbatim {k v : String} {members : List (CodeText × Json CodeText)}
    (hk : Verbatim k) (hv : Verbatim v)
    (h : readMembers n (memberChars k v (',' :: ' ' :: '"' :: cs)) = .ok (members, rest)) :
    ∃ n' others, readMembers n' ('"' :: cs) = .ok (others, rest) ∧
      members = (↑k, .text ↑v) :: others := by
  cases n with
  | zero => cases h
  | succ n =>
    obtain ⟨cs₁, k', cs₂, cs₃, x, cs₄, hcs, hname, hcolon, hx, hrest⟩ := readMembers_succ h
    cases hcs
    cases (readText_of_verbatim hk _).symm.trans hname
    cases (skipBlanks_of_not_blank (by decide) _).symm.trans hcolon
    obtain ⟨s, hs, rfl⟩ := readValue_quote hx
    cases (readText_of_verbatim hv _).symm.trans hs
    rw [skipBlanks_of_not_blank (by decide)] at hrest
    rcases hrest with ⟨hend, -⟩ | ⟨cs₅, others, hcomma, hothers, rfl⟩
    · cases hend
    · cases hcomma
      exact ⟨n, others, hothers, rfl⟩

/-- Where the last member of an object is written without escapes, it is found there with the value
that was written only if the value is verbatim. -/
theorem verbatim_of_readMembers {k v : String} {members : List (CodeText × Json CodeText)}
    (hk : Verbatim k) (h : readMembers n (memberChars k v ['\x7d']) = .ok (members, rest))
    (hv : (↑k, .text ↑v) ∈ members) : Verbatim v := by
  cases n with
  | zero => cases h
  | succ n =>
    obtain ⟨cs₁, k', cs₂, cs₃, x, cs₄, hcs, hname, hcolon, hx, hrest⟩ := readMembers_succ h
    cases hcs
    cases (readText_of_verbatim hk _).symm.trans hname
    cases (skipBlanks_of_not_blank (by decide) _).symm.trans hcolon
    obtain ⟨s, hs, rfl⟩ := readValue_quote hx
    obtain ⟨taken, htaken, count, all⟩ := readText_cases hs
    have total := congrArg List.length htaken
    simp only [List.length_append, List.length_cons, List.length_nil, String.length_toList] at total
    -- something stands behind the text that was read, so not more was taken than was written
    have verbatim_of_eq (same : s = ↑v) (behind : 0 < cs₄.length) : Verbatim v := by
      subst same
      rw [length_points] at count all
      have written : v.length = taken.length := by omega
      rw [Verbatim, (List.append_inj htaken (String.length_toList.trans written)).1]
      exact all written
    have behind {c : Char} {cs : List Char} (hc : skipBlanks cs₄ = c :: cs) :
        cs.length < cs₄.length :=
      (hc ▸ skipBlanks_suffix cs₄).length_le
    rcases hrest with ⟨hend, rfl⟩ | ⟨cs₅, others, hcomma, hothers, rfl⟩
    · have same := (Prod.mk.inj (List.mem_singleton.1 hv)).2
      exact verbatim_of_eq (Json.text.inj same).symm (Nat.zero_lt_of_lt (behind hend))
    · rcases List.mem_cons.1 hv with same | hv
      · exact verbatim_of_eq (Json.text.inj (Prod.mk.inj same).2).symm
          (Nat.zero_lt_of_lt (behind hcomma))
      · -- a later member of this name is too short to show what was written
        have shorter := length_lt_of_readMembers hothers hv
        rw [length_points] at shorter
        have := (skipBlanks_suffix cs₅).length_le
        have := behind hcomma
        omega

end SubspaceOps.Json
