import Mathlib.Data.List.Forall2
import SubspaceOps.Capability
import SubspaceOps.Proofs.Faults

/-!
# Texts of capabilities

A part of a text writes the digits of a field (`Writes`), and gives the field a number when the
digits can be read and the number fits (`Gives`). The reader accepts exactly lists of parts that
give distinct fields their numbers; what the writer puts out is such a list. A text that is not
accepted is rejected as malformed, with one exception: a numeral with more digits than are read
stops the reader before its value is judged (`Overlong`).
-/
namespace SubspaceOps.Capability

/-- The part is the name of the field, `=` and the digits. -/
def Writes (part : String) (f : Field) (digits : List Char) : Prop :=
  Text.split '=' part = [f.name, String.ofList digits] ∧ Text.isDigits digits = true

/-- A number for a field. -/
abbrev Entry := (f : Field) × BitVec f.bits

/-- The part gives the field of the entry its number. -/
def Gives (part : String) (x : Entry) : Prop :=
  ∃ digits, Writes part x.1 digits ∧ Text.digitsValue? digits = some x.2.toNat

/-- The reader comes to a numeral that is too long: the parts before give distinct fields their
numbers, and this one writes the digits of yet another field. -/
def Overlong (text : String) : Prop :=
  ∃ (done : List String) (part : String) (rest : List String) (xs : List Entry) (f : Field)
    (digits : List Char),
    Text.split ',' text = done ++ part :: rest ∧ (done ++ part :: rest).length = 3 ∧
      List.Forall₂ Gives done xs ∧ (f :: xs.map Sigma.fst).Nodup ∧ Writes part f digits ∧
        Text.maxDigits < digits.length

/-! ## What has been found -/

namespace Found

theorem set_self (found : Found) (f : Field) (n : BitVec f.bits) : found.set f n f = some n := by
  simp [set]

theorem set_of_ne (found : Found) {f g : Field} (h : g ≠ f) (n : BitVec f.bits) :
    found.set f n g = found g := by
  simp [set, h.symm]

/-- Enter the numbers of several fields. -/
def fill (found : Found) (xs : List Entry) : Found :=
  xs.foldl (fun found x => found.set x.1 x.2) found

theorem fill_eq_none_iff {found : Found} {xs : List Entry} {f : Field} :
    found.fill xs f = .none ↔ f ∉ xs.map Sigma.fst ∧ found f = .none := by
  induction xs generalizing found with
  | nil => simp [fill]
  | cons x xs ih =>
    change (found.set x.1 x.2).fill xs f = .none ↔ _
    rw [ih]
    by_cases h : f = x.1
    · subst h
      simp [set_self]
    · simp [set_of_ne found h, h]

end Found

/-! ## One part -/

variable {text part : String} {found found' : Found}

theorem readPart_of_gives {x : Entry} (h : Gives part x) (fresh : found x.1 = .none) :
    readPart text found part = .ok (found.set x.1 x.2) := by
  obtain ⟨digits, ⟨hsplit, hdigits⟩, hvalue⟩ := h
  simp [readPart, hsplit, Field.ofName?_eq_some_iff.2 rfl, fresh, hdigits, hvalue]

theorem readPart_of_overlong {f : Field} {digits : List Char} (h : Writes part f digits)
    (fresh : found f = .none) (long : Text.maxDigits < digits.length) :
    readPart text found part = .error .longNumeral := by
  obtain ⟨hsplit, hdigits⟩ := h
  have hvalue : Text.digitsValue? digits = .none := if_neg (Nat.not_le.2 long)
  simp [readPart, hsplit, Field.ofName?_eq_some_iff.2 rfl, fresh, hdigits, hvalue]

theorem readPart_cases (text : String) (found : Found) (part : String) :
    (∃ x : Entry, Gives part x ∧ found x.1 = .none ∧
        readPart text found part = .ok (found.set x.1 x.2)) ∨
      (∃ f digits, Writes part f digits ∧ found f = .none ∧ Text.maxDigits < digits.length ∧
        readPart text found part = .error .longNumeral) ∨
        ∃ flaw, readPart text found part = .error (.rejected (.malformedCapability text flaw)) := by
  unfold readPart
  split
  · next name raw hsplit =>
    cases hname : Field.ofName? name with
    | none => exact .inr (.inr ⟨_, rfl⟩)
    | some f =>
      rw [Field.ofName?_eq_some_iff] at hname
      subst hname
      dsimp only
      split
      · exact .inr (.inr ⟨_, rfl⟩)
      · next hfresh =>
        have fresh : found f = .none := by simpa using hfresh
        split
        · exact .inr (.inr ⟨_, rfl⟩)
        · next hdigits =>
          have writes : Writes part f raw.toList := ⟨by simpa using hsplit, by simpa using hdigits⟩
          cases hvalue : Text.digitsValue? raw.toList with
          | none =>
            have long : Text.maxDigits < raw.toList.length := by
              unfold Text.digitsValue? at hvalue
              split at hvalue
              · cases hvalue
              · omega
            exact .inr (.inl ⟨f, raw.toList, writes, fresh, long, rfl⟩)
          | some n =>
            dsimp only
            split
            · next hword =>
              refine .inl ⟨⟨f, BitVec.ofNat f.bits n⟩, ⟨raw.toList, writes, ?_⟩, fresh, rfl⟩
              rw [hvalue, hword]
            · exact .inr (.inr ⟨_, rfl⟩)
  · exact .inr (.inr ⟨_, rfl⟩)

theorem readPart_eq_ok_iff :
    readPart text found part = .ok found' ↔
      ∃ x : Entry, Gives part x ∧ found x.1 = .none ∧ found' = found.set x.1 x.2 := by
  constructor
  · intro h
    obtain ⟨x, hx, fresh, h'⟩ | ⟨f, digits, -, -, -, h'⟩ | ⟨flaw, h'⟩ :=
      readPart_cases text found part
    · exact ⟨x, hx, fresh, Except.ok.inj (h.symm.trans h')⟩
    · cases h.symm.trans h'
    · cases h.symm.trans h'
  · rintro ⟨x, hx, fresh, rfl⟩
    exact readPart_of_gives hx fresh

theorem readPart_eq_longNumeral_iff :
    readPart text found part = .error .longNumeral ↔
      ∃ f digits, Writes part f digits ∧ found f = .none ∧ Text.maxDigits < digits.length := by
  constructor
  · intro h
    obtain ⟨x, -, -, h'⟩ | ⟨f, digits, writes, fresh, long, -⟩ | ⟨flaw, h'⟩ :=
      readPart_cases text found part
    · cases h.symm.trans h'
    · exact ⟨f, digits, writes, fresh, long⟩
    · cases h.symm.trans h'
  · rintro ⟨f, digits, writes, fresh, long⟩
    exact readPart_of_overlong writes fresh long

/-! ## All parts -/

theorem foldlM_readPart_eq_ok_iff {parts : List String} :
    parts.foldlM (readPart text) found = .ok found' ↔
      ∃ xs : List Entry, List.Forall₂ Gives parts xs ∧ (xs.map Sigma.fst).Nodup ∧
        (∀ x ∈ xs, found x.1 = .none) ∧ found' = found.fill xs := by
  induction parts generalizing found with
  | nil =>
    constructor
    · intro h
      cases h
      exact ⟨[], .nil, .nil, nofun, rfl⟩
    · rintro ⟨xs, hxs, -, -, rfl⟩
      cases hxs
      rfl
  | cons part parts ih =>
    rw [List.foldlM_cons]
    constructor
    · intro h
      cases hp : readPart text found part with
      | error e =>
        rw [hp] at h
        cases h
      | ok next =>
        rw [hp] at h
        obtain ⟨x, hx, fresh, rfl⟩ := readPart_eq_ok_iff.1 hp
        obtain ⟨xs, hxs, nodup, free, rfl⟩ := ih.1 h
        have x_not_mem : x.1 ∉ xs.map Sigma.fst := by
          intro hm
          obtain ⟨y, hy, hyx⟩ := List.mem_map.1 hm
          have := free y hy
          rw [hyx, Found.set_self] at this
          cases this
        refine ⟨x :: xs, .cons hx hxs, List.nodup_cons.2 ⟨x_not_mem, nodup⟩, ?_, rfl⟩
        intro y hy
        rcases List.mem_cons.1 hy with rfl | hy
        · exact fresh
        · have hne : y.1 ≠ x.1 := fun h => x_not_mem (h ▸ List.mem_map_of_mem hy)
          rw [← Found.set_of_ne found hne x.2]
          exact free y hy
    · rintro ⟨xs, hxs, nodup, free, rfl⟩
      cases hxs with
      | @cons _ x _ xs hx hxs =>
        rw [List.map_cons, List.nodup_cons] at nodup
        rw [readPart_of_gives hx (free x List.mem_cons_self)]
        refine ih.2 ⟨xs, hxs, nodup.2, fun y hy => ?_, rfl⟩
        have hne : y.1 ≠ x.1 := fun h => nodup.1 (h ▸ List.mem_map_of_mem hy)
        rw [Found.set_of_ne found hne]
        exact free y (List.mem_cons_of_mem x hy)

theorem foldlM_readPart_error {parts : List String} {e : Fault}
    (h : parts.foldlM (readPart text) found = .error e) :
    (∃ flaw, e = .rejected (.malformedCapability text flaw)) ∨ e = .longNumeral := by
  obtain ⟨done, part, rest, next, -, -, hp⟩ := foldlM_eq_error_iff.1 h
  obtain ⟨x, -, -, h'⟩ | ⟨f, digits, -, -, -, h'⟩ | ⟨flaw, h'⟩ := readPart_cases text next part
  · cases hp.symm.trans h'
  · exact .inr (Except.error.inj (hp.symm.trans h'))
  · exact .inl ⟨flaw, Except.error.inj (hp.symm.trans h')⟩

theorem foldlM_readPart_eq_longNumeral_iff {parts : List String} :
    parts.foldlM (readPart text) Found.none = .error .longNumeral ↔
      ∃ done part rest, ∃ (xs : List Entry) (f : Field) (digits : List Char),
        parts = done ++ part :: rest ∧ List.Forall₂ Gives done xs ∧
          (f :: xs.map Sigma.fst).Nodup ∧ Writes part f digits ∧
            Text.maxDigits < digits.length := by
  rw [foldlM_eq_error_iff]
  constructor
  · rintro ⟨done, part, rest, next, hl, hdone, hp⟩
    obtain ⟨xs, hxs, nodup, -, rfl⟩ := foldlM_readPart_eq_ok_iff.1 hdone
    obtain ⟨f, digits, writes, fresh, long⟩ := readPart_eq_longNumeral_iff.1 hp
    have hf := (Found.fill_eq_none_iff.1 fresh).1
    exact ⟨done, part, rest, xs, f, digits, hl, hxs, List.nodup_cons.2 ⟨hf, nodup⟩, writes, long⟩
  · rintro ⟨done, part, rest, xs, f, digits, hl, hxs, nodup, writes, long⟩
    rw [List.nodup_cons] at nodup
    refine ⟨done, part, rest, Found.none.fill xs, hl, ?_, ?_⟩
    · exact foldlM_readPart_eq_ok_iff.2 ⟨xs, hxs, nodup.2, fun _ _ => rfl, rfl⟩
    · exact readPart_of_overlong writes (Found.fill_eq_none_iff.2 ⟨nodup.1, rfl⟩) long

/-! ## Whole texts -/

theorem read_error {e : Fault} (h : read text = .error e) :
    (∃ flaw, e = .rejected (.malformedCapability text flaw)) ∨ e = .longNumeral := by
  unfold read at h
  dsimp only at h
  split at h
  · exact .inl ⟨_, (Except.error.inj h).symm⟩
  · cases hf : (Text.split ',' text).foldlM (readPart text) Found.none with
    | error e' =>
      rw [hf] at h
      cases h
      exact foldlM_readPart_error hf
    | ok found =>
      rw [hf] at h
      dsimp only [bind, Except.bind] at h
      split at h
      · cases h
      · exact .inl ⟨_, (Except.error.inj h).symm⟩

theorem read_eq_longNumeral_iff : read text = .error .longNumeral ↔ Overlong text := by
  unfold read Overlong
  dsimp only
  split
  · next hlength =>
    constructor
    · intro h
      cases h
    · rintro ⟨done, part, rest, xs, f, digits, hl, hthree, -⟩
      exact absurd (hl ▸ hthree) hlength
  · next hlength =>
    rw [not_not] at hlength
    have stops : (∃ done part rest, ∃ (xs : List Entry) (f : Field) (digits : List Char),
        Text.split ',' text = done ++ part :: rest ∧ (done ++ part :: rest).length = 3 ∧
          List.Forall₂ Gives done xs ∧ (f :: xs.map Sigma.fst).Nodup ∧ Writes part f digits ∧
            Text.maxDigits < digits.length) ↔
        (Text.split ',' text).foldlM (readPart text) Found.none = .error .longNumeral := by
      rw [foldlM_readPart_eq_longNumeral_iff]
      constructor
      · rintro ⟨done, part, rest, xs, f, digits, hl, -, h⟩
        exact ⟨done, part, rest, xs, f, digits, hl, h⟩
      · rintro ⟨done, part, rest, xs, f, digits, hl, h⟩
        exact ⟨done, part, rest, xs, f, digits, hl, hl ▸ hlength, h⟩
    rw [stops]
    cases (Text.split ',' text).foldlM (readPart text) Found.none with
    | error e =>
      constructor
      · intro h
        cases h
        rfl
      · intro h
        cases h
        rfl
    | ok found =>
      dsimp only [bind, Except.bind]
      constructor
      · intro h
        split at h <;> cases h
      · intro h
        cases h

/-! ## Written texts -/

theorem ne_of_isDigit {c d : Char} (h : c.isDigit = true) (hd : d.isDigit = false) : c ≠ d := by
  rintro rfl
  rw [hd] at h
  cases h

theorem writes_of_isDigits (f : Field) {digits : List Char} (h : Text.isDigits digits = true) :
    Writes (f.name ++ "=" ++ String.ofList digits) f digits := by
  have joined : f.name ++ "=" ++ String.ofList digits =
      Text.join '=' [f.name, String.ofList digits] := by
    apply String.toList_inj.1
    simp [Text.join, List.intercalate]
  refine ⟨?_, h⟩
  rw [joined]
  refine Text.split_join (by simp) fun p hp => ?_
  rcases List.mem_pair.1 hp with rfl | rfl
  · cases f <;> decide
  · simp only [Text.isDigits, Bool.and_eq_true, List.all_eq_true] at h
    intro hm
    exact ne_of_isDigit (h.2 _ (by simpa using hm)) (by decide) rfl

theorem split_shape {action key expiry : List Char} (ha : Text.isDigits action = true)
    (hk : Text.isDigits key = true) (he : Text.isDigits expiry = true) :
    Text.split ',' (shape (String.ofList action) (String.ofList key) (String.ofList expiry)) =
      [Field.action.name ++ "=" ++ String.ofList action, Field.key.name ++ "=" ++ String.ofList key,
        Field.expiry.name ++ "=" ++ String.ofList expiry] := by
  have joined : shape (String.ofList action) (String.ofList key) (String.ofList expiry) =
      Text.join ',' [Field.action.name ++ "=" ++ String.ofList action,
        Field.key.name ++ "=" ++ String.ofList key,
        Field.expiry.name ++ "=" ++ String.ofList expiry] := by
    apply String.toList_inj.1
    simp [shape, Field.name, Text.join, List.intercalate]
  have comma_free (f : Field) {digits : List Char} (h : Text.isDigits digits = true) :
      ',' ∉ (f.name ++ "=" ++ String.ofList digits).toList := by
    simp only [Text.isDigits, Bool.and_eq_true, List.all_eq_true] at h
    have digits_free : ',' ∉ digits := fun hm => ne_of_isDigit (h.2 _ hm) (by decide) rfl
    cases f <;> simp [Field.name, digits_free]
  rw [joined]
  refine Text.split_join (by simp) fun p hp => ?_
  simp only [List.mem_cons, List.not_mem_nil, or_false] at hp
  rcases hp with rfl | rfl | rfl
  · exact comma_free .action ha
  · exact comma_free .key hk
  · exact comma_free .expiry he

theorem gives_toDigits (f : Field) (n : BitVec f.bits) :
    Gives (f.name ++ "=" ++ String.ofList (Nat.toDigits 10 n.toNat)) ⟨f, n⟩ := by
  refine ⟨_, writes_of_isDigits f (Text.isDigits_toDigits _), Text.digitsValue?_toDigits ?_⟩
  have fits : n.toNat < 10 ^ 20 := by
    refine Nat.lt_of_lt_of_le n.isLt ?_
    cases f <;> simp [Field.bits]
  have := (Nat.length_toDigits_le_iff (by omega) (by omega)).2 fits
  unfold Text.maxDigits
  omega

/-- What is written for a capability is read as this capability. -/
theorem read_text (c : Capability) : read c.text = .ok c := by
  have parts : Text.split ',' c.text =
      [Field.action.name ++ "=" ++ String.ofList (Nat.toDigits 10 c.action.toNat),
        Field.key.name ++ "=" ++ String.ofList (Nat.toDigits 10 c.key.toNat),
        Field.expiry.name ++ "=" ++ String.ofList (Nat.toDigits 10 c.expiry.toNat)] := by
    rw [text, Nat.toString_eq_ofList_toDigits, Nat.toString_eq_ofList_toDigits,
      Nat.toString_eq_ofList_toDigits]
    exact split_shape (Text.isDigits_toDigits _) (Text.isDigits_toDigits _)
      (Text.isDigits_toDigits _)
  have found : (Text.split ',' c.text).foldlM (readPart c.text) Found.none =
      .ok (Found.none.fill [⟨.action, c.action⟩, ⟨.key, c.key⟩, ⟨.expiry, c.expiry⟩]) := by
    refine foldlM_readPart_eq_ok_iff.2 ⟨_, ?_, by simp, fun _ _ => rfl, rfl⟩
    rw [parts]
    exact .cons (gives_toDigits .action c.action) (.cons (gives_toDigits .key c.key)
      (.cons (gives_toDigits .expiry c.expiry) .nil))
  unfold read
  dsimp only
  rw [if_neg (by simp [parts]), found]
  rfl

theorem overlong_shape (action key expiry : List Char) (ha : Text.isDigits action = true)
    (hk : Text.isDigits key = true) (he : Text.isDigits expiry = true)
    (long : Text.maxDigits < action.length) :
    Overlong (shape (String.ofList action) (String.ofList key) (String.ofList expiry)) :=
  ⟨[], _, _, [], .action, action, split_shape ha hk he, rfl, .nil, by simp,
    writes_of_isDigits .action ha, long⟩

end SubspaceOps.Capability
