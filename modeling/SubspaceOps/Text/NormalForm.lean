import SubspaceOps.Text.CombiningClass
import SubspaceOps.Text.Composition
import SubspaceOps.Text.Decomposition

/-!
# Normal forms of identifiers

Identifiers that differ only in the way in which their characters are encoded have one normal
form, that of compatibility composition: characters are decomposed, marks are put into the order
of their classes, and what has a composite is composed again. Texts of ASCII characters are in
normal form (`normalForm_of_ascii`).
-/
namespace SubspaceOps.Text

/-! ## Order of marks -/

/-- Append a character to a reversed text; a mark moves before the marks of greater classes. -/
def appendMark (c : Char) : List Char → List Char
  | [] => [c]
  | d :: ds =>
    if 0 < combiningClass c ∧ combiningClass c < combiningClass d then d :: appendMark c ds
    else c :: d :: ds

/-- The text with its marks in order. -/
def orderMarks (cs : List Char) : List Char :=
  (cs.foldl (fun done c => appendMark c done) []).reverse

/-! ## Composition -/

/-- A mark that stands between keeps a character from its base, unless it has a lesser class. -/
def isBlocked (marks : List Char) (c : Char) : Bool :=
  match marks with
  | [] => false
  | m :: _ => combiningClass c ≤ combiningClass m

/-- Compose a base with the characters behind it. The marks that the base has kept stand in
reversed order. -/
def composeWith (base : Char) (marks : List Char) : List Char → List Char
  | [] => base :: marks.reverse
  | c :: cs =>
    match if isBlocked marks c then none else composite? base c with
    | some x => composeWith x marks cs
    | none =>
      if combiningClass c = 0 then base :: (marks.reverse ++ composeWith c [] cs)
      else composeWith base (c :: marks) cs

/-- Compose a text. Marks in front of the first base stay as they are. -/
def compose : List Char → List Char
  | [] => []
  | c :: cs => if combiningClass c = 0 then composeWith c [] cs else c :: compose cs

/-! ## The normal form -/

def normalForm (s : String) : String :=
  String.ofList (compose (orderMarks (s.toList.flatMap decomposition)))

def isNormal (s : String) : Bool := normalForm s = s

/-! ## ASCII texts -/

theorem orderMarks_of_ascii {cs : List Char} (h : ∀ c ∈ cs, c.toNat < 0x80) :
    orderMarks cs = cs := by
  have key : ∀ done, cs.foldl (fun done c => appendMark c done) done = cs.reverse ++ done := by
    induction cs with
    | nil => simp
    | cons c cs ih =>
      intro done
      have hc : appendMark c done = c :: done := by
        cases done <;> simp [appendMark, combiningClass_of_ascii (h c List.mem_cons_self)]
      rw [List.foldl_cons, hc, ih fun d hd => h d (List.mem_cons_of_mem _ hd)]
      simp
  simp [orderMarks, key]

theorem composeWith_of_ascii {cs : List Char} (h : ∀ c ∈ cs, c.toNat < 0x80) (base : Char) :
    composeWith base [] cs = base :: cs := by
  induction cs generalizing base with
  | nil => rfl
  | cons c cs ih =>
    have hc := h c List.mem_cons_self
    simp [composeWith, composite?_of_ascii base hc, combiningClass_of_ascii hc,
      ih fun d hd => h d (List.mem_cons_of_mem _ hd)]

theorem flatMap_decomposition_of_ascii {cs : List Char} (h : ∀ c ∈ cs, c.toNat < 0x80) :
    cs.flatMap decomposition = cs := by
  induction cs with
  | nil => rfl
  | cons c cs ih =>
    rw [List.flatMap_cons, decomposition_of_ascii (h c List.mem_cons_self),
      ih fun d hd => h d (List.mem_cons_of_mem _ hd), List.singleton_append]

theorem normalForm_of_ascii {s : String} (h : ∀ c ∈ s.toList, c.toNat < 0x80) :
    normalForm s = s := by
  rw [normalForm, flatMap_decomposition_of_ascii h, orderMarks_of_ascii h]
  cases hs : s.toList with
  | nil => rw [compose, ← hs, String.ofList_toList]
  | cons c cs =>
    rw [hs] at h
    rw [compose, if_pos (combiningClass_of_ascii (h c List.mem_cons_self)),
      composeWith_of_ascii fun d hd => h d (List.mem_cons_of_mem _ hd), ← hs, String.ofList_toList]

end SubspaceOps.Text
