import SubspaceOps.Binary64.Basic
import SubspaceOps.Text.Numeral

/-!
# Reading numbers

A number is written as digits with at most one point among or beside them, an optional exponent,
and single underscores between digits, or as the name of an infinity or of no number. A sign may
stand in front and blanks around it; digits of all scripts count.
-/
namespace SubspaceOps.Binary64

/-- Digits from the start of a text, with single underscores between them, and the rest. -/
def takeDigits : List Char → List Nat × List Char
  | [] => ([], [])
  | c :: cs =>
    match Text.digitValue? c with
    | none => ([], c :: cs)
    | some d =>
      match cs with
      | '_' :: c' :: cs' =>
        if (Text.digitValue? c').isSome then
          let (ds, rest) := takeDigits (c' :: cs')
          (d :: ds, rest)
        else ([d], '_' :: c' :: cs')
      | cs =>
        let (ds, rest) := takeDigits cs
        (d :: ds, rest)

/-- The sign in front of a text: whether it is negative. -/
def takeSign : List Char → Bool × List Char
  | '-' :: cs => (true, cs)
  | '+' :: cs => (false, cs)
  | cs => (false, cs)

/-- The digits behind a point, if there is one. -/
def takeFraction : List Char → List Nat × List Char
  | '.' :: cs => takeDigits cs
  | cs => ([], cs)

/-- The exponent that a text consists of; the empty text stands for zero. -/
def readExponent? : List Char → Option Int
  | [] => some 0
  | c :: cs =>
    if c = 'e' ∨ c = 'E' then
      let (negative, cs) := takeSign cs
      let (ds, rest) := takeDigits cs
      if ds.isEmpty || !rest.isEmpty then none
      else
        let n : Int := Text.ofDigits ds
        some (if negative then -n else n)
    else none

/-- The number that a text without sign consists of. -/
def readDecimal? (negative : Bool) (cs : List Char) : Option Binary64 := do
  let (whole, cs) := takeDigits cs
  let (part, cs) := takeFraction cs
  let exponent ← readExponent? cs
  if whole.isEmpty && part.isEmpty then none
  else some (ofDecimal negative (Text.ofDigits (whole ++ part)) (exponent - part.length))

/-- The number that a text denotes. -/
def read? (s : String) : Option Binary64 :=
  let (negative, cs) := takeSign (Text.trimBlanks s.toList)
  let name := String.ofList (cs.map Char.toLower)
  if name = "inf" ∨ name = "infinity" then some (.infinite negative)
  else if name = "nan" then some .nan
  else readDecimal? negative cs

example : read? " +1_0.5e-1 " = some (ofDecimal false 105 (-2)) := by decide +kernel
example : read? ".5" = some (ofDecimal false 5 (-1)) := by decide +kernel
example : read? "-Infinity" = some (.infinite true) := by decide +kernel
example : read? "1__0" = none ∧ read? "1e" = none ∧ read? "." = none := by decide +kernel

end SubspaceOps.Binary64
