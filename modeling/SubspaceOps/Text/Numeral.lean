import SubspaceOps.Text.Blank
import SubspaceOps.Text.DecimalDigit

/-!
# Numerals

Integers are read from texts of at most 4300 digits. Two forms are in use: plain runs of ASCII
digits, and numerals with blanks around them, a sign, digits of any script and single underscores
between digits.
-/
namespace SubspaceOps.Text

/-- The greatest number of digits of a numeral, leading zeros included. -/
def maxDigits : Nat := 4300

/-- A non-empty run of ASCII digits. -/
def isDigits (cs : List Char) : Bool := !cs.isEmpty && cs.all Char.isDigit

/-- The value of ASCII digits, unless there are too many. -/
def digitsValue? (cs : List Char) : Option Nat :=
  if cs.length ≤ maxDigits then some (Nat.ofDigitChars 10 cs 0) else none

theorem isDigits_toDigits (n : Nat) : isDigits (Nat.toDigits 10 n) = true := by
  simp only [isDigits, Bool.and_eq_true, Bool.not_eq_true', List.isEmpty_eq_false_iff,
    List.all_eq_true]
  exact ⟨Nat.toDigits_ne_nil, fun c hc => Nat.isDigit_of_mem_toDigits (by decide) (by decide) hc⟩

theorem digitsValue?_toDigits {n : Nat} (h : (Nat.toDigits 10 n).length ≤ maxDigits) :
    digitsValue? (Nat.toDigits 10 n) = some n := by
  rw [digitsValue?, if_pos h, Nat.ofDigitChars_ten_toDigits]

/-- Digits of any script, with single underscores between them. -/
def digitRun? : List Char → Option (List Nat)
  | [] => none
  | [c] => (digitValue? c).map ([·])
  | c :: '_' :: cs => do
    let d ← digitValue? c
    let ds ← digitRun? cs
    return d :: ds
  | c :: cs => do
    let d ← digitValue? c
    let ds ← digitRun? cs
    return d :: ds

/-- The number that a list of decimal digits stands for. -/
def ofDigits (ds : List Nat) : Nat := ds.foldl (fun n d => 10 * n + d) 0

def readNatural? (cs : List Char) : Option Nat := do
  let ds ← digitRun? cs
  if ds.length ≤ maxDigits then some (ofDigits ds) else none

/-- The integer that a numeral stands for. -/
def readInteger? (s : String) : Option Int :=
  match trimBlanks s.toList with
  | '-' :: cs => (readNatural? cs).map fun n => -(n : Int)
  | '+' :: cs => (readNatural? cs).map Int.ofNat
  | cs => (readNatural? cs).map Int.ofNat

end SubspaceOps.Text
