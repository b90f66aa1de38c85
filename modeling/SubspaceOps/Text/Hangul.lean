/-!
# Hangul syllables

The code point of a syllable is a mixed-radix number of the positions of its letters: a lead, a
vowel and, unless its position is zero, a tail.
-/
namespace SubspaceOps.Text.Hangul

def leadBase : Nat := 0x1100
def leadCount : Nat := 19

def vowelBase : Nat := 0x1161
def vowelCount : Nat := 21

/-- The code point before that of the first tail. -/
def tailBase : Nat := 0x11a7

/-- The number of tails, including that of a syllable without one. -/
def tailCount : Nat := 28

def syllableBase : Nat := 0xac00
def syllableCount : Nat := 11172

def isSyllable (n : Nat) : Bool := syllableBase ≤ n && n < syllableBase + syllableCount

def lead (n : Nat) : Nat := leadBase + (n - syllableBase) / (vowelCount * tailCount)

def vowel (n : Nat) : Nat := vowelBase + (n - syllableBase) / tailCount % vowelCount

def tail? (n : Nat) : Option Nat :=
  let i := (n - syllableBase) % tailCount
  if i = 0 then none else some (tailBase + i)

/-- The letters of a syllable. -/
def letters (n : Nat) : List Nat := lead n :: vowel n :: (tail? n).toList

/-- The syllable of a lead and a vowel, or of a syllable without tail and a tail. -/
def join? (a b : Nat) : Option Nat :=
  if leadBase ≤ a ∧ a < leadBase + leadCount ∧ vowelBase ≤ b ∧ b < vowelBase + vowelCount then
    some (syllableBase + ((a - leadBase) * vowelCount + (b - vowelBase)) * tailCount)
  else if isSyllable a ∧ (a - syllableBase) % tailCount = 0 ∧ tailBase < b ∧
      b < tailBase + tailCount then
    some (a + (b - tailBase))
  else none

theorem isSyllable_iff {n : Nat} : isSyllable n = true ↔ 0xac00 ≤ n ∧ n < 0xd7a4 := by
  rw [isSyllable, Bool.and_eq_true, decide_eq_true_eq, decide_eq_true_eq]
  exact Iff.rfl

end SubspaceOps.Text.Hangul
