/-!
# Double-precision numbers

The numbers that a decimal with a point or an exponent is read as. Values are exact dyadic
numbers, so comparison, truncation and printing need no approximation; the only rounding is that
of a quotient to the nearest representable number, with ties to the even neighbour.
-/
namespace SubspaceOps

/-- A finite value is `±significand * 2 ^ exponent`, with the significand below `2 ^ 53`. -/
inductive Binary64
  | finite (negative : Bool) (significand : Nat) (exponent : Int)
  | infinite (negative : Bool)
  | nan
  deriving DecidableEq, Repr

namespace Binary64

/-- The exponent of the least positive number, which all numbers below `2 ^ (-1021)` share. -/
def leastExponent : Int := -1074

/-- The greatest exponent of a 53-bit significand. -/
def greatestExponent : Int := 971

/-- The significand `2 ^ 52`. All numbers above the least exponent have at least this one and less
than twice it. -/
def leastFull : Nat := 1 <<< 52

/-- The integer nearest to `n / d`, the even one of two that are equally near. -/
def roundDiv (n d : Nat) : Nat :=
  let q := n / d
  let r := n % d
  if 2 * r < d ∨ (2 * r = d ∧ q % 2 = 0) then q else q + 1

/-- The integer part of the binary logarithm of `n / d`. -/
def floorLog2 (n d : Nat) : Int :=
  let e : Int := (Nat.log2 n : Int) - Nat.log2 d
  if d <<< e.toNat ≤ n <<< (-e).toNat then e else e - 1

/-- The number nearest to `±n / d`. -/
def ofRatio (negative : Bool) (n d : Nat) : Binary64 :=
  if n = 0 then .finite negative 0 leastExponent
  else
    let q := max leastExponent (floorLog2 n d - 52)
    let m := roundDiv (n <<< (-q).toNat) (d <<< q.toNat)
    let (m, q) := if m = 2 * leastFull then (leastFull, q + 1) else (m, q)
    if greatestExponent < q then .infinite negative else .finite negative m q

/-- The number of decimal digits of `n`. -/
def decimalLength (n : Nat) : Nat := (Nat.toDigits 10 n).length

/-- The number nearest to `±n * 10 ^ e`. Far outside the range of finite numbers the power of ten
is not computed. -/
def ofDecimal (negative : Bool) (n : Nat) (e : Int) : Binary64 :=
  let magnitude := e + decimalLength n
  if n = 0 ∨ magnitude < -330 then .finite negative 0 leastExponent
  else if 310 < magnitude then .infinite negative
  else ofRatio negative (n * Nat.pow 10 e.toNat) (Nat.pow 10 (-e).toNat)

/-- The integer part of a finite number, rounded toward zero. -/
def truncate (negative : Bool) (m : Nat) (q : Int) : Int :=
  let n : Nat := m <<< q.toNat >>> (-q).toNat
  if negative then -n else n

example : ofDecimal false 1 400 = .infinite false := by decide +kernel
example : ofDecimal false 5 (-324) = .finite false 1 (-1074) := by decide +kernel
example : ofDecimal true 15 (-1) = .finite true (3 <<< 51) (-52) := by decide +kernel

end Binary64

end SubspaceOps
