import SubspaceOps.Binary64.Basic

/-!
# The shortest text of a number

A finite number is written with the fewest decimal digits that are read back as the same number;
among those the nearest to the exact value is taken, and the even one of two equally near. The
digits are laid out positionally when the leading one stands between `10 ^ (-4)` and `10 ^ 15`.
-/
namespace SubspaceOps.Binary64

/-- The positive rational `n / d`. -/
structure Ratio where
  num : Nat
  den : Nat

/-- The value `n * 2 ^ q`. -/
def Ratio.dyadic (n : Nat) (q : Int) : Ratio := ⟨n <<< q.toNat, 1 <<< (-q).toNat⟩

/-- The value `n * 10 ^ e`. -/
def Ratio.decimal (n : Nat) (e : Int) : Ratio := ⟨n * Nat.pow 10 e.toNat, Nat.pow 10 (-e).toNat⟩

def Ratio.le (a b : Ratio) : Bool := a.num * b.den ≤ b.num * a.den

def Ratio.lt (a b : Ratio) : Bool := a.num * b.den < b.num * a.den

/-- A decimal `n * 10 ^ e` lies among the reals whose nearest number is `m * 2 ^ q`. The interval
ends halfway to the neighbours, of which the lower one of a power of two is half as far away; an
even significand owns both ends. -/
def readsAs (m : Nat) (q : Int) (n : Nat) (e : Int) : Bool :=
  let low := Ratio.dyadic (if m = leastFull ∧ leastExponent < q then 4 * m - 1 else 4 * m - 2)
    (q - 2)
  let high := Ratio.dyadic (4 * m + 2) (q - 2)
  let x := Ratio.decimal n e
  if m % 2 = 0 then low.le x && x.le high else low.lt x && x.lt high

/-- The exponent of the leading decimal digit of `n / d`. -/
def leadingExponent (n d : Nat) : Int :=
  if d ≤ n then (decimalLength (n / d) : Int) - 1
  else
    let k : Int := (decimalLength d : Int) - decimalLength n
    if d ≤ n * Nat.pow 10 k.toNat then -k else -k - 1

/-- The decimals with `e` as exponent of the last digit next to `n / d` on either side, the better
one first. -/
def candidates (r : Ratio) (e : Int) : List Nat :=
  let num := r.num * Nat.pow 10 (-e).toNat
  let den := r.den * Nat.pow 10 e.toNat
  let below := num / den
  if roundDiv num den = below then [below, below + 1] else [below + 1, below]

/-- The shortest decimal that is read as `m * 2 ^ q`, as digits and exponent of the last digit. -/
def shortestDecimal (m : Nat) (q : Int) : Nat × Int :=
  let r := Ratio.dyadic m q
  let lead := leadingExponent r.num r.den
  let found := (List.range 17).findSome? fun (k : Nat) =>
    let e := lead - k
    ((candidates r e).find? fun n => readsAs m q n e).map fun n => (n, e)
  found.getD (m <<< q.toNat, 0)

/-- Digits without trailing zeros, and the exponent of the last one that is left. -/
def dropZeros : Nat → Nat → Int → Nat × Int
  | 0, n, e => (n, e)
  | fuel + 1, n, e => if n ≠ 0 ∧ n % 10 = 0 then dropZeros fuel (n / 10) (e + 1) else (n, e)

def zeros (n : Int) : List Char := List.replicate n.toNat '0'

/-- Digits with the point `point` places after the first digit's left side. Positional texts keep
a digit on either side of the point; exponents carry a sign and at least two digits. -/
def layOut (ds : List Char) (point : Int) : List Char :=
  if -4 < point ∧ point ≤ 16 then
    if point ≤ 0 then '0' :: '.' :: (zeros (-point) ++ ds)
    else if (ds.length : Int) ≤ point then ds ++ zeros (point - ds.length) ++ ['.', '0']
    else ds.take point.toNat ++ '.' :: ds.drop point.toNat
  else
    let e := point - 1
    let es := Nat.toDigits 10 e.natAbs
    let es := if es.length < 2 then '0' :: es else es
    let body := match ds with
      | [] => []
      | [d] => [d]
      | d :: rest => d :: '.' :: rest
    body ++ 'e' :: (if e < 0 then '-' else '+') :: es

/-- The text of a finite number that is not negative. -/
def finiteText (m : Nat) (q : Int) : List Char :=
  if m = 0 then ['0', '.', '0']
  else
    let (n, e) := shortestDecimal m q
    let (n, e) := dropZeros (decimalLength n) n e
    let ds := Nat.toDigits 10 n
    layOut ds (e + ds.length)

def text : Binary64 → String
  | .finite negative m q =>
    String.ofList (if negative then '-' :: finiteText m q else finiteText m q)
  | .infinite negative => if negative then "-inf" else "inf"
  | .nan => "nan"

example : (ofDecimal false 1 (-1)).text = "0.1" := by decide +kernel
example : (ofDecimal true 15 (-8)).text = "-1.5e-07" := by decide +kernel
example : (ofDecimal false 1 16).text = "1e+16" := by decide +kernel
example : (ofDecimal false 123 0).text = "123.0" := by decide +kernel
example : (ofDecimal false 5 (-324)).text = "5e-324" := by decide +kernel
example : (ofDecimal false 298023223876953125 (-25)).text = "2.9802322387695312e-08" := by
  decide +kernel

end SubspaceOps.Binary64
