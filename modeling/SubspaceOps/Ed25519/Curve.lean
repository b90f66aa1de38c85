/-!
# The curve of Ed25519

Points of the twisted Edwards curve `-x² + y² = 1 + d x² y²` over the integers modulo
`2 ^ 255 - 19`, in extended coordinates, with their encoding in thirty-two bytes. The addition
law is complete, so it serves for doubling and for the neutral element as well.
-/
namespace SubspaceOps.Ed25519

/-- The order of the field. -/
def fieldOrder : Nat := Nat.pow 2 255 - 19

/-- The order of the group that the base point generates. -/
def groupOrder : Nat := Nat.pow 2 252 + 27742317777372353535851937790883648493

def curveD : Nat := 0x52036cee2b6ffe738cc740797779e89800700a4d4141d8ab75eb4dca135978a3

def sqrtMinusOne : Nat := 0x2b8324804fc1df0b2b4d00993dfbd7a72f431806ad2fe478c4ee1b274a0ea0b0

example : (curveD * 121666 + 121665) % fieldOrder = 0 := by decide +kernel
example : (sqrtMinusOne * sqrtMinusOne + 1) % fieldOrder = 0 := by decide +kernel

def mul (a b : Nat) : Nat := a * b % fieldOrder

def add (a b : Nat) : Nat := (a + b) % fieldOrder

def sub (a b : Nat) : Nat := (a + (fieldOrder - b % fieldOrder)) % fieldOrder

/-- The lowest 256 bits of a number, the highest one first. -/
def bits (n : Nat) : List Bool := (List.range 256).reverse.map n.testBit

def pow (a e : Nat) : Nat :=
  (bits e).foldl (fun r bit => let r := mul r r; if bit then mul r a else r) 1

def inverse (a : Nat) : Nat := pow a (fieldOrder - 2)

/-- The affine point is `(x / z, y / z)`, and `t = x y / z`. -/
structure Point where
  x : Nat
  y : Nat
  z : Nat
  t : Nat

namespace Point

def zero : Point := ⟨0, 1, 1, 0⟩

def base : Point :=
  let x := 0x216936d3cd6e53fec0a4e231fdd6dc5c692cc7609525a7b2c9562d608f25d51a
  let y := 0x6666666666666666666666666666666666666666666666666666666666666658
  ⟨x, y, 1, mul x y⟩

def add (p q : Point) : Point :=
  let a := mul (sub p.y p.x) (sub q.y q.x)
  let b := mul (Ed25519.add p.y p.x) (Ed25519.add q.y q.x)
  let c := mul (mul 2 curveD) (mul p.t q.t)
  let d := mul 2 (mul p.z q.z)
  let e := sub b a
  let f := sub d c
  let g := Ed25519.add d c
  let h := Ed25519.add b a
  ⟨mul e f, mul g h, mul f g, mul e h⟩

def neg (p : Point) : Point := ⟨sub 0 p.x, p.y, p.z, sub 0 p.t⟩

/-- A point added to itself `n` times, for `n` below `2 ^ 256`. -/
def times (n : Nat) (p : Point) : Point :=
  (bits n).foldl (fun r bit => let r := r.add r; if bit then r.add p else r) zero

end Point

/-- The lowest `width` bytes of a number, the least significant first. -/
def littleEndian : Nat → Nat → List UInt8
  | 0, _ => []
  | width + 1, n => UInt8.ofNat n :: littleEndian width (n / 256)

theorem length_littleEndian (width n : Nat) : (littleEndian width n).length = width := by
  induction width generalizing n with
  | zero => rfl
  | succ w ih => simp [littleEndian, ih]

/-- The number of a sequence of bytes, the least significant first. -/
def ofLittleEndian (bs : List UInt8) : Nat := bs.foldr (fun b n => b.toNat + 256 * n) 0

namespace Point

/-- The weight of the highest bit of an encoding, which is the sign of the affine `x`. -/
def signWeight : Nat := Nat.pow 2 255

/-- The affine `y`, with the lowest bit of the affine `x` as highest bit. -/
def encode (p : Point) : List UInt8 :=
  let w := inverse p.z
  littleEndian 32 (mul p.y w + signWeight * (mul p.x w % 2))

theorem length_encode (p : Point) : p.encode.length = 32 := length_littleEndian _ _

/-- The point of an encoding. The number `y` need not be reduced, and the sign of a vanishing
`x` is ignored. -/
def decode (bs : List UInt8) : Option Point :=
  let n := ofLittleEndian bs
  let y := n % signWeight % fieldOrder
  let u := sub (mul y y) 1
  let v := Ed25519.add (mul curveD (mul y y)) 1
  let v3 := mul v (mul v v)
  let x := mul (mul u v3) (pow (mul u (mul v3 (mul v3 v))) ((fieldOrder - 5) / 8))
  let vxx := mul v (mul x x)
  let root? := if vxx = u then some x
    else if Ed25519.add vxx u = 0 then some (mul x sqrtMinusOne) else none
  root?.map fun x =>
    let x := if x % 2 = n / signWeight % 2 then x else sub 0 x
    ⟨x, y, 1, mul x y⟩

end Point

end SubspaceOps.Ed25519
