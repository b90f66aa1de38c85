/-!
# The SHA-2 construction

A message is padded to whole blocks of sixteen words, and each block is mixed into a state of
eight words. The members of the family differ in the width of a word, the number of rounds, the
rotation amounts and the constants; `Variant` holds what they differ in.
-/
namespace SubspaceOps.Digest

/-- The last `width` bytes of a number, the most significant first. -/
def bigEndian : Nat → Nat → List UInt8
  | 0, _ => []
  | width + 1, n => bigEndian width (n / 256) ++ [UInt8.ofNat n]

theorem length_bigEndian (width n : Nat) : (bigEndian width n).length = width := by
  induction width generalizing n with
  | zero => rfl
  | succ w ih => simp [bigEndian, ih]

/-- The number of a sequence of bytes, the most significant first. -/
def ofBigEndian (bs : List UInt8) : Nat := bs.foldl (fun n b => n * 256 + b.toNat) 0

/-- The first `count` pieces of `size` elements each. -/
def pieces {α : Type} (size : Nat) : Nat → List α → List (List α)
  | 0, _ => []
  | count + 1, xs => xs.take size :: pieces size count (xs.drop size)

structure State (W : Type) where
  a : W
  b : W
  c : W
  d : W
  e : W
  f : W
  g : W
  h : W

def State.toList {W : Type} (s : State W) : List W := [s.a, s.b, s.c, s.d, s.e, s.f, s.g, s.h]

structure Variant (W : Type) where
  wordBytes : Nat
  ofNat : Nat → W
  toNat : W → Nat
  add : W → W → W
  xor : W → W → W
  and : W → W → W
  not : W → W
  bigSigma0 : W → W
  bigSigma1 : W → W
  smallSigma0 : W → W
  smallSigma1 : W → W
  start : State W
  constants : List W

namespace Variant

variable {W : Type} (v : Variant W)

def blockBytes : Nat := 16 * v.wordBytes

/-- One set bit, zeros, and the length of the message in bits as two words. -/
def padding (length : Nat) : List UInt8 :=
  let block := v.blockBytes
  let zeros := (2 * block - 1 - 2 * v.wordBytes - length % block) % block
  0x80 :: (List.replicate zeros 0 ++ bigEndian (2 * v.wordBytes) (8 * length))

/-- The words of each round: the sixteen of the block, then each from four earlier ones. -/
def schedule (block : List W) : List W :=
  let zero := v.ofNat 0
  let extended := (List.range (v.constants.length - 16)).foldl (fun (ws : Array W) t =>
    ws.push (v.add (v.add (v.smallSigma1 (ws.getD (t + 14) zero)) (ws.getD (t + 9) zero))
      (v.add (v.smallSigma0 (ws.getD (t + 1) zero)) (ws.getD t zero)))) block.toArray
  extended.toList

def choose (x y z : W) : W := v.xor (v.and x y) (v.and (v.not x) z)

def majority (x y z : W) : W := v.xor (v.xor (v.and x y) (v.and x z)) (v.and y z)

def round (s : State W) (k w : W) : State W :=
  let t₁ := v.add (v.add (v.add s.h (v.bigSigma1 s.e)) (v.choose s.e s.f s.g)) (v.add k w)
  let t₂ := v.add (v.bigSigma0 s.a) (v.majority s.a s.b s.c)
  ⟨v.add t₁ t₂, s.a, s.b, s.c, v.add s.d t₁, s.e, s.f, s.g⟩

def addState (s t : State W) : State W :=
  ⟨v.add s.a t.a, v.add s.b t.b, v.add s.c t.c, v.add s.d t.d,
    v.add s.e t.e, v.add s.f t.f, v.add s.g t.g, v.add s.h t.h⟩

/-- Mix one block into the state. -/
def compress (s : State W) (block : List UInt8) : State W :=
  let words := (pieces v.wordBytes 16 block).map fun bs => v.ofNat (ofBigEndian bs)
  v.addState s (((v.constants.zip (v.schedule words)).foldl (fun t kw => v.round t kw.1 kw.2)) s)

/-- The digest of a message. -/
def digest (message : List UInt8) : List UInt8 :=
  let padded := message ++ v.padding message.length
  let blocks := pieces v.blockBytes (padded.length / v.blockBytes) padded
  (blocks.foldl v.compress v.start).toList.flatMap fun w => bigEndian v.wordBytes (v.toNat w)

theorem length_digest (message : List UInt8) : (v.digest message).length = 8 * v.wordBytes := by
  simp only [digest, State.toList, List.flatMap_cons, List.flatMap_nil, List.length_append,
    length_bigEndian, List.length_nil]
  omega

end Variant

end SubspaceOps.Digest
