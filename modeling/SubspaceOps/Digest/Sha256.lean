import SubspaceOps.Digest.Sha2

/-!
# SHA-256

Identifiers of envelopes and subspaces are digests of thirty-two bytes.
-/
namespace SubspaceOps.Digest

namespace Sha256

def rotr (n : Nat) (x : UInt32) : UInt32 := (x >>> UInt32.ofNat n) ||| (x <<< UInt32.ofNat (32 - n))

/-- The fractional parts of the square roots of the first eight primes. -/
def start : State UInt32 :=
  ⟨0x6a09e667, 0xbb67ae85, 0x3c6ef372, 0xa54ff53a,
    0x510e527f, 0x9b05688c, 0x1f83d9ab, 0x5be0cd19⟩

/-- The fractional parts of the cube roots of the first 64 primes. -/
def constants : List UInt32 :=
  [0x428a2f98, 0x71374491, 0xb5c0fbcf, 0xe9b5dba5, 0x3956c25b, 0x59f111f1, 0x923f82a4,
    0xab1c5ed5, 0xd807aa98, 0x12835b01, 0x243185be, 0x550c7dc3, 0x72be5d74, 0x80deb1fe,
    0x9bdc06a7, 0xc19bf174, 0xe49b69c1, 0xefbe4786, 0x0fc19dc6, 0x240ca1cc, 0x2de92c6f,
    0x4a7484aa, 0x5cb0a9dc, 0x76f988da, 0x983e5152, 0xa831c66d, 0xb00327c8, 0xbf597fc7,
    0xc6e00bf3, 0xd5a79147, 0x06ca6351, 0x14292967, 0x27b70a85, 0x2e1b2138, 0x4d2c6dfc,
    0x53380d13, 0x650a7354, 0x766a0abb, 0x81c2c92e, 0x92722c85, 0xa2bfe8a1, 0xa81a664b,
    0xc24b8b70, 0xc76c51a3, 0xd192e819, 0xd6990624, 0xf40e3585, 0x106aa070, 0x19a4c116,
    0x1e376c08, 0x2748774c, 0x34b0bcb5, 0x391c0cb3, 0x4ed8aa4a, 0x5b9cca4f, 0x682e6ff3,
    0x748f82ee, 0x78a5636f, 0x84c87814, 0x8cc70208, 0x90befffa, 0xa4506ceb, 0xbef9a3f7,
    0xc67178f2]

def variant : Variant UInt32 where
  wordBytes := 4
  ofNat := UInt32.ofNat
  toNat := UInt32.toNat
  add := (· + ·)
  xor := (· ^^^ ·)
  and := (· &&& ·)
  not := (~~~ ·)
  bigSigma0 x := rotr 2 x ^^^ rotr 13 x ^^^ rotr 22 x
  bigSigma1 x := rotr 6 x ^^^ rotr 11 x ^^^ rotr 25 x
  smallSigma0 x := rotr 7 x ^^^ rotr 18 x ^^^ (x >>> 3)
  smallSigma1 x := rotr 17 x ^^^ rotr 19 x ^^^ (x >>> 10)
  start := start
  constants := constants

end Sha256

def sha256 (message : List UInt8) : List UInt8 := Sha256.variant.digest message

theorem length_sha256 (message : List UInt8) : (sha256 message).length = 32 :=
  Sha256.variant.length_digest message

/-- Two different messages with the same digest. -/
def Collide (m m' : List UInt8) : Prop := m ≠ m' ∧ sha256 m = sha256 m'

theorem sha256_eq_iff {m m' : List UInt8} : sha256 m = sha256 m' ↔ m = m' ∨ Collide m m' := by
  constructor
  · intro h
    by_cases same : m = m'
    · exact .inl same
    · exact .inr ⟨same, h⟩
  · rintro (rfl | h)
    · rfl
    · exact h.2

/-- The bytes of a text that are hashed. -/
def utf8 (s : String) : List UInt8 := s.toByteArray.data.toList

theorem utf8_inj {s t : String} : utf8 s = utf8 t ↔ s = t := by
  rw [← String.toByteArray_inj]
  exact ⟨fun h => ByteArray.ext (Array.toList_inj.1 h), fun h => by rw [utf8, utf8, h]⟩

end SubspaceOps.Digest
