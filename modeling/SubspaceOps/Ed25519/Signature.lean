import SubspaceOps.Digest.Sha512
import SubspaceOps.Ed25519.Curve

/-!
# Ed25519 signatures

Private and public keys have thirty-two bytes and signatures sixty-four. A signature is accepted
when its scalar is reduced and its point, as encoded, is the one that the verification equation
gives.
-/
namespace SubspaceOps.Ed25519

open Digest

/-- The highest bit of every secret scalar. -/
def topBit : Nat := Nat.pow 2 254

/-- The secret scalar of a private key and the half of its digest that nonces are drawn from. -/
def expand (key : List UInt8) : Nat × List UInt8 :=
  let hash := sha512 key
  let n := ofLittleEndian (hash.take 32)
  (n % topBit / 8 * 8 + topBit, hash.drop 32)

/-- A digest as a scalar. -/
def hashScalar (bs : List UInt8) : Nat := ofLittleEndian (sha512 bs) % groupOrder

def publicKey (key : List UInt8) : List UInt8 := (Point.base.times (expand key).1).encode

def sign (key message : List UInt8) : List UInt8 :=
  let (secret, seed) := expand key
  let nonce := hashScalar (seed ++ message)
  let point := (Point.base.times nonce).encode
  let challenge := hashScalar (point ++ publicKey key ++ message)
  point ++ littleEndian 32 ((nonce + challenge * secret) % groupOrder)

/-- A signature fits a public key and a message. Keys and signatures of other lengths and keys
that encode no point fit nothing. -/
def verify (key signature message : List UInt8) : Bool :=
  if key.length ≠ 32 ∨ signature.length ≠ 64 then false
  else
    let scalar := ofLittleEndian (signature.drop 32)
    if groupOrder ≤ scalar then false
    else
      match Point.decode key with
      | none => false
      | some a =>
        let challenge := hashScalar (signature.take 32 ++ key ++ message)
        let point := (Point.base.times scalar).add (a.neg.times challenge)
        point.encode == signature.take 32

theorem length_sign (key message : List UInt8) : (sign key message).length = 64 := by
  simp [sign, Point.length_encode, length_littleEndian]

end SubspaceOps.Ed25519
