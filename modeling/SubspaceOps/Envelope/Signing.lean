import SubspaceOps.Ed25519.Signature
import SubspaceOps.Envelope.Canonical

/-!
# Signing and checking envelopes

The signature covers the bytes of the identifier. Keys and signatures travel as hexadecimal text.
-/
namespace SubspaceOps.Envelope

open Text

/-- Stamp the public key, the identifier and the signature of a private key. -/
def sign (e : Envelope) (key : List UInt8) : Except Fault Envelope :=
  if key.length ≠ 32 then .error .keyLength
  else
    let e := { e with pubkey := Hex.encode (Ed25519.publicKey key) }
    .ok { e with id := e.computeId, sig := some (Hex.encode (Ed25519.sign key e.digest)) }

/-- The identifier is the one of the signed fields and the signature fits it. -/
def verify (e : Envelope) : Except Fault Bool :=
  match e.sig with
  | none => .ok false
  | some sig =>
    if sig = "" || !e.checkId then .ok false
    else
      match Hex.decode e.pubkey, Hex.decode sig with
      | some key, some signature =>
        match Hex.decode e.id with
        | some message => .ok (Ed25519.verify key signature message)
        | none => .error .notHex
      | _, _ => .ok false

end SubspaceOps.Envelope
