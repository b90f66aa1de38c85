import SubspaceOps.Proofs.Envelope.Canonical
import SubspaceOps.Proofs.Envelope.Checking

/-!
# Signed envelopes

The signature covers the identifier, and the identifier is the digest of the signed fields. So a
signed envelope is verified when the signature of its digest is accepted, and under its identifier
no other signed fields are, up to collisions of the digest. Nothing else is used of the signatures,
so this holds for any way of making and checking them.
-/
namespace SubspaceOps

open Digest Text

/-- Public keys and signatures of private keys; a signature is never empty. -/
structure Signer where
  publicKey : List UInt8 → List UInt8
  sign : List UInt8 → List UInt8 → List UInt8
  sign_ne_nil : ∀ key message, sign key message ≠ []

/-- The scheme accepts the signature of the message under the public key that belongs to the private
one. -/
def Signer.AcceptedBy (g : Signer) (s : SignatureScheme) (key message : List UInt8) : Prop :=
  s.Accepts (g.publicKey key) (g.sign key message) message

namespace Ed25519

/-- The signature of the message is accepted under the public key that belongs to the private
one. -/
def Accepts (key message : List UInt8) : Prop :=
  verify (publicKey key) (sign key message) message = true

instance (key message : List UInt8) : Decidable (Accepts key message) :=
  inferInstanceAs (Decidable (_ = true))

def signer : Signer where
  publicKey := publicKey
  sign := sign
  sign_ne_nil key message empty := by
    have length := length_sign key message
    rw [empty] at length
    cases length

theorem acceptedBy_scheme {key message : List UInt8} (h : Accepts key message) :
    signer.AcceptedBy scheme key message := by
  rw [Signer.AcceptedBy, ← SignatureScheme.verify_eq_ok_true_iff, verify_scheme]
  exact congrArg Except.ok h

end Ed25519

namespace Envelope

variable {e : Envelope} {g : Signer} {s : SignatureScheme}

/-- The envelope under the public key of its signer, as it is hashed. -/
def stamped (e : Envelope) (publicKey : List UInt8) : Envelope :=
  { e with pubkey := Hex.encode publicKey }

/-- The envelope with an identifier and a signature, which are not signed themselves. -/
def endorsed (e : Envelope) (id sig : String) : Envelope := { e with id, sig := some sig }

/-- Sign an envelope by any signer. -/
def signBy (g : Signer) (e : Envelope) (key : List UInt8) : Except Fault Envelope :=
  if key.length ≠ 32 then .error .keyLength
  else
    let e := e.stamped (g.publicKey key)
    .ok (e.endorsed e.computeId (Hex.encode (g.sign key e.digest)))

theorem sign_eq_signBy (e : Envelope) (key : List UInt8) :
    e.sign key = e.signBy Ed25519.signer key := rfl

/-- The envelope is verified, and an envelope under its identifier with other signed fields is not,
unless the two canonical forms are different messages with the same digest. -/
def Sealed {ε : Type} (verify : Envelope → Except ε Bool) (e : Envelope) : Prop :=
  verify e = .ok true ∧ ∀ e', e'.id = e.id → ¬ SameSigned e' e →
    verify e' = .ok false ∨ Collide (utf8 e'.canonical) (utf8 e.canonical)

theorem Sealed.verify (h : e.Sealed (verifyBy Ed25519.scheme)) : e.Sealed Envelope.verify := by
  have answer {e : Envelope} {b : Bool} (hb : e.verifyBy Ed25519.scheme = .ok b) :
      e.verify = .ok b := by
    rw [verify_eq_verifyBy, hb]
    rfl
  obtain ⟨verified, tampered⟩ := h
  exact ⟨answer verified, fun e' id_eq other => (tampered e' id_eq other).imp_left answer⟩

-- The laws of stamped and endorsed envelopes are stated for any texts: no step may lead to comparing
-- what digests and signatures evaluate to.

@[simp] theorem pubkey_stamped (e : Envelope) (publicKey : List UInt8) :
    (e.stamped publicKey).pubkey = Hex.encode publicKey := rfl

@[simp] theorem id_endorsed (e : Envelope) (id sig : String) : (e.endorsed id sig).id = id := rfl

@[simp] theorem sig_endorsed (e : Envelope) (id sig : String) :
    (e.endorsed id sig).sig = some sig := rfl

@[simp] theorem pubkey_endorsed (e : Envelope) (id sig : String) :
    (e.endorsed id sig).pubkey = e.pubkey := rfl

theorem sameSigned_endorsed (e : Envelope) (id sig : String) : SameSigned (e.endorsed id sig) e :=
  ⟨rfl, rfl, rfl, rfl, rfl⟩

theorem digest_endorsed (e : Envelope) (id sig : String) :
    (e.endorsed id sig).digest = e.digest := by
  rw [digest, digest, (sameSigned_endorsed e id sig).canonical_eq]

theorem computeId_endorsed (e : Envelope) (id sig : String) :
    (e.endorsed id sig).computeId = e.computeId := by
  rw [computeId, computeId, digest_endorsed]

theorem presents_endorsed {key signature : List UInt8} (hkey : e.pubkey = Hex.encode key)
    (filled : signature ≠ []) :
    (e.endorsed e.computeId (Hex.encode signature)).Presents key signature where
  own := by rw [id_endorsed, computeId_endorsed]
  key := by rw [pubkey_endorsed, hkey, Hex.decode_encode]
  signature := by
    refine ⟨_, sig_endorsed e _ _, fun empty => ?_, Hex.decode_encode signature⟩
    have decoded := Hex.decode_encode signature
    rw [empty] at decoded
    exact filled (Option.some.inj decoded).symm

/-- Other signed fields under the identifier are not verified, or the digests collide. -/
theorem verifyBy_of_tampered {e' : Envelope} (own : e.id = e.computeId) (id_eq : e'.id = e.id)
    (other : ¬ SameSigned e' e) :
    e'.verifyBy s = .ok false ∨ Collide (utf8 e'.canonical) (utf8 e.canonical) := by
  by_cases own' : e'.id = e'.computeId
  · refine .inr ((computeId_eq_iff.1 ?_).resolve_left other)
    rw [← own', id_eq, own]
  · exact .inl (verifyBy_of_not_presents fun _ _ presents => own' presents.own)

theorem sealed_endorsed {key signature : List UInt8} (hkey : e.pubkey = Hex.encode key)
    (filled : signature ≠ []) (accepts : s.Accepts key signature e.digest) :
    (e.endorsed e.computeId (Hex.encode signature)).Sealed (verifyBy s) := by
  have presents := presents_endorsed hkey filled
  refine ⟨?_, fun e' => verifyBy_of_tampered presents.own⟩
  rw [verifyBy_of_presents presents, digest_endorsed]
  exact SignatureScheme.verify_eq_ok_true_iff.2 accepts

/-- By any signer and any scheme, signing an envelope seals it when the scheme accepts the signature
of its digest. In particular, it does by the keys and signatures of the library. -/
theorem verify_sign {key : List UInt8} (length : key.length = 32) (e : Envelope) :
    (∀ (g : Signer) (s : SignatureScheme),
      g.AcceptedBy s key (e.stamped (g.publicKey key)).digest →
        ∃ t, e.signBy g key = .ok t ∧ SameSigned t (e.stamped (g.publicKey key)) ∧
          t.Sealed (verifyBy s)) ∧
      (Ed25519.Accepts key (e.stamped (Ed25519.publicKey key)).digest →
        ∃ t, e.sign key = .ok t ∧ SameSigned t (e.stamped (Ed25519.publicKey key)) ∧
          t.Sealed verify) := by
  have general (g : Signer) (s : SignatureScheme)
      (accepts : g.AcceptedBy s key (e.stamped (g.publicKey key)).digest) :
      ∃ t, e.signBy g key = .ok t ∧ SameSigned t (e.stamped (g.publicKey key)) ∧
        t.Sealed (verifyBy s) := by
    refine ⟨_, ?_, sameSigned_endorsed _ _ _,
      sealed_endorsed (pubkey_stamped e _) (g.sign_ne_nil key _) accepts⟩
    rw [signBy, if_neg (fun h => h length)]
  refine ⟨general, fun accepts => ?_⟩
  obtain ⟨t, ht, same, holds⟩ :=
    general Ed25519.signer Ed25519.scheme (Ed25519.acceptedBy_scheme accepts)
  exact ⟨t, (sign_eq_signBy e key).trans ht, same, holds.verify⟩

/-- A vote, signed with a key of thirty-two equal bytes, and the opposite vote under its
signature. -/
theorem verify_sign_vote :
    let key := List.replicate 32 7
    let e := unsigned 1700000000 30302 [["vote", "yes"]]
    key.length = 32 ∧ Ed25519.Accepts key (e.stamped (Ed25519.publicKey key)).digest ∧
      ∃ t, e.sign key = .ok t ∧ t.verify = .ok true ∧
        ({ t with tags := [["vote", "no"]] }.verify = .ok false ∨
          Collide (utf8 { t with tags := [["vote", "no"]] }.canonical) (utf8 t.canonical)) := by
  intro key e
  have accepts : Ed25519.Accepts key (e.stamped (Ed25519.publicKey key)).digest := by
    decide +kernel
  obtain ⟨t, ht, same, verified, tampered⟩ := (verify_sign (by decide) e).2 accepts
  refine ⟨by decide, accepts, t, ht, verified, tampered _ rfl fun h => ?_⟩
  have tags : [["vote", "no"]] = e.tags := h.tags.trans same.tags
  exact absurd tags (by decide)

end Envelope

end SubspaceOps
