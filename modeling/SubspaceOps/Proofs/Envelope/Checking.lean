import SubspaceOps.Envelope.Signing
import SubspaceOps.Proofs.Faults

/-!
# Checking gives an answer

The check of an envelope reads three texts from outside and hands them to a signature scheme. The
public key and the signature are read under a guard, and every refusal of the scheme is guarded too.
The identifier is read without a guard, but only where it has been found to be the text of a digest
(`decode_id`). So every envelope is answered, by every scheme that does not fail itself
(`verify_total`).
-/
namespace SubspaceOps

open Text

/-- Why a step of a check gives no result. -/
inductive SignatureFault
  /-- A text is not hexadecimal, or bytes do not have the form of a key or a signature. -/
  | badValue
  | badSignature
  /-- The scheme itself fails. -/
  | broken
  deriving DecidableEq, Repr

/-! ## Signature schemes -/

/-- A scheme loads a public key and checks the signature of a message with it. -/
structure SignatureScheme where
  Key : Type
  load : List UInt8 → Except SignatureFault Key
  check : Key → List UInt8 → List UInt8 → Except SignatureFault Unit

namespace SignatureScheme

variable {s : SignatureScheme}

/-- The scheme refuses keys and signatures, but does not fail itself. -/
structure Reliable (s : SignatureScheme) : Prop where
  load_ne_broken : ∀ key, s.load key ≠ .error .broken
  check_ne_broken : ∀ key signature message, s.check key signature message ≠ .error .broken

/-- Load the key and check the signature with it. -/
def attempt (s : SignatureScheme) (key signature message : List UInt8) :
    Except SignatureFault Unit := do
  let loaded ← s.load key
  s.check loaded signature message

/-- A key or a signature that is refused does not fit. -/
def verify (s : SignatureScheme) (key signature message : List UInt8) :
    Except SignatureFault Bool :=
  match s.attempt key signature message with
  | .ok () => .ok true
  | .error .badValue | .error .badSignature => .ok false
  | .error .broken => .error .broken

/-- The key is loaded and the signature fits. -/
def Accepts (s : SignatureScheme) (key signature message : List UInt8) : Prop :=
  ∃ loaded, s.load key = .ok loaded ∧ s.check loaded signature message = .ok ()

theorem attempt_eq_ok_iff {key signature message : List UInt8} :
    s.attempt key signature message = .ok () ↔ s.Accepts key signature message :=
  bind_eq_ok_iff

theorem verify_eq_ok_true_iff {key signature message : List UInt8} :
    s.verify key signature message = .ok true ↔ s.Accepts key signature message := by
  rw [← attempt_eq_ok_iff, verify]
  cases s.attempt key signature message with
  | ok _ => simp
  | error f => cases f <;> simp

theorem Reliable.attempt_ne_broken (h : s.Reliable) (key signature message : List UInt8) :
    s.attempt key signature message ≠ .error .broken := by
  unfold attempt
  cases hload : s.load key with
  | error f =>
    intro broken
    cases broken
    exact h.load_ne_broken key hload
  | ok loaded => exact h.check_ne_broken loaded signature message

theorem Reliable.exists_verify (h : s.Reliable) (key signature message : List UInt8) :
    ∃ b, s.verify key signature message = .ok b ∧
      (b = true ↔ s.Accepts key signature message) := by
  have answers : ∃ b, s.verify key signature message = .ok b := by
    unfold verify
    cases hrun : s.attempt key signature message with
    | ok _ => exact ⟨true, rfl⟩
    | error f =>
      cases f with
      | badValue => exact ⟨false, rfl⟩
      | badSignature => exact ⟨false, rfl⟩
      | broken => exact absurd hrun (h.attempt_ne_broken key signature message)
  obtain ⟨b, hb⟩ := answers
  exact ⟨b, hb, by rw [← verify_eq_ok_true_iff, hb, Except.ok.injEq]⟩

end SignatureScheme

namespace Ed25519

/-- A key of another length is not loaded, and whatever else does not fit is found when the
signature is checked. -/
def scheme : SignatureScheme where
  Key := List UInt8
  load key := if key.length = 32 then .ok key else .error .badValue
  check key signature message :=
    if verify key signature message then .ok () else .error .badSignature

theorem reliable_scheme : scheme.Reliable where
  load_ne_broken key := by
    by_cases length : key.length = 32 <;> simp [scheme, length]
  check_ne_broken key signature message := by
    cases fits : verify key signature message <;> simp [scheme, fits]

theorem verify_scheme (key signature message : List UInt8) :
    scheme.verify key signature message = .ok (verify key signature message) := by
  by_cases length : key.length = 32
  · have loaded : scheme.attempt key signature message =
        if verify key signature message then .ok () else .error .badSignature := by
      simp only [SignatureScheme.attempt, scheme, if_pos length]
      rfl
    rw [SignatureScheme.verify, loaded]
    cases verify key signature message <;> rfl
  · have refused : scheme.attempt key signature message = .error .badValue := by
      simp only [SignatureScheme.attempt, scheme, if_neg length]
      rfl
    rw [SignatureScheme.verify, refused, verify, if_pos (.inl length)]

end Ed25519

/-! ## Checking by a scheme -/

/-- The bytes of a hexadecimal text. -/
def readHex (text : String) : Except SignatureFault (List UInt8) :=
  match Hex.decode text with
  | some bytes => .ok bytes
  | none => .error .badValue

theorem readHex_eq_ok_iff {text : String} {bytes : List UInt8} :
    readHex text = .ok bytes ↔ Hex.decode text = some bytes := by
  unfold readHex
  cases Hex.decode text <;> simp

namespace Envelope

variable {s : SignatureScheme} {e : Envelope}

theorem checkId_iff : e.checkId = true ↔ e.id = e.computeId := decide_eq_true_iff

/-- Check an envelope by a scheme. Only the key and the signature are read under a guard. -/
def verifyBy (s : SignatureScheme) (e : Envelope) : Except SignatureFault Bool :=
  match e.sig with
  | none => .ok false
  | some sig =>
    if sig = "" || !e.checkId then .ok false
    else
      match readHex e.pubkey, readHex sig with
      | .ok key, .ok signature => do
        let message ← readHex e.id
        s.verify key signature message
      | _, _ => .ok false

/-- By the scheme of the library, envelopes are checked as they are without a scheme in between. -/
theorem verify_eq_verifyBy (e : Envelope) :
    e.verify = (e.verifyBy Ed25519.scheme).mapError fun _ => .notHex := by
  unfold verify verifyBy
  cases e.sig with
  | none => rfl
  | some sig =>
    dsimp only
    split
    · rfl
    · unfold readHex
      cases Hex.decode e.pubkey with
      | none => rfl
      | some key =>
        cases Hex.decode sig with
        | none => rfl
        | some signature =>
          cases Hex.decode e.id with
          | none => rfl
          | some message =>
            change _ = (Ed25519.scheme.verify key signature message).mapError _
            rw [Ed25519.verify_scheme]
            rfl

/-- The envelope stands under its own identifier, and its public key and its signature are texts of
these bytes. -/
structure Presents (e : Envelope) (key signature : List UInt8) : Prop where
  own : e.id = e.computeId
  key : Hex.decode e.pubkey = some key
  signature : ∃ sig, e.sig = some sig ∧ sig ≠ "" ∧ Hex.decode sig = some signature

theorem Presents.unique {key key' signature signature' : List UInt8}
    (h : e.Presents key signature) (h' : e.Presents key' signature') :
    key' = key ∧ signature' = signature := by
  obtain ⟨sig, hsig, -, hsignature⟩ := h.signature
  obtain ⟨sig', hsig', -, hsignature'⟩ := h'.signature
  cases hsig.symm.trans hsig'
  exact ⟨Option.some.inj (h'.key.symm.trans h.key),
    Option.some.inj (hsignature'.symm.trans hsignature)⟩

theorem decode_id (own : e.id = e.computeId) : Hex.decode e.id = some e.digest := by
  rw [own, computeId, Hex.decode_encode]

/-- Behind the guards, the scheme decides over the digest. -/
theorem verifyBy_of_presents {key signature : List UInt8} (h : e.Presents key signature) :
    e.verifyBy s = s.verify key signature e.digest := by
  obtain ⟨sig, hsig, filled, hsignature⟩ := h.signature
  simp only [verifyBy, hsig, filled, checkId_iff.2 h.own, readHex, h.key, hsignature,
    decode_id h.own, decide_false, Bool.not_true, Bool.or_self, Bool.false_eq_true, if_false]
  rfl

theorem verifyBy_of_not_presents (h : ∀ key signature, ¬ e.Presents key signature) :
    e.verifyBy s = .ok false := by
  unfold verifyBy
  split
  · rfl
  · next sig hsig =>
    split
    · rfl
    · next guarded =>
      split
      · next key signature hkey hsignature =>
        -- past both guards, what has been read would be presented
        simp only [Bool.or_eq_true, decide_eq_true_eq, Bool.not_eq_true', not_or,
          Bool.not_eq_false] at guarded
        exact absurd ⟨checkId_iff.1 guarded.2, readHex_eq_ok_iff.1 hkey, sig, hsig, guarded.1,
          readHex_eq_ok_iff.1 hsignature⟩ (h key signature)
      · rfl

/-- A scheme that does not fail answers every envelope: with yes when the envelope presents a key
and a signature of its digest that the scheme accepts, and else with no. -/
theorem exists_verifyBy (reliable : s.Reliable) (e : Envelope) :
    ∃ b, e.verifyBy s = .ok b ∧ (b = true ↔
      ∃ key signature, e.Presents key signature ∧ s.Accepts key signature e.digest) := by
  by_cases h : ∃ key signature, e.Presents key signature
  · obtain ⟨key, signature, presents⟩ := h
    obtain ⟨b, answer, accepts⟩ := reliable.exists_verify key signature e.digest
    refine ⟨b, (verifyBy_of_presents presents).trans answer, accepts.trans ?_⟩
    constructor
    · exact fun accepted => ⟨key, signature, presents, accepted⟩
    · rintro ⟨key', signature', presents', accepted⟩
      obtain ⟨rfl, rfl⟩ := presents.unique presents'
      exact accepted
  · have refused := verifyBy_of_not_presents (s := s) fun key signature presents =>
      h ⟨key, signature, presents⟩
    refine ⟨false, refused, iff_of_false Bool.false_ne_true ?_⟩
    rintro ⟨key, signature, presents, -⟩
    exact h ⟨key, signature, presents⟩

/-- Every check of an envelope gives an answer, by any scheme that does not fail itself as well as
by the scheme of the library, and the identifier is read only where it is the text of the digest. -/
theorem verify_total (reliable : s.Reliable) (e : Envelope) :
    (∃ b, e.verifyBy s = .ok b ∧ (b = true ↔
      ∃ key signature, e.Presents key signature ∧ s.Accepts key signature e.digest)) ∧
      (∃ b, e.verify = .ok b) ∧ (e.checkId = true → Hex.decode e.id = some e.digest) := by
  refine ⟨exists_verifyBy reliable e, ?_, fun own => decode_id (checkId_iff.1 own)⟩
  obtain ⟨b, answer, -⟩ := exists_verifyBy Ed25519.reliable_scheme e
  exact ⟨b, by rw [verify_eq_verifyBy, answer]; rfl⟩

/-- A vote under its own identifier, with a key of an odd number of digits and a signature that
is none, is checked by the scheme of the library. -/
theorem verify_total_malformed :
    let e := { unsigned 1700000000 30302 [["vote", "yes"]] with
      pubkey := "abc", sig := some "no signature" }
    let s := { e with id := e.computeId }
    Ed25519.scheme.Reliable ∧ s.checkId = true ∧ Hex.decode s.id = some s.digest ∧
      s.verify = .ok false ∧ s.verifyBy Ed25519.scheme = .ok false := by
  intro e s
  have own : s.checkId = true := checkId_iff.2 rfl
  have odd : Hex.decode "abc" = none := by decide
  obtain ⟨⟨b, answer, fits⟩, -, identifier⟩ := verify_total Ed25519.reliable_scheme s
  have refused : b = false := by
    refine Bool.eq_false_iff.2 fun accepted => ?_
    obtain ⟨key, signature, presents, -⟩ := fits.1 accepted
    cases odd.symm.trans presents.key
  rw [refused] at answer
  refine ⟨Ed25519.reliable_scheme, own, identifier own, ?_, answer⟩
  rw [verify_eq_verifyBy, answer]
  rfl

end Envelope

end SubspaceOps
