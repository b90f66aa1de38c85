import SubspaceOps.Envelope.Canonical
import SubspaceOps.Proofs.Json.SelfDelimiting

/-!
# What the canonical form tells

The canonical form of an envelope determines its signed fields, because each of them shows in the
text where it ends. So two envelopes have the same identifier exactly when their signed fields are
the same, or their canonical forms are two messages with the same digest.
-/
namespace SubspaceOps.Envelope

open Digest Json

/-- The fields that go into the canonical form are the same. -/
structure SameSigned (e e' : Envelope) : Prop where
  pubkey : e.pubkey = e'.pubkey
  createdAt : e.createdAt = e'.createdAt
  kind : e.kind = e'.kind
  tags : e.tags = e'.tags
  content : e.content = e'.content

variable {e e' : Envelope}

theorem SameSigned.canonical_eq (h : SameSigned e e') : e.canonical = e'.canonical := by
  rw [canonical, canonical, canonicalJson, canonicalJson, h.pubkey, h.createdAt, h.kind, h.tags,
    h.content]

theorem selfDelimiting_tagsJson : SelfDelimiting .canonical tagsJson := by
  have tag := (selfDelimiting_text .canonical).array Style.separates_canonical Plain.text
  exact tag.array Style.separates_canonical (Plain.array_map Plain.text)

theorem chars_canonicalJson (e : Envelope) : e.canonicalJson.chars .canonical =
    ['[', '0', ','] ++ ((Json.text e.pubkey).chars .canonical ++
      ',' :: ((Json.int e.createdAt).chars .canonical ++
        ',' :: ((Json.int e.kind).chars .canonical ++
          ',' :: ((tagsJson e.tags).chars .canonical ++
            ',' :: ((Json.text e.content).chars .canonical ++ [']']))))) := by
  have zero : (Json.int 0).chars .canonical = ['0'] := by
    rw [chars]
    rfl
  have comma : Style.canonical.comma = [','] := rfl
  rw [canonicalJson, chars_array_cons, zero]
  simp only [itemsChars, comma, List.cons_append, List.nil_append]

/-- Each field is read off the canonical form up to the comma behind it. -/
theorem canonical_eq_iff : e.canonical = e'.canonical ↔ SameSigned e e' := by
  refine ⟨fun h => ?_, SameSigned.canonical_eq⟩
  have comma (rest : List Char) : EndsNumeral (',' :: rest) := endsNumeral_cons (by decide)
  have last : EndsNumeral [']'] := endsNumeral_cons (by decide)
  rw [canonical, canonical, Json.write, Json.write, String.ofList_inj, chars_canonicalJson,
    chars_canonicalJson] at h
  obtain ⟨pubkey, h⟩ := selfDelimiting_text .canonical (comma _) (comma _)
    (List.append_cancel_left h)
  obtain ⟨createdAt, h⟩ := selfDelimiting_int .canonical (comma _) (comma _) (List.cons.inj h).2
  obtain ⟨kind, h⟩ := selfDelimiting_int .canonical (comma _) (comma _) (List.cons.inj h).2
  obtain ⟨tags, h⟩ := selfDelimiting_tagsJson (comma _) (comma _) (List.cons.inj h).2
  obtain ⟨content, -⟩ := selfDelimiting_text .canonical last last (List.cons.inj h).2
  exact ⟨pubkey, createdAt, kind, tags, content⟩

theorem computeId_eq_iff : e.computeId = e'.computeId ↔
    SameSigned e e' ∨ Collide (utf8 e.canonical) (utf8 e'.canonical) := by
  rw [computeId, computeId, Text.Hex.encode_inj, digest, digest, sha256_eq_iff, utf8_inj,
    canonical_eq_iff]

/-- The bytes that are hashed are the same exactly when the signed fields are, and so are the
identifiers, except for two messages with the same digest. -/
theorem canonicalBytes_eq_iff (e e' : Envelope) :
    (utf8 e.canonical = utf8 e'.canonical ↔ SameSigned e e') ∧
      (e.computeId = e'.computeId ↔
        SameSigned e e' ∨ Collide (utf8 e.canonical) (utf8 e'.canonical)) :=
  ⟨utf8_inj.trans canonical_eq_iff, computeId_eq_iff⟩

end SubspaceOps.Envelope
