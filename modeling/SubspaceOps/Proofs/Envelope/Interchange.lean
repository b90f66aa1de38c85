import SubspaceOps.Envelope.Interchange
import SubspaceOps.Proofs.Faults
import SubspaceOps.Proofs.Json.RoundTrip

/-!
# Envelopes in their JSON form

The object that an envelope is written as stands for this envelope, and the text of the object is
read back. The one limit is that of the reader on numerals.
-/
namespace SubspaceOps.Envelope

/-- Time and kind have no more digits than are read. -/
structure ShortNumerals (e : Envelope) : Prop where
  createdAt : (Nat.toDigits 10 e.createdAt.natAbs).length ≤ Text.maxDigits
  kind : (Nat.toDigits 10 e.kind.natAbs).length ≤ Text.maxDigits

/-! ## From the object to the envelope -/

theorem tagOf_texts (t : Tag) : tagOf (.array (t.map .text)) = .ok t := by
  rw [tagOf]
  exact mapM_map_eq_ok (g := Json.text) (fun _ => rfl) t

theorem tagsOf_tagsJson (tags : List Tag) : tagsOf (tagsJson tags) = .ok tags := by
  rw [tagsJson, tagsOf]
  exact mapM_map_eq_ok tagOf_texts tags

theorem ofJson_toJson (now : Int) (e : Envelope) : ofJson now e.toJson = .ok e := by
  have fields : ofJson now e.toJson =
      (tagsOf (tagsJson e.tags)).map fun tags => { e with tags } := by
    obtain ⟨id, pubkey, createdAt, kind, tags, content, sig⟩ := e
    rw [toJson, ofJson]
    cases sig <;> rfl
  rw [fields, tagsOf_tagsJson]
  rfl

/-! ## From the text to the object -/

theorem plain_tagsJson (tags : List Tag) : (tagsJson tags).Plain :=
  Json.Plain.array_map (Json.Plain.array_map Json.Plain.text) tags

theorem plain_toJson {e : Envelope} (short : ShortNumerals e) : e.toJson.Plain := by
  have distinct : ["content", "created_at", "id", "kind", "pubkey", "sig", "tags"].Nodup := by
    decide
  refine .object distinct fun m hm => ?_
  simp only [List.mem_cons, List.not_mem_nil, or_false] at hm
  rcases hm with rfl | rfl | rfl | rfl | rfl | rfl | rfl
  · exact .text e.content
  · exact .int short.createdAt
  · exact .text e.id
  · exact .int short.kind
  · exact .text e.pubkey
  · cases e.sig with
    | none => exact .null
    | some s => exact .text s
  · exact plain_tagsJson e.tags

/-- An envelope is read back from its text with all seven fields, hence with its identifier. -/
theorem read_write_eq_self (now : Int) {e : Envelope} (short : ShortNumerals e) :
    Envelope.read now e.write = .ok e ∧
      (Envelope.read now e.write).map computeId = .ok e.computeId := by
  have text : Json.read e.write = .ok e.toJson.inCodePoints :=
    Json.read_write Json.Style.separates_spaced (plain_toJson short)
  have back : Envelope.read now e.write = .ok e := by
    rw [Envelope.read, text]
    change ofDocument now e.toJson.inCodePoints = .ok e
    rw [ofDocument, Json.inCharacters?_inCodePoints]
    exact ofJson_toJson now e
  exact ⟨back, by rw [back]; rfl⟩

/-- A negative time, an empty tag, an empty value, and characters that are escaped. -/
theorem read_write_eq_self_negativeTime :
    let e : Envelope :=
      ⟨"", "ab", -1700000000, 30600, [[], [""], ["note", "𝄞\n\"]"]], "é", some ""⟩
    ShortNumerals e ∧ Envelope.read 0 e.write = .ok e ∧
      (Envelope.read 0 e.write).map computeId = .ok e.computeId := by
  intro e
  have short : ShortNumerals e := ⟨by decide, by decide⟩
  exact ⟨short, read_write_eq_self 0 short⟩

end SubspaceOps.Envelope
