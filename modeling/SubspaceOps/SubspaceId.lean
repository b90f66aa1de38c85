import SubspaceOps.Digest.Sha256
import SubspaceOps.Rejection

/-!
# Subspace identifiers

A subspace is identified by the digest of its name, its list of allowed operations and its rules,
joined without separator. Triples with the same concatenation share an identifier. The three are
texts of Unicode scalar values: one with an unpaired surrogate has no UTF-8 form, and asking for its
identifier is an error (`UnicodeEncodeError`) that no part of this library describes.
-/
namespace SubspaceOps.SubspaceId

open Digest

/-- The digest of a text in hexadecimal digits. -/
def textDigest (s : String) : String := Text.Hex.encode (sha256 (utf8 s))

/-- The identifier of a configuration, which exists for all texts of Unicode scalar values. -/
def ofConfiguration (name ops rules : String) : String := "0x" ++ textDigest (name ++ ops ++ rules)

/-- The form of an identifier: `0x` and sixty-four hexadecimal digits of either case. -/
def isValid (sid : String) : Bool :=
  match sid.toList with
  | '0' :: 'x' :: digits => digits.length = 64 && digits.all Text.isHexDigit
  | _ => false

def validate (sid : String) : Except Fault Unit :=
  if isValid sid then .ok () else .error (.rejected (.invalidSubspaceId sid))

/-- The identifier is the one of the configuration. -/
def verify (sid name ops rules : String) : Bool := sid = ofConfiguration name ops rules

theorem isValid_ofConfiguration (name ops rules : String) :
    isValid (ofConfiguration name ops rules) = true := by
  simp only [isValid, ofConfiguration, textDigest, Text.Hex.encode, String.toList_append,
    String.toList_ofList, show "0x".toList = ['0', 'x'] from rfl, List.cons_append, List.nil_append,
    Text.Hex.length_encodeChars, length_sha256, Bool.and_eq_true, List.all_eq_true]
  exact ⟨rfl, fun c hc => Text.Hex.isHexDigit_of_mem_encodeChars hc⟩

end SubspaceOps.SubspaceId
