import SubspaceOps.Envelope.Basic
import SubspaceOps.Json.Writer
import SubspaceOps.SubspaceId

/-!
# Canonical form and identifier of an envelope

The signed fields are written as one JSON array without blanks, and the identifier is the digest
of its bytes. The identifier and the signature themselves are not part of it.
-/
namespace SubspaceOps.Envelope

open Digest

def tagsJson (tags : List Tag) : Json := .array (tags.map fun t => .array (t.map .text))

def canonicalJson (e : Envelope) : Json :=
  .array [.int 0, .text e.pubkey, .int e.createdAt, .int e.kind, tagsJson e.tags, .text e.content]

/-- The text whose bytes are hashed and signed. -/
def canonical (e : Envelope) : String := e.canonicalJson.write .canonical

def digest (e : Envelope) : List UInt8 := sha256 (utf8 e.canonical)

def computeId (e : Envelope) : String := Text.Hex.encode e.digest

def checkId (e : Envelope) : Bool := e.id = e.computeId

end SubspaceOps.Envelope
