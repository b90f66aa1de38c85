/-!
# Envelopes

An envelope is the signed container that every operation travels in. Its tags are lists of texts:
a name and the values behind it. A tag without value says nothing and is passed over by every
look-up.

All texts are of Unicode scalar values. Envelopes with an unpaired surrogate in a text have no UTF-8
form and are not considered.
-/
namespace SubspaceOps

abbrev Tag := List String

structure Envelope where
  id : String
  pubkey : String
  createdAt : Int
  kind : Int
  tags : List Tag
  content : String
  sig : Option String
  deriving DecidableEq, Repr

namespace Envelope

/-- An envelope that is not signed yet. -/
def unsigned (createdAt kind : Int) (tags : List Tag) : Envelope :=
  ⟨"", "", createdAt, kind, tags, "", none⟩

def withoutSignature (e : Envelope) : Envelope := { e with sig := none }

/-- The tag has the given name and at least one value. -/
def carries (name : String) : Tag → Bool
  | n :: _ :: _ => n = name
  | _ => false

/-- The last tag with the given name and at least one value. -/
def tag? (e : Envelope) (name : String) : Option Tag := (e.tags.filter (carries name)).getLast?

/-- The values of all tags with the given name, in order. -/
def tagValues (e : Envelope) (name : String) : List String :=
  (e.tags.filter (carries name)).flatMap List.tail

/-- Add a tag behind the others. -/
def addTag (e : Envelope) (t : Tag) : Envelope := { e with tags := e.tags ++ [t] }

end Envelope

end SubspaceOps
