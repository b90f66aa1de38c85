import SubspaceOps.Envelope.Canonical
import SubspaceOps.Rejection

/-!
# JSON form of an envelope

An envelope is written as an object with all seven fields in alphabetical order. Reading gives
absent fields their defaults, turns time and kind into integers, and takes any sequence of texts
for a tag: an array, the characters of a text, or the member names of an object. Documents with an
unpaired surrogate lie outside, as envelopes do, and reading stops at them with a fault of its own.
-/
namespace SubspaceOps.Envelope

def toJson (e : Envelope) : Json :=
  .object [("content", .text e.content), ("created_at", .int e.createdAt), ("id", .text e.id),
    ("kind", .int e.kind), ("pubkey", .text e.pubkey),
    ("sig", match e.sig with
      | some s => .text s
      | none => .null),
    ("tags", tagsJson e.tags)]

/-- The text of an envelope, from which it is read back. -/
def write (e : Envelope) : String := e.toJson.write .spaced

def textOf : Json → Except Fault String
  | .text s => .ok s
  | _ => .error .wrongShape

def charactersOf (s : String) : List String := s.toList.map String.singleton

def tagOf : Json → Except Fault Tag
  | .array xs => xs.mapM textOf
  | .text s => .ok (charactersOf s)
  | .object members => .ok (members.map Prod.fst)
  | _ => .error .wrongShape

def tagsOf : Json → Except Fault (List Tag)
  | .array xs => xs.mapM tagOf
  | .text s => .ok ((charactersOf s).map fun c => [c])
  | .object members => .ok (members.map fun m => charactersOf m.1)
  | _ => .error .wrongShape

/-- The envelope of an object; `now` stands in for an absent time. -/
def ofMembers (now : Int) (members : List (String × Json)) : Except Fault Envelope := do
  let get (name : String) (absent : Json) : Json := (Json.member? members name).getD absent
  let createdAt ← (get "created_at" (.int now)).integer
  let kind ← (get "kind" (.int 0)).integer
  let tags ← tagsOf (get "tags" (.array []))
  let id ← textOf (get "id" (.text ""))
  let pubkey ← textOf (get "pubkey" (.text ""))
  let content ← textOf (get "content" (.text ""))
  let sig ← match get "sig" .null with
    | .null => pure none
    | v => (textOf v).map some
  return ⟨id, pubkey, createdAt, kind, tags, content, sig⟩

def ofJson (now : Int) : Json → Except Fault Envelope
  | .object members => ofMembers now members
  | _ => .error .notObject

/-- The envelope of a document that has been read. -/
def ofDocument (now : Int) (v : Json CodeText) : Except Fault Envelope :=
  match v.inCharacters? with
  | some v => ofJson now v
  | none => .error .unpairedSurrogate

/-- Read an envelope from its JSON text. -/
def read (now : Int) (s : String) : Except Fault Envelope := do
  let v ← (Json.read s).mapError .unreadable
  ofDocument now v

end SubspaceOps.Envelope
