import SubspaceOps.Json.Writer
import SubspaceOps.Lifecycle.AllowedOperations
import SubspaceOps.Lifecycle.RequiredTags
import SubspaceOps.Record.Draft
import SubspaceOps.SubspaceId

/-!
# Creation of a subspace

A creation event declares the name, the allowed operations and the rules of a subspace, and its
identifier has to be the one of exactly these three texts. The content is a JSON object with the
description, which may not be empty, and optionally the address of an image; both are kept as they
are read, unpaired surrogates included.
-/
namespace SubspaceOps.Creation

def recordType : RecordType where
  name := "SubspaceCreateEvent"
  operation := Operation.subspaceCreate
  fields := [(PayloadField.named "subspace_name").needed, (PayloadField.named "ops").needed,
    (PayloadField.named "rules").optional]
  setters := []
  role := .creation
  properties := ["description", "image_url"]

/-! ## Content -/

def contentOf (description imageUrl : String) : String :=
  (Json.object [("desc", .text description), ("img_url", .text imageUrl)]).write .compact

/-- A member that has to be a text when it is there; the empty text stands for its absence. -/
def textMember (members : List (CodeText × Json CodeText)) (name : String) :
    Except Fault CodeText :=
  match Json.member? members name with
  | none => .ok ""
  | some (.text s) => .ok s
  | some _ => .error (.rejected (.invalidContent (.notText name)))

def readContent (content : String) : Except Fault Profile :=
  match Json.read content with
  | .error flaw => .error (.rejected (.invalidContent (.unreadable flaw)))
  | .ok (.object members) => do
    let description ← textMember members "desc"
    let imageUrl ← textMember members "img_url"
    return ⟨description, imageUrl⟩
  | .ok _ => .error (.rejected (.invalidContent .notObject))

/-! ## Checks -/

def requiredTags : List String :=
  [TagName.marker, TagName.subspaceId, "subspace_name", "ops"]

/-- The checks on a creation record whose profile has been read. -/
def check (r : Record) (profile : Profile) : Except Fault Unit := do
  let e := r.header.envelope
  if e.kind ≠ Kind.subspaceCreate then
    .error (.rejected (.wrongKind Kind.subspaceCreate e.kind))
  else
    e.requireTags requiredTags
    let ops := r.text "ops"
    let expected :=
      SubspaceId.ofConfiguration (r.text "subspace_name") ops (r.text "rules")
    if r.header.subspaceId ≠ expected then
      .error (.rejected (.subspaceIdMismatch r.header.subspaceId expected))
    else if profile.description = "" then
      .error (.rejected (.missingContentField "description"))
    else if !AllowedOperations.looksDeclared ops then .error (.rejected (.invalidOps ops))
    else .ok ()

/-- Complete a decoded record by its profile. -/
def complete (r : Record) : Except Fault Record := do
  let profile ← readContent r.content
  check r profile
  return { r with profile := some profile }

/-! ## Drafting -/

/-- The draft of a creation event. -/
def new (now : Int) (name ops rules description imageUrl : String) : Record :=
  let sid := SubspaceId.ofConfiguration name ops rules
  let envelope := Envelope.unsigned now Kind.subspaceCreate
    [[TagName.marker, Operation.subspaceCreate], [TagName.subspaceId, sid]]
  let blank := Record.blank recordType ⟨sid, Operation.subspaceCreate, none, [], envelope⟩
  let filled := (blank.setFields
    [("subspace_name", .text name), ("ops", .text ops), ("rules", .text rules)]).1
  { filled.setContent (contentOf description imageUrl) with
    profile := some ⟨description, imageUrl⟩ }

/-- The operations that a creation record declares. -/
def allowedOperations (r : Record) : Except Fault (Table String Nat) :=
  AllowedOperations.read (r.text "ops")

end SubspaceOps.Creation
