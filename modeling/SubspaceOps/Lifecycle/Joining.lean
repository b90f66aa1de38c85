import SubspaceOps.Lifecycle.RequiredTags
import SubspaceOps.Record.Draft
import SubspaceOps.SubspaceId

/-!
# Joining a subspace

A joining event names the subspace by a valid identifier and carries nothing else.
-/
namespace SubspaceOps.Joining

def recordType : RecordType where
  name := "SubspaceJoinEvent"
  operation := Operation.subspaceJoin
  fields := []
  setters := []
  role := .joining

/-- The checks on a decoded record. -/
def check (r : Record) : Except Fault Unit := do
  let e := r.header.envelope
  if e.kind ≠ Kind.subspaceJoin then
    .error (.rejected (.wrongKind Kind.subspaceJoin e.kind))
  else
    e.requireTags [TagName.marker, TagName.subspaceId]
    SubspaceId.validate r.header.subspaceId

/-- The draft of a joining event. -/
def new (now : Int) (sid : String) : Record :=
  let envelope := Envelope.unsigned now Kind.subspaceJoin
    [[TagName.marker, Operation.subspaceJoin], [TagName.subspaceId, sid]]
  Record.blank recordType ⟨sid, Operation.subspaceJoin, none, [], envelope⟩

end SubspaceOps.Joining
