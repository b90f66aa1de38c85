import SubspaceOps.Lifecycle.Creation
import SubspaceOps.Lifecycle.Joining
import SubspaceOps.OperationModule
import SubspaceOps.Record.Start

/-!
# The lifecycle module

Creation and joining form an operation module of their own. Their records pass checks beyond the
reading of fields, which `RecordType.decode` adds for every record type according to its role.
-/
namespace SubspaceOps

/-- The record of a header, after the checks that its type asks for. -/
def RecordType.decode (t : RecordType) (h : Header) : Except Fault Record := do
  let r ← t.start h h.envelope.content (t.scan h.envelope.tags)
  match t.role with
  | .plain => return r
  | .creation => Creation.complete r
  | .joining => do
    Joining.check r
    return r

namespace Lifecycle

/-- Subspace creation and membership. -/
def operations : OperationModule where
  serial := 0
  name := "subspace"
  package := "cip00"
  description := "Subspace creation and membership"
  kinds := ⟨[(Kind.subspaceCreate, Operation.subspaceCreate),
      (Kind.subspaceJoin, Operation.subspaceJoin)], by decide⟩
  records := [Creation.recordType, Joining.recordType]
  declared := by decide

end Lifecycle

end SubspaceOps
