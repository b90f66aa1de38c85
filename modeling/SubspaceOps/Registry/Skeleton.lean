import SubspaceOps.Record.Start
import SubspaceOps.Registry.Basic

/-!
# Starting a record

The envelope of a new operation carries the marker, the subspace identifier and the operation, and
its kind is found in the registry by the name of the operation.
-/
namespace SubspaceOps

/-- The header of a new operation. -/
def Registry.skeleton (r : Registry) (now : Int) (sid operation : String) : Except Fault Header :=
  match r.kind? operation with
  | none => .error (.rejected (.unknownOperation operation none))
  | some kind =>
    .ok ⟨sid, operation, none, [], .unsigned now kind
      [[TagName.marker, operationMarker], [TagName.subspaceId, sid],
        [TagName.operation, operation]]⟩

/-- A record of a type without values. Lifecycle records are not drafted from an identifier
alone. -/
def RecordType.new (t : RecordType) (r : Registry) (now : Int) (sid : String) :
    Except Fault Record :=
  match t.role with
  | .plain => do
    let header ← r.skeleton now sid t.operation
    t.start header "" .empty
  | _ => .error .argumentCount

end SubspaceOps
