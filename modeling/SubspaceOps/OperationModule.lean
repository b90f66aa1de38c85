import SubspaceOps.Record.Basic

/-!
# Operation modules

A module reserves kinds for its operations and implements some of them by record types. A kind may
be reserved without a record type.
-/
namespace SubspaceOps

/-- The serial tells apart modules that were declared separately with the same content. -/
structure OperationModule where
  serial : Nat
  name : String
  package : String
  description : String
  kinds : Table Int String
  records : List RecordType
  declared : ∀ t ∈ records, t.operation ∈ kinds.values
  deriving DecidableEq

namespace OperationModule

/-- A module whose record types implement declared operations only. -/
def new (serial : Nat) (name package description : String) (kinds : Table Int String)
    (records : List RecordType) : Except Fault OperationModule :=
  match h : records.find? fun t => !kinds.values.contains t.operation with
  | some t => .error (.rejected (.undeclaredOperation name t.name t.operation))
  | none => .ok ⟨serial, name, package, description, kinds, records, by simpa using h⟩

/-- The record type that implements an operation; of several the last one. -/
def recordType? (m : OperationModule) (operation : String) : Option RecordType :=
  (m.records.filter (·.operation = operation)).getLast?

theorem mem_records_of_recordType? {m : OperationModule} {operation : String} {t : RecordType}
    (h : m.recordType? operation = some t) : t ∈ m.records ∧ t.operation = operation := by
  simpa using List.mem_filter.1 (List.mem_of_getLast? h)

/-- The kinds that the module reserves, with their operations. -/
def declarations (m : OperationModule) : List (Int × String) := m.kinds.entries

end OperationModule

end SubspaceOps
