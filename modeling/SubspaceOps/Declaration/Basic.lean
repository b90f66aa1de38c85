import SubspaceOps.Record.Field
import SubspaceOps.Text.Identifier

/-!
# Module declarations

A declaration describes an operation module as data: events with their operations, kinds and
payload fields. Two rules hold beyond the form of the parts: the fields of an event differ in name
and tag, and the events of a module differ in kind and operation.
-/
namespace SubspaceOps

structure FieldDeclaration where
  name : String
  tag : String
  isMap : Bool
  required : Bool
  multiple : Bool
  deriving DecidableEq, Repr

structure EventDeclaration where
  name : String
  operation : String
  kind : Int
  description : String
  fields : List FieldDeclaration
  deriving DecidableEq, Repr

structure Declaration where
  name : String
  package : String
  description : String
  events : List EventDeclaration
  deriving DecidableEq, Repr

namespace FieldDeclaration

/-- A map stays one value, so `multiple` matters for texts only. -/
def shape (f : FieldDeclaration) : FieldShape :=
  if f.isMap then .pairs else if f.multiple then .list else .scalar

def payloadField (f : FieldDeclaration) : PayloadField :=
  ⟨f.name, f.tag, f.shape, f.required, false⟩

/-- Names that belong to every record and cannot be used for a field. -/
def reservedNames : List String :=
  ["OPERATION", "__annotations__", "__class__", "__dataclass_fields__", "__dataclass_params__",
    "__delattr__", "__dict__", "__dir__", "__doc__", "__eq__", "__format__", "__ge__",
    "__getattribute__", "__getstate__", "__gt__", "__hash__", "__init__", "__init_subclass__",
    "__le__", "__lt__", "__match_args__", "__module__", "__ne__", "__new__", "__reduce__",
    "__reduce_ex__", "__repr__", "__setattr__", "__sizeof__", "__str__", "__subclasshook__",
    "__weakref__", "_put", "auth_tag", "content", "decode", "event", "header", "kind",
    "missing_fields", "new", "operation", "parents", "payload", "payload_fields", "set_auth",
    "set_content", "set_fields", "set_parents", "subspace_id", "tags", "validate"]

end FieldDeclaration

end SubspaceOps
