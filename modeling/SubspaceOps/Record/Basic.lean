import SubspaceOps.Capability
import SubspaceOps.Envelope.Basic
import SubspaceOps.Record.Field
import SubspaceOps.Text.CodePoint

/-!
# Operation records

A record is the typed view of an operation envelope: a header that all operations share, the
content, and a value for each payload field of its type. Record types are data, so the built-in
types and those of module declarations are handled alike.
-/
namespace SubspaceOps

/-- A parameter has a name and, when its argument may be left out, a value that it takes then. -/
structure SetterParam where
  name : String
  default? : Option FieldInput
  deriving DecidableEq, Repr

/-- A setter binds its arguments to parameters by position. Its body assigns them: each entry is a
field with the parameter whose value it is given, in the order of the assignments. -/
structure Setter where
  name : String
  params : List SetterParam
  body : List (String × String)
  distinct : (params.map SetterParam.name).Nodup := by decide
  once : (body.map Prod.fst).Nodup := by decide
  bound : ∀ a ∈ body, a.2 ∈ params.map SetterParam.name := by decide
  deriving DecidableEq, Repr

/-- The part that a record type plays in the life of a subspace. -/
inductive Role
  | plain
  | creation
  | joining
  deriving DecidableEq, Repr

/-- The `properties` are names of values that a record has besides its payload. -/
structure RecordType where
  name : String
  operation : String
  fields : List PayloadField
  setters : List Setter
  role : Role
  properties : List String := []
  distinct : (fields.map PayloadField.name).Nodup := by decide
  deriving DecidableEq, Repr

/-- What is common to all operations. -/
structure Header where
  subspaceId : String
  operation : String
  capability : Option Capability
  parents : List String
  envelope : Envelope
  deriving DecidableEq, Repr

/-- What a creation event says about the subspace besides its configuration. -/
structure Profile where
  description : CodeText
  imageUrl : CodeText
  deriving DecidableEq, Repr

/-- The values that were set or read stand in `assigned`; other fields have their defaults. -/
structure Record where
  type : RecordType
  header : Header
  content : String
  assigned : Table String FieldValue
  profile : Option Profile
  deriving DecidableEq

namespace RecordType

/-- The field with the given name. -/
def field? (t : RecordType) (name : String) : Option PayloadField :=
  t.fields.find? (·.name = name)

/-- The field that is carried in the given tag; of several the last one. -/
def fieldOfTag? (t : RecordType) (tag : String) : Option PayloadField :=
  (t.fields.filter (·.tag = tag)).getLast?

def setter? (t : RecordType) (name : String) : Option Setter :=
  t.setters.find? (·.name = name)

/-- Enter what a tag says about a field; a tag without value or field says nothing. -/
def readTag (t : RecordType) (values : Table String FieldValue) :
    Tag → Table String FieldValue
  | name :: v :: vs =>
    match t.fieldOfTag? name with
    | some f => values.put f.name (f.shape.ofTag v vs)
    | none => values
  | _ => values

/-- The field values of a list of tags. Of several tags for one field the last one counts. -/
def scan (t : RecordType) (tags : List Tag) : Table String FieldValue :=
  tags.foldl t.readTag .empty

end RecordType

namespace Record

/-- The value of a field. -/
def value (r : Record) (f : PayloadField) : FieldValue :=
  r.assigned.getD f.name f.shape.default

/-- The text of a field that holds one. -/
def text (r : Record) (name : String) : String :=
  match r.assigned.get? name with
  | some (.scalar s) => s
  | _ => ""

/-- All fields with their values, in the order of declaration. -/
def payload (r : Record) : List (String × FieldValue) :=
  r.type.fields.map fun f => (f.name, r.value f)

/-- The tags of required fields without value. -/
def missing (r : Record) : List String :=
  (r.type.fields.filter fun f => f.required && (r.value f).isEmpty).map PayloadField.tag

/-- Refuse a record with a missing field, naming the first. -/
def validate (r : Record) : Except Fault Unit :=
  match r.missing with
  | [] => .ok ()
  | tag :: _ => .error (.rejected (.missingTag tag))

end Record

end SubspaceOps
