import SubspaceOps.Rejection
import SubspaceOps.Text.Split

/-!
# Payload fields

A payload field binds a name to a tag. It holds one text, a list of texts in one tag, or a map
that is written as `k:v` segments in one tag. The segment form has no escapes: a map is read back
unchanged exactly when its keys and values are free of both separators.
-/
namespace SubspaceOps

/-! ## Maps in one text -/

/-- The segments `k:v` of a map, separated by commas. -/
def encodePairs (t : Table String String) : String :=
  Text.join ',' (t.entries.map fun e => e.1 ++ ":" ++ e.2)

/-- The key and value of a segment. -/
def segment? (s : String) : Option (String × String) :=
  match Text.split ':' s with
  | [k, v] => some (k, v)
  | _ => none

/-- The map of a text; segments of any other form are passed over. -/
def decodePairs (s : String) : Table String String :=
  .ofList ((Text.split ',' s).filterMap segment?)

/-! ## Values -/

inductive FieldShape
  | scalar
  | list
  | pairs
  deriving DecidableEq, Repr

inductive FieldValue
  | scalar (s : String)
  | list (xs : List String)
  | pairs (t : Table String String)
  /-- The mark for a default that was asked for and has not been filled in. -/
  | mark
  deriving DecidableEq

namespace FieldShape

def default : FieldShape → FieldValue
  | scalar => .scalar ""
  | list => .list []
  | pairs => .pairs .empty

/-- The value of a tag with `v` and `vs` behind its name. -/
def ofTag (v : String) (vs : List String) : FieldShape → FieldValue
  | scalar => .scalar v
  | list => .list (v :: vs)
  | pairs => .pairs (decodePairs v)

end FieldShape

namespace FieldValue

def isEmpty : FieldValue → Bool
  | scalar s => s = ""
  | list xs => xs.isEmpty
  | pairs t => t.entries.isEmpty
  | mark => false

/-- What stands behind the name of the tag that carries a value. -/
def tagValues : FieldValue → List String
  | scalar s => [s]
  | list xs => xs
  | pairs t => [encodePairs t]
  | mark => []

end FieldValue

/-- What a field can be set to. -/
inductive FieldInput
  | text (s : String)
  | items (xs : List String)
  | entries (es : List (String × String))
  deriving DecidableEq, Repr

/-! ## Fields -/

structure PayloadField where
  name : String
  tag : String
  shape : FieldShape
  required : Bool
  omitEmpty : Bool
  deriving DecidableEq, Repr

namespace PayloadField

/-- A text field under a tag of its own name. -/
def named (name : String) : PayloadField := ⟨name, name, .scalar, false, false⟩

def needed (f : PayloadField) : PayloadField := { f with required := true }

/-- No tag is written for the empty text. -/
def optional (f : PayloadField) : PayloadField := { f with omitEmpty := true }

def under (f : PayloadField) (tag : String) : PayloadField := { f with tag := tag }

def holding (f : PayloadField) (shape : FieldShape) : PayloadField := { f with shape := shape }

/-- A text of two characters leads from the first to the second. -/
def entry? (s : String) : Option (String × String) :=
  match s.toList with
  | [k, v] => some (k.toString, v.toString)
  | _ => none

/-- The map of a list of texts of two characters each. -/
def entriesOf (xs : List String) : Except Fault FieldValue :=
  match xs.mapM entry? with
  | some es => .ok (.pairs (.ofList es))
  | none => .error .notEntries

/-- The value that an input gives the field. A text stands for the list of its characters where a
list or a map is asked for. -/
def accept (f : PayloadField) (v : FieldInput) : Except Fault FieldValue :=
  match f.shape, v with
  | .scalar, .text s => .ok (.scalar s)
  | .list, .items xs => .ok (.list xs)
  | .list, .text s => .ok (.list (s.toList.map String.singleton))
  | .pairs, .entries es => .ok (.pairs (.ofList es))
  | .pairs, .items xs => entriesOf xs
  | .pairs, .text s => entriesOf (s.toList.map String.singleton)
  | _, _ => .error .wrongShape

/-- The tag that is written for a value: none for empty lists and maps, and none for the empty
text of an optional field. -/
def tagFor? (f : PayloadField) (v : FieldValue) : Option (List String) :=
  let silent := v.isEmpty && (f.shape ≠ .scalar || f.omitEmpty)
  if silent then none else some (f.tag :: v.tagValues)

end PayloadField

end SubspaceOps
