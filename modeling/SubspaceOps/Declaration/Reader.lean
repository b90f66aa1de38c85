import SubspaceOps.Declaration.Basic
import SubspaceOps.Declaration.Checked
import SubspaceOps.Vocabulary

/-!
# Reading module declarations

A JSON value is read as a declaration, or all its issues are reported in the order of the parts.
The rules that relate several parts are checked only when each of the parts is in order.
-/
namespace SubspaceOps.Declaration

open Checked

/-! ## Fields -/

def readName (path : Path) (v : Json) : Checked String :=
  (readText path v).ensure path fun s => if Text.isName s then none else some (.badName s)

def readFieldName (path : Path) (v : Json) : Checked String :=
  (readName path v).ensure path fun s =>
    if FieldDeclaration.reservedNames.contains s then some (.reservedName s) else none

/-- The type of a field: whether it is a map. -/
def readFieldType (path : Path) : Json → Checked Bool
  | .text s =>
    if s = "string" then .ok false
    else if s = "map" then .ok true
    else issue path .notFieldType
  | _ => issue path .notFieldType

/-- An absent or empty tag is the name of the field. -/
def resolvedField (name tag : String) (isMap required multiple : Bool) : FieldDeclaration :=
  ⟨name, if tag = "" then name else tag, isMap, required, multiple⟩

def readFieldMembers (path : Path) (members : List (String × Json)) : Checked FieldDeclaration :=
  let parts := (Except.ok resolvedField : Checked _)
    |> (ap · (needed readFieldName path members "name"))
    |> (ap · (memberOr "" readText path members "tag"))
    |> (ap · (memberOr false readFieldType path members "type"))
    |> (ap · (memberOr false readBool path members "required"))
    |> (ap · (memberOr false readBool path members "multiple"))
  parts.ensure path fun f =>
    if TagName.reserved.contains f.tag then some (.reservedTag f.tag) else none

def readField : Path → Json → Checked FieldDeclaration := readObject readFieldMembers

/-! ## Events -/

/-- Two fields of an event share a name or a tag. -/
def fieldClash? (e : EventDeclaration) : Option Cause :=
  if ¬ (e.fields.map (·.name)).Nodup then some (.clash (.fieldNames e.name))
  else if ¬ (e.fields.map (·.tag)).Nodup then some (.clash (.fieldTags e.name))
  else none

/-- The fields stand under `fields`, or under `payload` when there is no such member. -/
def readEventFields (path : Path) (members : List (String × Json)) :
    Checked (List FieldDeclaration) :=
  let name := if (Json.member? members "fields").isSome then "fields" else "payload"
  memberOr [] (readArray readField) path members name

def readEventMembers (path : Path) (members : List (String × Json)) : Checked EventDeclaration :=
  let parts := (Except.ok EventDeclaration.mk : Checked _)
    |> (ap · (needed readName path members "name"))
    |> (ap · (needed readFilledText path members "operation"))
    |> (ap · (needed readKind path members "kind"))
    |> (ap · (memberOr "" readText path members "description"))
    |> (ap · (readEventFields path members))
  parts.ensure path fieldClash?

def readEvent : Path → Json → Checked EventDeclaration := readObject readEventMembers

/-! ## Modules -/

/-- Two events of a module share a kind or an operation. -/
def eventClash? (d : Declaration) : Option Cause :=
  if ¬ (d.events.map (·.kind)).Nodup then some (.clash (.kinds d.name))
  else if ¬ (d.events.map (·.operation)).Nodup then some (.clash (.operations d.name))
  else none

def readEvents (path : Path) (v : Json) : Checked (List EventDeclaration) :=
  (readArray readEvent path v).ensure path fun es => if es.isEmpty then some .emptyArray else none

def readMembers (path : Path) (members : List (String × Json)) : Checked Declaration :=
  let parts := (Except.ok Declaration.mk : Checked _)
    |> (ap · (needed readFilledText path members "name"))
    |> (ap · (needed readFilledText path members "package"))
    |> (ap · (memberOr "" readText path members "description"))
    |> (ap · (needed readEvents path members "events"))
  parts.ensure path eventClash?

/-- The declaration that a JSON value makes. -/
def ofJson (v : Json) : Except Fault Declaration :=
  match readObject readMembers [] v with
  | .ok d => .ok d
  | .error issues => .error (.rejected (.invalidDeclaration issues))

end SubspaceOps.Declaration
