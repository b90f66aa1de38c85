import SubspaceOps.Record.Basic

/-!
# Writing records

A draft is a record that is being written: each edit changes the record and appends to the tags of
its envelope, so that the envelope can be decoded by a receiver. Tags are never replaced. An edit
that fails part of the way keeps what it did before, so it yields a record in every case.
-/
namespace SubspaceOps.Record

/-- A record without values around an envelope. -/
def blank (t : RecordType) (h : Header) : Record := ⟨t, h, "", .empty, none⟩

def addTag (r : Record) (tag : Tag) : Record :=
  { r with header := { r.header with envelope := r.header.envelope.addTag tag } }

/-- Attach a capability. -/
def grant (r : Record) (c : Capability) : Record :=
  { r with header := { r.header with capability := some c } }.addTag c.tag

/-- Attach the capability of three values; nothing changes when they do not form one. -/
def setCapability (r : Record) (action key expiry : Json) : Record × Option Fault :=
  match Capability.new action key expiry with
  | .ok c => (r.grant c, none)
  | .error e => (r, some e)

/-- Add parents in one tag; an empty list adds nothing. -/
def addParents (r : Record) (parents : List String) : Record :=
  if parents.isEmpty then r
  else
    { r with header := { r.header with parents := r.header.parents ++ parents } }.addTag
      (TagName.parent :: parents)

def setContent (r : Record) (content : String) : Record :=
  { r with
    content := content
    header := { r.header with envelope := { r.header.envelope with content := content } } }

/-- Give a field a value and write its tag. -/
def put (r : Record) (f : PayloadField) (v : FieldValue) : Record :=
  let r := { r with assigned := r.assigned.put f.name v }
  match f.tagFor? v with
  | some tag => r.addTag tag
  | none => r

def setField (r : Record) (name : String) (v : FieldInput) : Except Fault Record :=
  match r.type.field? name with
  | none => .error (.unknownField r.type.name name)
  | some f => (f.accept v).map (r.put f)

/-- Set fields one after the other up to the first that fails. The fields before it stay set. -/
def setInOrder (r : Record) : List (String × FieldInput) → Record × Option Fault
  | [] => (r, none)
  | (name, v) :: rest =>
    match r.setField name v with
    | .ok r => r.setInOrder rest
    | .error e => (r, some e)

/-- Set named fields. A repeated name keeps its first place and takes its last value. -/
def setFields (r : Record) (values : List (String × FieldInput)) : Record × Option Fault :=
  if values.any (·.1 = "self") then (r, some .receiverName)
  else r.setInOrder (Table.ofList values).entries

end Record

namespace Setter

/-- The value that each parameter takes, under its name. -/
def bind : List SetterParam → List FieldInput → Except Fault (List (String × FieldInput))
  | [], [] => .ok []
  | [], _ :: _ => .error .argumentCount
  | p :: ps, [] =>
    match p.default? with
    | some v => (bind ps []).map ((p.name, v) :: ·)
    | none => .error .argumentCount
  | p :: ps, v :: vs => (bind ps vs).map ((p.name, v) :: ·)

/-- The fields of a body with the values of the parameters that they are given. -/
def forward (body : List (String × String)) (bound : List (String × FieldInput)) :
    List (String × FieldInput) :=
  body.filterMap fun a => (bound.lookup a.2).map fun v => (a.1, v)

/-- The assignments of a call, in the order in which they are made. -/
def assignments (s : Setter) (args : List FieldInput) :
    Except Fault (List (String × FieldInput)) :=
  (bind s.params args).map (forward s.body)

end Setter

namespace Record

/-- The name of the look-up for names that a record does not have. -/
def lookupName : String := "__getattr__"

/-- Names of the values that every record has besides its payload. -/
def valueNames : List String :=
  ["header", "content", "OPERATION", "subspace_id", "operation", "auth_tag", "parents", "event",
    "kind", "tags", "__annotations__", "__dataclass_fields__", "__dataclass_params__", "__dict__",
    "__doc__", "__hash__", "__match_args__", "__module__", "__weakref__"]

/-- A value is found under a name: one that every record has, a property or field of the type or,
when a text stands in the place of the look-up, any name. -/
def findsValue (r : Record) (name : String) : Bool :=
  valueNames.contains name || r.type.properties.contains name || (r.type.field? name).isSome ||
    (r.type.field? lookupName).any (·.shape = .scalar)

/-- Call a setter of the record's type by name. -/
def call (r : Record) (setter : String) (args : List FieldInput) : Record × Option Fault :=
  match r.type.setter? setter with
  | none => (r, some (if r.findsValue setter then .notSetter else .unknownSetter))
  | some s =>
    match s.assignments args with
    | .ok values => r.setFields values
    | .error e => (r, some e)

/-- What a draft can be asked for. -/
inductive Edit
  | capability (action key expiry : Json)
  | parents (parents : List String)
  | content (content : String)
  | fields (values : List (String × FieldInput))

/-- The record after an edit, and the fault that stopped it. -/
def edit (r : Record) : Edit → Record × Option Fault
  | .capability action key expiry => r.setCapability action key expiry
  | .parents parents => (r.addParents parents, none)
  | .content content => (r.setContent content, none)
  | .fields values => r.setFields values

/-- The record after a list of edits, of which none fails. -/
def editAll? (r : Record) : List Edit → Option Record
  | [] => some r
  | e :: es =>
    match r.edit e with
    | (r, none) => r.editAll? es
    | (_, some _) => none

end Record

end SubspaceOps
