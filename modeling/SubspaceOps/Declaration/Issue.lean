import SubspaceOps.Text.Quoted

/-!
# Issues of a module declaration

Each issue names the place in the declaration, as a path of member names and positions, and what
is wrong there. A declaration without issues can still name a field in a way that no record type
allows.
-/
namespace SubspaceOps.Declaration

inductive Step
  | member (name : String)
  | position (index : Nat)
  deriving DecidableEq, Repr

/-- Two parts of a declaration that must differ do not. -/
inductive Clash
  | fieldNames (event : String)
  | fieldTags (event : String)
  | kinds (owner : String)
  | operations (owner : String)
  deriving DecidableEq, Repr

inductive Cause
  | notObject
  | missing
  | notText
  | emptyText
  | notArray
  | emptyArray
  | notInteger
  | negative
  | notBoolean
  | notFieldType
  | badName (name : String)
  | reservedName (name : String)
  | reservedTag (tag : String)
  | clash (c : Clash)
  deriving DecidableEq, Repr

structure Issue where
  path : List Step
  cause : Cause
  deriving DecidableEq, Repr

/-- Why no record type is made of an event that has no issues. -/
inductive TypeFlaw
  /-- A field has the name of a part that lays out the type itself. -/
  | layoutName
  /-- Two parameters have one normal form, or a parameter has that of a constant. -/
  | sharedName
  /-- The name of a field is not in normal form. -/
  | notNormal
  /-- A text stands for the signature of the type. -/
  | signatureName
  /-- A text stands for the type that is wrapped. -/
  | wrappedName
  deriving DecidableEq, Repr

/-- The class of an issue. -/
def Cause.label : Cause → String
  | notObject => "model_type"
  | missing => "missing"
  | notText => "string_type"
  | emptyText => "string_too_short"
  | notArray => "list_type"
  | emptyArray => "too_short"
  | notInteger => "int_type"
  | negative => "greater_than_equal"
  | notBoolean => "bool_type"
  | notFieldType => "literal_error"
  | badName _ | reservedName _ | reservedTag _ | clash _ => "value_error"

/-- The text of an issue with a rule of the declaration language. -/
def Cause.message? : Cause → Option String
  | badName name => some ("Value error, " ++ Text.quoted name ++ " is not a valid identifier")
  | reservedName name => some ("Value error, field name " ++ Text.quoted name ++ " is reserved")
  | reservedTag tag => some ("Value error, tag " ++ Text.quoted tag ++ " is reserved")
  | clash (.fieldNames event) =>
    some ("Value error, event " ++ event ++ ": duplicate field name")
  | clash (.fieldTags event) => some ("Value error, event " ++ event ++ ": duplicate field tag")
  | clash (.kinds owner) => some ("Value error, module " ++ owner ++ ": kind declared twice")
  | clash (.operations owner) =>
    some ("Value error, module " ++ owner ++ ": operation declared twice")
  | _ => none

end SubspaceOps.Declaration
