import SubspaceOps.Declaration.Issue
import SubspaceOps.Json.Reader

/-!
# Rejections and faults

A rejection is a judgement on the input: it has a name, which the journal shows, and a message.
A fault is a rejection or one of the failures that arise below the library's own checks, where
a value does not have the form that an operation presupposes.
-/
namespace SubspaceOps

/-- What is wrong with the text or the numbers of a capability. -/
inductive CapabilityFlaw
  | fieldCount (found : Nat)
  | badPart (part : String)
  | unknownField (name : String)
  | repeatedField (name : String)
  | badValue (name raw : String)
  | notInteger (name : String)
  | outOfRange (name shown : String)
  deriving DecidableEq, Repr

def CapabilityFlaw.reason : CapabilityFlaw → String
  | .fieldCount found => "expected 3 fields, got " ++ toString found
  | .badPart part => "invalid part " ++ Text.quoted part
  | .unknownField name => "unknown field " ++ Text.quoted name
  | .repeatedField name => "duplicate field " ++ Text.quoted name
  | .badValue name raw => "invalid " ++ name ++ " value " ++ Text.quoted raw
  | .notInteger name => name ++ " must be an integer"
  | .outOfRange name shown => name ++ " value " ++ shown ++ " out of range"

/-- What is wrong with the content of a creation event. -/
inductive ContentFlaw
  | unreadable (flaw : Json.Flaw)
  | notObject
  | notText (member : String)
  deriving DecidableEq, Repr

/-- The name under which messages show an unreadable JSON text. -/
def Json.Flaw.label : Json.Flaw → String
  | .malformed => "<JSONDecodeError>"
  | .longNumeral => "<ValueError>"

def ContentFlaw.reason : ContentFlaw → String
  | .unreadable flaw => flaw.label
  | .notObject => "expected a JSON object"
  | .notText member => member ++ " must be a string"

/-- Why the file of a module declaration cannot be read as JSON. -/
inductive FileFlaw
  | notUtf8
  | json (flaw : Json.Flaw)
  deriving DecidableEq, Repr

def FileFlaw.label : FileFlaw → String
  | .notUtf8 => "<UnicodeDecodeError>"
  | .json flaw => flaw.label

inductive Rejection
  | malformedCapability (text : String) (flaw : CapabilityFlaw)
  | unknownKind (kind : Int)
  | unknownOperation (operation : String) (owner : Option String)
  | invalidSubspaceId (sid : String)
  | subspaceIdMismatch (sid expected : String)
  | invalidOps (ops : String)
  | missingContentField (name : String)
  | missingTag (tag : String)
  | wrongKind (expected got : Int)
  | invalidContent (flaw : ContentFlaw)
  | duplicateKind (kind : Int) (existing new : String)
  | duplicateOperation (operation : String) (existing new : Int)
  | registryLocked
  | moduleRegistered (name : String)
  | kindOwned (kind : Int) (owner new : String)
  | undeclaredOperation (owner record operation : String)
  | unreadableDeclaration (path : String) (flaw : FileFlaw)
  | invalidDeclaration (issues : List Declaration.Issue)
  deriving DecidableEq, Repr

namespace Rejection

/-- The name of the class of a rejection. -/
def label : Rejection → String
  | malformedCapability .. => "MalformedAuthTag"
  | unknownKind .. => "UnknownKind"
  | unknownOperation .. => "UnknownOperation"
  | invalidSubspaceId .. => "InvalidSubspaceId"
  | subspaceIdMismatch .. => "SubspaceIdMismatch"
  | invalidOps .. => "InvalidOpsFormat"
  | missingContentField .. => "MissingRequiredContentField"
  | missingTag .. => "MissingRequiredTag"
  | wrongKind .. => "InvalidEventKind"
  | invalidContent .. => "InvalidContent"
  | duplicateKind .. => "DuplicateKindError"
  | duplicateOperation .. => "DuplicateOperationError"
  | registryLocked => "RegistryLockedError"
  | moduleRegistered .. | kindOwned .. => "RegistryError"
  | undeclaredOperation .. | unreadableDeclaration .. | invalidDeclaration .. => "SchemaError"

def message : Rejection → String
  | malformedCapability text flaw => "invalid auth tag " ++ Text.quoted text ++ ": " ++ flaw.reason
  | unknownKind kind => "unknown kind value: " ++ toString kind
  | unknownOperation operation owner =>
    let place := match owner with
      | none => ""
      | some name => if name = "" then "" else " in module '" ++ name ++ "'"
    "unknown operation type: " ++ operation ++ place
  | invalidSubspaceId sid => "invalid subspace ID format: " ++ sid
  | subspaceIdMismatch sid expected => "invalid subspace ID, expected " ++ expected ++ ": " ++ sid
  | invalidOps ops => "invalid ops format: " ++ ops
  | missingContentField name => "missing " ++ name ++ " in content"
  | missingTag tag => "missing required tag: " ++ tag
  | wrongKind expected got =>
    "invalid event kind: expected " ++ toString expected ++ ", got " ++ toString got
  | invalidContent flaw => "invalid content format: " ++ flaw.reason
  | duplicateKind kind existing new =>
    "kind " ++ toString kind ++ " is already registered as '" ++ existing ++ "'. " ++
      "Cannot register it as '" ++ new ++ "'."
  | duplicateOperation operation existing new =>
    "operation '" ++ operation ++ "' is already registered under kind " ++ toString existing ++
      ". Cannot register it under kind " ++ toString new ++ "."
  | registryLocked =>
    "kind registry is locked after startup. No dynamic registration allowed."
  | moduleRegistered name => "module '" ++ name ++ "' is already registered."
  | kindOwned kind owner new =>
    "kind " ++ toString kind ++ " is already owned by module '" ++ owner ++ "'. " ++
      "Cannot assign it to '" ++ new ++ "'."
  | undeclaredOperation owner record operation =>
    "module '" ++ owner ++ "': record " ++ record ++ " implements undeclared operation '" ++
      operation ++ "'"
  | unreadableDeclaration path flaw => path ++ ": invalid JSON: " ++ flaw.label
  | invalidDeclaration _ => "invalid module schema: <ValidationError>"

end Rejection

inductive Fault
  | rejected (r : Rejection)
  /-- A value does not stand for an integer. -/
  | integer (flaw : Json.IntegerFlaw)
  /-- A numeral of ASCII digits is too long to be read. -/
  | longNumeral
  /-- The JSON text of an envelope cannot be read. -/
  | unreadable (flaw : Json.Flaw)
  /-- A member that has to be there is absent. -/
  | missingMember (name : String)
  /-- The JSON text of an envelope is not an object. -/
  | notObject
  /-- A value has another shape than its place asks for. -/
  | wrongShape
  /-- The texts of a list do not form the entries of a map. -/
  | notEntries
  | unknownField (record name : String)
  /-- The name stands for the record itself and cannot be one of its fields. -/
  | receiverName
  /-- No record type can be made of a declared event. -/
  | unmadeType (flaw : Declaration.TypeFlaw)
  /-- A record cannot be started, because a field hides what the start needs. -/
  | hiddenPart
  | unknownRecord
  | unknownSetter
  /-- A value has been called like a setter. -/
  | notSetter
  | argumentCount
  /-- A text does not denote a number. -/
  | notNumber
  | missingFile
  /-- A document lies outside of what is described here, because a text of it holds an unpaired
  surrogate. -/
  | unpairedSurrogate
  | notHex
  | keyLength
  | unknownLevel
  | badLevel
  deriving DecidableEq, Repr

namespace Fault

/-- The message of a fault, for those that have one of their own. -/
def message? : Fault → Option String
  | rejected r => some r.message
  | unknownField record name => some (record ++ " has no payload field '" ++ name ++ "'")
  | _ => none

end Fault

/-- The integer that a value stands for. -/
def Json.integer (v : Json) : Except Fault Int := v.toInteger.mapError .integer

end SubspaceOps
