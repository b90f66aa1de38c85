import SubspaceOps.Lifecycle.Operations
import SubspaceOps.Registry.Basic

/-!
# Routing envelopes

An envelope is decoded by the module that owns its kind. The common header is read first: the last
subspace identifier, the last capability, of which each has to be well formed, and all parents.
Every rejected or decoded envelope is reported by one journal entry, which shows identifiers, kind
and outcome only.
-/
namespace SubspaceOps

open Journal

/-- What the tags of every operation say. -/
structure CommonTags where
  subspaceId : String
  capability : Option Capability
  parents : List String
  deriving DecidableEq, Repr

namespace CommonTags

def empty : CommonTags := ⟨"", none, []⟩

def readTag (c : CommonTags) : Tag → Except Fault CommonTags
  | name :: v :: vs =>
    if name = TagName.subspaceId then .ok { c with subspaceId := v }
    else if name = TagName.capability then
      (Capability.read v).map fun cap => { c with capability := some cap }
    else if name = TagName.parent then .ok { c with parents := c.parents ++ v :: vs }
    else .ok c
  | _ => .ok c

def read (tags : List Tag) : Except Fault CommonTags := tags.foldlM readTag empty

end CommonTags

namespace Routing

/-- The identifier of an envelope in a message. -/
def shownId (e : Envelope) : String := if e.id = "" then "-" else e.id

/-- The entries about the outcome of decoding. Faults that are not rejections leave none. -/
def report (owner : String) (e : Envelope) : Except Fault Record → List Entry
  | .ok r => [⟨debug, "Subspace.Dispatch", "decoded " ++ owner ++ "/" ++ r.header.operation ++
      " id=" ++ shownId e ++ " sid=" ++ r.header.subspaceId⟩]
  | .error (.rejected x) => [⟨warning, "Subspace.Dispatch", "rejected envelope id=" ++ shownId e ++
      " kind=" ++ toString e.kind ++ ": " ++ x.label⟩]
  | .error _ => []

/-- The record that a module reads from an envelope. -/
def outcomeWith (m : OperationModule) (r : Registry) (e : Envelope) : Except Fault Record := do
  let common ← CommonTags.read e.tags
  match r.operation? e.kind with
  | none => .error (.rejected (.unknownKind e.kind))
  | some operation =>
    match m.recordType? operation with
    | none => .error (.rejected (.unknownOperation operation (some m.name)))
    | some t =>
      t.decode ⟨common.subspaceId, operation, common.capability, common.parents, e⟩

theorem outcomeWith_of_recordType {m : OperationModule} {r : Registry} {e : Envelope}
    {c : CommonTags} {operation : String} {t : RecordType} (hc : CommonTags.read e.tags = .ok c)
    (ho : r.operation? e.kind = some operation) (ht : m.recordType? operation = some t) :
    outcomeWith m r e =
      t.decode ⟨c.subspaceId, operation, c.capability, c.parents, e⟩ := by
  simp only [outcomeWith, hc, ho]
  change (match m.recordType? operation with
    | none => _
    | some t => t.decode _) = _
  rw [ht]

/-- The record that the owner of the kind reads from an envelope. -/
def outcome (r : Registry) (e : Envelope) : Except Fault Record :=
  match r.owner? e.kind with
  | some m => outcomeWith m r e
  | none =>
    match r.operation? e.kind with
    | none => .error (.rejected (.unknownKind e.kind))
    | some operation => .error (.rejected (.unknownOperation operation none))

end Routing

/-- Decode an envelope by a given module. -/
def OperationModule.decode (m : OperationModule) (r : Registry) (e : Envelope) : Logged Record :=
  ⟨Routing.outcomeWith m r e, Routing.report m.name e (Routing.outcomeWith m r e)⟩

@[simp] theorem OperationModule.outcome_decode (m : OperationModule) (r : Registry)
    (e : Envelope) : (m.decode r e).outcome = Routing.outcomeWith m r e := rfl

/-- Decode an envelope by the module that owns its kind. -/
def Registry.decode (r : Registry) (e : Envelope) : Logged Record :=
  let owner := match r.owner? e.kind with
    | some m => m.name
    | none => ""
  ⟨Routing.outcome r e, Routing.report owner e (Routing.outcome r e)⟩

@[simp] theorem Registry.outcome_decode (r : Registry) (e : Envelope) :
    (r.decode e).outcome = Routing.outcome r e := rfl

namespace Lifecycle

/-- Decode an envelope of one lifecycle kind; others are refused without a report. -/
def decodeKind (kind : Int) (r : Registry) (e : Envelope) : Logged Record :=
  if e.kind = kind then operations.decode r e
  else ⟨.error (.rejected (.wrongKind kind e.kind)), []⟩

/-- Decode the creation of a subspace. -/
def decodeCreation (r : Registry) (e : Envelope) : Logged Record :=
  decodeKind Kind.subspaceCreate r e

/-- Decode the joining of a subspace. -/
def decodeJoining (r : Registry) (e : Envelope) : Logged Record :=
  decodeKind Kind.subspaceJoin r e

end Lifecycle

end SubspaceOps
