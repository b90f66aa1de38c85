import SubspaceOps.Journal
import SubspaceOps.OperationModule

/-!
# The kind registry

A registry relates kinds and operation names one to one and knows the module that owns a kind. It
is filled by registration requests and then locked. A request that conflicts with what is
registered is refused and changes nothing; the declarations of a module are all checked before any
is entered.
-/
namespace SubspaceOps

structure Registry where
  operations : Table Int String
  kinds : Table String Int
  owners : Table Int OperationModule
  modules : Table String OperationModule
  locked : Bool
  deriving DecidableEq

namespace Registry

def empty : Registry := ⟨.empty, .empty, .empty, .empty, false⟩

/-! ## Look-ups -/

def operation? (r : Registry) (kind : Int) : Option String := r.operations.get? kind

def kind? (r : Registry) (operation : String) : Option Int := r.kinds.get? operation

def owner? (r : Registry) (kind : Int) : Option OperationModule := r.owners.get? kind

def module? (r : Registry) (name : String) : Option OperationModule := r.modules.get? name

def contains (r : Registry) (kind : Int) : Bool := r.operations.contains kind

def size (r : Registry) : Nat := r.operations.size

/-! ## Registration -/

def lock (r : Registry) : Registry := { r with locked := true }

/-- The conflict of a pair with what is registered, if there is one. -/
def conflict? (r : Registry) (kind : Int) (operation : String) (owner : Option OperationModule) :
    Option Rejection :=
  match (r.operation? kind).filter (· ≠ operation), (r.kind? operation).filter (· ≠ kind),
      owner, r.owner? kind with
  | some existing, _, _, _ => some (.duplicateKind kind existing operation)
  | none, some existing, _, _ => some (.duplicateOperation operation existing kind)
  | none, none, some new, some current =>
    if current = new then none else some (.kindOwned kind current.name new.name)
  | none, none, _, _ => none

/-- Enter a pair. -/
def bind (r : Registry) (kind : Int) (operation : String) (owner : Option OperationModule) :
    Registry :=
  { r with
    operations := r.operations.put kind operation
    kinds := r.kinds.put operation kind
    owners := match owner with
      | some m => r.owners.put kind m
      | none => r.owners }

theorem operation?_bind (r : Registry) (kind kind' : Int) (operation : String)
    (owner : Option OperationModule) :
    (r.bind kind operation owner).operation? kind' =
      if kind' = kind then some operation else r.operation? kind' :=
  r.operations.get?_put kind kind' operation

theorem kind?_bind (r : Registry) (kind : Int) (operation operation' : String)
    (owner : Option OperationModule) :
    (r.bind kind operation owner).kind? operation' =
      if operation' = operation then some kind else r.kind? operation' :=
  r.kinds.get?_put operation operation' kind

theorem owner?_bind (r : Registry) (kind kind' : Int) (operation : String)
    (owner : Option OperationModule) :
    (r.bind kind operation owner).owner? kind' =
      if kind' = kind then owner.or (r.owner? kind) else r.owner? kind' := by
  cases owner with
  | none =>
    by_cases h : kind' = kind
    · simp [bind, owner?, h]
    · simp [bind, owner?, h]
  | some m => exact r.owners.get?_put kind kind' m

def register (r : Registry) (kind : Int) (operation : String) (owner : Option OperationModule) :
    Except Fault Registry :=
  if r.locked then .error (.rejected .registryLocked)
  else
    match r.conflict? kind operation owner with
    | some e => .error (.rejected e)
    | none => .ok (r.bind kind operation owner)

/-- The first conflict of a list of declarations with the registry or among themselves. The table
holds the operations seen before. -/
def declarationConflict? (r : Registry) (m : OperationModule) :
    Table String Int → List (Int × String) → Option Rejection
  | _, [] => none
  | seen, (kind, operation) :: rest =>
    match r.conflict? kind operation (some m) with
    | some e => some e
    | none =>
      match seen.get? operation with
      | some existing => some (.duplicateOperation operation existing kind)
      | none => r.declarationConflict? m (seen.put operation kind) rest

/-- Enter declarations of a module one after the other. -/
def bindAll (r : Registry) (m : OperationModule) (ds : List (Int × String)) : Registry :=
  ds.foldl (fun r d => r.bind d.1 d.2 (some m)) r

/-- Enter all declarations of a module and the module itself. -/
def enroll (r : Registry) (m : OperationModule) : Registry :=
  let r := r.bindAll m m.declarations
  { r with modules := r.modules.put m.name m }

def registerModule (r : Registry) (m : OperationModule) : Except Fault Registry :=
  if r.locked then .error (.rejected .registryLocked)
  else if (r.module? m.name).isSome then .error (.rejected (.moduleRegistered m.name))
  else
    match r.declarationConflict? m .empty m.declarations with
    | some e => .error (.rejected e)
    | none => .ok (r.enroll m)

/-- The entry about a registered module. -/
def registeredEntry (m : OperationModule) : Journal.Entry :=
  ⟨Journal.info, "Subspace.Registry",
    "module registered: '" ++ m.name ++ "' (" ++ toString m.kinds.size ++ " kinds)"⟩

/-- Register a module and report it. -/
def registerModuleLogged (r : Registry) (m : OperationModule) : Journal.Logged Registry :=
  match r.registerModule m with
  | .ok r => ⟨.ok r, [registeredEntry m]⟩
  | .error e => ⟨.error e, []⟩

/-! ## Runs -/

/-- What a registry can be asked to change. -/
inductive Request
  | pair (kind : Int) (operation : String) (owner : Option OperationModule)
  | whole (m : OperationModule)
  | lock

def attempt (r : Registry) : Request → Except Fault Registry
  | .pair kind operation owner => r.register kind operation owner
  | .whole m => r.registerModule m
  | .lock => .ok r.lock

/-- The registry after a request; a refused one leaves it as it is. -/
def step (r : Registry) (q : Request) : Registry := (r.attempt q).toOption.getD r

theorem step_of_attempt_eq_ok {r r' : Registry} {q : Request} (h : r.attempt q = .ok r') :
    r.step q = r' := by
  simp [step, h, Except.toOption]

theorem step_of_attempt_eq_error {r : Registry} {q : Request} {e : Fault}
    (h : r.attempt q = .error e) : r.step q = r := by
  simp [step, h, Except.toOption]

/-- The registry after a list of requests. -/
def run (qs : List Request) : Registry := qs.foldl step empty

/-- The registry is reached from the empty one by requests. -/
def Reachable (r : Registry) : Prop := ∃ qs, run qs = r

end Registry

end SubspaceOps
