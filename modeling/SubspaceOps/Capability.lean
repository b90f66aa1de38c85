import SubspaceOps.Rejection
import SubspaceOps.Text.Split
import SubspaceOps.Vocabulary

/-!
# Capabilities

A capability is a mask of permission bits bound to a causality key and to the clock value at which
it expires. Its text is `action=…,key=…,exp=…`. The reader takes the three fields in any order,
each exactly once, as plain decimal digits within the width of the field; the writer always writes
them in the order above.
-/
namespace SubspaceOps

structure Capability where
  action : BitVec 8
  key : BitVec 32
  expiry : BitVec 64
  deriving DecidableEq, Repr

namespace Capability

/-- The fields of a capability. -/
inductive Field
  | action
  | key
  | expiry
  deriving DecidableEq, Repr

namespace Field

def name : Field → String
  | action => "action"
  | key => "key"
  | expiry => "exp"

def bits : Field → Nat
  | action => 8
  | key => 32
  | expiry => 64

def ofName? (s : String) : Option Field :=
  if s = "action" then some action
  else if s = "key" then some key
  else if s = "exp" then some expiry
  else none

theorem ofName?_eq_some_iff {s : String} {f : Field} : ofName? s = some f ↔ s = f.name := by
  constructor
  · intro h
    unfold ofName? at h
    split at h
    · simp_all [name]
      simp [← h]
    · split at h
      · simp_all [name]
        simp [← h]
      · split at h
        · simp_all [name]
          simp [← h]
        · simp at h
  · rintro rfl
    cases f <;> simp [ofName?, name]

end Field

/-- The text of three values in the form of a capability. -/
def shape (action key expiry : String) : String :=
  "action=" ++ action ++ ",key=" ++ key ++ ",exp=" ++ expiry

/-- The written form. -/
def text (c : Capability) : String :=
  shape (toString c.action.toNat) (toString c.key.toNat) (toString c.expiry.toNat)

/-- The tag that carries a capability. -/
def tag (c : Capability) : List String := [TagName.capability, c.text]

/-! ## Reading -/

/-- The fields found so far. -/
abbrev Found := (f : Field) → Option (BitVec f.bits)

def Found.none : Found := fun _ => .none

def Found.set (found : Found) (f : Field) (n : BitVec f.bits) : Found := fun g =>
  if h : f = g then some (h ▸ n) else found g

/-- Read one `name=digits` part of a text. -/
def readPart (text : String) (found : Found) (part : String) : Except Fault Found :=
  let reject flaw := Except.error (.rejected (.malformedCapability text flaw))
  match Text.split '=' part with
  | [name, raw] =>
    match Field.ofName? name with
    | .none => reject (.unknownField name)
    | some f =>
      if (found f).isSome then reject (.repeatedField name)
      else if !Text.isDigits raw.toList then reject (.badValue name raw)
      else
        match Text.digitsValue? raw.toList with
        | .none => .error .longNumeral
        | some n =>
          let word := BitVec.ofNat f.bits n
          if word.toNat = n then .ok (found.set f word) else reject (.outOfRange name raw)
  | _ => reject (.badPart part)

/-- Read a capability from its text. -/
def read (text : String) : Except Fault Capability := do
  let parts := Text.split ',' text
  let reject := Except.error (.rejected (.malformedCapability text (.fieldCount parts.length)))
  if parts.length ≠ 3 then reject
  else
    let found ← parts.foldlM (readPart text) Found.none
    match found .action, found .key, found .expiry with
    | some a, some k, some e => .ok ⟨a, k, e⟩
    | _, _, _ => reject

/-! ## Construction from values -/

/-- A value for a field; booleans are not numbers here. -/
def checkValue (shown : String) (f : Field) (v : Json) : Except Fault (BitVec f.bits) :=
  match v with
  | .int n =>
    let word := BitVec.ofInt f.bits n
    if (word.toNat : Int) = n then .ok word
    else .error (.rejected (.malformedCapability shown (.outOfRange f.name (toString n))))
  | _ => .error (.rejected (.malformedCapability shown (.notInteger f.name)))

/-- The capability of three values, which are checked in the order of the fields. -/
def ofValues (action key expiry : Json) : Except Fault Capability := do
  let shown := shape action.display key.display expiry.display
  let a ← checkValue shown .action action
  let k ← checkValue shown .key key
  let e ← checkValue shown .expiry expiry
  return ⟨a, k, e⟩

/-- A new capability. The action is turned into an integer first; key and expiry have to be
integers as they are. -/
def new (action key expiry : Json) : Except Fault Capability := do
  let action ← action.integer
  ofValues (.int action) key expiry

/-- The capability of an object with the members `action`, `key` and `exp`. -/
def ofMembers (members : List (String × Json)) : Except Fault Capability := do
  let get (f : Field) : Except Fault Int :=
    match Json.member? members f.name with
    | some v => v.integer
    | .none => .error (.missingMember f.name)
  let a ← get .action
  let k ← get .key
  let e ← get .expiry
  ofValues (.int a) (.int k) (.int e)

/-- The members from which a capability is read back. -/
def members (c : Capability) : List (String × Json) :=
  [("action", .int c.action.toNat), ("key", .int c.key.toNat), ("exp", .int c.expiry.toNat)]

/-! ## Use -/

/-- Any of the requested bits is granted. Requests are read in two's complement, of which the
lowest eight bits can meet the mask. -/
def hasPermission (c : Capability) (requested : Int) : Bool :=
  c.action &&& BitVec.ofInt 8 requested ≠ 0#8

/-- The expiry value itself counts as expired. -/
def isExpired (c : Capability) (clock : Int) : Bool := (c.expiry.toNat : Int) ≤ clock

/-- The bits for reading, writing and executing. -/
def permissions (c : Capability) : Nat := (c.action &&& 7#8).toNat

end Capability

end SubspaceOps
