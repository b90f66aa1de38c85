import SubspaceOps.Rejection
import SubspaceOps.Text.Split

/-!
# Allowed operations of a subspace

A subspace declares its operations as `name=kind,name=kind,…`. Reading is strict in every part; of
a repeated name the last kind counts.
-/
namespace SubspaceOps.AllowedOperations

/-- One part of the list, which is given whole for the error. -/
def readPart (ops part : String) : Except Fault (String × Nat) :=
  match Text.split '=' part with
  | [name, digits] =>
    if name = "" || !Text.isDigits digits.toList then .error (.rejected (.invalidOps ops))
    else
      match Text.digitsValue? digits.toList with
      | some n => .ok (name, n)
      | none => .error .longNumeral
  | _ => .error (.rejected (.invalidOps ops))

def read (ops : String) : Except Fault (Table String Nat) :=
  ((Text.split ',' ops).mapM (readPart ops)).map .ofList

/-- The text of a list of operations with their kinds. -/
def write (t : Table String Nat) : String :=
  Text.join ',' (t.entries.map fun e => e.1 ++ "=" ++ toString e.2)

/-- Every part has a separator between name and kind, whatever stands around it. -/
def looksDeclared (ops : String) : Bool :=
  (Text.split ',' ops).all fun part => '=' ∈ part.toList

end SubspaceOps.AllowedOperations
