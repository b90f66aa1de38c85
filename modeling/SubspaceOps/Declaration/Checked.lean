import SubspaceOps.Declaration.Issue
import SubspaceOps.Json.Basic

/-!
# Checking with all issues

A check yields a value or the list of everything that is wrong. Checks of different parts are
combined so that the issues of all of them are kept in order.
-/
namespace SubspaceOps.Declaration

abbrev Path := List Step

/-- A value, or the issues that stand in its way. -/
abbrev Checked (α : Type) := Except (List Issue) α

namespace Checked

variable {α β : Type}

def issue (path : Path) (cause : Cause) : Checked α := .error [⟨path, cause⟩]

/-- Apply a checked function to a checked argument, keeping the issues of both. -/
def ap (f : Checked (α → β)) (x : Checked α) : Checked β :=
  match f, x with
  | .ok f, .ok x => .ok (f x)
  | .ok _, .error e => .error e
  | .error e, .ok _ => .error e
  | .error e, .error e' => .error (e ++ e')

/-- The value passes the test; otherwise there is one issue. -/
def ensure (x : Checked α) (path : Path) (fault? : α → Option Cause) : Checked α :=
  match x with
  | .ok a => match fault? a with
    | none => .ok a
    | some c => issue path c
  | .error e => .error e

/-- Check the elements of a list, of which the first stands at position `i`. -/
def items (check : Path → Json → Checked α) (path : Path) : Nat → List Json → Checked (List α)
  | _, [] => .ok []
  | i, x :: xs =>
    ap (ap (.ok List.cons) (check (path ++ [.position i]) x)) (items check path (i + 1) xs)

end Checked

/-! ## Parts -/

/-- Check a member of an object, with a value for its absence. -/
def memberOr {α : Type} (absent : α) (check : Path → Json → Checked α) (path : Path)
    (members : List (String × Json)) (name : String) : Checked α :=
  match Json.member? members name with
  | some v => check (path ++ [.member name]) v
  | none => .ok absent

/-- Check a member that has to be there. -/
def needed {α : Type} (check : Path → Json → Checked α) (path : Path)
    (members : List (String × Json)) (name : String) : Checked α :=
  match Json.member? members name with
  | some v => check (path ++ [.member name]) v
  | none => .issue (path ++ [.member name]) .missing

def readText (path : Path) : Json → Checked String
  | .text s => .ok s
  | _ => .issue path .notText

def readFilledText (path : Path) (v : Json) : Checked String :=
  (readText path v).ensure path fun s => if s = "" then some .emptyText else none

def readBool (path : Path) : Json → Checked Bool
  | .bool b => .ok b
  | _ => .issue path .notBoolean

def readKind (path : Path) : Json → Checked Int
  | .int n => if n < 0 then .issue path .negative else .ok n
  | _ => .issue path .notInteger

def readArray {α : Type} (check : Path → Json → Checked α) (path : Path) :
    Json → Checked (List α)
  | .array xs => .items check path 0 xs
  | _ => .issue path .notArray

def readObject {α : Type} (check : Path → List (String × Json) → Checked α) (path : Path) :
    Json → Checked α
  | .object members => check path members
  | _ => .issue path .notObject

end SubspaceOps.Declaration
