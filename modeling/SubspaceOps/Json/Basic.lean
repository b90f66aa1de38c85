import SubspaceOps.Binary64.Shortest
import SubspaceOps.Table
import SubspaceOps.Text.CodePoint
import SubspaceOps.Text.Numeral
import SubspaceOps.Text.Quoted

/-!
# JSON values

Integers and numbers with a point or an exponent are different values. The members of an object
are kept in the order of their first occurrence. Names and texts are of characters, except in a
value as it is read from a document, where they are of code points.
-/
namespace SubspaceOps

inductive Json (τ : Type := String)
  | null
  | bool (b : Bool)
  | int (n : Int)
  | float (x : Binary64)
  | text (s : τ)
  | array (xs : List (Json τ))
  | object (members : List (τ × Json τ))
  deriving Inhabited

namespace Json

/-- The value of a member of an object. -/
def member? {τ : Type} [DecidableEq τ] (members : List (τ × Json τ)) (key : τ) : Option (Json τ) :=
  members.lookup key

/-! ## Characters and code points -/

mutual

/-- The value as it is read from a document. -/
def inCodePoints : Json → Json CodeText
  | .null => .null
  | .bool b => .bool b
  | .int n => .int n
  | .float x => .float x
  | .text s => .text s
  | .array xs => .array (itemsInCodePoints xs)
  | .object members => .object (membersInCodePoints members)

def itemsInCodePoints : List Json → List (Json CodeText)
  | [] => []
  | x :: xs => inCodePoints x :: itemsInCodePoints xs

def membersInCodePoints : List (String × Json) → List (CodeText × Json CodeText)
  | [] => []
  | (k, x) :: members => (↑k, inCodePoints x) :: membersInCodePoints members

end

mutual

/-- The value of a document none of whose names and texts holds a surrogate. -/
def inCharacters? : Json CodeText → Option Json
  | .null => some .null
  | .bool b => some (.bool b)
  | .int n => some (.int n)
  | .float x => some (.float x)
  | .text s => s.toString?.map .text
  | .array xs => (itemsInCharacters? xs).map .array
  | .object members => (membersInCharacters? members).map .object

def itemsInCharacters? : List (Json CodeText) → Option (List Json)
  | [] => some []
  | x :: xs => do
    let x ← inCharacters? x
    let xs ← itemsInCharacters? xs
    return x :: xs

def membersInCharacters? : List (CodeText × Json CodeText) → Option (List (String × Json))
  | [] => some []
  | (k, x) :: members => do
    let k ← k.toString?
    let x ← inCharacters? x
    let members ← membersInCharacters? members
    return (k, x) :: members

end

mutual

theorem inCharacters?_inCodePoints : ∀ x : Json, x.inCodePoints.inCharacters? = some x
  | .null | .bool _ | .int _ | .float _ => by rw [inCodePoints, inCharacters?]
  | .text s => by
    rw [inCodePoints, inCharacters?, CodeText.toString?_ofString, Option.map_some]
  | .array xs => by
    rw [inCodePoints, inCharacters?, itemsInCharacters?_itemsInCodePoints xs, Option.map_some]
  | .object members => by
    rw [inCodePoints, inCharacters?, membersInCharacters?_membersInCodePoints members,
      Option.map_some]

theorem itemsInCharacters?_itemsInCodePoints :
    ∀ xs : List Json, itemsInCharacters? (itemsInCodePoints xs) = some xs
  | [] => rfl
  | x :: xs => by
    rw [itemsInCodePoints, itemsInCharacters?, inCharacters?_inCodePoints x,
      itemsInCharacters?_itemsInCodePoints xs]
    rfl

theorem membersInCharacters?_membersInCodePoints :
    ∀ members : List (String × Json),
      membersInCharacters? (membersInCodePoints members) = some members
  | [] => rfl
  | (k, x) :: members => by
    rw [membersInCodePoints, membersInCharacters?, CodeText.toString?_ofString,
      inCharacters?_inCodePoints x, membersInCharacters?_membersInCodePoints members]
    rfl

end

/-! ## Integers -/

/-- Why a value does not stand for an integer. -/
inductive IntegerFlaw
  | notNumeral (s : String)
  | notFinite
  | notANumber
  | wrongType
  deriving DecidableEq, Repr

/-- The integer that a value stands for: booleans count as 0 and 1, numbers are rounded toward
zero, and texts are read as numerals. -/
def toInteger : Json → Except IntegerFlaw Int
  | .bool b => .ok (if b then 1 else 0)
  | .int n => .ok n
  | .float (.finite negative m q) => .ok (Binary64.truncate negative m q)
  | .float (.infinite _) => .error .notFinite
  | .float .nan => .error .notANumber
  | .text s => match Text.readInteger? s with
    | some n => .ok n
    | none => .error (.notNumeral s)
  | .null | .array _ | .object _ => .error .wrongType

/-! ## Messages -/

mutual

/-- A value as messages show it inside of brackets, where texts are quoted. -/
def shown : Json → String
  | .null => "None"
  | .bool b => if b then "True" else "False"
  | .int n => toString n
  | .float x => x.text
  | .text s => Text.quoted s
  | .array xs => "[" ++ shownItems xs ++ "]"
  | .object members => "\x7b" ++ shownMembers members ++ "\x7d"

def shownItems : List Json → String
  | [] => ""
  | [x] => shown x
  | x :: xs => shown x ++ ", " ++ shownItems xs

def shownMembers : List (String × Json) → String
  | [] => ""
  | [(k, x)] => Text.quoted k ++ ": " ++ shown x
  | (k, x) :: xs => Text.quoted k ++ ": " ++ shown x ++ ", " ++ shownMembers xs

end

/-- A value as messages show it on its own: a text stands for itself. -/
def display : Json → String
  | .text s => s
  | x => x.shown

end Json

end SubspaceOps
