import SubspaceOps.Json.Basic

/-!
# Reading JSON

The reader accepts the JSON grammar and the three names `NaN`, `Infinity` and `-Infinity`. Of a
repeated member the first place and the last value count. A number without point and exponent is
an integer and may have at most 4300 digits; the numeral that exceeds them is reported where it
stands, before any later fault of the text. The escape of an unpaired surrogate is read as this
surrogate, which makes the texts that are read sequences of code points.
-/
namespace SubspaceOps.Json

/-- Why a text is not read. -/
inductive Flaw
  | malformed
  | longNumeral
  deriving DecidableEq, Repr

/-- A value and the text behind it. -/
abbrev Read (α : Type) := Except Flaw (α × List Char)

def skipBlanks (cs : List Char) : List Char := cs.dropWhile Text.isJsonBlank

/-- The 16-bit unit of four hexadecimal digits. -/
def unitValue? (a b c d : Char) : Option Nat := do
  let a ← Text.hexValue? a
  let b ← Text.hexValue? b
  let c ← Text.hexValue? c
  let d ← Text.hexValue? d
  return ((a * 16 + b) * 16 + c) * 16 + d

/-- The character that follows a backslash for another one. -/
def namedEscape? (c : Char) : Option Char :=
  if c = '"' ∨ c = '\\' ∨ c = '/' then some c
  else if c = 'b' then some '\x08'
  else if c = 'f' then some '\x0c'
  else if c = 'n' then some '\n'
  else if c = 'r' then some '\r'
  else if c = 't' then some '\t'
  else none

/-- Put a code point before a text that is read. -/
def consPoint (p : CodePoint) : Read (List CodePoint) → Read (List CodePoint)
  | .ok (ps, rest) => .ok (p.cons ps, rest)
  | .error e => .error e

/-- The code points of a text up to its closing quote. -/
def readPoints : List Char → Read (List CodePoint)
  | [] => .error .malformed
  | '"' :: cs => .ok ([], cs)
  | '\\' :: 'u' :: a :: b :: c :: d :: cs =>
    match unitValue? a b c d with
    | none => .error .malformed
    | some n => consPoint (.ofUnit n) (readPoints cs)
  | '\\' :: c :: cs =>
    match namedEscape? c with
    | none => .error .malformed
    | some c => consPoint (.char c) (readPoints cs)
  | c :: cs => if c.toNat < 0x20 then .error .malformed else consPoint (.char c) (readPoints cs)

def readText (cs : List Char) : Read CodeText :=
  match readPoints cs with
  | .ok (ps, rest) => .ok (⟨ps⟩, rest)
  | .error e => .error e

/-- The digits after a point, if a point with a digit follows. -/
def fraction (cs : List Char) : List Char × List Char :=
  match cs with
  | '.' :: rest =>
    let ds := rest.takeWhile Char.isDigit
    if ds.isEmpty then ([], cs) else (ds, rest.dropWhile Char.isDigit)
  | _ => ([], cs)

/-- The sign of an exponent. -/
def exponentSign (cs : List Char) : Bool × List Char :=
  match cs with
  | '-' :: rest => (true, rest)
  | '+' :: rest => (false, rest)
  | _ => (false, cs)

/-- The exponent, if its mark is followed by an optional sign and a digit. -/
def exponent (cs : List Char) : Option Int × List Char :=
  match cs with
  | c :: rest =>
    if c = 'e' ∨ c = 'E' then
      let (negative, rest) := exponentSign rest
      let ds := rest.takeWhile Char.isDigit
      if ds.isEmpty then (none, cs)
      else
        let n : Int := Nat.ofDigitChars 10 ds 0
        (some (if negative then -n else n), rest.dropWhile Char.isDigit)
    else (none, cs)
  | [] => (none, cs)

/-- The integer part of a number: a zero alone, or digits that start with another one. -/
def integerDigits : List Char → List Char × List Char
  | '0' :: cs => (['0'], cs)
  | cs => (cs.takeWhile Char.isDigit, cs.dropWhile Char.isDigit)

/-- A number behind its sign. -/
def readNumber (negative : Bool) (cs : List Char) : Read (Json CodeText) :=
  let (ds, cs) := integerDigits cs
  if ds.isEmpty then .error .malformed
  else
    let (fs, cs) := fraction cs
    let (e, cs) := exponent cs
    if fs.isEmpty && e.isNone then
      match Text.digitsValue? ds with
      | some n => .ok (.int (if negative then -(n : Int) else n), cs)
      | none => .error .longNumeral
    else
      let n := Nat.ofDigitChars 10 (ds ++ fs) 0
      .ok (.float (Binary64.ofDecimal negative n (e.getD 0 - fs.length)), cs)

/-- Members in the order of their first occurrence, with their last values. -/
def mergeMembers (members : List (CodeText × Json CodeText)) : List (CodeText × Json CodeText) :=
  members.foldl (fun es e => Entries.write e.1 e.2 es) []

mutual

/-- A value at the start of the text. The first argument bounds the steps; one more than the
length of the text is always enough. -/
def readValue : Nat → List Char → Read (Json CodeText)
  | 0, _ => .error .malformed
  | n + 1, cs =>
    match cs with
    | '"' :: cs =>
      match readText cs with
      | .ok (s, cs) => .ok (.text s, cs)
      | .error e => .error e
    | '[' :: cs =>
      match skipBlanks cs with
      | ']' :: cs => .ok (.array [], cs)
      | cs =>
        match readItems n cs with
        | .ok (xs, cs) => .ok (.array xs, cs)
        | .error e => .error e
    | '\x7b' :: cs =>
      match skipBlanks cs with
      | '\x7d' :: cs => .ok (.object [], cs)
      | cs =>
        match readMembers n cs with
        | .ok (members, cs) => .ok (.object (mergeMembers members), cs)
        | .error e => .error e
    | 'n' :: 'u' :: 'l' :: 'l' :: cs => .ok (.null, cs)
    | 't' :: 'r' :: 'u' :: 'e' :: cs => .ok (.bool true, cs)
    | 'f' :: 'a' :: 'l' :: 's' :: 'e' :: cs => .ok (.bool false, cs)
    | 'N' :: 'a' :: 'N' :: cs => .ok (.float .nan, cs)
    | 'I' :: 'n' :: 'f' :: 'i' :: 'n' :: 'i' :: 't' :: 'y' :: cs =>
      .ok (.float (.infinite false), cs)
    | '-' :: 'I' :: 'n' :: 'f' :: 'i' :: 'n' :: 'i' :: 't' :: 'y' :: cs =>
      .ok (.float (.infinite true), cs)
    | '-' :: cs => readNumber true cs
    | cs => readNumber false cs

/-- The elements of an array that is not empty, up to its closing bracket. -/
def readItems : Nat → List Char → Read (List (Json CodeText))
  | 0, _ => .error .malformed
  | n + 1, cs =>
    match readValue n cs with
    | .error e => .error e
    | .ok (x, cs) =>
      match skipBlanks cs with
      | ']' :: cs => .ok ([x], cs)
      | ',' :: cs =>
        match readItems n (skipBlanks cs) with
        | .ok (xs, cs) => .ok (x :: xs, cs)
        | .error e => .error e
      | _ => .error .malformed

/-- The members of an object that is not empty, up to its closing brace. -/
def readMembers : Nat → List Char → Read (List (CodeText × Json CodeText))
  | 0, _ => .error .malformed
  | n + 1, cs =>
    match cs with
    | '"' :: cs =>
      match readText cs with
      | .error e => .error e
      | .ok (k, cs) =>
        match skipBlanks cs with
        | ':' :: cs =>
          match readValue n (skipBlanks cs) with
          | .error e => .error e
          | .ok (x, cs) =>
            match skipBlanks cs with
            | '\x7d' :: cs => .ok ([(k, x)], cs)
            | ',' :: cs =>
              match readMembers n (skipBlanks cs) with
              | .ok (members, cs) => .ok ((k, x) :: members, cs)
              | .error e => .error e
            | _ => .error .malformed
        | _ => .error .malformed
    | _ => .error .malformed

end

/-- The value of a whole text, with blanks around it. -/
def read (s : String) : Except Flaw (Json CodeText) :=
  match readValue (s.length + 1) (skipBlanks s.toList) with
  | .error e => .error e
  | .ok (x, cs) => if (skipBlanks cs).isEmpty then .ok x else .error .malformed

end SubspaceOps.Json
