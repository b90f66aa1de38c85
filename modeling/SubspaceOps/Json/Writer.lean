import SubspaceOps.Json.Basic

/-!
# Writing JSON

A `Style` fixes what may vary between two texts of one value: the separators, and whether
characters beyond ASCII are written as such or as escaped 16-bit units.
-/
namespace SubspaceOps.Json

structure Style where
  comma : List Char
  colon : List Char
  asciiOnly : Bool

/-- No blanks, and every character as itself: the form whose bytes are hashed. -/
def Style.canonical : Style := ⟨[','], [':'], false⟩

/-- No blanks, ASCII only. -/
def Style.compact : Style := ⟨[','], [':'], true⟩

/-- A blank after each comma and colon, ASCII only. -/
def Style.spaced : Style := ⟨[',', ' '], [':', ' '], true⟩

/-- An escaped 16-bit unit. -/
def unitEscape (n : Nat) : List Char := '\\' :: 'u' :: Text.hexPadded 4 n

/-- The escape of a character: one unit, or two surrogates beyond the first 65536 characters. -/
def charEscape (c : Char) : List Char :=
  let n := c.toNat
  if n < 0x10000 then unitEscape n
  else
    unitEscape (0xd800 + (n - 0x10000) / 0x400) ++ unitEscape (0xdc00 + (n - 0x10000) % 0x400)

/-- One character of a text. Quotes, backslashes and controls are escaped in every style. -/
def textChar (asciiOnly : Bool) (c : Char) : List Char :=
  if c = '"' then ['\\', '"']
  else if c = '\\' then ['\\', '\\']
  else if c = '\n' then ['\\', 'n']
  else if c = '\r' then ['\\', 'r']
  else if c = '\t' then ['\\', 't']
  else if c = '\x08' then ['\\', 'b']
  else if c = '\x0c' then ['\\', 'f']
  else if c.toNat < 0x20 ∨ (asciiOnly = true ∧ 0x7f ≤ c.toNat) then charEscape c
  else [c]

def textChars (asciiOnly : Bool) (cs : List Char) : List Char :=
  '"' :: (cs.flatMap (textChar asciiOnly) ++ ['"'])

def floatChars (x : Binary64) : List Char :=
  match x with
  | .infinite negative => if negative then "-Infinity".toList else "Infinity".toList
  | .nan => "NaN".toList
  | x => x.text.toList

mutual

def chars (st : Style) : Json → List Char
  | .null => ['n', 'u', 'l', 'l']
  | .bool true => ['t', 'r', 'u', 'e']
  | .bool false => ['f', 'a', 'l', 's', 'e']
  | .int n => (toString n).toList
  | .float x => floatChars x
  | .text s => textChars st.asciiOnly s.toList
  | .array [] => ['[', ']']
  | .array (x :: xs) => '[' :: (chars st x ++ itemsChars st xs)
  | .object [] => ['\x7b', '\x7d']
  | .object ((k, x) :: members) =>
    '\x7b' :: (textChars st.asciiOnly k.toList ++ st.colon ++ chars st x ++ membersChars st members)

/-- The elements after the first one, up to the closing bracket. -/
def itemsChars (st : Style) : List Json → List Char
  | [] => [']']
  | x :: xs => st.comma ++ chars st x ++ itemsChars st xs

/-- The members after the first one, up to the closing brace. -/
def membersChars (st : Style) : List (String × Json) → List Char
  | [] => ['\x7d']
  | (k, x) :: members =>
    st.comma ++ textChars st.asciiOnly k.toList ++ st.colon ++ chars st x ++
      membersChars st members

end

theorem chars_array_cons (st : Style) (x : Json) (xs : List Json) :
    (Json.array (x :: xs)).chars st = '[' :: (x.chars st ++ itemsChars st xs) := by
  rw [chars]

/-- The text of a value. -/
def write (st : Style) (x : Json) : String := String.ofList (x.chars st)

end SubspaceOps.Json
