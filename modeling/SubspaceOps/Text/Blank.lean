import SubspaceOps.Text.CodeRanges

/-!
# Blank characters

Three sets of blanks are in use: the four of JSON, the ASCII blanks that may stand between the
byte pairs of a hexadecimal text, and the white space of Unicode, which may surround a numeral.
-/
namespace SubspaceOps.Text

/-- Space, tab, line feed and carriage return. -/
def isJsonBlank (c : Char) : Bool := c = ' ' || c = '\t' || c = '\n' || c = '\r'

/-- Space and the five ASCII controls from tab to carriage return. -/
def isAsciiBlank (c : Char) : Bool := c = ' ' || (9 ≤ c.toNat && c.toNat ≤ 13)

/-- The characters of the property `White_Space`. -/
def blankRanges : CodeRanges :=
  [(0x9, 0xd), (0x20, 0x20), (0x85, 0x85), (0xa0, 0xa0), (0x1680, 0x1680), (0x2000, 0x200a),
    (0x2028, 0x2029), (0x202f, 0x202f), (0x205f, 0x205f), (0x3000, 0x3000)]

def isBlank (c : Char) : Bool := blankRanges.has c

/-- The text without the blanks at its two ends. -/
def trimBlanks (cs : List Char) : List Char :=
  ((cs.dropWhile isBlank).reverse.dropWhile isBlank).reverse

end SubspaceOps.Text
