import SubspaceOps.Text.Hex
import SubspaceOps.Text.Unprintable

/-!
# Quoted texts in messages

A message shows a text between single quotes, or between double quotes when the text holds single
quotes only. The quote in use and the backslash are escaped, line feed, carriage return and tab
have names, and every other character without a visible form is shown by its number.
-/
namespace SubspaceOps.Text

/-- The quote that a text is shown in. -/
def quoteMark (cs : List Char) : Char :=
  if '\'' ∈ cs ∧ '"' ∉ cs then '"' else '\''

/-- One character between the given quotes. -/
def quotedChar (mark c : Char) : List Char :=
  if c = mark ∨ c = '\\' then ['\\', c]
  else if c = '\n' then ['\\', 'n']
  else if c = '\r' then ['\\', 'r']
  else if c = '\t' then ['\\', 't']
  else if isPrintable c then [c]
  else if c.toNat < 0x100 then '\\' :: 'x' :: hexPadded 2 c.toNat
  else if c.toNat < 0x10000 then '\\' :: 'u' :: hexPadded 4 c.toNat
  else '\\' :: 'U' :: hexPadded 8 c.toNat

def quoted (s : String) : String :=
  let mark := quoteMark s.toList
  String.ofList (mark :: (s.toList.flatMap (quotedChar mark) ++ [mark]))

end SubspaceOps.Text
