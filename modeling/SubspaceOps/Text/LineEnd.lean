/-!
# Line ends

A line ends with a line feed, a carriage return or both in this order. Reading a file as text
turns each of them into one line feed.
-/
namespace SubspaceOps.Text

def unifyLineEnds : List Char → List Char
  | [] => []
  | '\r' :: '\n' :: cs => '\n' :: unifyLineEnds cs
  | '\r' :: cs => '\n' :: unifyLineEnds cs
  | c :: cs => c :: unifyLineEnds cs

end SubspaceOps.Text
