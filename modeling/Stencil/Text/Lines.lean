/-!
The lines of a text for people who read it: a line ends at any character that a terminal or an
editor takes for the end of a line, and a carriage return with a line feed behind it ends only one.
-/

namespace Stencil.Text

def isLineBreak (c : Char) : Bool :=
  let n := c.toNat
  (10 ≤ n && n ≤ 13) || (28 ≤ n && n ≤ 30) || n == 0x85 || n == 0x2028 || n == 0x2029

/-- The rest of the line that is being read, and the lines behind it. The rest is `none` where
nothing follows the last end of a line. -/
def lineChars : List Char → Option (List Char) × List (List Char)
  | [] => (none, [])
  | '\r' :: '\n' :: cs =>
    let (line, later) := lineChars cs
    (some [], line.toList ++ later)
  | c :: cs =>
    let (line, later) := lineChars cs
    if isLineBreak c then (some [], line.toList ++ later) else (some (c :: line.getD []), later)

/-- The lines of a text without the characters that end them. -/
def lines (s : String) : List String :=
  let (line, later) := lineChars s.toList
  (line.toList ++ later).map String.ofList

end Stencil.Text
