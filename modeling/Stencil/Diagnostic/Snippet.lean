import Stencil.Text.Lines
import Stencil.Template.Position
import Stencil.Diagnostic.Palette

/-!
Snippets: the lines of a source around the one that is wrong, with their numbers, and a caret below
the column that is wrong.
-/

namespace Stencil

/-- Some numbered lines of a source, the number of the line that is wrong, and a column in it. -/
structure Snippet where
  lines : List (Int × String)
  errorLine : Int
  column : Option Int
  deriving DecidableEq, Repr

namespace Snippet

/-- The line with the given number and at most `context` lines on either side of it. -/
def around (source : String) (errorLine : Int) (context : Int) (column : Option Int) : Snippet :=
  let all := Text.lines source
  let first := (errorLine - 1 - context).toNat
  let last := (errorLine + context).toNat
  { lines := ((all.zipIdx.take last).drop first).map fun (line, i) => ((i : Int) + 1, line)
    errorLine
    column }

/-- The snippet for an offset of a source; none if either is missing or the source is empty. -/
def atOffset (source : Option String) (offset : Option Int) : Option Snippet :=
  match source, offset with
  | some source, some offset =>
    if source = "" then none
    else
      let position := Position.ofOffset source offset
      some (around source position.line 2 (some position.column))
  | _, _ => none

/-- The number of a line, filled up with blanks to three characters. -/
def paddedNumber (n : Int) : String :=
  let digits := toString n
  String.ofList (List.replicate (3 - digits.length) ' ') ++ digits

/-- One line behind its number. The line that is wrong bears a mark. -/
def formatLine (coloured : Bool) (number : Int) (text : String) (wrong : Bool) : String :=
  let mark := if wrong then ">" else " "
  Palette.lineNumber coloured (mark ++ paddedNumber number) ++ " | " ++
    (if wrong then Palette.wrongLine coloured text else Palette.surroundings coloured text)

def bar (coloured : Bool) : String := Palette.surroundings coloured "   |"

def format (coloured : Bool) (snippet : Snippet) : String :=
  let shown := snippet.lines.map fun (number, text) =>
    formatLine coloured number text (number == snippet.errorLine)
  let caret := snippet.column.toList.map fun column =>
    bar coloured ++ " " ++
      Palette.wrongLine coloured (String.ofList (List.replicate column.toNat ' ' ++ ['^']))
  "\n".intercalate (bar coloured :: shown ++ caret ++ [bar coloured])

end Snippet

end Stencil
