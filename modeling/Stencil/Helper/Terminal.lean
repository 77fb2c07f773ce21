import Stencil.Diagnostic.Palette
import Stencil.Helper.Arithmetic

/-!
The helpers for output on a terminal: coloured text and bars of progress. They write the codes of
colours whether or not diagnostics are coloured, since the output is data.
-/

namespace Stencil.Helper

/-- The code of the colour that a value names; other values have no code. -/
def colourCode : Value → String
  | .text name => ((Style.colour? name).map Style.code).getD ""
  | _ => ""

/-- A text in the colour that the second argument names. -/
def colorize : Helper :=
  binary "_helper_colorize" fun value colour => do
    return .text (colourCode colour ++ (← value.display) ++ Style.reset.code)

/-- A number of copies of a character; none if the number is negative. -/
def repeated (machine : Machine) (c : Char) (n : Int) : Except Fault String := do
  checkLength machine n
  return String.ofList (List.replicate n.toNat c)

def hundred : Binary64 := .ofWhole 100

/-- A part of a whole in percent, at least zero and at most a hundred. What is no number counts as
zero. -/
def percentage (part : Binary64) : Binary64 :=
  let percent := part * hundred
  if percent.compare? .zero ≠ some .gt then .zero
  else if percent.compare? hundred = some .lt then percent
  else hundred

/-- A bar that is filled to the given percentage, with the percentage behind it. -/
def bar (machine : Machine) (percent : Binary64) (width : Int) : Except Fault String := do
  let wide ← toFloat (.int width)
  let filled := (percent / hundred * wide).floor?.getD 0
  let done ← repeated machine '█' filled
  let open' ← repeated machine '░' (width - filled)
  return "[" ++ done ++ open' ++ "] " ++ percent.toFixed 1 ++ "%"

/-- How much of the second argument the first one is, as a bar of the width in the third, or of
twenty characters. -/
def progress (machine : Machine) : Helper :=
  ternary "_helper_progress" fun current total width =>
    match current.toNumber?, total.toNumber? with
    | some part, some whole =>
      if whole.isZero then .ok (.text "")
      else do
        let width := max 0 (← width.toInt 20)
        return .text (← bar machine (percentage (← part.quotient whole)) width)
    | _, _ => .ok (.text "")

end Stencil.Helper
