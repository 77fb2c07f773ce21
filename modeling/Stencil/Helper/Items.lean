import Stencil.Helper.Basic

/-!
The helpers that look into a list, and the one that stands in for what is missing.
-/

namespace Stencil.Helper

/-- The number of items; values that have no items count none. -/
def length : Helper :=
  unary "_helper_length" fun value => .ok (.int (value.items?.getD []).length)

def first : Helper :=
  unary "_helper_first" fun value => .ok ((value.items?.bind (·.head?)).getD .null)

def last : Helper :=
  unary "_helper_last" fun value => .ok ((value.items?.bind (·.getLast?)).getD .null)

/-- The items behind one another, with the second argument or a comma and a blank between them. -/
def join : Helper :=
  binary "_helper_join" fun value separator =>
    match value.items? with
    | none => .ok (.text "")
    | some items => do
      let between ← match separator with
        | .null => .ok ", "
        | separator => separator.display
      return .text (between.intercalate (← Value.displayAll items))

/-- The first argument, or the second if the first is missing. -/
def fallback : Helper :=
  binary "_helper_default" fun value other =>
    match value with
    | .null => .ok other
    | value => .ok value

end Stencil.Helper
