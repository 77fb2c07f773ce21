import Stencil.Text.LetterCase
import Stencil.Helper.Basic

/-!
The helpers that change a text. Anything but a text becomes an empty one.
-/

namespace Stencil.Helper

/-- What becomes of a text; anything else becomes an empty one. -/
def onText (f : String → Except Fault String) (value : Value) : Except Fault Value :=
  match value with
  | .text s => .text <$> f s
  | _ => .ok (.text "")

/-- The first characters of a text; a negative length counts from the end. -/
def front (length : Int) (s : String) : String :=
  let cs := s.toList
  String.ofList (cs.take (if length < 0 then length + cs.length else length).toNat)

/-- A text cut to a length, with dots behind it if anything was cut off. -/
def cutTo (length : Int) (s : String) : String :=
  if length < s.length then front length s ++ "..." else s

/-- The text with its first character in upper case and the others in lower case. -/
def capitalize : Helper :=
  unary "_helper_capitalize" (onText fun s => .ok (Text.capitalize s))

def uppercase : Helper := unary "_helper_uppercase" (onText fun s => .ok (Text.upper s))

def lowercase : Helper := unary "_helper_lowercase" (onText fun s => .ok (Text.lower s))

/-- A text cut to the length in the second argument, or to fifty characters. -/
def truncate : Helper :=
  binary "_helper_truncate" fun value length =>
    onText (fun s => do return cutTo (← length.toInt 50) s) value

end Stencil.Helper
