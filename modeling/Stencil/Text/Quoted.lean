import Stencil.Text.Hex
import Stencil.Text.Printable

/-!
Quoted text: a text between quotes in which the quote, the backslash and what cannot be printed
are written as escapes.
-/

namespace Stencil.Text

namespace Quoted

/-- The quote around a text: a double one if the text holds single quotes and no double ones. -/
def mark (cs : List Char) : Char :=
  if cs.contains '\'' && !cs.contains '"' then '"' else '\''

/-- The escape of a control character that has one of its own, of a backslash, and of the quote. -/
def shortEscape (quote c : Char) : Option (List Char) :=
  if c = quote ∨ c = '\\' then some ['\\', c]
  else if c = '\n' then some ['\\', 'n']
  else if c = '\r' then some ['\\', 'r']
  else if c = '\t' then some ['\\', 't']
  else none

def encodeChar (quote c : Char) : List Char :=
  match shortEscape quote c with
  | some escape => escape
  | none =>
    if isPrintable c then [c]
    else if c.toNat < 0x100 then '\\' :: 'x' :: hexDigits 2 c.toNat
    else if c.toNat < 0x10000 then '\\' :: 'u' :: hexDigits 4 c.toNat
    else '\\' :: 'U' :: hexDigits 8 c.toNat

def encode (s : String) : String :=
  let cs := s.toList
  let quote := mark cs
  String.ofList (quote :: cs.flatMap (encodeChar quote) ++ [quote])

/-- One byte of a quoted sequence of bytes, of which only printable ASCII is shown as it is. -/
def encodeByte (quote : Char) (b : UInt8) : List Char :=
  let c := Char.ofNat b.toNat
  match shortEscape quote c with
  | some escape => escape
  | none => if 32 ≤ b && b < 127 then [c] else '\\' :: 'x' :: hexDigits 2 b.toNat

/-- A sequence of bytes in quotes, after the letter that marks it. -/
def encodeBytes (bytes : List UInt8) : String :=
  let quote := mark (bytes.map fun b => Char.ofNat b.toNat)
  String.ofList ('b' :: quote :: bytes.flatMap (encodeByte quote) ++ [quote])

end Quoted

end Stencil.Text
