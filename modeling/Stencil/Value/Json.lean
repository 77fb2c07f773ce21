import Stencil.Text.Quoted
import Stencil.Value.Text

/-!
Values written as JSON, on one line or with every item on a line of its own. Dates and moments are
written as text; a value that JSON cannot hold has no written form.
-/

namespace Stencil.Json

/-- How the items of an array or an object are laid out. -/
inductive Layout where
  | compact
  | /-- Every item on its own line, indented by so many blanks for each level. -/
    indented (width : Nat)
  deriving DecidableEq, Repr

/-- One character of a text. Quotes, backslashes and control characters are escaped. -/
def encodeChar (c : Char) : List Char :=
  if c = '"' ∨ c = '\\' then ['\\', c]
  else if c = '\n' then ['\\', 'n']
  else if c = '\r' then ['\\', 'r']
  else if c = '\t' then ['\\', 't']
  else if c = '\x0c' then ['\\', 'f']
  else if c = '\x08' then ['\\', 'b']
  else if c.toNat < 32 then '\\' :: 'u' :: Text.hexDigits 4 c.toNat
  else [c]

def quoted (s : String) : String := String.ofList ('"' :: s.toList.flatMap encodeChar ++ ['"'])

/-- A floating point number. Those that are no finite numbers have names. -/
def floatText : Binary64 → String
  | .nan _ => "NaN"
  | .infinite negative => if negative then "-Infinity" else "Infinity"
  | x => x.toText

/-- The digits of a whole number, if it has not too many. -/
def intText? (n : Int) : Option String := (Numeral.write n).toOption

/-- A value that holds no others. -/
def scalar? : Value → Option String
  | .null => some "null"
  | .bool b => some (if b then "true" else "false")
  | .int n => intText? n
  | .float x => some (floatText x)
  | .text s => some (quoted s)
  | .date d => some (quoted d.toText)
  | .moment m => some (quoted (m.toText "T"))
  | _ => none

/-- The text of a key of an object. Numbers and names stand in quotes there. -/
def key? : Value → Option String
  | .text s => some s
  | .null => some "null"
  | .bool b => some (if b then "true" else "false")
  | .int n => intText? n
  | .float x => some (floatText x)
  | _ => none

/-- A line break before an item at the given depth, if items stand on lines of their own. -/
def lineBreak (depth : Nat) : Layout → String
  | .compact => ""
  | .indented width => String.ofList ('\n' :: List.replicate (width * depth) ' ')

def colon : Layout → String
  | .compact => ":"
  | .indented _ => ": "

def enclosed (layout : Layout) (depth : Nat) (opening closing : String) : List String → String
  | [] => opening ++ closing
  | items =>
    let inside := lineBreak (depth + 1) layout
    opening ++ inside ++ ("," ++ inside).intercalate items ++ lineBreak depth layout ++ closing

mutual

/-- The written form of a value that stands at the given depth. -/
def write? (layout : Layout) (depth : Nat) : Value → Option String
  | .list items | .tuple _ items => do
    return enclosed layout depth "[" "]" (← writeAll? layout (depth + 1) items)
  | .map entries => do
    return enclosed layout depth "\x7b" "\x7d" (← writeEntries? layout (depth + 1) entries)
  | value => scalar? value

def writeAll? (layout : Layout) (depth : Nat) : List Value → Option (List String)
  | [] => some []
  | value :: values => do
    return (← write? layout depth value) :: (← writeAll? layout depth values)

def writeEntries? (layout : Layout) (depth : Nat) : List (Value × Value) → Option (List String)
  | [] => some []
  | (key, value) :: entries => do
    let entry := quoted (← key? key) ++ colon layout ++ (← write? layout depth value)
    return entry :: (← writeEntries? layout depth entries)

end

end Stencil.Json
