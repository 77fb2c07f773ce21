import Stencil.Machine
import Stencil.Calendar.Epoch
import Stencil.Calendar.Iso
import Stencil.Calendar.Pattern
import Stencil.Value.Json
import Stencil.Helper.Basic

/-!
The helpers that write a value in a given form: as JSON, as a number with a fixed number of
decimals, or as a date after a pattern. A value that has no such form becomes an empty text.
-/

namespace Stencil.Helper

/-- The length that is too great for any sequence. -/
def lengthBound : Int := twoTo 63

/-- Refuse a length that no sequence can have, or that there is no memory for. -/
def checkLength (machine : Machine) (length : Int) : Except Fault Unit :=
  if lengthBound ≤ length then .error .lengthTooLarge
  else if machine.memory ≤ length then .error .outOfMemory
  else .ok ()

/-! ### JSON -/

def layout (width : Int) : Json.Layout :=
  if 0 < width then .indented width.toNat else .compact

/-- A value as JSON, indented by the given width. An indentation that no text can have is refused,
unless the value is a text and has no items to be indented. -/
def jsonText (machine : Machine) (width : Int) (value : Value) : Except Fault String :=
  match value with
  | .text s => .ok (Json.quoted s)
  | value => do
    checkLength machine width
    return (Json.write? (layout width) 0 value).getD ""

/-- A value as JSON, indented by the second argument, or by two blanks. -/
def json (machine : Machine) : Helper :=
  binary "_helper_json" fun value indent => do
    return .text (← jsonText machine (← indent.toInt 2) value)

/-! ### Numbers -/

def toFloat : Number → Except Fault Binary64
  | .float x => .ok x
  | .int n => (Binary64.ofInt? n).elim (.error .integerTooLargeForFloat) .ok

def fixedText (places : Nat) (x : Number) : Except Fault String := do
  if lengthBound ≤ places then throw .tooManyDecimals
  let x ← toFloat x
  if twoTo 31 ≤ places then throw .precisionTooLarge
  return x.toFixed places

/-- A number with as many decimals as the second argument says, or two. Only numbers have this form,
and not the texts that write one. -/
def formatNumber : Helper :=
  binary "_helper_format_number" fun value decimals =>
    let formatted (x : Number) : Except Fault Value := do
      return .text (← fixedText (← decimals.toInt 2).toNat x)
    match value with
    | .int n => formatted (.int n)
    | .float x => formatted (.float x)
    | _ => .ok (.text "")

/-! ### Dates -/

/-- The day and the time that a value stands for: numbers count milliseconds, and stand for local
time; texts are read. -/
def moment? (machine : Machine) : Value → Option (Date × Clock)
  | .moment m => some (m.date, m.clock)
  | .date d => some (d, .midnight)
  | .int n => Calendar.Epoch.ofInt? machine.zone n
  | .float x => Calendar.Epoch.ofFloat? machine.zone x
  | .text s => Calendar.Iso.moment? s
  | _ => none

def pattern : Value → String
  | .text s => s
  | _ => Calendar.Pattern.standard

/-- A day and a time after the pattern in the second argument. -/
def formatDate (machine : Machine) : Helper :=
  binary "_helper_format_date" fun value form =>
    match moment? machine value with
    | none => .ok (.text "")
    | some (date, clock) => .ok (.text (Calendar.Pattern.format (pattern form) date clock))

end Stencil.Helper
