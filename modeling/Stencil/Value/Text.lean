import Stencil.Text.Quoted
import Stencil.Number.Decimal
import Stencil.Value.Basic

/-!
Values as text, in three ways: `inspect` writes a value so that its type can be told, `plain` does
the same but for a text at the outside, and `display` is what a template shows.
-/

namespace Stencil

/-- The digits of a whole number. There is a limit to how many are written. -/
def Numeral.write (n : Int) : Except Fault String :=
  if tenTo Fault.digitLimit ≤ n.natAbs then .error .tooManyDigitsToWrite else .ok (toString n)

namespace Value

/-- A call as it is written: a name and arguments in brackets. -/
def callText (name : String) (arguments : List String) : String :=
  name ++ "(" ++ ", ".intercalate arguments ++ ")"

/-- A zone as it is written: the offset in seconds of the day that it belongs to. -/
def inspectZone (minutes : Int) : String :=
  if minutes = 0 then "datetime.timezone.utc"
  else
    let seconds := "seconds=" ++ toString (60 * minutes % 86400)
    callText "datetime.timezone"
      [callText "datetime.timedelta" (if minutes < 0 then ["days=-1", seconds] else [seconds])]

def zoneName (minutes : Int) : String :=
  if minutes = 0 then "UTC" else "UTC" ++ Moment.offsetText minutes

def inspectDate (date : Date) : String :=
  callText "datetime.date" [toString date.year, toString date.month, toString date.day]

/-- A moment as it is written. Seconds and microseconds are left out if nothing but zeros follows.
-/
def inspectMoment (moment : Moment) : String :=
  let numbers := [moment.date.year, moment.date.month, moment.date.day, moment.clock.hour,
    moment.clock.minute, moment.clock.second, moment.clock.microsecond]
  let shown := if moment.clock.microsecond ≠ 0 then 7 else if moment.clock.second ≠ 0 then 6 else 5
  callText "datetime.datetime" ((numbers.take shown).map toString ++
    moment.offset.toList.map fun minutes => "tzinfo=" ++ inspectZone minutes)

/-- The items of a tuple in brackets. A single one is followed by a comma. -/
def tupleText : List String → String
  | [item] => "(" ++ item ++ ",)"
  | items => "(" ++ ", ".intercalate items ++ ")"

mutual

/-- The value written so that its type can be told. -/
def inspect : Value → Except Fault String
  | null => .ok "None"
  | bool b => .ok (if b then "True" else "False")
  | int n => Numeral.write n
  | float x => .ok x.toText
  | text s => .ok (Text.Quoted.encode s)
  | bytes b => .ok (Text.Quoted.encodeBytes b)
  | list items => do return "[" ++ ", ".intercalate (← inspectAll items) ++ "]"
  | tuple _ items => do return tupleText (← inspectAll items)
  | map entries => do return "\x7b" ++ ", ".intercalate (← inspectEntries entries) ++ "\x7d"
  | lockedMap .. => .ok "<BadMap>"
  | date d => .ok (inspectDate d)
  | moment m => .ok (inspectMoment m)
  | zone minutes => .ok (inspectZone minutes)
  | object .. => .ok "<Obj>"
  | blockOptions name _ => .ok (callText "HelperOptions" ["name=" ++ Text.Quoted.encode name])

/-- The values of a list, each written so that its type can be told. -/
def inspectAll : List Value → Except Fault (List String)
  | [] => .ok []
  | value :: values => do return (← inspect value) :: (← inspectAll values)

/-- The entries of a map, each a key and a value with a colon between them. -/
def inspectEntries : List (Value × Value) → Except Fault (List String)
  | [] => .ok []
  | (key, value) :: entries => do
    let entry := (← inspect key) ++ ": " ++ (← inspect value)
    return entry :: (← inspectEntries entries)

end

def plain : Value → Except Fault String
  | text s => .ok s
  | date d => .ok d.toText
  | moment m => .ok (m.toText " ")
  | zone minutes => .ok (zoneName minutes)
  | object _ _ _ shown => shown
  | value => value.inspect

mutual

/-- The value as a template shows it: nothing for `null`, no `.0` behind a whole number, and the
items of a list behind one another with commas between them. -/
def display : Value → Except Fault String
  | null => .ok ""
  | bool b => .ok (if b then "true" else "false")
  | float x =>
    match x.whole? with
    | some n => .ok (toString n)
    | none => .ok x.toText
  | list items | tuple _ items => do return ",".intercalate (← displayAll items)
  | value => value.plain

def displayAll : List Value → Except Fault (List String)
  | [] => .ok []
  | value :: values => do return (← display value) :: (← displayAll values)

end

@[simp] theorem display_text (s : String) : (text s).display = .ok s := by
  simp [display, plain]

end Value

end Stencil
