import Stencil.Text.Blank
import Stencil.Text.Utf8
import Stencil.Number.Power
import Stencil.Calendar.Date

/-!
Moments read from text in the forms of ISO 8601: a day of a month or of a week of the year, with or
without hyphens, and behind any one character a time, with or without colons, and an offset. An
offset has to be well formed; the moment keeps the time that is written, whatever its offset. A time
is read in units of UTF-8: what may be left unread before an offset is one unit.
-/

namespace Stencil.Calendar.Iso

/-- The number that the first `count` characters write, all of them digits, and the rest. -/
def digits? (count : Nat) (cs : List Char) : Option (Nat × List Char) :=
  let front := cs.take count
  if front.length = count ∧ front.all Char.isDigit then
    some (front.foldl (fun n c => 10 * n + (c.toNat - 48)) 0, cs.drop count)
  else none

/-! ### Days -/

def weekday (date : Date) : Nat := (date.ordinal + 6) % 7

/-- The days from the first day of the calendar to the Monday of the first week of a year, the week
in which its first Thursday lies. It may lie before that day. -/
def firstMonday (year : Nat) : Int :=
  let before := daysBeforeYear year
  let weekday := before % 7
  (before : Int) - weekday + if 3 < weekday then 7 else 0

/-- Whether the year has the week: the 53rd belongs to years that start on a Thursday, and to leap
years that start on a Wednesday. -/
def hasWeek (year week : Nat) : Bool :=
  let weekday := daysBeforeYear year % 7
  1 ≤ week && (week ≤ 52 || (week == 53 && (weekday == 3 || (weekday == 2 && isLeap year))))

def ofWeek? (year week day : Nat) : Option Date :=
  if 1 ≤ year ∧ hasWeek year week ∧ 1 ≤ day ∧ day ≤ 7 then
    let days := firstMonday year + 7 * (week - 1 : Nat) + (day - 1 : Nat)
    if days < 0 then none else Date.afterFirst? days.toNat
  else none

/-- Whether digits that follow a week without a hyphen start with the day of the week. A separator
that is a digit and a time of whole hours and minutes are an odd number of digits, but a single
digit is a day. -/
def startsWithDay (run : Nat) : Bool := run == 1 || (run != 0 && run % 2 == 0)

/-- The text up to where the date ends and the rest. A date by weeks may leave out its last digit.
-/
def splitDate (cs : List Char) : List Char × List Char :=
  match cs with
  | _ :: _ :: _ :: _ :: '-' :: 'W' :: _ :: _ :: '-' :: _ :: c :: _ =>
    cs.splitAt (if c.isDigit then 8 else 10)
  | _ :: _ :: _ :: _ :: '-' :: 'W' :: _ :: _ :: '-' :: _ => cs.splitAt 10
  | _ :: _ :: _ :: _ :: '-' :: 'W' :: _ => cs.splitAt 8
  | [_, _, _, _, '-', _, _] => (cs, [])
  | _ :: _ :: _ :: _ :: '-' :: _ => cs.splitAt 10
  | _ :: _ :: _ :: _ :: 'W' :: _ :: _ :: later =>
    cs.splitAt (if startsWithDay (later.takeWhile Char.isDigit).length then 8 else 7)
  | _ => cs.splitAt 8

/-- The rest behind a hyphen if hyphens are used, and otherwise the text itself. -/
def hyphen? (used : Bool) (cs : List Char) : Option (List Char) :=
  if used then (if cs.head? = some '-' then some cs.tail else none) else some cs

def date? (cs : List Char) : Option Date := do
  let (year, cs) ← digits? 4 cs
  let used := cs.head? = some '-'
  let cs ← hyphen? used cs
  match cs with
  | 'W' :: cs =>
    let (week, cs) ← digits? 2 cs
    if cs.isEmpty then ofWeek? year week 1
    else
      let (day, _) ← digits? 1 (← hyphen? used cs)
      ofWeek? year week day
  | cs =>
    let (month, cs) ← digits? 2 cs
    let (day, _) ← digits? 2 (← hyphen? used cs)
    Date.of? year month day

/-! ### Times -/

/-- Hours, minutes, seconds and microseconds, and whether the text ended with them. -/
structure Reading where
  hour : Nat
  minute : Nat
  second : Nat
  microsecond : Nat
  complete : Bool

/-- Whether nothing is left to read. The character NUL ends a text. -/
def atEnd (cs : List Char) : Bool := cs.head?.all (· = '\x00')

/-- The fraction of a second in microseconds; digits beyond the sixth do not count. Whatever
follows them leaves the reading incomplete. -/
def fraction? (cs : List Char) : Option (Nat × Bool) := do
  let count := min 6 cs.length
  let (n, rest) ← digits? count cs
  return (n * tenTo (6 - count), atEnd (rest.dropWhile Char.isDigit))

/-- The numbers of a time behind its first `known` ones, and its fraction. Two colons, or none,
stand between the numbers; `colons` says whether they are used, once that is known. A single
character at the end is left unread. -/
def timeFrom? (colons : Option Bool) (known : List Nat) : Nat → List Char → Option Reading
  | 0, cs => do
    let (microsecond, complete) ← fraction? cs
    return ⟨known.getD 0 0, known.getD 1 0, known.getD 2 0, microsecond, complete⟩
  | missing + 1, cs => do
    let (n, rest) ← digits? 2 cs
    let known := known ++ [n]
    let reading (complete : Bool) : Reading :=
      ⟨known.getD 0 0, known.getD 1 0, known.getD 2 0, 0, complete⟩
    match rest with
    | [] => return reading true
    | [c] => return reading (atEnd [c])
    | c :: later =>
      let colons := colons.getD (c == ':')
      if colons ∧ c = ':' then timeFrom? (some colons) known missing later
      else if c = '.' ∨ c = ',' then
        let (microsecond, complete) ← fraction? later
        return { reading complete with microsecond }
      else if colons then none
      else timeFrom? (some colons) known missing rest

/-- The reading of hours, minutes, seconds and a fraction. -/
def time? (cs : List Char) : Option Reading := timeFrom? none [] 3 cs

/-- Whether an offset, behind its sign, is well formed: less than a day. -/
def isOffset (cs : List Char) : Bool :=
  match time? cs with
  | none => false
  | some r =>
    let seconds := 3600 * r.hour + 60 * r.minute + r.second
    r.complete && seconds < 86400

/-- The time that a text consists of. A sign starts an offset, and then the time before it may be
incomplete. -/
def clock? (cs : List Char) : Option Clock := do
  let isSign (c : Char) : Bool := c = '+' ∨ c = '-'
  let time := cs.takeWhile fun c => !isSign c
  let r ← time? time
  match cs.dropWhile fun c => !isSign c with
  | [] => if r.complete then Clock.of? r.hour r.minute r.second r.microsecond else none
  | _ :: offset =>
    if isOffset offset then Clock.of? r.hour r.minute r.second r.microsecond else none

/-- The characters with the letter for the world's clock written as an offset. -/
def withoutZulu (cs : List Char) : List Char :=
  cs.flatMap fun c => if c = 'Z' then "+00:00".toList else [c]

def moment? (text : String) : Option (Date × Clock) := do
  let cs := withoutZulu (Text.trimChars text.toList)
  if cs.length < 7 then none
  else
    let (front, rest) := splitDate cs
    let date ← date? front
    match rest with
    | [] => return (date, .midnight)
    | _ :: time => return (date, ← clock? (Text.units time))

end Stencil.Calendar.Iso
