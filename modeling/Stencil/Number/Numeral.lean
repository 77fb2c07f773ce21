import Stencil.Text.Blank
import Stencil.Text.Digit
import Stencil.Number.Binary64
import Stencil.Fault

/-!
Numbers written as text. Digits of every script count as the ASCII ones, a single underscore may
stand between two digits, and a whole number has a limited number of digits.
-/

namespace Stencil

/-- A number: whole, or floating. -/
inductive Number where
  | int (n : Int)
  | float (x : Binary64)
  deriving DecidableEq, Repr

/-- The number without its fraction; the default if it is not finite. A whole number that is too
large for a floating point number is refused. -/
def Number.truncate (default : Int) : Number → Except Fault Int
  | int n => (Binary64.ofInt? n).elim (.error .integerTooLargeForFloat) fun _ => .ok n
  | float x => .ok (x.truncate?.getD default)

namespace Numeral

def sign : List Char → Bool × List Char
  | '-' :: cs => (true, cs)
  | '+' :: cs => (false, cs)
  | cs => (false, cs)

/-- The digits of a run of digits in which single underscores may stand between two digits. -/
def digitRun : List Char → Option (List Nat)
  | [] => none
  | [c] => (Text.digitValue? c).map ([·])
  | c :: '_' :: cs => do
    let d ← Text.digitValue? c
    let later ← digitRun cs
    return d :: later
  | c :: cs => do
    let d ← Text.digitValue? c
    let later ← digitRun cs
    return d :: later

/-- Whether a character may stand in a run of digits. -/
def inDigitRun (c : Char) : Bool := c == '_' || (Text.digitValue? c).isSome

/-- The whole number that a text without blanks stands for. The digits at its front are counted
before what follows them is looked at. -/
def int? (text : String) : Except Fault Int :=
  let (negative, cs) := sign text.toList
  match digitRun (cs.takeWhile inDigitRun) with
  | none => .error (.invalidInteger text)
  | some digits =>
    if Fault.digitLimit < digits.length then .error (.tooManyDigitsToRead digits.length)
    else if !(cs.dropWhile inDigitRun).isEmpty then .error (.invalidInteger text)
    else
      let n := Text.ofDigits digits
      .ok (if negative then -n else n)

/-- The characters with ASCII digits in place of all others. -/
def asciiDigits (cs : List Char) : List Char :=
  cs.map fun c => match Text.digitValue? c with
    | some d => Char.ofNat (48 + d)
    | none => c

/-- The text without its underscores, if each stands between two digits. -/
def withoutUnderscores : List Char → Option (List Char)
  | [] => some []
  | '_' :: _ => none
  | c :: '_' :: d :: cs =>
    if c.isDigit && d.isDigit then (withoutUnderscores (d :: cs)).map (c :: ·) else none
  | c :: cs => (withoutUnderscores cs).map (c :: ·)

/-- An exponent behind its mark: a sign and digits to the end of the text. -/
def exponent? (cs : List Char) : Option Int := do
  let (negative, cs) := sign cs
  if cs.isEmpty || !cs.all Char.isDigit then none
  else
    let digits ← Text.digitValues? cs
    let n := Text.ofDigits digits
    return if negative then -n else n

/-- A decimal: digits with a point before, among or behind them, and an exponent. -/
def decimal? (negative : Bool) (cs : List Char) : Option Binary64 := do
  let before := cs.takeWhile Char.isDigit
  let (behind, rest) := match cs.dropWhile Char.isDigit with
    | '.' :: rest => (rest.takeWhile Char.isDigit, rest.dropWhile Char.isDigit)
    | rest => ([], rest)
  if before.isEmpty && behind.isEmpty then none
  else
    let digits ← Text.digitValues? (before ++ behind)
    let exponent ← match rest with
      | [] => some 0
      | c :: rest => if c = 'e' ∨ c = 'E' then exponent? rest else none
    return .ofDecimal negative (Text.ofDigits digits) (exponent - behind.length)

/-- The floating point number that a text without blanks stands for. -/
def float? (text : String) : Option Binary64 := do
  let cs ← withoutUnderscores (asciiDigits text.toList)
  let (negative, cs) := sign cs
  match String.ofList (cs.map Char.toLower) with
  | "nan" => return .nan 0
  | "inf" | "infinity" => return .infinite negative
  | _ => decimal? negative cs

/-- The number that a text stands for: a whole one if it can be read as one, else a floating point
number. -/
def number? (text : String) : Option Number :=
  let text := Text.trim text
  match int? text with
  | .ok n => some (.int n)
  | .error _ => (float? text).map .float

end Numeral

end Stencil
