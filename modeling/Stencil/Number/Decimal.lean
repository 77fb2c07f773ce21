import Stencil.Text.Padded
import Stencil.Number.Binary64

/-!
Decimal texts of floating point numbers: the shortest one that reads back as the number, and the
one with a given number of decimals.
-/

namespace Stencil.Binary64

def digitCount (n : Nat) : Nat := (toString n).length

/-- The exponent `k` for which a number of quanta that is not zero lies between `10 ^ (k - 1)` and
`10 ^ k`. Quanta are greater than `10 ^ -400`, so the digits before that place are counted. -/
def decimalExponent (quanta : Nat) : Int := digitCount (quanta * tenTo 400 / one) - (400 : Int)

/-- Whether a decimal `digits * 10 ^ exponent` lies so near to the quanta that it reads back as
them. The bounds of the interval belong to it if the significand is even. -/
def readsBack (quanta digits : Nat) (exponent : Int) : Bool :=
  let step := twoTo (surplus quanta)
  let below := if quanta = twoTo quanta.log2 ∧ surplus quanta ≠ 0 then step else 2 * step
  let scale := tenTo exponent.natAbs
  let (value, unit) := if 0 ≤ exponent then (4 * digits * scale * one, 1)
    else (4 * digits * one, scale)
  let low := (4 * quanta - below) * unit
  let high := (4 * quanta + 2 * step) * unit
  if quanta / step % 2 = 0 then low ≤ value && value ≤ high else low < value && value < high

/-- The two whole numbers next to `quanta / 10 ^ exponent`, the nearer one first, an even one if
both are as near. -/
def neighbours (quanta : Nat) (exponent : Int) : Nat × Nat :=
  let (num, den) := if 0 ≤ exponent then (quanta, one * tenTo exponent.natAbs)
    else (quanta * tenTo exponent.natAbs, one)
  let low := num / den
  if nearest num den = low then (low, low + 1) else (low + 1, low)

/-- The decimal with the fewest digits, at least `17 - fuel` of them, that reads back as the quanta;
its digits and its exponent. Seventeen digits always read back. -/
def shortestFrom (quanta : Nat) (exponent : Int) : Nat → Nat × Int
  | 0 => ((neighbours quanta (exponent - 17)).1, exponent - 17)
  | fuel + 1 =>
    let place := exponent - (16 - fuel : Int)
    let (near, far) := neighbours quanta place
    if readsBack quanta near place then (near, place)
    else if readsBack quanta far place then (far, place)
    else shortestFrom quanta exponent fuel

/-- The decimal with the fewest digits that reads back as the quanta. -/
def shortest (quanta : Nat) : Nat × Int := shortestFrom quanta (decimalExponent quanta) 16

/-- How a shortest decimal is laid out: which exponents are written in full, and how many digits
an exponent has at least. -/
structure Layout where
  /-- A number below `10 ^ least` is written with an exponent. -/
  least : Int
  /-- A number of at least `10 ^ most` is written with an exponent. -/
  most : Int
  /-- The least number of digits of an exponent. -/
  exponentDigits : Nat

/-- Numbers from a ten thousandth to below ten to the sixteenth are written in full. -/
def layout : Layout := ⟨-4, 16, 2⟩

def trimmedDigits (digits : Nat) : String :=
  String.ofList ((toString digits).toList.reverse.dropWhile (· = '0')).reverse

/-- The text of a decimal that is not zero, whose first digit stands before the place `exponent`. -/
def layOut (layout : Layout) (digits : String) (exponent : Int) : String :=
  let count : Int := digits.length
  if layout.least < exponent ∧ exponent ≤ layout.most then
    if exponent ≤ 0 then "0." ++ Text.zeroRun (-exponent).toNat ++ digits
    else if count ≤ exponent then digits ++ Text.zeroRun (exponent - count).toNat ++ ".0"
    else
      let cs := digits.toList
      String.ofList (cs.take exponent.toNat) ++ "." ++ String.ofList (cs.drop exponent.toNat)
  else
    let cs := digits.toList
    let fraction := if cs.length ≤ 1 then "" else "." ++ String.ofList (cs.drop 1)
    String.ofList (cs.take 1) ++ fraction ++ "e" ++ (if exponent - 1 < 0 then "-" else "+") ++
      Text.padded layout.exponentDigits (exponent - 1).natAbs

def signText (negative : Bool) : String := if negative then "-" else ""

def toText : Binary64 → String
  | nan _ => "nan"
  | infinite negative => signText negative ++ "inf"
  | finite negative quanta =>
    signText negative ++
      if quanta.count = 0 then "0.0"
      else
        let (digits, place) := shortest quanta.count
        layOut layout (trimmedDigits digits) (digitCount digits + place)

/-- The text of the number with the given number of decimals, rounded to nearest and a tie to even.
-/
def toFixed (places : Nat) : Binary64 → String
  | nan _ => "nan"
  | infinite negative => signText negative ++ "inf"
  | finite negative quanta =>
    let scaled := nearest (quanta.count * tenTo places) one
    let scale := tenTo places
    signText negative ++ toString (scaled / scale) ++
      (if places = 0 then "" else "." ++ Text.padded places (scaled % scale))

end Stencil.Binary64
