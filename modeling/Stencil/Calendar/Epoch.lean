import Stencil.Number.Binary64
import Stencil.Calendar.Date

/-!
Moments counted in milliseconds from the start of the year 1970 by the world's clock, and what local
clocks show then. A zone says how many seconds they are ahead at a second of the world's clock.
-/

namespace Stencil.Calendar.Epoch

/-- The days from the first day of the calendar to the start of the count. -/
def start : Int := 719162

/-- The second in which a time lies after it is rounded to microseconds. -/
def second? : Binary64 → Option Int
  | .finite negative quanta =>
    let whole := Binary64.signed negative (quanta.count / Binary64.one)
    let million : Binary64 := .ofWhole 1000000
    match .finite negative quanta.fraction * million with
    | .finite _ quanta =>
      let microseconds := Binary64.nearest quanta.count Binary64.one
      if negative then some (if microseconds = 0 then whole else whole - 1)
      else some (if microseconds < 1000000 then whole else whole + 1)
    | _ => none
  | _ => none

/-- The local day of a second, counted from the first day of the calendar. -/
def localDay (zone : Int → Int) (second : Int) : Int := start + (second + zone second) / 86400

/-- The local day and time of a second. The clock is also looked at a day earlier, to find out
whether it was put back, so that must lie in the calendar too. -/
def ofSecond? (zone : Int → Int) (second : Int) : Option (Date × Clock) := do
  let days := localDay zone second
  let rest := ((second + zone second) % 86400).toNat
  if days < 0 ∨ localDay zone (second - 86400) < 0 ∨ 3652059 ≤ days then none
  else
    let date ← Date.afterFirst? days.toNat
    let clock ← Clock.of? (rest / 3600) (rest / 60 % 60) (rest % 60) 0
    return (date, clock)

/-- The day and the time of a number of milliseconds that is a floating point number. -/
def ofFloat? (zone : Int → Int) (milliseconds : Binary64) : Option (Date × Clock) := do
  ofSecond? zone (← second? (milliseconds / .ofWhole 1000))

/-- The day and the time of a whole number of milliseconds. -/
def ofInt? (zone : Int → Int) (milliseconds : Int) : Option (Date × Clock) := do
  ofSecond? zone (← second? (← Binary64.ofIntQuotient? milliseconds 1000))

end Stencil.Calendar.Epoch
