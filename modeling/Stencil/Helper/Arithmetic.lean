import Stencil.Helper.Format

/-!
The helpers that calculate. Whole numbers stay whole, except in a quotient, and a whole number that
meets a floating point number becomes one. With an argument that is no number the result is zero.
-/

namespace Stencil

namespace Number

def combine (onInts : Int → Int → Int) (onFloats : Binary64 → Binary64 → Binary64) :
    Number → Number → Except Fault Number
  | int m, int n => .ok (int (onInts m n))
  | x, y => do return float (onFloats (← Helper.toFloat x) (← Helper.toFloat y))

def add : Number → Number → Except Fault Number := combine (· + ·) (· + ·)

def subtract : Number → Number → Except Fault Number := combine (· - ·) (· - ·)

def multiply : Number → Number → Except Fault Number := combine (· * ·) (· * ·)

def isZero : Number → Bool
  | int n => n == 0
  | float x => x.isZero

/-- The quotient by a number that is not zero, rounded once. -/
def quotient : Number → Number → Except Fault Binary64
  | int m, int n => (Binary64.ofIntQuotient? m n).elim (.error .quotientTooLargeForFloat) .ok
  | x, y => do return (← Helper.toFloat x) / (← Helper.toFloat y)

def divide (x y : Number) : Except Fault Number :=
  if y.isZero then .ok (int 0) else float <$> x.quotient y

end Number

namespace Helper

def arithmetic (operation : Number → Number → Except Fault Number) : Helper :=
  binary "_arithmetic.<locals>.apply" fun a b =>
    match a.toNumber?, b.toNumber? with
    | some x, some y => Value.ofNumber <$> operation x y
    | _, _ => .ok (.int 0)

def add : Helper := arithmetic Number.add

def subtract : Helper := arithmetic Number.subtract

def multiply : Helper := arithmetic Number.multiply

def divide : Helper := arithmetic Number.divide

end Helper

end Stencil
