import Stencil.Number.Quanta

/-!
Floating point numbers with 53 significant bits. A finite one is a whole number of quanta of
2 ^ -1074 with a sign, so sums, products, quotients and comparisons are computed on whole numbers
and rounded once, to the nearest number that fits, a tie going to the even significand.

What is no number, a NaN, bears a mark. Two of them can be told apart by their marks, although no
comparison finds even one equal to itself.
-/

namespace Stencil

/-- A number of the binary64 format. -/
inductive Binary64 where
  | /-- What is no number; its mark is zero where an operation has no result. -/
    nan (mark : Nat)
  | infinite (negative : Bool)
  | finite (negative : Bool) (quanta : Binary64.Quanta)
  deriving DecidableEq, Repr, Inhabited

namespace Binary64

/-- The number nearest to a quotient of quanta, with the given sign. -/
def ofQuotient (negative : Bool) (num den : Nat) : Binary64 :=
  let quanta := roundQuanta num den
  if h : quanta < bound then finite negative ⟨quanta, fits_roundQuanta num den, h⟩
  else infinite negative

/-- A whole number with no more than 53 binary digits. -/
def ofWhole (n : Nat) (h : n < twoTo 53 := by decide) : Binary64 := finite false (.ofWhole n h)

def zero : Binary64 := finite false .none

/-- The number, unless it is infinite. -/
def notInfinite? : Binary64 → Option Binary64
  | infinite _ => none
  | x => some x

/-- The number nearest to a whole number; none if that is too great. -/
def ofInt? (n : Int) : Option Binary64 := notInfinite? (ofQuotient (n < 0) (n.natAbs * one) 1)

/-- The number nearest to a quotient of whole numbers; none if that is too great. -/
def ofIntQuotient? (a b : Int) : Option Binary64 :=
  notInfinite? (ofQuotient (decide (a < 0) != decide (b < 0)) (a.natAbs * one) b.natAbs)

/-- The number nearest to `digits * 10 ^ exponent`, or an infinite one if that is too great.
Exponents far outside the format are not computed. -/
def ofDecimal (negative : Bool) (digits : Nat) (exponent : Int) : Binary64 :=
  let size : Int := digits.log2 / 3 + 1
  if digits = 0 then finite negative .none
  else if exponent > 400 then infinite negative
  else if exponent + size < -400 then finite negative .none
  else if 0 ≤ exponent then ofQuotient negative (digits * tenTo exponent.toNat * one) 1
  else ofQuotient negative (digits * one) (tenTo (-exponent).toNat)

/-! ### Arithmetic -/

def signed (negative : Bool) (quanta : Nat) : Int := if negative then -quanta else quanta

def neg : Binary64 → Binary64
  | nan m => nan m
  | infinite s => infinite (!s)
  | finite s q => finite (!s) q

def add : Binary64 → Binary64 → Binary64
  | nan m, _ | _, nan m => nan m
  | infinite s, infinite t => if s = t then infinite s else nan 0
  | infinite s, _ | _, infinite s => infinite s
  | finite s p, finite t q =>
    let sum := signed s p.count + signed t q.count
    if sum = 0 then finite (s && t) .none else ofQuotient (sum < 0) sum.natAbs 1

def sub (x y : Binary64) : Binary64 := add x (neg y)

def mul : Binary64 → Binary64 → Binary64
  | nan m, _ | _, nan m => nan m
  | infinite s, infinite t => infinite (s != t)
  | infinite s, finite t q | finite t q, infinite s => if q.count = 0 then nan 0 else infinite (s != t)
  | finite s p, finite t q => ofQuotient (s != t) (p.count * q.count) one

/-- The quotient, rounded once. A finite number divided by zero is infinite. -/
def div : Binary64 → Binary64 → Binary64
  | nan m, _ | _, nan m => nan m
  | infinite _, infinite _ => nan 0
  | infinite s, finite t _ => infinite (s != t)
  | finite s _, infinite t => finite (s != t) .none
  | finite s p, finite t q =>
    if q.count = 0 then (if p.count = 0 then nan 0 else infinite (s != t))
    else ofQuotient (s != t) (p.count * one) q.count

instance : Neg Binary64 := ⟨neg⟩
instance : Add Binary64 := ⟨add⟩
instance : Sub Binary64 := ⟨sub⟩
instance : Mul Binary64 := ⟨mul⟩
instance : Div Binary64 := ⟨div⟩

/-! ### Order and whole numbers -/

/-- How a number lies to another; not at all if one of them is no number. -/
def compare? : Binary64 → Binary64 → Option Ordering
  | nan _, _ | _, nan _ => none
  | infinite s, infinite t => some (compare t.toNat s.toNat)
  | infinite s, finite .. => some (if s then .lt else .gt)
  | finite .., infinite t => some (if t then .gt else .lt)
  | finite s p, finite t q => some (compare (signed s p.count) (signed t q.count))

/-- How a number lies to a whole number, compared exactly. -/
def compareInt? : Binary64 → Int → Option Ordering
  | nan _, _ => none
  | infinite s, _ => some (if s then .lt else .gt)
  | finite s p, n => some (compare (signed s p.count) (n * one))

/-- The number without its fraction; none if it is not finite. -/
def truncate? : Binary64 → Option Int
  | finite s q => some (signed s (q.count / one))
  | _ => none

/-- The greatest whole number that is not above the number; none if it is not finite. -/
def floor? : Binary64 → Option Int
  | finite s q => some (signed s q.count / (one : Int))
  | _ => none

def whole? : Binary64 → Option Int
  | finite s q => if q.count % one = 0 then some (signed s (q.count / one)) else none
  | _ => none

def isZero : Binary64 → Bool
  | finite _ q => q.count == 0
  | _ => false

/-- Whether two numbers are one and the same NaN. -/
def sameNaN : Binary64 → Binary64 → Bool
  | nan m, nan n => m == n
  | _, _ => false

end Binary64

end Stencil
