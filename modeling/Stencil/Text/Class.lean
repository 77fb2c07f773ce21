/-!
Classes of characters given by their bounds. A class is written as an increasing list of code
points at which membership changes; below the first bound nothing belongs to it.
-/

namespace Stencil.Text

/-- Whether a code point lies in the class with the given bounds, when `inside` says whether the
points just below the first bound do. -/
def changesTo (inside : Bool) (n : Nat) : List Nat → Bool
  | [] => inside
  | bound :: bounds => if n < bound then inside else changesTo (!inside) n bounds

/-- Whether a code point lies in the class with the given bounds. -/
def within (n : Nat) (bounds : List Nat) : Bool := changesTo false n bounds

end Stencil.Text
