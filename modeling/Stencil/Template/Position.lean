/-!
Positions in a source: the line, counted from one, and the column, counted from zero. Lines end at
line feeds only.
-/

namespace Stencil

/-- A place in a source as a reader counts it. -/
structure Position where
  line : Nat
  column : Nat
  deriving DecidableEq, Repr

namespace Position

def behind (front : List Char) : Position :=
  ⟨front.count '\n' + 1, (front.reverse.takeWhile (· ≠ '\n')).length⟩

/-- The offset moved into the bounds of a source with the given length. -/
def clamp (offset : Int) (length : Nat) : Nat := min offset.toNat length

/-- The position of an offset. An offset outside the source stands for the nearer end. -/
def ofOffset (source : String) (offset : Int) : Position :=
  let cs := source.toList
  behind (cs.take (clamp offset cs.length))

theorem behind_append_newline (front : List Char) :
    behind (front ++ ['\n']) = ⟨(behind front).line + 1, 0⟩ := by
  simp [behind]

theorem behind_append_of_ne {c : Char} (front : List Char) (h : c ≠ '\n') :
    behind (front ++ [c]) = ⟨(behind front).line, (behind front).column + 1⟩ := by
  simp [behind, h]

end Position

end Stencil
