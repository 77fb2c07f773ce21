/-!
Whole numbers filled up with zeros in front to a width.
-/

namespace Stencil.Text

def zeroRun (n : Nat) : String := String.ofList (List.replicate n '0')

/-- A number filled up with zeros in front. A number that is wider stays as it is. -/
def padded (width n : Nat) : String :=
  let digits := toString n
  zeroRun (width - digits.length) ++ digits

@[simp] theorem zeroRun_zero : zeroRun 0 = "" := rfl

theorem padded_eq_self {width n : Nat} (h : width ≤ (toString n).length) :
    padded width n = toString n := by
  simp only [padded, Nat.sub_eq_zero_of_le h, zeroRun_zero, String.empty_append]

theorem padded_zero {width : Nat} (h : width ≠ 0) : padded width 0 = zeroRun width := by
  obtain ⟨less, rfl⟩ := Nat.exists_eq_succ_of_ne_zero h
  have hDigits : toString 0 = "0" := by decide
  have hLength : "0".length = 1 := by decide
  apply String.toList_inj.1
  simp only [padded, zeroRun, hDigits, hLength, Nat.succ_sub_one, String.toList_append,
    String.toList_ofList, Nat.succ_eq_add_one, List.replicate_succ']
  rfl

end Stencil.Text
