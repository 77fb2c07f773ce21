import Stencil.Number.Power

/-!
Quanta of 2 ^ -1074, of which floating point numbers are made. A number of quanta fits if it has 53
significant bits at most, and a quotient is rounded to the nearest one that does, a tie going to the
even significand.
-/

namespace Stencil.Binary64

/-- The quanta in one. -/
def one : Nat := twoTo 1074

/-- The least number of quanta that is too great for a finite number. -/
def bound : Nat := twoTo 2098

/-- The quanta have 53 significant bits at most. -/
def Fits (quanta : Nat) : Prop :=
  ∃ digits exponent, digits < twoTo 53 ∧ quanta = digits * twoTo exponent

/-- The whole number nearest to a quotient; a tie goes to the even one. -/
def nearest (num den : Nat) : Nat :=
  let quotient := num / den
  let rest := 2 * (num % den)
  if rest < den then quotient
  else if den < rest then quotient + 1
  else quotient + quotient % 2

/-- The binary digits beyond the 53 leading ones. -/
def surplus (quanta : Nat) : Nat := quanta.log2 + 1 - 53

/-- The quanta nearest to a quotient among those with 53 significant bits. -/
def roundQuanta (num den : Nat) : Nat :=
  let step := twoTo (surplus (num / den))
  nearest num (den * step) * step

/-! ### What is rounded fits -/

theorem fits_of_lt {n : Nat} (h : n < twoTo 53) : Fits n := ⟨n, 0, h, (Nat.mul_one n).symm⟩

theorem fits_twoTo (exponent : Nat) : Fits (twoTo exponent) :=
  ⟨1, exponent, by decide, (Nat.one_mul _).symm⟩

/-- The nearest whole number is next to the quotient. -/
theorem nearest_cases (num den : Nat) :
    nearest num den = num / den ∧ 2 * (num % den) ≤ den ∨
      nearest num den = num / den + 1 ∧ den ≤ 2 * (num % den) := by
  unfold nearest
  dsimp only
  split
  · omega
  · split <;> omega

theorem nearest_le {num den most : Nat} (hDen : 0 < den) (h : num ≤ most * den) :
    nearest num den ≤ most := by
  have hQuotient : num / den ≤ most := Nat.div_le_of_le_mul (by rwa [Nat.mul_comm])
  rcases nearest_cases num den with ⟨hNearest, -⟩ | ⟨hNearest, hHalf⟩
  · rwa [hNearest]
  · rw [hNearest]
    refine Nat.succ_le_of_lt (Nat.lt_of_le_of_ne hQuotient fun hSame => ?_)
    -- Otherwise nothing would be left over.
    have hNum := Nat.div_add_mod' num den
    rw [hSame] at hNum
    omega

/-- The digits beyond the leading 53 are left off. -/
theorem div_twoTo_surplus_lt (quanta : Nat) : quanta / twoTo (surplus quanta) < twoTo 53 := by
  have hLog : quanta < twoTo (quanta.log2 + 1) := Nat.lt_log2_self
  rw [Nat.div_lt_iff_lt_mul (twoTo_pos _)]
  refine Nat.lt_of_lt_of_le hLog ?_
  rw [← twoTo_add]
  exact Nat.pow_le_pow_right (by decide) (by unfold surplus; omega)

/-- The leading digits of a quotient are rounded to no more than 53 digits, or to the power of two
behind them. -/
theorem nearest_surplus_le (num den : Nat) :
    nearest num (den * twoTo (surplus (num / den))) ≤ twoTo 53 := by
  cases den with
  | zero =>
    rw [Nat.zero_mul]
    have hZero := Nat.div_zero num
    have hPos := twoTo_pos 53
    rcases nearest_cases num 0 with ⟨hNearest, -⟩ | ⟨hNearest, -⟩ <;> omega
  | succ den =>
    have hStep : 0 < twoTo (surplus (num / (den + 1))) := twoTo_pos _
    refine nearest_le (Nat.mul_pos (Nat.succ_pos den) hStep) ?_
    have hLess := div_twoTo_surplus_lt (num / (den + 1))
    rw [Nat.div_div_eq_div_mul, Nat.div_lt_iff_lt_mul (Nat.mul_pos (Nat.succ_pos den) hStep)]
      at hLess
    exact Nat.le_of_lt hLess

theorem fits_roundQuanta (num den : Nat) : Fits (roundQuanta num den) := by
  unfold roundQuanta
  rcases Nat.lt_or_eq_of_le (nearest_surplus_le num den) with hLess | hSame
  · exact ⟨_, _, hLess, rfl⟩
  · dsimp only
    rw [hSame, ← twoTo_add]
    exact fits_twoTo _

theorem mul_twoTo_lt {n size exponent most : Nat} (h : n < twoTo size)
    (hMost : size + exponent < most) : n * twoTo exponent < twoTo most := by
  calc
    n * twoTo exponent < twoTo size * twoTo exponent :=
      Nat.mul_lt_mul_of_pos_right h (twoTo_pos exponent)
    _ = twoTo (size + exponent) := (twoTo_add size exponent).symm
    _ < twoTo most := twoTo_lt_twoTo hMost

/-- A power of two adds no significant bits. -/
theorem Fits.mul_twoTo {n : Nat} (h : Fits n) (exponent : Nat) : Fits (n * twoTo exponent) := by
  obtain ⟨digits, other, hDigits, rfl⟩ := h
  exact ⟨digits, other + exponent, hDigits, by rw [twoTo_add, ← Nat.mul_assoc]⟩

/-- What is left over from a power of two has no more significant bits. -/
theorem Fits.mod_twoTo {n : Nat} (h : Fits n) (exponent : Nat) : Fits (n % twoTo exponent) := by
  obtain ⟨digits, other, hDigits, rfl⟩ := h
  rcases Nat.le_total other exponent with hLess | hMore
  · obtain ⟨more, rfl⟩ := Nat.exists_eq_add_of_le' hLess
    rw [twoTo_add]
    exact ⟨digits % twoTo more, other, Nat.lt_of_le_of_lt (Nat.mod_le _ _) hDigits,
      Nat.mul_mod_mul_right _ _ _⟩
  · obtain ⟨more, rfl⟩ := Nat.exists_eq_add_of_le' hMore
    have hZero : digits * twoTo (more + exponent) % twoTo exponent = 0 := by
      rw [twoTo_add, ← Nat.mul_assoc]
      exact Nat.mul_mod_left _ _
    rw [hZero]
    exact fits_of_lt (by decide)

/-! ### Quanta of finite numbers -/

/-- A number of quanta that a finite number may have: it fits and is not too great. -/
@[ext] structure Quanta where
  count : Nat
  fits : Fits count
  lt_bound : count < bound
  deriving DecidableEq, Repr

namespace Quanta

def none : Quanta := ⟨0, fits_of_lt (by decide), twoTo_pos _⟩

/-- The quanta of a whole number with no more than 53 binary digits. -/
def ofWhole (n : Nat) (h : n < twoTo 53 := by decide) : Quanta where
  count := n * one
  fits := (fits_of_lt h).mul_twoTo 1074
  lt_bound := @mul_twoTo_lt n 53 1074 2098 h (by decide)

/-- The quanta behind the point. -/
def fraction (quanta : Quanta) : Quanta where
  count := quanta.count % one
  fits := quanta.fits.mod_twoTo 1074
  lt_bound := Nat.lt_of_le_of_lt (Nat.mod_le _ _) quanta.lt_bound

end Quanta

end Stencil.Binary64
