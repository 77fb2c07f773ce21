import Mathlib.Tactic.Ring
import Stencil.Number.Decimal
import Stencil.Proofs.Rounding

/-!
Decimals that are read back. A decimal is read as the floating point number that it is rounded to,
whatever its exponent. What lies within half a step of a number is rounded to it, and the shortest
decimal of a number lies so near: seventeen digits are always enough.
-/

namespace Stencil.Binary64

/-- The quanta of the decimal `digits * 10 ^ exponent`, but for what its exponent divides by. -/
def decimalNum (digits : Nat) (exponent : Int) : Nat := digits * tenTo exponent.toNat * one

/-- What the exponent of a decimal divides by. -/
def decimalDen (exponent : Int) : Nat := tenTo (-exponent).toNat

variable {quanta num den digits : Nat} {exponent : Int}

/-! ### Decimals are read as what they are rounded to -/

theorem decimalDen_pos (exponent : Int) : 0 < decimalDen exponent := tenTo_pos _

theorem decimalDen_of_nonneg (h : 0 ≤ exponent) : decimalDen exponent = 1 := by
  rw [decimalDen, Int.toNat_eq_zero.2 (by omega), tenTo_zero]

theorem decimalNum_of_nonpos (h : exponent ≤ 0) (digits : Nat) :
    decimalNum digits exponent = digits * one := by
  rw [decimalNum, Int.toNat_eq_zero.2 h, tenTo_zero, Nat.mul_one]

theorem roundQuanta_of_small (h : 2 * num < den) : roundQuanta num den = 0 := by
  have hZero : num / den = 0 := Nat.div_eq_of_lt (by omega)
  have hStep : twoTo (surplus 0) = 1 := by decide
  unfold roundQuanta nearest
  dsimp only
  rw [hZero, hStep, Nat.mul_one, Nat.mul_one, hZero, Nat.mod_eq_of_lt (by omega), if_pos h]

/-- A number has no more decimal digits than the third part of its binary ones, and one. -/
theorem lt_tenTo_size (n : Nat) : n < tenTo (n.log2 / 3 + 1) := by
  have hLog : n < 2 ^ (n.log2 + 1) := Nat.lt_log2_self
  have hEight : 2 ^ (3 * (n.log2 / 3 + 1)) = 8 ^ (n.log2 / 3 + 1) := Nat.pow_mul 2 3 _
  calc n < 2 ^ (n.log2 + 1) := hLog
    _ ≤ 2 ^ (3 * (n.log2 / 3 + 1)) := Nat.pow_le_pow_right (by decide) (by omega)
    _ = 8 ^ (n.log2 / 3 + 1) := hEight
    _ ≤ tenTo (n.log2 / 3 + 1) := Nat.pow_le_pow_left (by decide) _

/-- A decimal beyond the exponents that are computed lies beyond the range. -/
theorem bound_le_of_large (hSome : digits ≠ 0) (h : 400 < exponent) :
    bound ≤ roundQuanta (decimalNum digits exponent) (decimalDen exponent) := by
  obtain ⟨more, hMore⟩ := Nat.exists_eq_add_of_le (show 400 ≤ exponent.toNat by omega)
  have hLarge : wholeBound ≤ digits * tenTo exponent.toNat := by
    have hLeast : wholeBound ≤ tenTo 400 := by decide +kernel
    rw [hMore, tenTo_add]
    calc wholeBound ≤ tenTo 400 := hLeast
      _ ≤ tenTo 400 * tenTo more := Nat.le_mul_of_pos_right _ (tenTo_pos more)
      _ ≤ digits * (tenTo 400 * tenTo more) :=
        Nat.le_mul_of_pos_left _ (Nat.pos_of_ne_zero hSome)
  rw [decimalDen_of_nonneg (by omega), decimalNum]
  exact Nat.le_of_not_lt fun hLess =>
    absurd ((roundQuanta_lt_bound_iff _).1 hLess) (Nat.not_lt.2 hLarge)

/-- A decimal far below the exponents that are computed is rounded to zero. -/
theorem roundQuanta_of_small_exponent
    (h : exponent + ((digits.log2 / 3 + 1 : Nat) : Int) < -400) :
    roundQuanta (decimalNum digits exponent) (decimalDen exponent) = 0 := by
  obtain ⟨more, hMore⟩ :=
    Nat.exists_eq_add_of_le (show digits.log2 / 3 + 1 + 400 ≤ (-exponent).toNat by omega)
  have hOne : 2 * one < tenTo 400 := by decide +kernel
  apply roundQuanta_of_small
  rw [decimalNum_of_nonpos (by omega), decimalDen, hMore, tenTo_add, tenTo_add]
  calc 2 * (digits * one) = digits * (2 * one) := Nat.mul_left_comm ..
    _ ≤ tenTo (digits.log2 / 3 + 1) * (2 * one) :=
      Nat.mul_le_mul_right _ (Nat.le_of_lt (lt_tenTo_size digits))
    _ < tenTo (digits.log2 / 3 + 1) * tenTo 400 := Nat.mul_lt_mul_of_pos_left hOne (tenTo_pos _)
    _ ≤ _ := Nat.le_mul_of_pos_right _ (tenTo_pos more)

/-- The exponents that are not computed make no difference. -/
theorem ofDecimal_eq (negative : Bool) (digits : Nat) (exponent : Int) :
    ofDecimal negative digits exponent =
      ofQuotient negative (decimalNum digits exponent) (decimalDen exponent) := by
  unfold ofDecimal
  dsimp only
  split
  · rename_i hNone
    rw [hNone, decimalNum, Nat.zero_mul, Nat.zero_mul, ofQuotient_eq_finite]
    exact roundQuanta_of_small (by simpa using decimalDen_pos exponent)
  · rename_i hSome
    split
    · rename_i hLarge
      rw [ofQuotient_eq_infinite negative (bound_le_of_large hSome hLarge)]
    · split
      · rename_i hSmall
        rw [ofQuotient_eq_finite]
        exact roundQuanta_of_small_exponent (by omega)
      · split
        · rename_i hPositive
          rw [decimalDen_of_nonneg hPositive, decimalNum]
        · rename_i hNegative
          rw [decimalNum_of_nonpos (by omega), decimalDen]

/-- Equal quotients are rounded to the same quanta. -/
theorem roundQuanta_congr {num' den' : Nat} (hDen : 0 < den) (hDen' : 0 < den')
    (h : num * den' = num' * den) : roundQuanta num den = roundQuanta num' den' := by
  rw [← roundQuanta_mul_mul hDen' num den, ← roundQuanta_mul_mul hDen num' den',
    Nat.mul_comm den' num, h, Nat.mul_comm num' den, Nat.mul_comm den' den]

/-- Zeros behind the digits make no difference. -/
theorem ofDecimal_mul_tenTo (negative : Bool) (digits zeros : Nat) (exponent : Int) :
    ofDecimal negative (digits * tenTo zeros) (exponent - zeros) =
      ofDecimal negative digits exponent := by
  have hExponents : tenTo zeros * tenTo (exponent - zeros).toNat * tenTo (-exponent).toNat =
      tenTo exponent.toNat * tenTo (-(exponent - zeros)).toNat := by
    rw [← tenTo_add, ← tenTo_add, ← tenTo_add]
    congr 1
    omega
  have hSame : decimalNum (digits * tenTo zeros) (exponent - zeros) * decimalDen exponent =
      decimalNum digits exponent * decimalDen (exponent - zeros) := by
    unfold decimalNum decimalDen
    calc digits * tenTo zeros * tenTo (exponent - zeros).toNat * one * tenTo (-exponent).toNat
      _ = digits * one *
          (tenTo zeros * tenTo (exponent - zeros).toNat * tenTo (-exponent).toNat) := by ring
      _ = digits * tenTo exponent.toNat * one * tenTo (-(exponent - zeros)).toNat := by
        rw [hExponents]
        ring
  rw [ofDecimal_eq, ofDecimal_eq]
  unfold ofQuotient
  simp only [roundQuanta_congr (decimalDen_pos _) (decimalDen_pos _) hSame]

/-! ### The digits that are left off -/

theorem lt_mul_twoTo_surplus (quanta : Nat) : quanta < 2 ^ 53 * twoTo (surplus quanta) :=
  (Nat.div_lt_iff_lt_mul (twoTo_pos _)).1 (div_twoTo_surplus_lt quanta)

theorem mul_twoTo_surplus_le (h : surplus quanta ≠ 0) :
    2 ^ 52 * twoTo (surplus quanta) ≤ quanta := by
  have hLog : quanta.log2 = 52 + surplus quanta := by
    unfold surplus at h ⊢
    omega
  have hSome : quanta ≠ 0 := by
    rintro rfl
    exact h (by decide)
  have hPower : 2 ^ 52 * twoTo (surplus quanta) = 2 ^ quanta.log2 := by
    rw [hLog, Nat.pow_add]
    rfl
  rw [hPower]
  exact Nat.log2_self_le hSome

/-- The digits beyond the leading 53 are counted by the powers of two between which a number
lies. -/
theorem surplus_eq {n extra : Nat} (hLess : n < 2 ^ 53 * twoTo extra)
    (hMore : extra = 0 ∨ 2 ^ 52 * twoTo extra ≤ n) : surplus n = extra := by
  unfold twoTo at hLess hMore
  change n < 2 ^ 53 * 2 ^ extra at hLess
  rw [← Nat.pow_add] at hLess
  by_cases hSome : n = 0
  · subst hSome
    have hNone : extra = 0 := hMore.resolve_right (by simp)
    rw [hNone]
    decide
  · have hTop := (Nat.log2_lt hSome).2 hLess
    unfold surplus
    rcases hMore with rfl | hMore
    · omega
    · change 2 ^ 52 * 2 ^ extra ≤ n at hMore
      rw [← Nat.pow_add] at hMore
      have hBottom := (Nat.le_log2 hSome).2 hMore
      omega

/-- Quanta that fit are so many steps. -/
theorem Fits.exists_eq_mul (h : Fits quanta) :
    ∃ steps, quanta = steps * twoTo (surplus quanta) := by
  obtain ⟨leading, exponent, hLeading, hSame⟩ := h
  by_cases hSome : quanta = 0
  · exact ⟨0, by rw [hSome, Nat.zero_mul]⟩
  · have hLess : quanta < 2 ^ (53 + exponent) := by
      rw [hSame, Nat.pow_add]
      exact Nat.mul_lt_mul_of_pos_right hLeading (Nat.pow_pos (by decide))
    have hLog := (Nat.log2_lt hSome).2 hLess
    obtain ⟨more, hMore⟩ :=
      Nat.exists_eq_add_of_le' (show surplus quanta ≤ exponent by unfold surplus; omega)
    refine ⟨leading * twoTo more, ?_⟩
    rw [Nat.mul_assoc, ← twoTo_add, ← hMore]
    exact hSame

/-! ### What lies within half a step -/

/-- The distance of the next quanta below, doubled. Below a power of two the numbers that fit lie
twice as close. -/
def gapBelow (quanta : Nat) : Nat :=
  if quanta = twoTo quanta.log2 ∧ surplus quanta ≠ 0 then twoTo (surplus quanta)
  else 2 * twoTo (surplus quanta)

/-- A quotient lies within half a step of the quanta on either side, or at the end of a half step if
the significand is even. -/
structure Within (quanta num den : Nat) : Prop where
  low : 4 * (quanta * den) ≤ 4 * num + gapBelow quanta * den
  high : 2 * num ≤ 2 * (quanta * den) + twoTo (surplus quanta) * den
  inside : quanta / twoTo (surplus quanta) % 2 = 0 ∨
    4 * (quanta * den) < 4 * num + gapBelow quanta * den ∧
      2 * num < 2 * (quanta * den) + twoTo (surplus quanta) * den

theorem twoTo_surplus_le (hPos : 0 < quanta) : twoTo (surplus quanta) ≤ quanta := by
  by_cases hNone : surplus quanta = 0
  · rw [hNone]
    exact hPos
  · exact (Nat.le_mul_of_pos_left _ (by decide)).trans (mul_twoTo_surplus_le hNone)

theorem gapBelow_le (quanta : Nat) : gapBelow quanta ≤ 2 * twoTo (surplus quanta) := by
  unfold gapBelow
  split <;> omega

/-- Four times a decimal, as a quotient. -/
theorem four_mul_decimal (digits : Nat) (exponent : Int) :
    (if 0 ≤ exponent then (4 * digits * tenTo exponent.natAbs * one, 1)
      else (4 * digits * one, tenTo exponent.natAbs)) =
        (4 * decimalNum digits exponent, decimalDen exponent) := by
  split
  · rename_i hPositive
    rw [decimalDen_of_nonneg hPositive, decimalNum,
      show exponent.toNat = exponent.natAbs by omega]
    simp only [Nat.mul_assoc]
  · rename_i hNegative
    rw [decimalNum_of_nonpos (by omega), decimalDen,
      show (-exponent).toNat = exponent.natAbs by omega, Nat.mul_assoc]

/-- What reads back lies between two bounds. They read back if the significand is even. -/
theorem readsBack_iff_between :
    readsBack quanta digits exponent = true ↔
      if quanta / twoTo (surplus quanta) % 2 = 0 then
        (4 * quanta - gapBelow quanta) * decimalDen exponent ≤ 4 * decimalNum digits exponent ∧
          4 * decimalNum digits exponent ≤
            (4 * quanta + 2 * twoTo (surplus quanta)) * decimalDen exponent
      else
        (4 * quanta - gapBelow quanta) * decimalDen exponent < 4 * decimalNum digits exponent ∧
          4 * decimalNum digits exponent <
            (4 * quanta + 2 * twoTo (surplus quanta)) * decimalDen exponent := by
  unfold readsBack gapBelow
  dsimp only
  rw [four_mul_decimal]
  dsimp only
  split <;> simp only [Bool.and_eq_true, decide_eq_true_eq]

/-- What reads back lies within half a step. -/
theorem readsBack_iff (hPos : 0 < quanta) :
    readsBack quanta digits exponent = true ↔
      Within quanta (decimalNum digits exponent) (decimalDen exponent) := by
  have hGap : gapBelow quanta ≤ 4 * quanta := by
    have := gapBelow_le quanta
    have := twoTo_surplus_le hPos
    omega
  have hLow : (4 * quanta - gapBelow quanta) * decimalDen exponent +
      gapBelow quanta * decimalDen exponent = 4 * (quanta * decimalDen exponent) := by
    rw [← Nat.add_mul, Nat.sub_add_cancel hGap, Nat.mul_assoc]
  have hHigh : (4 * quanta + 2 * twoTo (surplus quanta)) * decimalDen exponent =
      4 * (quanta * decimalDen exponent) +
        2 * (twoTo (surplus quanta) * decimalDen exponent) := by
    rw [Nat.add_mul, Nat.mul_assoc, Nat.mul_assoc]
  rw [readsBack_iff_between]
  split
  · rename_i hEven
    exact ⟨fun h => ⟨by omega, by omega, .inl hEven⟩,
      fun ⟨hLess, hMore, _⟩ => ⟨by omega, by omega⟩⟩
  · rename_i hOdd
    refine ⟨fun h => ⟨by omega, by omega, .inr ⟨by omega, by omega⟩⟩, fun h => ?_⟩
    have hInside := h.inside.resolve_left hOdd
    omega

/-- The nearest whole number is told by the halves on either side of it. -/
theorem nearest_eq {n : Nat} (hLow : 2 * (n * den) ≤ 2 * num + den)
    (hHigh : 2 * num ≤ 2 * (n * den) + den)
    (hInside : n % 2 = 0 ∨ 2 * (n * den) < 2 * num + den ∧ 2 * num < 2 * (n * den) + den)
    (hDen : 0 < den) : nearest num den = n := by
  have hNum := Nat.div_add_mod' num den
  have hRest := Nat.mod_lt num hDen
  have hSide : n < num / den ∨ n = num / den ∨ n = num / den + 1 ∨ num / den + 1 < n := by omega
  unfold nearest
  dsimp only
  generalize num / den = quotient at *
  generalize num % den = rest at *
  rcases hSide with hLess | rfl | rfl | hMore
  · have := Nat.mul_le_mul_right den (Nat.succ_le_of_lt hLess)
    rw [Nat.succ_mul] at this
    omega
  · split
    · rfl
    · split <;> omega
  · have hNext : (quotient + 1) * den = quotient * den + den := Nat.succ_mul ..
    split
    · omega
    · split <;> omega
  · have := Nat.mul_le_mul_right den (Nat.succ_le_of_lt hMore)
    rw [Nat.succ_mul, Nat.succ_mul] at this
    omega

/-- Which quanta a quotient is rounded to, if the digits that are left off are known. -/
theorem roundQuanta_of_surplus {extra steps : Nat} (hDen : 0 < den)
    (hSurplus : surplus (num / den) = extra)
    (hLow : 2 * (steps * (twoTo extra * den)) ≤ 2 * num + twoTo extra * den)
    (hHigh : 2 * num ≤ 2 * (steps * (twoTo extra * den)) + twoTo extra * den)
    (hInside : steps % 2 = 0 ∨
      2 * (steps * (twoTo extra * den)) < 2 * num + twoTo extra * den ∧
        2 * num < 2 * (steps * (twoTo extra * den)) + twoTo extra * den) :
    roundQuanta num den = steps * twoTo extra := by
  unfold roundQuanta
  dsimp only
  rw [hSurplus, Nat.mul_comm den,
    nearest_eq hLow hHigh hInside (Nat.mul_pos (twoTo_pos extra) hDen)]

namespace Within

variable {steps : Nat}

theorem mul_eq (hSteps : quanta = steps * twoTo (surplus quanta)) (den : Nat) :
    quanta * den = steps * (twoTo (surplus quanta) * den) := by
  rw [← Nat.mul_assoc, ← hSteps]

/-- The quotient has no more binary digits than the quanta. -/
theorem lt (h : Within quanta num den) (hSteps : quanta = steps * twoTo (surplus quanta))
    (hDen : 0 < den) : num < 2 ^ 53 * twoTo (surplus quanta) * den := by
  have hMost : steps * twoTo (surplus quanta) < 2 ^ 53 * twoTo (surplus quanta) :=
    hSteps ▸ lt_mul_twoTo_surplus quanta
  have hUnit : 0 < twoTo (surplus quanta) * den := Nat.mul_pos (twoTo_pos _) hDen
  have hNext := Nat.mul_le_mul_right (twoTo (surplus quanta) * den)
    (Nat.succ_le_of_lt (Nat.lt_of_mul_lt_mul_right hMost))
  have hHigh := h.high
  rw [mul_eq hSteps] at hHigh
  rw [Nat.succ_mul] at hNext
  rw [Nat.mul_assoc]
  omega

/-- Where the quotient has as many binary digits as the quanta, or no more than 53. -/
theorem roundQuanta_eq_of_le (h : Within quanta num den) (hDen : 0 < den)
    (hSteps : quanta = steps * twoTo (surplus quanta))
    (hMore : surplus quanta = 0 ∨ 2 ^ 52 * twoTo (surplus quanta) * den ≤ num) :
    roundQuanta num den = quanta := by
  have hSurplus : surplus (num / den) = surplus quanta :=
    surplus_eq ((Nat.div_lt_iff_lt_mul hDen).2 (h.lt hSteps hDen))
      (hMore.imp_right (Nat.le_div_iff_mul_le hDen).2)
  obtain ⟨hLow, hHigh, hInside⟩ := h
  have hGap : gapBelow quanta * den ≤ 2 * (twoTo (surplus quanta) * den) := by
    rw [← Nat.mul_assoc]
    exact Nat.mul_le_mul_right den (gapBelow_le quanta)
  have hWhole : quanta / twoTo (surplus quanta) = steps :=
    Nat.div_eq_of_eq_mul_left (twoTo_pos _) hSteps
  rw [hWhole] at hInside
  rw [mul_eq hSteps] at hLow hHigh hInside
  have hRound : roundQuanta num den = steps * twoTo (surplus quanta) :=
    roundQuanta_of_surplus hDen hSurplus (by omega) (by omega) (by omega)
  rw [hRound, ← hSteps]

/-- Where the quotient lies below all numbers with as many binary digits, the quanta are the least
of them. -/
theorem steps_eq_of_lt (h : Within quanta num den) (hDen : 0 < den)
    (hSteps : quanta = steps * twoTo (surplus quanta)) (hSome : surplus quanta ≠ 0)
    (hLess : num < 2 ^ 52 * twoTo (surplus quanta) * den) : steps = 2 ^ 52 := by
  have hLeast : 2 ^ 52 * twoTo (surplus quanta) ≤ steps * twoTo (surplus quanta) :=
    hSteps ▸ mul_twoTo_surplus_le hSome
  have hUnit : 0 < twoTo (surplus quanta) * den := Nat.mul_pos (twoTo_pos _) hDen
  refine Nat.le_antisymm (Nat.le_of_not_lt fun hMore => ?_)
    (Nat.le_of_mul_le_mul_right hLeast (twoTo_pos _))
  have hNext := Nat.mul_le_mul_right (twoTo (surplus quanta) * den) (Nat.succ_le_of_lt hMore)
  have hGap : gapBelow quanta * den ≤ 2 * (twoTo (surplus quanta) * den) := by
    rw [← Nat.mul_assoc]
    exact Nat.mul_le_mul_right den (gapBelow_le quanta)
  have hLow := h.low
  rw [mul_eq hSteps] at hLow
  rw [Nat.succ_mul] at hNext
  rw [Nat.mul_assoc] at hLess
  omega

/-- Below a power of two the numbers that fit lie twice as close. -/
theorem gapBelow_of_steps (hSteps : quanta = 2 ^ 52 * twoTo (surplus quanta))
    (hSome : surplus quanta ≠ 0) : gapBelow quanta = twoTo (surplus quanta) := by
  have hLog : quanta.log2 = 52 + surplus quanta := by
    unfold surplus at hSome ⊢
    omega
  have hPower : quanta = twoTo quanta.log2 := by
    rw [hLog, twoTo_add]
    exact hSteps
  exact if_pos ⟨hPower, hSome⟩

/-- Where the quotient has fewer binary digits than the quanta. -/
theorem roundQuanta_eq_of_lt (h : Within quanta num den) (hDen : 0 < den)
    (hSteps : quanta = steps * twoTo (surplus quanta)) (hSome : surplus quanta ≠ 0)
    (hLess : num < 2 ^ 52 * twoTo (surplus quanta) * den) : roundQuanta num den = quanta := by
  have hLeast := h.steps_eq_of_lt hDen hSteps hSome hLess
  subst hLeast
  have hLow := h.low
  rw [gapBelow_of_steps hSteps hSome, mul_eq hSteps] at hLow
  obtain ⟨extra, hExtra⟩ := Nat.exists_eq_succ_of_ne_zero hSome
  have hUnit : twoTo (surplus quanta) * den = 2 * (twoTo extra * den) := by
    rw [hExtra, Nat.succ_eq_add_one, twoTo_succ, Nat.mul_comm _ 2, Nat.mul_assoc]
  rw [Nat.mul_assoc, hUnit] at hLess
  rw [hUnit] at hLow
  have hSurplus : surplus (num / den) = extra := by
    refine surplus_eq ((Nat.div_lt_iff_lt_mul hDen).2 ?_)
      (.inr ((Nat.le_div_iff_mul_le hDen).2 ?_)) <;>
    · rw [Nat.mul_assoc]
      omega
  have hRound : roundQuanta num den = 2 ^ 53 * twoTo extra :=
    roundQuanta_of_surplus hDen hSurplus (by omega) (by omega) (.inl (by decide))
  rw [hRound, hSteps, hExtra, Nat.succ_eq_add_one, twoTo_succ]
  omega

/-- What lies within half a step of quanta that fit is rounded to them. -/
theorem roundQuanta_eq (h : Within quanta num den) (hFits : Fits quanta) (hDen : 0 < den) :
    roundQuanta num den = quanta := by
  obtain ⟨steps, hSteps⟩ := hFits.exists_eq_mul
  by_cases hNone : surplus quanta = 0
  · exact h.roundQuanta_eq_of_le hDen hSteps (.inl hNone)
  · rcases Nat.lt_or_ge num (2 ^ 52 * twoTo (surplus quanta) * den) with hLess | hMore
    · exact h.roundQuanta_eq_of_lt hDen hSteps hNone hLess
    · exact h.roundQuanta_eq_of_le hDen hSteps (.inr hMore)

end Within

/-- What reads back as the quanta is rounded to them. -/
theorem ofDecimal_of_readsBack (negative : Bool) {quanta : Quanta} (hPos : 0 < quanta.count)
    (h : readsBack quanta.count digits exponent = true) :
    ofDecimal negative digits exponent = finite negative quanta := by
  rw [ofDecimal_eq, ofQuotient_eq_finite]
  exact ((readsBack_iff hPos).1 h).roundQuanta_eq quanta.fits (decimalDen_pos exponent)

/-! ### Seventeen digits are enough -/

theorem digitCount_eq (n : Nat) : digitCount n = (Nat.toDigits 10 n).length := by
  rw [digitCount, Nat.toString_eq_repr, ← String.length_toList, Nat.toList_repr]

theorem digitCount_pos (n : Nat) : 0 < digitCount n := by
  rw [digitCount_eq]
  exact Nat.length_toDigits_pos

theorem tenTo_le_of_digitCount {n : Nat} (hSome : n ≠ 0) : tenTo (digitCount n - 1) ≤ n := by
  rw [digitCount_eq]
  rcases Nat.eq_zero_or_pos ((Nat.toDigits 10 n).length - 1) with hOne | hMore
  · rw [hOne]
    exact Nat.pos_of_ne_zero hSome
  · refine Nat.le_of_not_lt fun hLess => ?_
    have := (Nat.length_toDigits_le_iff (by decide) hMore).2 hLess
    omega

/-- The power of ten at the first digit of a number of quanta is no greater than they. -/
theorem tenTo_mul_one_le (hPos : 0 < quanta) :
    tenTo (decimalExponent quanta + 399).toNat * one ≤ quanta * tenTo 400 := by
  have hSome : quanta * tenTo 400 / one ≠ 0 := by
    have hOne : one ≤ tenTo 400 := by decide +kernel
    have hReached : one ≤ quanta * tenTo 400 := hOne.trans (Nat.le_mul_of_pos_left _ hPos)
    exact (Nat.div_pos hReached one_pos).ne'
  have hPlace : (decimalExponent quanta + 399).toNat =
      digitCount (quanta * tenTo 400 / one) - 1 := by
    unfold decimalExponent
    omega
  rw [hPlace]
  exact (Nat.le_div_iff_mul_le one_pos).1 (tenTo_le_of_digitCount hSome)

/-- A unit at the last of seventeen digits is sixteen places below the first one. -/
theorem seventeenth_le (hPos : 0 < quanta) (hPlace : exponent = decimalExponent quanta - 17) :
    tenTo 16 * (one * tenTo exponent.toNat) ≤ quanta * tenTo (-exponent).toNat := by
  have hLeast : 0 ≤ decimalExponent quanta + 399 := by
    have := digitCount_pos (quanta * tenTo 400 / one)
    unfold decimalExponent
    omega
  have hExponents : tenTo 400 * (tenTo 16 * tenTo exponent.toNat) =
      tenTo (decimalExponent quanta + 399).toNat * tenTo (-exponent).toNat := by
    rw [← tenTo_add, ← tenTo_add, ← tenTo_add]
    congr 1
    omega
  refine Nat.le_of_mul_le_mul_left ?_ (tenTo_pos 400)
  calc tenTo 400 * (tenTo 16 * (one * tenTo exponent.toNat))
    _ = tenTo 400 * (tenTo 16 * tenTo exponent.toNat) * one := by ring
    _ = tenTo (decimalExponent quanta + 399).toNat * one * tenTo (-exponent).toNat := by
      rw [hExponents]
      ring
    _ ≤ quanta * tenTo 400 * tenTo (-exponent).toNat :=
      Nat.mul_le_mul_right _ (tenTo_mul_one_le hPos)
    _ = tenTo 400 * (quanta * tenTo (-exponent).toNat) := by ring

/-- The nearer neighbour is the nearest whole number. -/
theorem neighbours_fst (quanta : Nat) (exponent : Int) :
    (neighbours quanta exponent).1 =
      nearest (quanta * tenTo (-exponent).toNat) (one * tenTo exponent.toNat) := by
  have hQuotient : (if 0 ≤ exponent then (quanta, one * tenTo exponent.natAbs)
      else (quanta * tenTo exponent.natAbs, one)) =
        (quanta * tenTo (-exponent).toNat, one * tenTo exponent.toNat) := by
    split
    · rw [show (-exponent).toNat = 0 by omega, show exponent.toNat = exponent.natAbs by omega,
        tenTo_zero, Nat.mul_one]
    · rw [show exponent.toNat = 0 by omega, show (-exponent).toNat = exponent.natAbs by omega,
        tenTo_zero, Nat.mul_one]
  unfold neighbours
  dsimp only
  rw [hQuotient]
  dsimp only
  split
  · rename_i hLow
    exact hLow.symm
  · rename_i hOther
    exact ((nearest_cases _ _).resolve_left fun h => hOther h.1).1.symm

/-- The nearest whole number lies within half of one. -/
theorem nearest_bounds (hDen : 0 < den) (num : Nat) :
    2 * (nearest num den * den) ≤ 2 * num + den ∧ 2 * num ≤ 2 * (nearest num den * den) + den := by
  have hNum := Nat.div_add_mod' num den
  rcases nearest_cases num den with ⟨hNearest, hHalf⟩ | ⟨hNearest, hHalf⟩
  · rw [hNearest]
    omega
  · have hRest := Nat.mod_lt num hDen
    have hNext : (num / den + 1) * den = num / den * den + den := Nat.succ_mul ..
    rw [hNearest]
    omega

/-- The nearer neighbour lies within half a step if the units that are counted are small enough. -/
theorem within_neighbours
    (h : 2 * (one * tenTo exponent.toNat) < gapBelow quanta * decimalDen exponent) :
    Within quanta (decimalNum (neighbours quanta exponent).1 exponent) (decimalDen exponent) := by
  have hGap : gapBelow quanta * decimalDen exponent ≤
      2 * (twoTo (surplus quanta) * decimalDen exponent) := by
    rw [← Nat.mul_assoc]
    exact Nat.mul_le_mul_right _ (gapBelow_le quanta)
  have hNum (n : Nat) : decimalNum n exponent = n * (one * tenTo exponent.toNat) := by
    rw [decimalNum, Nat.mul_assoc, Nat.mul_comm one]
  obtain ⟨hLow, hHigh⟩ := nearest_bounds (Nat.mul_pos one_pos (tenTo_pos exponent.toNat))
    (quanta * decimalDen exponent)
  rw [hNum, neighbours_fst]
  change 2 * (_ * _) ≤ _ at hLow
  unfold decimalDen at *
  exact ⟨by omega, by omega, .inr ⟨by omega, by omega⟩⟩

/-- A unit at the last of seventeen digits is small enough. -/
theorem seventeenth_lt (hPos : 0 < quanta) (hPlace : exponent = decimalExponent quanta - 17) :
    2 * (one * tenTo exponent.toNat) < gapBelow quanta * decimalDen exponent := by
  have hUnit : tenTo 16 * (one * tenTo exponent.toNat) ≤ quanta * decimalDen exponent :=
    seventeenth_le hPos hPlace
  have hDen := decimalDen_pos exponent
  have hStep : 0 < twoTo (surplus quanta) * decimalDen exponent := Nat.mul_pos (twoTo_pos _) hDen
  have hTen : tenTo 16 = 10 ^ 16 := rfl
  rw [hTen] at hUnit
  by_cases hPower : quanta = twoTo quanta.log2 ∧ surplus quanta ≠ 0
  · have hLog : quanta.log2 = 52 + surplus quanta := by
      have := hPower.2
      unfold surplus at this ⊢
      omega
    have hQuanta : quanta * decimalDen exponent =
        2 ^ 52 * (twoTo (surplus quanta) * decimalDen exponent) := by
      rw [← Nat.mul_assoc]
      congr 1
      refine hPower.1.trans ?_
      rw [hLog, twoTo_add]
      rfl
    rw [gapBelow, if_pos hPower]
    omega
  · have hQuanta : quanta * decimalDen exponent <
        2 ^ 53 * (twoTo (surplus quanta) * decimalDen exponent) := by
      rw [← Nat.mul_assoc]
      exact Nat.mul_lt_mul_of_pos_right (lt_mul_twoTo_surplus quanta) hDen
    rw [gapBelow, if_neg hPower, Nat.mul_assoc]
    omega

theorem readsBack_seventeen (hPos : 0 < quanta) (hPlace : exponent = decimalExponent quanta - 17) :
    readsBack quanta (neighbours quanta exponent).1 exponent = true :=
  (readsBack_iff hPos).2 (within_neighbours (seventeenth_lt hPos hPlace))

/-- The decimal that is found reads back if the last one that is tried does. -/
theorem readsBack_of_shortestFrom {first : Int} {fuel : Nat}
    (hLast : readsBack quanta (neighbours quanta (first - 17)).1 (first - 17) = true)
    (h : shortestFrom quanta first fuel = (digits, exponent)) :
    readsBack quanta digits exponent = true := by
  induction fuel with
  | zero =>
    obtain ⟨rfl, rfl⟩ := Prod.mk.inj h
    exact hLast
  | succ fuel ih =>
    rw [shortestFrom] at h
    dsimp only at h
    split at h
    · rename_i hNear
      obtain ⟨rfl, rfl⟩ := Prod.mk.inj h
      exact hNear
    · split at h
      · rename_i hFar
        obtain ⟨rfl, rfl⟩ := Prod.mk.inj h
        exact hFar
      · exact ih h

/-- The shortest decimal of a number is read as the number. -/
theorem ofDecimal_shortest (negative : Bool) {quanta : Quanta} (hPos : 0 < quanta.count)
    (h : shortest quanta.count = (digits, exponent)) :
    ofDecimal negative digits exponent = finite negative quanta :=
  ofDecimal_of_readsBack negative hPos
    (readsBack_of_shortestFrom (readsBack_seventeen hPos rfl) h)

end Stencil.Binary64
