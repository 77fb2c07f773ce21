import Mathlib.Data.Nat.Dist
import Stencil.Number.Binary64

/-!
Rounding. A quotient is rounded to quanta that fit into 53 significant bits, and none of those that
fit lies nearer to it. What is no greater than a power of two within the range is rounded to a
finite number. A whole number is rounded to a whole number, or beyond the range if it is too great.
-/

namespace Stencil.Binary64

/-- The quanta fit, and none that do lie nearer to the quotient. -/
structure IsNearest (num den quanta : Nat) : Prop where
  fits : Fits quanta
  le : ∀ other, Fits other → (quanta * den).dist num ≤ (other * den).dist num

theorem nearest_mul {den : Nat} (hDen : 0 < den) (n : Nat) : nearest (n * den) den = n := by
  unfold nearest
  dsimp only
  rw [Nat.mul_mod_left, if_pos (by omega), Nat.mul_div_cancel n hDen]

/-- No whole number lies nearer to a quotient than the nearest one. -/
theorem dist_nearest_le {den : Nat} (hDen : 0 < den) (num other : Nat) :
    (nearest num den * den).dist num ≤ (other * den).dist num := by
  have hNum := Nat.div_add_mod' num den
  have hRest := Nat.mod_lt num hDen
  -- Multiples of `den` on either side of `num` are at least so far away as the next one there.
  have hSide : other * den ≤ num / den * den ∨ num / den * den + den ≤ other * den := by
    rcases Nat.lt_or_ge (num / den) other with hMore | hLess
    · exact .inr (by simpa [Nat.succ_mul] using Nat.mul_le_mul_right den (Nat.succ_le_of_lt hMore))
    · exact .inl (Nat.mul_le_mul_right den hLess)
  unfold Nat.dist
  rcases nearest_cases num den with ⟨hNearest, hHalf⟩ | ⟨hNearest, hHalf⟩
  · rw [hNearest]
    omega
  · rw [hNearest, Nat.succ_mul]
    omega

theorem roundQuanta_isNearest {den : Nat} (hDen : 0 < den) (num : Nat) :
    IsNearest num den (roundQuanta num den) := by
  refine ⟨fits_roundQuanta num den, ?_⟩
  let step := twoTo (surplus (num / den))
  have hStep : 0 < step := twoTo_pos _
  have hMultiple (times : Nat) :
      (roundQuanta num den * den).dist num ≤ (times * step * den).dist num := by
    have hNear := dist_nearest_le (Nat.mul_pos hDen hStep) num times
    rwa [Nat.mul_comm den step, ← Nat.mul_assoc, ← Nat.mul_assoc, Nat.mul_comm step den] at hNear
  rintro other ⟨digits, exponent, hDigits, rfl⟩
  rcases Nat.lt_or_ge exponent (surplus (num / den)) with hLess | hMore
  · -- What may be no multiple of the step lies below the leading power of two, which is one.
    have hLog : (num / den).log2 = 52 + surplus (num / den) := by
      unfold surplus at hLess ⊢
      omega
    have hTop : twoTo (num / den).log2 = twoTo 52 * step := by rw [hLog, twoTo_add]
    have hBelow : digits * twoTo exponent ≤ twoTo 52 * step := by
      rw [← hTop]
      refine (Nat.mul_le_mul_right _ hDigits.le).trans ?_
      rw [← twoTo_add]
      exact Nat.pow_le_pow_right (by decide) (by omega)
    have hSome : num / den ≠ 0 := by
      intro hZero
      rw [hZero] at hLess
      exact absurd hLess (Nat.not_lt_zero _)
    have hLeast : twoTo (num / den).log2 ≤ num / den := Nat.log2_self_le hSome
    have hReached : twoTo 52 * step * den ≤ num :=
      (Nat.le_div_iff_mul_le hDen).1 (hTop ▸ hLeast)
    refine (hMultiple (twoTo 52)).trans ?_
    have hOrder := Nat.mul_le_mul_right den hBelow
    rw [Nat.dist_eq_sub_of_le hReached, Nat.dist_eq_sub_of_le (hOrder.trans hReached)]
    exact Nat.sub_le_sub_left hOrder num
  · obtain ⟨more, rfl⟩ := Nat.exists_eq_add_of_le' hMore
    rw [twoTo_add, ← Nat.mul_assoc]
    exact hMultiple _

/-- What fits and is not below the quotient is not below what it is rounded to. -/
theorem IsNearest.le_of_le {num den quanta most : Nat} (h : IsNearest num den quanta)
    (hDen : 0 < den) (hFits : Fits most) (hMost : num ≤ most * den) : quanta ≤ most := by
  by_contra hMore
  have hFar := Nat.mul_lt_mul_of_pos_right (Nat.lt_of_not_le hMore) hDen
  have hNear := h.le most hFits
  rw [Nat.dist_eq_sub_of_le_right hMost, Nat.dist_eq_sub_of_le_right (hMost.trans hFar.le)] at hNear
  omega

/-- A quotient becomes the finite number with the quanta that it is rounded to. -/
theorem ofQuotient_eq_finite {num den : Nat} (negative : Bool) {quanta : Quanta}
    (h : roundQuanta num den = quanta.count) :
    ofQuotient negative num den = finite negative quanta := by
  have hRange : roundQuanta num den < bound := h ▸ quanta.lt_bound
  unfold ofQuotient
  dsimp only
  rw [dif_pos hRange]
  exact congrArg (finite negative) (Quanta.ext h)

theorem ofQuotient_eq_infinite {num den : Nat} (negative : Bool)
    (h : bound ≤ roundQuanta num den) : ofQuotient negative num den = infinite negative := by
  unfold ofQuotient
  dsimp only
  rw [dif_neg (Nat.not_lt.2 h)]

/-- A quotient that is no greater than a power of two within the range is rounded to a finite
number. -/
theorem ofQuotient_of_le {num den exponent : Nat} (negative : Bool) (hDen : 0 < den)
    (hRange : exponent < 2098) (h : num ≤ twoTo exponent * den) :
    ∃ quanta, ofQuotient negative num den = finite negative quanta ∧
      quanta.count = roundQuanta num den := by
  have hMost : roundQuanta num den ≤ twoTo exponent :=
    (roundQuanta_isNearest hDen num).le_of_le hDen (fits_twoTo exponent) h
  have hFinite : roundQuanta num den < bound :=
    Nat.lt_of_le_of_lt hMost (twoTo_lt_twoTo hRange)
  exact ⟨⟨_, fits_roundQuanta num den, hFinite⟩, ofQuotient_eq_finite negative rfl, rfl⟩

/-- The quotient of two whole numbers is rounded to the nearest number that fits. -/
theorem ofIntQuotient?_of_le {a b : Nat} (hPos : 0 < b) (h : a ≤ twoTo 1023 * b) :
    ∃ quanta, ofIntQuotient? a b = some (finite false quanta) ∧
      IsNearest (a * one) b quanta.count := by
  have hMost : a * one ≤ twoTo (1023 + 1074) * b := by
    rw [twoTo_add, Nat.mul_right_comm]
    exact Nat.mul_le_mul_right one h
  obtain ⟨quanta, hRound, hCount⟩ :=
    ofQuotient_of_le false hPos (by decide : 1023 + 1074 < 2098) hMost
  have hSign : (decide ((a : Int) < 0) != decide ((b : Int) < 0)) = false := by
    rw [decide_eq_false (Int.not_lt.2 (Int.natCast_nonneg a)),
      decide_eq_false (Int.not_lt.2 (Int.natCast_nonneg b))]
    rfl
  refine ⟨quanta, ?_, hCount ▸ roundQuanta_isNearest hPos (a * one)⟩
  rw [ofIntQuotient?, hSign, Int.natAbs_natCast, Int.natAbs_natCast, hRound]
  rfl

/-! ### Signs -/

theorem signed_natAbs (n : Int) : signed (n < 0) n.natAbs = n := by
  unfold signed
  split
  · rename_i hNegative
    have := of_decide_eq_true hNegative
    omega
  · rename_i hPositive
    have := of_decide_eq_false (Bool.not_eq_true _ ▸ hPositive)
    omega

theorem natAbs_signed (negative : Bool) (m : Nat) : (signed negative m).natAbs = m := by
  unfold signed
  split <;> omega

/-! ### Whole numbers -/

/-- A greater quotient is not rounded to less. -/
theorem roundQuanta_mono {den num more : Nat} (hDen : 0 < den) (h : num ≤ more) :
    roundQuanta num den ≤ roundQuanta more den := by
  have hNum := roundQuanta_isNearest hDen num
  have hMore := roundQuanta_isNearest hDen more
  by_contra hLess
  -- Otherwise both quotients would lie in the middle, where they are one and the same.
  have hNear := hNum.le _ hMore.fits
  have hFar := hMore.le _ hNum.fits
  have hOrder := Nat.mul_lt_mul_of_pos_right (Nat.lt_of_not_le hLess) hDen
  unfold Nat.dist at hNear hFar
  have hSame : num = more := by omega
  exact hLess (hSame ▸ le_rfl)

/-- Nothing but the number itself is nearest to one that fits. -/
theorem IsNearest.eq_of_fits {n m : Nat} (h : IsNearest n 1 m) (hFits : Fits n) : m = n := by
  have hNear := h.le n hFits
  rw [Nat.mul_one, Nat.mul_one, Nat.dist_self] at hNear
  exact Nat.eq_of_dist_eq_zero (Nat.le_zero.1 hNear)

theorem roundQuanta_of_fits {quanta : Nat} (h : Fits quanta) : roundQuanta quanta 1 = quanta :=
  (roundQuanta_isNearest Nat.one_pos quanta).eq_of_fits h

theorem one_pos : 0 < one := twoTo_pos 1074

/-- A power of two adds no significant bits. -/
theorem fits_mul_twoTo {n exponent : Nat} : Fits (n * twoTo exponent) ↔ Fits n := by
  constructor
  · rintro ⟨digits, other, hDigits, hSame⟩
    rcases Nat.lt_or_ge other exponent with hLess | hMore
    · -- The number itself is no greater than the digits.
      have hSmall : n * twoTo exponent ≤ digits * twoTo exponent := by
        rw [hSame]
        exact Nat.mul_le_mul_left digits (Nat.pow_le_pow_right (by decide) hLess.le)
      exact fits_of_lt ((Nat.le_of_mul_le_mul_right hSmall (twoTo_pos exponent)).trans_lt hDigits)
    · obtain ⟨more, rfl⟩ := Nat.exists_eq_add_of_le' hMore
      rw [twoTo_add, ← Nat.mul_assoc] at hSame
      exact ⟨digits, more, hDigits, Nat.eq_of_mul_eq_mul_right (twoTo_pos exponent) hSame⟩
  · exact fun h => h.mul_twoTo exponent

theorem fits_mul_one {n : Nat} : Fits (n * one) ↔ Fits n := fits_mul_twoTo

theorem le_surplus_mul_twoTo {n : Nat} (h : 2 ^ 53 ≤ n) (exponent : Nat) :
    exponent ≤ surplus (n * twoTo exponent) := by
  have hSome : n * twoTo exponent ≠ 0 := (Nat.mul_pos (by omega) (twoTo_pos exponent)).ne'
  have hLog : 53 + exponent ≤ (n * twoTo exponent).log2 := by
    rw [Nat.le_log2 hSome, Nat.pow_add]
    exact Nat.mul_le_mul_right (twoTo exponent) h
  unfold surplus
  omega

/-- A whole number is rounded to a whole number, and that is the nearest one that fits. -/
theorem exists_roundQuanta_mul_one (n : Nat) :
    ∃ m, roundQuanta (n * one) 1 = m * one ∧ IsNearest n 1 m := by
  obtain ⟨m, hWhole⟩ : ∃ m, roundQuanta (n * one) 1 = m * one := by
    by_cases hFits : Fits n
    · exact ⟨n, roundQuanta_of_fits (fits_mul_one.2 hFits)⟩
    · -- The binary digits that are left off all stand behind the point.
      have hLarge : 2 ^ 53 ≤ n := Nat.le_of_not_lt fun h => hFits (fits_of_lt h)
      have hSurplus : 1074 ≤ surplus (n * one) := le_surplus_mul_twoTo hLarge 1074
      obtain ⟨more, hMore⟩ := Nat.exists_eq_add_of_le' hSurplus
      have hStep : twoTo (surplus (n * one)) = twoTo more * one := by
        rw [hMore, twoTo_add]
        rfl
      refine ⟨nearest (n * one) (1 * twoTo (surplus (n * one))) * twoTo more, ?_⟩
      unfold roundQuanta
      dsimp only
      rw [Nat.div_one, Nat.mul_assoc, ← hStep]
  refine ⟨m, hWhole, ?_⟩
  have hNear := roundQuanta_isNearest Nat.one_pos (n * one)
  rw [hWhole] at hNear
  refine ⟨fits_mul_one.1 hNear.fits, fun other hOther => ?_⟩
  have hLess := hNear.le (other * one) (fits_mul_one.2 hOther)
  rw [Nat.mul_one, Nat.mul_one, Nat.dist_mul_right, Nat.dist_mul_right] at hLess
  rw [Nat.mul_one, Nat.mul_one]
  exact Nat.le_of_mul_le_mul_right hLess one_pos

theorem IsNearest.ne_zero {n m : Nat} (h : IsNearest n 1 m) (hSome : n ≠ 0) : m ≠ 0 := by
  rintro rfl
  have hNear := h.le 1 (fits_of_lt (by decide))
  unfold Nat.dist at hNear
  omega

theorem bound_eq : bound = twoTo 1024 * one := by
  unfold bound one
  rw [← twoTo_add]

/-- The least whole number that is rounded to one beyond the range. -/
def wholeBound : Nat := twoTo 1024 - twoTo 970

theorem roundQuanta_lt_bound_iff (n : Nat) : roundQuanta (n * one) 1 < bound ↔ n < wholeBound := by
  have hMono {m n : Nat} (h : m ≤ n) : roundQuanta (m * one) 1 ≤ roundQuanta (n * one) 1 :=
    roundQuanta_mono Nat.one_pos (Nat.mul_le_mul_right one h)
  constructor
  · intro hRange
    by_contra hLarge
    have hBeyond : bound ≤ roundQuanta (wholeBound * one) 1 := by decide +kernel
    exact absurd (hBeyond.trans (hMono (Nat.le_of_not_lt hLarge))) (Nat.not_le.2 hRange)
  · intro hLess
    have hLast : roundQuanta ((wholeBound - 1) * one) 1 < bound := by decide +kernel
    exact (hMono (Nat.le_sub_one_of_lt hLess)).trans_lt hLast

/-- What fits and lies below the bound of the range is not rounded beyond it. -/
theorem Fits.lt_wholeBound {n : Nat} (h : Fits n) (hLess : n < twoTo 1024) : n < wholeBound := by
  rw [← roundQuanta_lt_bound_iff, roundQuanta_of_fits (fits_mul_one.2 h)]
  rw [bound_eq]
  exact Nat.mul_lt_mul_of_pos_right hLess one_pos

theorem ofInt?_of_lt {n : Int} (h : n.natAbs < wholeBound) :
    ∃ m quanta, IsNearest n.natAbs 1 m ∧ ofInt? n = some (finite (n < 0) quanta) ∧
      quanta.count = m * one := by
  obtain ⟨m, hRound, hNear⟩ := exists_roundQuanta_mul_one n.natAbs
  have hRange := (roundQuanta_lt_bound_iff n.natAbs).2 h
  let quanta : Quanta := ⟨_, fits_roundQuanta _ _, hRange⟩
  refine ⟨m, quanta, hNear, ?_, hRound⟩
  rw [ofInt?, @ofQuotient_eq_finite _ _ _ quanta rfl]
  rfl

theorem ofInt?_of_le {n : Int} (h : wholeBound ≤ n.natAbs) : ofInt? n = none := by
  rw [ofInt?, ofQuotient_eq_infinite _ (Nat.le_of_not_lt fun hLess =>
    absurd ((roundQuanta_lt_bound_iff _).1 hLess) (Nat.not_lt.2 h))]
  rfl

theorem ofInt?_eq_none_iff (n : Int) : ofInt? n = none ↔ wholeBound ≤ n.natAbs := by
  refine ⟨fun hNone => ?_, ofInt?_of_le⟩
  by_contra hLess
  obtain ⟨m, quanta, -, hFloat, -⟩ := ofInt?_of_lt (Nat.lt_of_not_le hLess)
  rw [hFloat] at hNone
  cases hNone

/-! ### Quotients of whole numbers -/

theorem nearest_mul_mul {scale : Nat} (hScale : 0 < scale) (num den : Nat) :
    nearest (scale * num) (scale * den) = nearest num den := by
  have hQuotient : scale * num / (scale * den) = num / den := Nat.mul_div_mul_left num den hScale
  have hRest : 2 * (scale * num % (scale * den)) = scale * (2 * (num % den)) := by
    rw [Nat.mul_mod_mul_left, Nat.mul_left_comm]
  unfold nearest
  simp only [hQuotient, hRest, Nat.mul_lt_mul_left hScale]

/-- Only the proportion of the two numbers counts. -/
theorem roundQuanta_mul_mul {scale : Nat} (hScale : 0 < scale) (num den : Nat) :
    roundQuanta (scale * num) (scale * den) = roundQuanta num den := by
  unfold roundQuanta
  simp only [Nat.mul_div_mul_left num den hScale, Nat.mul_assoc, nearest_mul_mul hScale]

/-- The greatest number of quanta of a finite number. -/
def greatest : Nat := bound - twoTo 2045

theorem fits_greatest : Fits greatest := ⟨2 ^ 53 - 1, 2045, by decide, by decide +kernel⟩

/-- The least whole number beyond the range lies in the middle between the greatest finite number
and the bound. -/
theorem greatest_add_bound : greatest + bound = 2 * (wholeBound * one) := by decide +kernel

theorem greatest_lt_bound : greatest < bound := by decide +kernel

theorem roundQuanta_quotient_lt_bound_iff {b : Nat} (hDen : 0 < b) (a : Nat) :
    roundQuanta (a * one) b < bound ↔ a < wholeBound * b := by
  constructor
  · intro hRange
    by_contra hLarge
    have hWhole : bound ≤ roundQuanta (wholeBound * one) 1 :=
      Nat.le_of_not_lt fun h => absurd ((roundQuanta_lt_bound_iff wholeBound).1 h) (lt_irrefl _)
    rw [← roundQuanta_mul_mul hDen, Nat.mul_one, ← Nat.mul_assoc, Nat.mul_comm b] at hWhole
    have hMono := roundQuanta_mono hDen (Nat.mul_le_mul_right one (Nat.le_of_not_lt hLarge))
    exact absurd (hWhole.trans hMono) (Nat.not_le.2 hRange)
  · intro hLess
    by_contra hBeyond
    -- The greatest finite number would be nearer.
    have hNear := (roundQuanta_isNearest hDen (a * one)).le greatest fits_greatest
    have hReached := Nat.mul_le_mul_right b (Nat.le_of_not_lt hBeyond)
    have hOrder := Nat.mul_lt_mul_of_pos_right greatest_lt_bound hDen
    have hMiddle : 2 * (a * one) < greatest * b + bound * b := by
      have hScaled := Nat.mul_lt_mul_of_pos_right hLess Binary64.one_pos
      rw [← Nat.add_mul, greatest_add_bound, Nat.mul_assoc, Nat.mul_right_comm]
      omega
    unfold Nat.dist at hNear
    omega

theorem ofIntQuotient?_eq_none_iff {b : Int} (hDen : b ≠ 0) (a : Int) :
    ofIntQuotient? a b = none ↔ wholeBound * b.natAbs ≤ a.natAbs := by
  rw [← Nat.not_lt, ← roundQuanta_quotient_lt_bound_iff (Int.natAbs_pos.2 hDen)]
  unfold ofIntQuotient? ofQuotient
  dsimp only
  split
  · rename_i hRange
    exact ⟨nofun, fun hBeyond => absurd hRange hBeyond⟩
  · rename_i hBeyond
    exact ⟨fun _ => hBeyond, fun _ => rfl⟩

end Stencil.Binary64
