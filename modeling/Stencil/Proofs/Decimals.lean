import Mathlib
import Stencil.Helper.Format
import Stencil.Proofs.WholeArguments

/-!
Whole numbers with decimals. A number is written with decimals after it has become a floating point
number, so a whole one loses what lies beyond its 53 leading binary digits, and is refused if it
lies beyond the range. What is written is the nearest whole number that fits, with zeros behind the
point.
-/

namespace Stencil

namespace Binary64

/-! ### The texts of whole numbers -/

/-- A point and so many zeros behind it, or nothing if there are none. -/
def zeros (places : Nat) : String := if places = 0 then "" else "." ++ Text.zeroRun places

theorem toFixed_of_whole (negative : Bool) {quanta : Quanta} {m : Nat}
    (h : quanta.count = m * one) (places : Nat) :
    (finite negative quanta).toFixed places =
      signText negative ++ toString m ++ zeros places := by
  have hScaled : nearest (m * one * tenTo places) one = m * tenTo places := by
    rw [Nat.mul_right_comm]
    exact nearest_mul one_pos (m * tenTo places)
  unfold toFixed zeros
  dsimp only
  rw [h, hScaled, Nat.mul_div_cancel m (tenTo_pos places), Nat.mul_mod_left]
  split
  · rfl
  · rename_i hSome
    rw [Text.padded_zero hSome]

theorem toString_signed {n : Int} {m : Nat} (h : n ≠ 0 → m ≠ 0) :
    toString (signed (n < 0) m) = signText (n < 0) ++ toString m := by
  cases n with
  | ofNat k =>
    have hSign : decide (Int.ofNat k < 0) = false := decide_eq_false (Int.natCast_nonneg k).not_gt
    rw [hSign]
    exact (String.empty_append).symm
  | negSucc k =>
    obtain ⟨less, rfl⟩ := Nat.exists_eq_succ_of_ne_zero (h (by simp))
    rw [decide_eq_true (Int.negSucc_lt_zero k)]
    rfl

end Binary64

namespace Helper

open Binary64

/-! ### The decimals that are asked for -/

/-- The number of decimals that an argument asks for: the number that it is, without its fraction,
or two if it is no finite number or there is none. -/
def decimalsAsked (decimals : Option Value) : Int :=
  match decimals.bind Value.toNumber? with
  | some (.int d) => d
  | some (.float x) => x.truncate?.getD 2
  | none => 2

/-- A whole number with so many zeros behind the point. -/
def wholeText (n : Int) (places : Nat) : String := toString n ++ zeros places

variable {n : Int} {decimals : Option Value} {places : Nat}

/-! ### What the helper writes -/

theorem act_formatNumber (n : Int) (decimals : Option Value) :
    formatNumber.act (.int n :: decimals.toList) = .ofExcept
      (do return .text (← fixedText (← (decimals.getD .null).toInt 2).toNat (.int n))) :=
  act_binary _ _ (.int n) decimals

theorem act_of_not_readable (h : ¬ Readable decimals) :
    formatNumber.act (.int n :: decimals.toList) = .raise .integerTooLargeForFloat := by
  rw [act_formatNumber, toInt_of_not_readable h 2]
  rfl

theorem act_of_readable (h : Readable decimals) :
    formatNumber.act (.int n :: decimals.toList) =
      .ofExcept ((fixedText (decimalsAsked decimals).toNat (.int n)).map .text) := by
  rw [act_formatNumber, toInt_of_readable h 2]
  rfl

theorem not_lengthBound_le (hPlaces : places < twoTo 31) : ¬ lengthBound ≤ (places : Int) := by
  have hLess : twoTo 31 < twoTo 63 := twoTo_lt_twoTo (by decide)
  unfold lengthBound
  omega

theorem fixedText_of_lt (hPlaces : places < twoTo 31) (h : n.natAbs < wholeBound) :
    ∃ m, IsNearest n.natAbs 1 m ∧
      fixedText places (.int n) = .ok (wholeText (signed (n < 0) m) places) := by
  obtain ⟨m, quanta, hNear, hFloat, hWhole⟩ := ofInt?_of_lt h
  refine ⟨m, hNear, ?_⟩
  unfold fixedText wholeText
  have hSome : n ≠ 0 → m ≠ 0 := fun hSome => hNear.ne_zero (Int.natAbs_ne_zero.2 hSome)
  rw [if_neg (not_lengthBound_le hPlaces), toFloat, hFloat, Option.elim_some,
    toString_signed hSome, ← toFixed_of_whole _ hWhole]
  simp only [if_neg (Nat.not_le.2 hPlaces)]
  rfl

theorem fixedText_of_le (hPlaces : places < twoTo 31) (h : wholeBound ≤ n.natAbs) :
    fixedText places (.int n) = .error .integerTooLargeForFloat := by
  unfold fixedText
  rw [if_neg (not_lengthBound_le hPlaces), toFloat, ofInt?_of_le h]
  rfl

theorem fixedText_of_many (hPlaces : twoTo 31 ≤ places) :
    ∃ fault, fixedText places (.int n) = .error fault := by
  unfold fixedText
  by_cases hLong : lengthBound ≤ (places : Int)
  · rw [if_pos hLong]
    exact ⟨_, rfl⟩
  · rw [if_neg hLong]
    generalize toFloat (.int n) = float
    cases float with
    | error fault => exact ⟨fault, rfl⟩
    | ok x =>
      refine ⟨.precisionTooLarge, ?_⟩
      simp only [if_pos hPlaces]
      rfl

/-- The text of a number tells which one it is. -/
theorem wholeText_inj {m n : Int} (h : wholeText m places = wholeText n places) : m = n :=
  Int.repr_injective ((String.append_left_inj (zeros places)).1 h)

/-- What a whole number in the range is written as. -/
theorem exists_act_of_lt (hRead : Readable decimals)
    (hPlaces : (decimalsAsked decimals).toNat < twoTo 31) (h : n.natAbs < wholeBound) :
    ∃ m, IsNearest n.natAbs 1 m ∧ formatNumber.act (.int n :: decimals.toList) =
      .done (.text (wholeText (signed (n < 0) m) (decimalsAsked decimals).toNat)) := by
  obtain ⟨m, hNear, hText⟩ := fixedText_of_lt hPlaces h
  refine ⟨m, hNear, ?_⟩
  rw [act_of_readable hRead, hText]
  rfl

theorem act_of_le (hRead : Readable decimals)
    (hPlaces : (decimalsAsked decimals).toNat < twoTo 31) (h : wholeBound ≤ n.natAbs) :
    formatNumber.act (.int n :: decimals.toList) = .raise .integerTooLargeForFloat := by
  rw [act_of_readable hRead, fixedText_of_le hPlaces h]
  rfl

/-- What is written exactly fits and can be written. -/
theorem conditions_of_act (h : formatNumber.act (.int n :: decimals.toList) =
      .done (.text (wholeText n (decimalsAsked decimals).toNat))) :
    Fits n.natAbs ∧ n.natAbs < wholeBound ∧ Readable decimals ∧
      (decimalsAsked decimals).toNat < twoTo 31 := by
  by_cases hRead : Readable decimals
  case neg =>
    rw [act_of_not_readable hRead] at h
    cases h
  rcases Nat.lt_or_ge (decimalsAsked decimals).toNat (twoTo 31) with hPlaces | hMany
  case inr =>
    obtain ⟨fault, hFault⟩ := fixedText_of_many (n := n) hMany
    rw [act_of_readable hRead, hFault] at h
    cases h
  rcases Nat.lt_or_ge n.natAbs wholeBound with hLess | hLarge
  case inr =>
    rw [act_of_le hRead hPlaces hLarge] at h
    cases h
  obtain ⟨m, hNear, hText⟩ := exists_act_of_lt hRead hPlaces hLess
  rw [hText] at h
  injection h with h
  injection h with h
  have hSame : m = n.natAbs :=
    (natAbs_signed (n < 0) m).symm.trans (congrArg Int.natAbs (wholeText_inj h))
  exact ⟨hSame ▸ hNear.fits, hLess, hRead, hPlaces⟩

/-- A whole number is written exactly, with the zeros that are asked for behind the point, if it has
no more than 53 significant bits and lies in the range, the decimals can be read, and they are not
too many; and it is so only then. Otherwise, what is written is the nearest such number, and one
beyond the range is refused. -/
theorem formatNumber_exact_iff (n : Int) (decimals : Option Value) :
    let places := (decimalsAsked decimals).toNat
    let outcome := formatNumber.act (.int n :: decimals.toList)
    (outcome = .done (.text (wholeText n places)) ↔
        Fits n.natAbs ∧ n.natAbs < twoTo 1024 ∧ Readable decimals ∧ places < twoTo 31) ∧
      (Readable decimals → places < twoTo 31 →
        (n.natAbs < wholeBound → ∃ m, IsNearest n.natAbs 1 m ∧
            outcome = .done (.text (wholeText (signed (n < 0) m) places))) ∧
          (wholeBound ≤ n.natAbs → outcome = .raise .integerTooLargeForFloat)) := by
  intro places outcome
  refine ⟨⟨fun hExact => ?_, fun ⟨hFits, hLess, hRead, hPlaces⟩ => ?_⟩, fun hRead hPlaces =>
    ⟨exists_act_of_lt hRead hPlaces, act_of_le hRead hPlaces⟩⟩
  · obtain ⟨hFits, hLess, hReadable⟩ := conditions_of_act hExact
    exact ⟨hFits, hLess.trans_le (Nat.sub_le _ _), hReadable⟩
  · obtain ⟨m, hNear, hText⟩ := exists_act_of_lt hRead hPlaces (hFits.lt_wholeBound hLess)
    rw [hNear.eq_of_fits hFits, signed_natAbs] at hText
    exact hText

/-- The least positive number that is not written exactly. -/
theorem formatNumber_rounds :
    let n : Int := 9007199254740993
    formatNumber.act [.int n] = .done (.text "9007199254740992.00") ∧
      formatNumber.act [.int n] ≠ .done (.text (wholeText n 2)) := by
  intro n
  have hText : fixedText 2 (.int n) = .ok "9007199254740992.00" := by decide +kernel
  have hAct : formatNumber.act [.int n] = .done (.text "9007199254740992.00") := by
    refine (@act_of_readable n none nofun).trans ?_
    change Action.ofExcept ((fixedText 2 (.int n)).map Value.text) = _
    rw [hText]
    rfl
  have hExact : wholeText n 2 = "9007199254740993.00" := by decide +kernel
  refine ⟨hAct, ?_⟩
  rw [hAct, hExact]
  intro hSame
  injection hSame with hSame
  injection hSame with hSame
  exact absurd hSame (by decide)

end Helper

end Stencil
