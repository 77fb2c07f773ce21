import Mathlib.Data.List.TakeWhile
import Stencil.Value.Json
import Stencil.Proofs.Decimals
import Stencil.Proofs.JsonGrammar
import Stencil.Proofs.ReadingBack
import Stencil.Proofs.WrittenDates

/-!
Numbers written as JSON. The digits of a whole number and the shortest decimal of a finite number
are numbers of JSON that are read back as they were, however the decimal is laid out.
-/

namespace Stencil.Json

open Binary64

variable {digits : List Char} {n : Nat}

/-! ### The digits of a number -/

theorem head?_toDigits_ne (hSome : n ≠ 0) : (Nat.toDigits 10 n).head? ≠ some '0' := by
  induction n using Nat.strongRecOn with
  | ind n ih =>
    rw [Nat.toDigits_eq_if (by decide)]
    split
    · rename_i hLess
      have hDigit : ∀ d : Fin 10, d.val ≠ 0 → [Nat.digitChar d].head? ≠ some '0' := by decide
      exact hDigit ⟨n, hLess⟩ hSome
    · rw [List.head?_append_of_ne_nil _ Nat.toDigits_ne_nil]
      exact ih (n / 10) (by omega) (by omega)

theorem digits_toDigits (n : Nat) : Digits (Nat.toDigits 10 n) :=
  ⟨Nat.toDigits_ne_nil, fun _ hMem => Nat.isDigit_of_mem_toDigits (by decide) (by decide) hMem⟩

theorem whole_toDigits (n : Nat) : Whole (Nat.toDigits 10 n) := by
  refine ⟨digits_toDigits n, fun hZero => ?_⟩
  by_cases hSome : n = 0
  · rw [hSome, Nat.toDigits_zero]
  · exact absurd hZero (head?_toDigits_ne hSome)

/-- Digits without a zero in front. -/
structure Leading (digits : List Char) : Prop extends Digits digits where
  head_ne : digits.head? ≠ some '0'

theorem Leading.whole (h : Leading digits) : Whole digits :=
  ⟨h.toDigits, fun hZero => absurd hZero h.head_ne⟩

theorem Leading.take (h : Leading digits) {place : Nat} (hPlace : place ≠ 0) :
    Leading (digits.take place) := by
  obtain ⟨less, rfl⟩ := Nat.exists_eq_succ_of_ne_zero hPlace
  obtain ⟨c, cs, rfl⟩ := List.exists_cons_of_ne_nil h.ne_nil
  exact ⟨⟨nofun, fun d hd => h.isDigit d (List.mem_of_mem_take hd)⟩, h.head_ne⟩

theorem Leading.append (h : Leading digits) {behind : List Char}
    (hBehind : ∀ c ∈ behind, c.isDigit = true) : Leading (digits ++ behind) := by
  refine ⟨⟨List.append_ne_nil_of_left_ne_nil h.ne_nil _, fun c hMem => ?_⟩, ?_⟩
  · exact (List.mem_append.1 hMem).elim (h.isDigit c) (hBehind c)
  · rw [List.head?_append_of_ne_nil _ h.ne_nil]
    exact h.head_ne

/-- The digits of a number without the zeros behind them. -/
theorem exists_trimmed (hSome : n ≠ 0) :
    ∃ digits zeros, Leading digits ∧ trimmedDigits n = String.ofList digits ∧
      Nat.toDigits 10 n = digits ++ List.replicate zeros '0' := by
  let reversed := (Nat.toDigits 10 n).reverse
  let zeros := reversed.takeWhile (· = '0')
  let digits := (reversed.dropWhile (· = '0')).reverse
  have hZeros : zeros = List.replicate zeros.length '0' :=
    List.eq_replicate_of_mem fun c hMem => by simpa using List.mem_takeWhile_imp hMem
  have hSplit : Nat.toDigits 10 n = digits ++ List.replicate zeros.length '0' := by
    rw [← List.reverse_replicate, ← hZeros, ← List.reverse_append,
      List.takeWhile_append_dropWhile, List.reverse_reverse]
  have hNonempty : digits ≠ [] := by
    intro hNil
    have hValue : Nat.ofDigitChars 10 (Nat.toDigits 10 n) 0 = n := Nat.ofDigitChars_ten_toDigits
    rw [hSplit, hNil, List.nil_append, Nat.ofDigitChars_replicate_zero, Nat.mul_zero] at hValue
    exact hSome hValue.symm
  refine ⟨digits, _, ⟨⟨hNonempty, fun c hMem => ?_⟩, ?_⟩, ?_, hSplit⟩
  · refine (digits_toDigits n).isDigit c ?_
    rw [hSplit]
    exact List.mem_append_left _ hMem
  · have hHead := head?_toDigits_ne hSome
    rwa [hSplit, List.head?_append_of_ne_nil _ hNonempty] at hHead
  · rw [trimmedDigits, Nat.toString_eq_repr, Nat.toList_repr]

/-! ### The layouts of a decimal -/

variable {place : Int}

/-- A number is given by its parts. Zeros behind its digits make it no other. -/
theorem isNumber_of_parts (negative : Bool) {whole fraction behind mark : List Char}
    {exponent : Int} (hWhole : Whole whole) (hFraction : Fraction fraction behind)
    (hExponent : Exponent exponent mark) (hSome : behind ++ mark ≠ []) (zeros : Nat)
    (hDigits : Nat.ofDigitChars 10 (whole ++ fraction) 0 = n * tenTo zeros)
    (hPlace : exponent - fraction.length = place - zeros) :
    IsNumber (.float (.ofDecimal negative n place))
      ((signText negative).toList ++ (whole ++ (behind ++ mark))) := by
  rw [← ofDecimal_mul_tenTo negative n zeros place, ← hDigits, ← hPlace]
  exact .decimal negative hWhole hFraction hExponent hSome

/-- A decimal below one has zeros behind the point. -/
theorem isNumber_zeros_before (negative : Bool) (h : Leading digits) (hPlace : place ≤ 0) :
    IsNumber (.float (.ofDecimal negative (Nat.ofDigitChars 10 digits 0) (place - digits.length)))
      ((signText negative).toList ++
        '0' :: '.' :: (List.replicate (-place).toNat '0' ++ digits)) := by
  have hFraction : Digits (List.replicate (-place).toNat '0' ++ digits) := by
    refine ⟨List.append_ne_nil_of_right_ne_nil _ h.ne_nil, fun c hMem => ?_⟩
    rcases List.mem_append.1 hMem with hZero | hDigit
    · rw [List.eq_of_mem_replicate hZero]
      rfl
    · exact h.isDigit c hDigit
  have hDigits : Nat.ofDigitChars 10
      (Nat.toDigits 10 0 ++ (List.replicate (-place).toNat '0' ++ digits)) 0 =
        Nat.ofDigitChars 10 digits 0 * tenTo 0 := by
    rw [Nat.ofDigitChars_append, Nat.ofDigitChars_append, Nat.ofDigitChars_ten_toDigits,
      Nat.ofDigitChars_replicate_zero, Nat.mul_zero, tenTo_zero, Nat.mul_one]
  have hExponent : 0 - ((List.replicate (-place).toNat '0' ++ digits).length : Int) =
      place - digits.length - (0 : Nat) := by
    rw [List.length_append, List.length_replicate]
    omega
  have hNumber := isNumber_of_parts negative (whole_toDigits 0) (.point hFraction) .none nofun 0
    hDigits hExponent
  rwa [List.append_nil] at hNumber

/-- A whole number has zeros behind its digits, and one behind the point. -/
theorem isNumber_zeros_behind (negative : Bool) (h : Leading digits)
    (hPlace : digits.length ≤ place) :
    IsNumber (.float (.ofDecimal negative (Nat.ofDigitChars 10 digits 0) (place - digits.length)))
      ((signText negative).toList ++
        ((digits ++ List.replicate (place - digits.length).toNat '0') ++ ['.', '0'])) := by
  have hWhole : Leading (digits ++ List.replicate (place - digits.length).toNat '0') :=
    h.append fun c hMem => by rw [List.eq_of_mem_replicate hMem]; rfl
  have hDigits : Nat.ofDigitChars 10
      ((digits ++ List.replicate (place - digits.length).toNat '0') ++ Nat.toDigits 10 0) 0 =
        Nat.ofDigitChars 10 digits 0 * tenTo ((place - digits.length).toNat + 1) := by
    rw [Nat.ofDigitChars_append, Nat.ofDigitChars_append, Nat.ofDigitChars_replicate_zero,
      Nat.toDigits_zero, Nat.ofDigitChars_cons, Nat.ofDigitChars_nil, tenTo_succ]
    show 10 * (tenTo _ * _) + 0 = _
    ring
  have hExponent : 0 - ((Nat.toDigits 10 0).length : Int) =
      place - digits.length - ((place - digits.length).toNat + 1 : Nat) := by
    rw [Nat.toDigits_zero, List.length_singleton]
    omega
  exact isNumber_of_parts negative hWhole.whole (.point (digits_toDigits 0)) .none nofun _ hDigits
    hExponent

/-- A decimal with a point among its digits. -/
theorem isNumber_point_among (negative : Bool) (h : Leading digits) (hPlace : 0 < place)
    (hLess : place < digits.length) :
    IsNumber (.float (.ofDecimal negative (Nat.ofDigitChars 10 digits 0) (place - digits.length)))
      ((signText negative).toList ++
        (digits.take place.toNat ++ '.' :: digits.drop place.toNat)) := by
  have hFraction : Digits (digits.drop place.toNat) := by
    refine ⟨?_, fun c hMem => h.isDigit c (List.mem_of_mem_drop hMem)⟩
    rw [Ne, List.drop_eq_nil_iff]
    omega
  have hDigits : Nat.ofDigitChars 10 (digits.take place.toNat ++ digits.drop place.toNat) 0 =
      Nat.ofDigitChars 10 digits 0 * tenTo 0 := by
    rw [List.take_append_drop, tenTo_zero, Nat.mul_one]
  have hExponent : 0 - ((digits.drop place.toNat).length : Int) =
      place - digits.length - (0 : Nat) := by
    rw [List.length_drop]
    omega
  have hNumber := isNumber_of_parts negative (h.take (by omega)).whole (.point hFraction) .none
    nofun 0 hDigits hExponent
  rwa [List.append_nil] at hNumber

/-- The mark of an exponent, its sign, and its digits. -/
theorem exponent_padded (width : Nat) (exponent : Int) :
    Exponent exponent ('e' :: ((if exponent < 0 then ['-'] else ['+']) ++
      (Text.padded width exponent.natAbs).toList)) := by
  have hDigits : Digits (Text.padded width exponent.natAbs).toList := by
    refine ⟨?_, fun c hMem => Text.isDigit_of_mem_padded hMem⟩
    rw [Text.toList_padded]
    exact List.append_ne_nil_of_right_ne_nil _ Nat.toDigits_ne_nil
  have hMark : 'e' ∈ ['e', 'E'] := by decide
  have hMinus : ['-'] ∈ [[], ['+'], ['-']] := by decide
  have hPlus : ['+'] ∈ [[], ['+'], ['-']] := by decide
  have hValue := Text.ofDigitChars_padded width exponent.natAbs
  have hSign := signed_natAbs exponent
  split
  · rename_i hNegative
    rw [decide_eq_true hNegative] at hSign
    have hMarked := Exponent.marked hMark hMinus hDigits
    rwa [hValue, decide_eq_true rfl, hSign] at hMarked
  · rename_i hPositive
    rw [decide_eq_false hPositive] at hSign
    have hMarked := Exponent.marked hMark hPlus hDigits
    rwa [hValue, decide_eq_false (by decide), hSign] at hMarked

/-- A decimal with an exponent has one digit before the point. -/
theorem isNumber_exponent (negative : Bool) (h : Leading digits) (width : Nat) (place : Int) :
    IsNumber (.float (.ofDecimal negative (Nat.ofDigitChars 10 digits 0) (place - digits.length)))
      ((signText negative).toList ++ (digits.take 1 ++
        ((if digits.length ≤ 1 then [] else '.' :: digits.drop 1) ++
          'e' :: ((if place - 1 < 0 then ['-'] else ['+']) ++
            (Text.padded width (place - 1).natAbs).toList)))) := by
  have hFraction : Fraction (digits.drop 1)
      (if digits.length ≤ 1 then [] else '.' :: digits.drop 1) := by
    split
    · rename_i hShort
      rw [List.drop_eq_nil_iff.2 hShort]
      exact .none
    · rename_i hLong
      refine .point ⟨?_, fun c hMem => h.isDigit c (List.mem_of_mem_drop hMem)⟩
      rwa [Ne, List.drop_eq_nil_iff]
  have hDigits : Nat.ofDigitChars 10 (digits.take 1 ++ digits.drop 1) 0 =
      Nat.ofDigitChars 10 digits 0 * tenTo 0 := by
    rw [List.take_append_drop, tenTo_zero, Nat.mul_one]
  have hExponent : place - 1 - ((digits.drop 1).length : Int) =
      place - digits.length - (0 : Nat) := by
    have := List.length_pos_iff.2 h.ne_nil
    rw [List.length_drop]
    omega
  exact isNumber_of_parts negative (h.take (by decide)).whole hFraction
    (exponent_padded width (place - 1)) (List.append_ne_nil_of_right_ne_nil _ nofun) 0 hDigits
    hExponent

/-- A decimal is a number of JSON however it is laid out. -/
theorem isNumber_layOut (layout : Binary64.Layout) (negative : Bool) (h : Leading digits)
    (place : Int) :
    IsNumber (.float (.ofDecimal negative (Nat.ofDigitChars 10 digits 0) (place - digits.length)))
      ((signText negative).toList ++ (layOut layout (.ofList digits) place).toList) := by
  unfold layOut
  dsimp only
  rw [String.length_ofList]
  split
  · split
    · rename_i hSmall
      simpa [Text.zeroRun] using isNumber_zeros_before negative h hSmall
    · rename_i hSome
      split
      · rename_i hLarge
        simpa [Text.zeroRun] using isNumber_zeros_behind negative h hLarge
      · rename_i hLess
        simpa using isNumber_point_among negative h (Int.lt_of_not_ge hSome)
          (Int.lt_of_not_ge hLess)
  · have hNumber := isNumber_exponent negative h layout.exponentDigits place
    simpa [apply_ite String.toList] using hNumber

/-- The zeros behind the digits need not be written. -/
theorem isNumber_trimmed (negative : Bool) (hSome : n ≠ 0) (place : Int) :
    IsNumber (.float (.ofDecimal negative n place)) ((signText negative).toList ++
      (layOut Binary64.layout (trimmedDigits n) (digitCount n + place)).toList) := by
  obtain ⟨digits, zeros, hLeading, hTrimmed, hDigits⟩ := exists_trimmed hSome
  have hValue : Nat.ofDigitChars 10 digits 0 * tenTo zeros = n := by
    have hAll : Nat.ofDigitChars 10 (Nat.toDigits 10 n) 0 = n := Nat.ofDigitChars_ten_toDigits
    rw [hDigits, Nat.ofDigitChars_append, Nat.ofDigitChars_replicate_zero, Nat.mul_comm] at hAll
    exact hAll
  have hPlace : digitCount n + place - digits.length = place + zeros := by
    rw [digitCount_eq, hDigits, List.length_append, List.length_replicate]
    omega
  have hNumber := isNumber_layOut Binary64.layout negative hLeading (digitCount n + place)
  have hRead := ofDecimal_mul_tenTo negative (Nat.ofDigitChars 10 digits 0) zeros (place + zeros)
  rw [hValue, Int.add_sub_cancel] at hRead
  rwa [hPlace, ← hRead, ← hTrimmed] at hNumber

/-- A finite number is written as a number of JSON, and read back as it was. -/
theorem isNumber_toText (negative : Bool) (quanta : Quanta) :
    IsNumber (.float (.finite negative quanta)) (toText (.finite negative quanta)).toList := by
  rw [toText, String.toList_append]
  split
  · rename_i hZero
    have hNumber := IsNumber.decimal negative (whole_toDigits 0) (.point (digits_toDigits 0)) .none
      nofun
    have hNone : quanta = .none := Quanta.ext hZero
    rw [hNone]
    exact hNumber
  · rename_i hSome
    generalize hShortest : shortest quanta.count = decimal
    obtain ⟨found, place⟩ := decimal
    have hRead := ofDecimal_shortest negative (Nat.pos_of_ne_zero hSome) hShortest
    have hFound : found ≠ 0 := by
      rintro rfl
      exact hSome (congrArg Quanta.count (Binary64.finite.inj hRead).2).symm
    rw [← hRead]
    exact isNumber_trimmed negative hFound place

/-- The digits of a whole number are a number of JSON. -/
theorem isNumber_int (n : Int) : IsNumber (.int n) (toString n).toList := by
  have hText : toString n = signText (n < 0) ++ toString n.natAbs := by
    have := toString_signed (n := n) (m := n.natAbs) Int.natAbs_ne_zero.2
    rwa [signed_natAbs] at this
  have hNumber := IsNumber.whole (n < 0) (whole_toDigits n.natAbs)
  rw [Nat.ofDigitChars_ten_toDigits, signed_natAbs] at hNumber
  rwa [hText, String.toList_append, Nat.toString_eq_repr, Nat.toList_repr]

end Stencil.Json
