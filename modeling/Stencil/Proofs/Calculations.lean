import Stencil.Helper.Arithmetic
import Stencil.Proofs.Rounding

/-!
Calculations. A sum, a difference, a product or a quotient of two numbers is a number again, unless
a whole number that meets a floating point number is too great to become one, or a quotient of whole
numbers is too great. Those two cases raise a fault. Sums, differences and products of whole numbers
are exact, however great they are.
-/

namespace Stencil

open Binary64

/-! ### What overflows -/

/-- A whole number that is rounded to one beyond the range of floating point numbers. -/
def Number.Oversized : Number → Prop
  | .int n => wholeBound ≤ n.natAbs
  | .float _ => False

/-- There is a result unless something overflows, and then the fault says so. -/
inductive OverflowsIf {α : Type} (reason : Prop) : Except Fault α → Prop
  | result (h : ¬ reason) (a : α) : OverflowsIf reason (.ok a)
  | fault (h : reason) {fault : Fault} (hKind : fault.kind = .overflow) :
      OverflowsIf reason (.error fault)

namespace OverflowsIf

variable {α β : Type} {reason other : Prop} {outcome : Except Fault α}

theorem exists_ok_iff (h : OverflowsIf reason outcome) : (∃ a, outcome = .ok a) ↔ ¬ reason := by
  cases h with
  | result h a => exact ⟨fun _ => h, fun _ => ⟨a, rfl⟩⟩
  | fault h hKind => exact ⟨fun ⟨a, hOk⟩ => (nomatch hOk), fun hNot => absurd h hNot⟩

theorem congr (h : OverflowsIf reason outcome) (hSame : reason ↔ other) :
    OverflowsIf other outcome := by
  rwa [propext hSame] at h

theorem map (h : OverflowsIf reason outcome) (f : α → β) : OverflowsIf reason (f <$> outcome) := by
  cases h with
  | result h a => exact .result h (f a)
  | fault h hKind => exact .fault h hKind

/-- Of two steps, the first that overflows raises the fault. -/
theorem bind {f : α → Except Fault β} (h : OverflowsIf reason outcome)
    (hNext : ∀ a, OverflowsIf other (f a)) : OverflowsIf (reason ∨ other) (outcome >>= f) := by
  cases h with
  | result h a => exact (hNext a).congr (by simp [h])
  | fault h hKind => exact .fault (.inl h) hKind

end OverflowsIf

theorem toFloat_of_le {n : Int} (h : wholeBound ≤ n.natAbs) :
    Helper.toFloat (.int n) = .error .integerTooLargeForFloat := by
  rw [Helper.toFloat, ofInt?_of_le h]
  rfl

theorem overflowsIf_toFloat (x : Number) : OverflowsIf x.Oversized (Helper.toFloat x) := by
  cases x with
  | float x => exact .result not_false x
  | int n =>
    show OverflowsIf (wholeBound ≤ n.natAbs)
      ((ofInt? n).elim (.error .integerTooLargeForFloat) .ok)
    rw [← ofInt?_eq_none_iff]
    cases ofInt? n with
    | none => exact .fault rfl rfl
    | some x => exact .result nofun x

theorem overflowsIf_both {α : Type} (x y : Number) (f : Binary64 → Binary64 → α) :
    OverflowsIf (x.Oversized ∨ y.Oversized)
      (do return f (← Helper.toFloat x) (← Helper.toFloat y)) :=
  (overflowsIf_toFloat x).bind fun a => (overflowsIf_toFloat y).map (f a)

theorem overflowsIf_ofIntQuotient? {n : Int} (hDen : n ≠ 0) (m : Int) :
    OverflowsIf (wholeBound * n.natAbs ≤ m.natAbs) (Number.quotient (.int m) (.int n)) := by
  show OverflowsIf (wholeBound * n.natAbs ≤ m.natAbs)
    ((ofIntQuotient? m n).elim (.error .quotientTooLargeForFloat) .ok)
  rw [← ofIntQuotient?_eq_none_iff hDen]
  cases ofIntQuotient? m n with
  | none => exact .fault rfl rfl
  | some x => exact .result nofun x

/-! ### The four calculations -/

/-- What can be calculated from two numbers. -/
inductive Calculation where
  | add | subtract | multiply | divide
  deriving DecidableEq, Repr

namespace Calculation

def helper : Calculation → Helper
  | add => .add
  | subtract => .subtract
  | multiply => .multiply
  | divide => .divide

def onNumbers : Calculation → Number → Number → Except Fault Number
  | add => Number.add
  | subtract => Number.subtract
  | multiply => Number.multiply
  | divide => Number.divide

/-- The calculation on whole numbers that gives whole numbers again; a quotient has none. -/
def onInts? : Calculation → Option (Int → Int → Int)
  | add => some (· + ·)
  | subtract => some (· - ·)
  | multiply => some (· * ·)
  | divide => none

/-- A quotient of whole numbers is too great for a floating point number, or a whole number that
meets a floating point number is. By zero nothing is divided. -/
def Overflows (calculation : Calculation) : Number → Number → Prop
  | .int m, .int n => calculation = divide ∧ n ≠ 0 ∧ wholeBound * n.natAbs ≤ m.natAbs
  | x, y => (calculation = divide → y.isZero = false) ∧ (x.Oversized ∨ y.Oversized)

/-- Both values are numbers, and the calculation with them overflows. -/
def OverflowsAt (calculation : Calculation) (a b : Value) : Prop :=
  ∃ x y, a.toNumber? = some x ∧ b.toNumber? = some y ∧ calculation.Overflows x y

variable {a b : Value} {x y : Number}

theorem act_helper (calculation : Calculation) (a b : Value) :
    calculation.helper.act [a, b] = .ofExcept
      (match a.toNumber?, b.toNumber? with
        | some x, some y => Value.ofNumber <$> calculation.onNumbers x y
        | _, _ => .ok (.int 0)) := by
  cases calculation <;> rfl

theorem act_of_numbers (calculation : Calculation) (ha : a.toNumber? = some x)
    (hb : b.toNumber? = some y) :
    calculation.helper.act [a, b] =
      .ofExcept (Value.ofNumber <$> calculation.onNumbers x y) := by
  rw [act_helper, ha, hb]

theorem act_of_no_number (calculation : Calculation)
    (h : a.toNumber? = none ∨ b.toNumber? = none) :
    calculation.helper.act [a, b] = .done (.int 0) := by
  rw [act_helper]
  rcases h with ha | hb
  · rw [ha]
    rfl
  · rw [hb]
    cases a.toNumber? <;> rfl

theorem divide_of_isZero (x : Number) (h : y.isZero = true) :
    Number.divide x y = .ok (.int 0) := if_pos h

theorem divide_of_not_isZero (x : Number) (h : y.isZero = false) :
    Number.divide x y = Number.float <$> x.quotient y := if_neg (by simp [h])

theorem overflowsIf_divide (x y : Number) :
    OverflowsIf (Overflows divide x y) (Number.divide x y) := by
  cases hZero : y.isZero with
  | true =>
    rw [divide_of_isZero x hZero]
    refine .result ?_ _
    cases x <;> cases y <;> simp_all [Overflows, Number.isZero]
  | false =>
    rw [divide_of_not_isZero x hZero]
    refine OverflowsIf.map ?_ Number.float
    match x, y with
    | .int m, .int n =>
      have hSome : n ≠ 0 := by simpa [Number.isZero] using hZero
      exact (overflowsIf_ofIntQuotient? hSome m).congr (by simp [Overflows, hSome])
    | .int m, .float y =>
      exact (overflowsIf_both (.int m) (.float y) (· / ·)).congr (by simp [Overflows, hZero])
    | .float x, y =>
      exact (overflowsIf_both (.float x) y (· / ·)).congr (by simp [Overflows, hZero])

theorem overflowsIf_combine (calculation : Calculation) (hNot : calculation ≠ divide)
    (onInts : Int → Int → Int) (onFloats : Binary64 → Binary64 → Binary64) (x y : Number) :
    OverflowsIf (calculation.Overflows x y) (Number.combine onInts onFloats x y) := by
  match x, y with
  | .int m, .int n => exact .result (by simp [Overflows, hNot]) _
  | .int m, .float y =>
    exact (overflowsIf_both (.int m) (.float y) fun x y => Number.float (onFloats x y)).congr
      (by simp [Overflows, hNot])
  | .float x, y =>
    exact (overflowsIf_both (.float x) y fun x y => Number.float (onFloats x y)).congr
      (by simp [Overflows, hNot])

theorem overflowsIf_onNumbers (calculation : Calculation) (x y : Number) :
    OverflowsIf (calculation.Overflows x y) (calculation.onNumbers x y) := by
  cases calculation with
  | add => exact overflowsIf_combine add nofun (· + ·) (· + ·) x y
  | subtract => exact overflowsIf_combine subtract nofun (· - ·) (· - ·) x y
  | multiply => exact overflowsIf_combine multiply nofun (· * ·) (· * ·) x y
  | divide => exact overflowsIf_divide x y

theorem onNumbers_of_ints {calculation : Calculation} {onInts : Int → Int → Int}
    (h : calculation.onInts? = some onInts) (m n : Int) :
    calculation.onNumbers (.int m) (.int n) = .ok (.int (onInts m n)) := by
  cases calculation with
  | add | subtract | multiply =>
    cases h
    rfl
  | divide => cases h

theorem overflowsAt_iff {calculation : Calculation} (ha : a.toNumber? = some x)
    (hb : b.toNumber? = some y) :
    calculation.OverflowsAt a b ↔ calculation.Overflows x y := by
  unfold OverflowsAt
  simp [ha, hb]

/-- What the helper gives for two numbers: the result that there is, or a fault if it overflows. -/
theorem act_cases (calculation : Calculation) (ha : a.toNumber? = some x)
    (hb : b.toNumber? = some y) :
    (¬ calculation.OverflowsAt a b ∧
        ∃ z, calculation.helper.act [a, b] = .done (.ofNumber z)) ∨
      (calculation.OverflowsAt a b ∧
        ∃ fault, calculation.helper.act [a, b] = .raise fault ∧ fault.kind = .overflow) := by
  rw [overflowsAt_iff ha hb, act_of_numbers calculation ha hb]
  have hOutcome := overflowsIf_onNumbers calculation x y
  generalize calculation.onNumbers x y = outcome at hOutcome
  cases hOutcome with
  | result h z => exact .inl ⟨h, z, rfl⟩
  | @fault h fault hKind => exact .inr ⟨h, fault, rfl, hKind⟩

theorem act_of_overflowsAt {calculation : Calculation} (h : calculation.OverflowsAt a b) :
    ∃ fault, calculation.helper.act [a, b] = .raise fault ∧ fault.kind = .overflow := by
  obtain ⟨x, y, ha, hb, -⟩ := id h
  rcases act_cases calculation ha hb with ⟨hNot, -⟩ | ⟨-, hRaises⟩
  · exact absurd h hNot
  · exact hRaises

theorem exists_act_of_not_overflowsAt {calculation : Calculation}
    (h : ¬ calculation.OverflowsAt a b) :
    ∃ z, calculation.helper.act [a, b] = .done (.ofNumber z) := by
  cases ha : a.toNumber? with
  | none => exact ⟨.int 0, act_of_no_number calculation (.inl ha)⟩
  | some x =>
    cases hb : b.toNumber? with
    | none => exact ⟨.int 0, act_of_no_number calculation (.inr hb)⟩
    | some y =>
      rcases act_cases calculation ha hb with ⟨-, hGives⟩ | ⟨hOver, -⟩
      · exact hGives
      · exact absurd hOver h

theorem act_divide_of_isZero (a : Value) (hb : b.toNumber? = some y) (h : y.isZero = true) :
    divide.helper.act [a, b] = .done (.int 0) := by
  cases ha : a.toNumber? with
  | none => exact act_of_no_number divide (.inl ha)
  | some x =>
    rw [act_of_numbers divide ha hb]
    show Action.ofExcept (Value.ofNumber <$> Number.divide x y) = _
    rw [divide_of_isZero x h]
    rfl

/-- A calculation with any two values gives a number exactly if it does not overflow, and raises a
fault if it does. With a value that is no number, and with zero as a divisor, the result is zero;
the sum, the difference and the product of whole numbers are exact. -/
theorem calculations_answer_iff (calculation : Calculation) (a b : Value) :
    let outcome := calculation.helper.act [a, b]
    ((∃ z, outcome = .done (.ofNumber z)) ↔ ¬ calculation.OverflowsAt a b) ∧
      (calculation.OverflowsAt a b → ∃ fault, outcome = .raise fault ∧ fault.kind = .overflow) ∧
      (a.toNumber? = none ∨ b.toNumber? = none → outcome = .done (.int 0)) ∧
      (calculation = divide → ∀ y, b.toNumber? = some y → y.isZero = true →
        outcome = .done (.int 0)) ∧
      ∀ onInts m n, calculation.onInts? = some onInts → a.toNumber? = some (.int m) →
        b.toNumber? = some (.int n) → outcome = .done (.int (onInts m n)) := by
  intro outcome
  refine ⟨⟨fun ⟨z, hGives⟩ hOver => ?_, exists_act_of_not_overflowsAt⟩, act_of_overflowsAt,
    act_of_no_number calculation, ?_, fun onInts m n hInts ha hb => ?_⟩
  · obtain ⟨fault, hRaises, -⟩ := act_of_overflowsAt hOver
    rw [show outcome = .raise fault from hRaises] at hGives
    cases hGives
  · rintro rfl y hb hZero
    exact act_divide_of_isZero a hb hZero
  · show calculation.helper.act [a, b] = _
    rw [act_of_numbers calculation ha hb, onNumbers_of_ints hInts]
    rfl

/-- A sum that any number would be too small for is refused, and so is a quotient that would not
change its dividend. -/
theorem sum_overflows :
    let m : Int := 10 ^ 309
    add.helper.act [.int m, .float (.infinite false)] = .raise .integerTooLargeForFloat ∧
      divide.helper.act [.int m, .int 1] = .raise .quotientTooLargeForFloat := by
  intro m
  have hFloat : Helper.toFloat (.int m) = .error .integerTooLargeForFloat :=
    toFloat_of_le (by decide +kernel)
  have hQuotient : ofIntQuotient? m 1 = none :=
    (ofIntQuotient?_eq_none_iff (by decide) m).2 (by decide +kernel)
  clear_value m
  constructor
  · rw [act_of_numbers add rfl rfl]
    simp only [onNumbers, Number.add, Number.combine, hFloat]
    rfl
  · rw [act_of_numbers divide rfl rfl]
    show Action.ofExcept (Value.ofNumber <$> Number.float <$>
      (ofIntQuotient? m 1).elim (.error .quotientTooLargeForFloat) .ok) = _
    rw [hQuotient]
    rfl

end Calculation

end Stencil
