import Stencil.Helper.Wording
import Stencil.Proofs.Rounding

/-!
Arguments that are read as whole numbers. A number loses its fraction, and a default stands in for
what is no finite number. To find out whether it is finite, a whole number is made a floating point
number first, so one beyond their range is refused, although it is what was asked for.
-/

namespace Stencil.Helper

open Binary64

/-- The argument is no whole number beyond the range of floating point numbers. -/
def Readable (argument : Option Value) : Prop :=
  ∀ d, argument.bind Value.toNumber? = some (.int d) → d.natAbs < wholeBound

/-- The whole number that an argument means: the one that it is, or a finite number cut off towards
zero, or else the default. -/
inductive Means (default : Int) (argument : Option Value) : Int → Prop
  | whole {n : Int} (h : argument.bind Value.toNumber? = some (.int n)) : Means default argument n
  | finite {negative : Bool} {quanta : Quanta} {units : Nat}
      (h : argument.bind Value.toNumber? = some (.float (.finite negative quanta)))
      (reached : units * one ≤ quanta.count) (next : quanta.count < (units + 1) * one) :
      Means default argument (signed negative units)
  | other (notWhole : ∀ n, argument.bind Value.toNumber? ≠ some (.int n))
      (notFinite : ∀ negative quanta,
        argument.bind Value.toNumber? ≠ some (.float (.finite negative quanta))) :
      Means default argument default

/-- The whole number that an argument is read as. -/
def wholeAsked (default : Int) (argument : Option Value) : Int :=
  match argument.bind Value.toNumber? with
  | some (.int n) => n
  | some (.float x) => x.truncate?.getD default
  | none => default

variable {default n : Int} {argument : Option Value}

theorem means_wholeAsked (default : Int) (argument : Option Value) :
    Means default argument (wholeAsked default argument) := by
  unfold wholeAsked
  cases h : argument.bind Value.toNumber? with
  | none => exact .other (by simp [h]) (by simp [h])
  | some number =>
    cases number with
    | int n => exact .whole h
    | float x =>
      cases x with
      | nan mark => exact .other (by simp [h]) (by simp [h])
      | infinite negative => exact .other (by simp [h]) (by simp [h])
      | finite negative quanta =>
        have hNext : quanta.count < quanta.count / one * one + one :=
          Nat.lt_div_mul_add Binary64.one_pos
        exact .finite h (Nat.div_mul_le_self quanta.count one) (by rwa [Nat.succ_mul])

/-- An argument means one number only. -/
theorem Means.eq_wholeAsked (h : Means default argument n) : n = wholeAsked default argument := by
  unfold wholeAsked
  cases h with
  | whole h => rw [h]
  | @finite negative quanta units h reached next =>
    have hUnits : quanta.count / one = units := Nat.div_eq_of_lt_le reached next
    rw [h]
    simp [truncate?, hUnits]
  | other notWhole notFinite =>
    cases h : argument.bind Value.toNumber? with
    | none => rfl
    | some number =>
      cases number with
      | int n => exact absurd h (notWhole n)
      | float x =>
        cases x with
        | nan mark => rfl
        | infinite negative => rfl
        | finite negative quanta => exact absurd h (notFinite negative quanta)

/-- A whole number is handed on unless it is beyond the range. -/
theorem truncate_int (default n : Int) :
    (Number.int n).truncate default =
      if n.natAbs < wholeBound then .ok n else .error .integerTooLargeForFloat := by
  rw [Number.truncate]
  split
  · rename_i hLess
    obtain ⟨m, quanta, -, hFloat, -⟩ := ofInt?_of_lt hLess
    rw [hFloat, Option.elim_some]
  · rename_i hLarge
    rw [ofInt?_of_le (Nat.le_of_not_lt hLarge), Option.elim_none]

theorem toInt_getD (default : Int) (argument : Option Value) :
    (argument.getD .null).toInt default =
      (argument.bind Value.toNumber?).elim (.ok default) (Number.truncate default) := by
  cases argument <;> rfl

theorem toInt_of_readable (h : Readable argument) (default : Int) :
    (argument.getD .null).toInt default = .ok (wholeAsked default argument) := by
  unfold wholeAsked
  rw [toInt_getD]
  cases hNumber : argument.bind Value.toNumber? with
  | none => rfl
  | some number =>
    cases number with
    | int d => rw [Option.elim_some, truncate_int, if_pos (h d hNumber)]
    | float x => rfl

theorem toInt_of_not_readable (h : ¬ Readable argument) (default : Int) :
    (argument.getD .null).toInt default = .error .integerTooLargeForFloat := by
  unfold Readable at h
  push Not at h
  obtain ⟨d, hNumber, hLarge⟩ := h
  rw [toInt_getD, hNumber, Option.elim_some, truncate_int, if_neg (Nat.not_lt.2 hLarge)]

/-! ### Texts that are cut off -/

theorem act_truncate (s : String) (argument : Option Value) :
    truncate.act (.text s :: argument.toList) = .ofExcept
      (do return .text (cutTo (← (argument.getD .null).toInt 50) s)) := by
  refine (act_binary _ _ (.text s) argument).trans ?_
  cases (argument.getD .null).toInt 50 <;> rfl

theorem act_truncate_of_readable (h : Readable argument) (s : String) :
    truncate.act (.text s :: argument.toList) =
      .done (.text (cutTo (wholeAsked 50 argument) s)) := by
  rw [act_truncate, toInt_of_readable h]
  rfl

theorem act_truncate_of_not_readable (h : ¬ Readable argument) (s : String) :
    truncate.act (.text s :: argument.toList) = .raise .integerTooLargeForFloat := by
  rw [act_truncate, toInt_of_not_readable h]
  rfl

/-- An argument is read as the whole number that it means, and a text can be cut off at it, exactly
if it is no whole number beyond the range of floating point numbers. Such a one is refused. -/
theorem toInt_answers_iff (default : Int) (argument : Option Value) (s : String) :
    let read := (argument.getD .null).toInt default
    let cut := truncate.act (.text s :: argument.toList)
    (Readable argument ↔ ∃ n, read = .ok n ∧ ∀ m, Means default argument m ↔ m = n) ∧
      (Readable argument ↔ ∃ t, cut = .done (.text t)) ∧
      (¬ Readable argument → read = .error .integerTooLargeForFloat ∧
        cut = .raise .integerTooLargeForFloat) := by
  intro read cut
  have hRefused (h : ¬ Readable argument) :
      read = .error .integerTooLargeForFloat ∧ cut = .raise .integerTooLargeForFloat :=
    ⟨toInt_of_not_readable h default, act_truncate_of_not_readable h s⟩
  refine ⟨⟨fun h => ?_, fun ⟨n, hRead, _⟩ => ?_⟩, ⟨fun h => ?_, fun ⟨t, hCut⟩ => ?_⟩, hRefused⟩
  · refine ⟨wholeAsked default argument, toInt_of_readable h default, fun m => ?_⟩
    exact ⟨Means.eq_wholeAsked, fun hSame => hSame ▸ means_wholeAsked default argument⟩
  · by_contra h
    rw [(hRefused h).1] at hRead
    cases hRead
  · exact ⟨_, act_truncate_of_readable h s⟩
  · by_contra h
    rw [(hRefused h).2] at hCut
    cases hCut

/-- A limit of which a text falls short by far. -/
theorem limit_refused :
    let limit : Int := 10 ^ 309
    Value.toInt 50 (.int limit) = .error .integerTooLargeForFloat ∧
      Means 50 (some (.int limit)) limit ∧
      truncate.act [.text "abc", .int limit] = .raise .integerTooLargeForFloat := by
  intro limit
  have hLarge : wholeBound ≤ limit.natAbs := by decide +kernel
  have hNot : ¬ Readable (some (.int limit)) := fun h => Nat.not_lt.2 hLarge (h limit rfl)
  exact ⟨toInt_of_not_readable hNot 50, .whole rfl, act_truncate_of_not_readable hNot "abc"⟩

end Stencil.Helper
