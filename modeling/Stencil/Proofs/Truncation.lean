import Stencil.Proofs.WholeArguments

/-!
Texts that are cut off at a limit. A limit below zero counts from the end of the text, so that more
is kept than the limit allows, and more than a greater limit keeps. All other limits are kept to,
and so are those below zero that reach over the front of the text.
-/

namespace Stencil.Helper

/-- What a text cut at a limit is to be: itself if it is no longer than that, and otherwise so many
characters with dots behind them, none if the limit is below zero. -/
def cutWithin (limit : Int) (s : String) : String :=
  if s.length ≤ limit then s else String.ofList (s.toList.take limit.toNat) ++ "..."

/-- The limit is not counted from the end of the text, or nothing is left of the text there. -/
def KeptTo (limit : Int) (s : String) : Prop := 0 ≤ limit ∨ s.length + limit ≤ 0

instance (limit : Int) (s : String) : Decidable (KeptTo limit s) :=
  inferInstanceAs (Decidable (0 ≤ limit ∨ s.length + limit ≤ 0))

variable {limit more : Int} {s : String} {argument : Option Value}

/-! ### The characters that are kept -/

theorem toList_front_of_nonneg (h : 0 ≤ limit) (s : String) :
    (front limit s).toList = s.toList.take limit.toNat := by
  rw [front, if_neg (Int.not_lt.2 h), String.toList_ofList]

theorem toList_front_of_neg (h : limit < 0) (s : String) :
    (front limit s).toList = s.toList.take (s.length + limit).toNat := by
  rw [front, if_pos h, String.toList_ofList, String.length_toList, Int.add_comm]

theorem length_front_of_neg (h : limit < 0) (s : String) :
    (front limit s).length = (s.length + limit).toNat := by
  rw [← String.length_toList, toList_front_of_neg h, List.length_take, String.length_toList]
  omega

theorem front_isPrefix (limit : Int) (s : String) : (front limit s).toList <+: s.toList := by
  rw [front, String.toList_ofList]
  exact List.take_prefix _ _

theorem KeptTo.toList_front (h : KeptTo limit s) :
    (front limit s).toList = s.toList.take limit.toNat := by
  rcases Int.lt_or_le limit 0 with hNegative | hPositive
  · obtain hFar | hFar := h
    · exact absurd hNegative (Int.not_lt.2 hFar)
    · -- Nothing is kept on either side.
      rw [toList_front_of_neg hNegative, Int.toNat_eq_zero.2 hFar,
        Int.toNat_eq_zero.2 (Int.le_of_lt hNegative)]
  · exact toList_front_of_nonneg hPositive s

/-- The limit is kept to exactly if no more characters are kept than it says. -/
theorem keptTo_iff_length_le : KeptTo limit s ↔ (front limit s).length ≤ limit.toNat := by
  constructor
  · intro h
    rw [← String.length_toList, h.toList_front]
    exact List.length_take_le _ _
  · intro h
    by_contra hNot
    unfold KeptTo at hNot
    push Not at hNot
    rw [length_front_of_neg hNot.1] at h
    omega

/-- The limit is kept to exactly if no greater limit keeps less. -/
theorem keptTo_iff_prefix :
    KeptTo limit s ↔ ∀ more, limit ≤ more → (front limit s).toList <+: (front more s).toList := by
  constructor
  · intro h more hMore
    rw [h.toList_front]
    rcases Int.lt_or_le limit 0 with hNegative | hPositive
    · rw [Int.toNat_eq_zero.2 (Int.le_of_lt hNegative), List.take_zero]
      exact List.nil_prefix
    · rw [toList_front_of_nonneg (hPositive.trans hMore)]
      exact List.take_prefix_take_left (Int.toNat_le_toNat hMore)
  · intro h
    by_contra hNot
    unfold KeptTo at hNot
    push Not at hNot
    -- Nothing is kept at zero.
    have hLength := (h 0 (Int.le_of_lt hNot.1)).length_le
    rw [toList_front_of_nonneg (Int.le_refl 0), String.length_toList,
      length_front_of_neg hNot.1, Int.toNat_zero, List.take_zero, List.length_nil] at hLength
    omega

/-! ### The text that is given -/

theorem cutTo_eq (limit : Int) (s : String) :
    cutTo limit s = if s.length ≤ limit then s else front limit s ++ "..." := by
  rw [cutTo]
  split
  · rename_i hLess
    rw [if_neg (Int.not_le.2 hLess)]
  · rename_i hLarge
    rw [if_pos (Int.not_lt.1 hLarge)]

/-- The limit is kept to exactly if the text is what it is to be. -/
theorem keptTo_iff_cutTo_eq : KeptTo limit s ↔ cutTo limit s = cutWithin limit s := by
  rw [cutTo_eq, cutWithin]
  constructor
  · intro h
    rw [← h.toList_front, String.ofList_toList]
  · intro h
    split at h
    · exact .inl (by omega)
    · have hKept := congrArg String.length h
      rw [String.length_append, String.length_append] at hKept
      rw [keptTo_iff_length_le, Nat.add_right_cancel hKept, String.length_ofList]
      exact List.length_take_le _ _

/-- A text is cut off at the number that the argument means: it is kept whole if it is no longer
than that, and otherwise its first characters are kept, with dots behind them. They are as many as
the number says, no more than it says, and no more than a greater number keeps, exactly if the
number is not counted from the end of the text. -/
theorem truncate_within_iff (h : Readable argument) (s : String) :
    ∃ limit t, (∀ m, Means 50 argument m ↔ m = limit) ∧
      truncate.act (.text s :: argument.toList) = .done (.text t) ∧
      t = (if s.length ≤ limit then s else front limit s ++ "...") ∧
      (front limit s).toList <+: s.toList ∧
      (KeptTo limit s ↔ t = cutWithin limit s) ∧
      (KeptTo limit s ↔ (front limit s).length ≤ limit.toNat) ∧
      (KeptTo limit s ↔
        ∀ more, limit ≤ more → (front limit s).toList <+: (front more s).toList) := by
  refine ⟨wholeAsked 50 argument, _, fun m => ?_, act_truncate_of_readable h s, cutTo_eq _ s,
    front_isPrefix _ s, keptTo_iff_cutTo_eq, keptTo_iff_length_le, keptTo_iff_prefix⟩
  exact ⟨Means.eq_wholeAsked, fun hSame => hSame ▸ means_wholeAsked 50 argument⟩

/-- A limit that is written with a fraction. -/
theorem truncate_within_iff_fraction :
    let argument : Option Value := some (.text " 2.7")
    Readable argument ∧ KeptTo 2 "abc" ∧
      truncate.act (.text "abc" :: argument.toList) = .done (.text (cutWithin 2 "abc")) := by
  intro argument
  let quanta : Binary64.Quanta :=
    ⟨_, Binary64.fits_roundQuanta (27 * Binary64.one) 10, by decide +kernel⟩
  have hNumber : argument.bind Value.toNumber? = some (.float (.finite false quanta)) := by
    decide +kernel
  have hReadable : Readable argument := by
    intro d hWhole
    rw [hNumber] at hWhole
    cases hWhole
  have hKept : KeptTo 2 "abc" := by decide
  obtain ⟨limit, t, hMeans, hCut, -, -, hText, -⟩ := truncate_within_iff hReadable "abc"
  have hLimit : 2 = limit := (hMeans 2).1 (.finite hNumber (by decide +kernel) (by decide +kernel))
  subst hLimit
  rw [hText.1 hKept] at hCut
  exact ⟨hReadable, hKept, hCut⟩

/-- Below zero, more is kept than at zero. -/
theorem truncate_counts_from_end :
    Means 50 (some (.int (-2))) (-2) ∧
      truncate.act [.text "abcdef", .int (-2)] = .done (.text "abcd...") ∧
      cutWithin (-2) "abcdef" = "..." ∧
      truncate.act [.text "abcdef", .int 0] = .done (.text "...") := by
  have hReadable (n : Int) (h : n.natAbs < 3) : Readable (some (.int n)) := by
    rintro d hSame
    cases hSame
    exact h.trans (by decide +kernel)
  refine ⟨.whole rfl, ?_, by decide +kernel, ?_⟩
  · refine (act_truncate_of_readable (hReadable (-2) (by decide)) "abcdef").trans ?_
    rw [show cutTo (wholeAsked 50 (some (.int (-2)))) "abcdef" = "abcd..." by decide +kernel]
  · refine (act_truncate_of_readable (hReadable 0 (by decide)) "abcdef").trans ?_
    rw [show cutTo (wholeAsked 50 (some (.int 0))) "abcdef" = "..." by decide +kernel]

end Stencil.Helper
