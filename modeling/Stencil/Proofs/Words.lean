import Stencil.Text.Blank

/-!
Words that are written with blanks between them are read back as the same words, also when more
blanks stand around them; and pieces that are written with bars between them are read back as the
same pieces but for the blanks around the bars.
-/

namespace Stencil.Text

/-- Characters that are read as one word. -/
structure Bare (cs : List Char) : Prop where
  ne_nil : cs ≠ []
  blank : ∀ c ∈ cs, isBlank c = false

theorem toNat_of_isDigit {c : Char} (h : c.isDigit = true) : 48 ≤ c.toNat ∧ c.toNat ≤ 57 := by
  simp only [Char.isDigit, Bool.and_eq_true, decide_eq_true_eq] at h
  exact ⟨UInt32.le_iff_toNat_le.1 h.1, UInt32.le_iff_toNat_le.1 h.2⟩

theorem isBlank_of_isDigit {c : Char} (h : c.isDigit = true) : isBlank c = false := by
  have hBounds := toNat_of_isDigit h
  simp only [isBlank, Bool.or_eq_false_iff, Bool.and_eq_false_iff, decide_eq_false_iff_not,
    beq_eq_false_iff_ne]
  omega

/-! ### Words behind one another -/

theorem foldr_wordStep_of_blank {b : Char} (hb : isBlank b = true) (cs : List Char) :
    (b :: cs).foldr wordStep ([], []) = ([], wordChars cs) := by
  rw [List.foldr_cons]
  unfold wordChars
  generalize cs.foldr wordStep ([], []) = state
  obtain ⟨word, later⟩ := state
  cases word with
  | nil => simp [wordStep, hb]
  | cons c word => simp [wordStep, hb]

theorem foldr_wordStep_of_not_blank {word : List Char} (hw : ∀ c ∈ word, isBlank c = false)
    {cs : List Char} {later : List (List Char)} (h : cs.foldr wordStep ([], []) = ([], later)) :
    (word ++ cs).foldr wordStep ([], []) = (word, later) := by
  induction word with
  | nil => exact h
  | cons c word ih =>
    have hc : isBlank c = false := hw c List.mem_cons_self
    rw [List.cons_append, List.foldr_cons, ih fun d hd => hw d (List.mem_cons_of_mem c hd)]
    simp [wordStep, hc]

theorem wordChars_blank_cons {b : Char} (hb : isBlank b = true) (cs : List Char) :
    wordChars (b :: cs) = wordChars cs := by
  rw [wordChars, foldr_wordStep_of_blank hb]

theorem wordChars_append_blank {b : Char} (hb : isBlank b = true) (cs : List Char) :
    wordChars (cs ++ [b]) = wordChars cs := by
  unfold wordChars
  rw [List.foldr_append]
  simp [wordStep, hb]

theorem wordChars_of_bare {word : List Char} (hw : Bare word) : wordChars word = [word] := by
  have h := @foldr_wordStep_of_not_blank word hw.blank [] [] rfl
  rw [List.append_nil] at h
  obtain ⟨c, word, rfl⟩ := List.exists_cons_of_ne_nil hw.ne_nil
  rw [wordChars, h]

theorem wordChars_bare_append {word : List Char} (hw : Bare word) {b : Char}
    (hb : isBlank b = true) (cs : List Char) :
    wordChars (word ++ b :: cs) = word :: wordChars cs := by
  have h := foldr_wordStep_of_not_blank hw.blank (foldr_wordStep_of_blank hb cs)
  obtain ⟨c, word, rfl⟩ := List.exists_cons_of_ne_nil hw.ne_nil
  rw [wordChars, h]

theorem wordChars_intercalate {words : List (List Char)} (hw : ∀ word ∈ words, Bare word) :
    wordChars ([' '].intercalate words) = words := by
  induction words with
  | nil => rfl
  | cons word words ih =>
    have hword : Bare word := hw word List.mem_cons_self
    have htail := ih fun next hn => hw next (List.mem_cons_of_mem word hn)
    cases words with
    | nil =>
      rw [List.intercalate_singleton]
      exact wordChars_of_bare hword
    | cons next words =>
      rw [List.intercalate_cons_cons, List.append_assoc, List.singleton_append,
        wordChars_bare_append hword isBlank_space, htail]

/-! ### Trimming -/

theorem trimFront_of_bare {word : List Char} (hw : Bare word) (cs : List Char) :
    trimFront (word ++ cs) = word ++ cs := by
  obtain ⟨c, word, rfl⟩ := List.exists_cons_of_ne_nil hw.ne_nil
  simp [trimFront, hw.blank c List.mem_cons_self]

theorem Bare.reverse {word : List Char} (hw : Bare word) : Bare word.reverse :=
  ⟨by simpa using hw.ne_nil, fun c hc => hw.blank c (List.mem_reverse.1 hc)⟩

theorem trimFront_blanks {blanks : List Char} (hBlank : ∀ c ∈ blanks, isBlank c = true)
    (cs : List Char) : trimFront (blanks ++ cs) = trimFront cs := by
  induction blanks with
  | nil => rfl
  | cons b blanks ih =>
    have hb : isBlank b = true := hBlank b List.mem_cons_self
    rw [List.cons_append, trimFront, List.dropWhile_cons_of_pos hb]
    exact ih fun c hc => hBlank c (List.mem_cons_of_mem b hc)

/-- Blanks around a word are trimmed. -/
theorem trimChars_blanks {before word behind : List Char} (hw : Bare word)
    (hBefore : ∀ c ∈ before, isBlank c = true) (hBehind : ∀ c ∈ behind, isBlank c = true) :
    trimChars (before ++ word ++ behind) = word := by
  have hReverse : ∀ c ∈ behind.reverse, isBlank c = true :=
    fun c hc => hBehind c (List.mem_reverse.1 hc)
  have hWord : trimFront word.reverse = word.reverse := by
    simpa using trimFront_of_bare hw.reverse []
  rw [trimChars, List.append_assoc, trimFront_blanks hBefore, trimFront_of_bare hw,
    List.reverse_append, trimFront_blanks hReverse, hWord, List.reverse_reverse]

theorem trimChars_of_bare {word : List Char} (hw : Bare word) : trimChars word = word := by
  simpa using @trimChars_blanks [] word [] hw (by simp) (by simp)

theorem trimChars_bare_append {word : List Char} (hw : Bare word) {b : Char}
    (hb : isBlank b = true) : trimChars (word ++ [b]) = word := by
  simpa using @trimChars_blanks [] word [b] hw (by simp) (by simpa using hb)

/-! ### Pieces between separators -/

theorem cutChars_of_not_mem {separator : Char} {cs : List Char} (h : separator ∉ cs) :
    cutChars separator cs = (cs, []) := by
  induction cs with
  | nil => rfl
  | cons c cs ih =>
    have hc : c ≠ separator := fun hc => h (hc ▸ List.mem_cons_self)
    rw [cutChars, ih fun hm => h (List.mem_cons_of_mem c hm)]
    simp [hc]

theorem cutChars_append_cons (separator : Char) (cs later : List Char) :
    cutChars separator (cs ++ separator :: later) =
      ((cutChars separator cs).1,
        (cutChars separator cs).2 ++ (cutChars separator later).1 :: (cutChars separator later).2) := by
  induction cs with
  | nil => simp [cutChars]
  | cons c cs ih =>
    rw [List.cons_append, cutChars, cutChars, ih]
    by_cases hc : c = separator
    · simp only [if_pos hc, List.cons_append]
    · simp only [if_neg hc]

theorem cutChars_append {separator : Char} {cs : List Char} (h : separator ∉ cs)
    (later : List Char) :
    cutChars separator (cs ++ separator :: later) =
      (cs, (cutChars separator later).1 :: (cutChars separator later).2) := by
  rw [cutChars_append_cons, cutChars_of_not_mem h, List.nil_append]

theorem cut_of_not_mem {separator : Char} {s : String} (h : separator ∉ s.toList) :
    cut separator s = [s] := by
  simp [cut, cutChars_of_not_mem h]

theorem cut_append (separator : Char) (before after : String) :
    cut separator (before ++ String.singleton separator ++ after) =
      cut separator before ++ cut separator after := by
  simp [cut, cutChars_append_cons]

/-! ### Pieces between bars -/

theorem cons_intercalate (c : Char) (separator word : List Char) (words : List (List Char)) :
    c :: separator.intercalate (word :: words) = separator.intercalate ((c :: word) :: words) := by
  cases words with
  | nil => simp
  | cons next words => simp [List.intercalate_cons_cons]

/-- The pieces between bars with blanks around them: the first may have a blank behind it, and the
words of the others are those of the pieces that were written. -/
theorem cutChars_intercalate (piece : List Char) (pieces : List (List Char))
    (h : ∀ p ∈ piece :: pieces, '|' ∉ p) :
    ((cutChars '|' ([' ', '|', ' '].intercalate (piece :: pieces))).1 = piece ∨
        (cutChars '|' ([' ', '|', ' '].intercalate (piece :: pieces))).1 = piece ++ [' ']) ∧
      (cutChars '|' ([' ', '|', ' '].intercalate (piece :: pieces))).2.map wordChars =
        pieces.map wordChars := by
  induction pieces generalizing piece with
  | nil =>
    have hp : '|' ∉ piece := h piece List.mem_cons_self
    rw [List.intercalate_singleton, cutChars_of_not_mem hp]
    exact ⟨.inl rfl, rfl⟩
  | cons next pieces ih =>
    have hp : '|' ∉ piece ++ [' '] := by
      simpa using h piece List.mem_cons_self
    have hsplit : [' ', '|', ' '].intercalate (piece :: next :: pieces) =
        (piece ++ [' ']) ++ '|' :: [' ', '|', ' '].intercalate ((' ' :: next) :: pieces) := by
      rw [List.intercalate_cons_cons, ← cons_intercalate]
      simp
    have hnext : ∀ p ∈ (' ' :: next) :: pieces, '|' ∉ p := by
      intro p hm
      rcases List.mem_cons.1 hm with rfl | hm
      · simpa using h next (by simp)
      · exact h p (by simp [hm])
    obtain ⟨hfirst, hlater⟩ := ih (' ' :: next) hnext
    rw [hsplit, cutChars_append hp]
    refine ⟨.inr rfl, ?_⟩
    rw [List.map_cons, List.map_cons, hlater]
    congr 1
    rcases hfirst with hf | hf
    · rw [hf, wordChars_blank_cons isBlank_space]
    · rw [hf, wordChars_append_blank isBlank_space, wordChars_blank_cons isBlank_space]

end Stencil.Text
