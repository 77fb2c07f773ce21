import Stencil.Diagnostic.Snippet
import Stencil.Proofs.Words
import Mathlib.Algebra.GroupWithZero.Nat
import Mathlib.Data.List.TakeWhile

/-!
Two ways to count lines. Positions count line feeds; the lines that are shown to a reader end at
other characters too. Both see the same lines as far as a line feed, alone or behind a carriage
return, is all that ends one.
-/

namespace Stencil

namespace Text

variable {cs line text rest : List Char} {c : Char} {n : Nat}

/-- The lines of a text as line feeds part them. -/
def feedLines (cs : List Char) : List (List Char) := (cutChars '\n' cs).1 :: (cutChars '\n' cs).2

/-- The lines of a text as a reader sees them. -/
def shownLines (cs : List Char) : List (List Char) :=
  (lineChars cs).1.toList ++ (lineChars cs).2

theorem feedLines_of_not_mem (h : '\n' ∉ line) : feedLines line = [line] := by
  rw [feedLines, cutChars_of_not_mem h]

theorem feedLines_append (h : '\n' ∉ line) (rest : List Char) :
    feedLines (line ++ '\n' :: rest) = line :: feedLines rest := by
  rw [feedLines, cutChars_append h, feedLines]

/-- A text is one line, or a line with a line feed behind it and the text of the later lines. -/
theorem lines_induction {P : List Char → Prop} (last : ∀ line, '\n' ∉ line → P line)
    (step : ∀ line rest, '\n' ∉ line → P rest → P (line ++ '\n' :: rest)) (cs : List Char) :
    P cs := by
  by_cases hFeed : '\n' ∈ cs
  · obtain ⟨line, rest, hChars, hLine⟩ := List.eq_append_cons_of_mem hFeed
    have hShorter : rest.length < cs.length := by
      rw [hChars, List.length_append, List.length_cons]
      omega
    rw [hChars]
    exact step line rest hLine (lines_induction last step rest)
  · exact last cs hFeed
termination_by cs.length

/-! ### Lines that a reader sees -/

theorem lineChars_eq_none (h : (lineChars cs).1 = none) : cs = [] := by
  unfold lineChars at h
  split at h
  · rfl
  · cases h
  · dsimp only at h
    split at h
    · cases h
    · cases h

theorem shownLines_break (h : isLineBreak c = true) (hPair : c = '\r' → cs.head? ≠ some '\n') :
    shownLines (c :: cs) = [] :: shownLines cs := by
  unfold shownLines
  rw [lineChars]
  · simp only [h, if_true]
    rfl
  · rintro rest hc rfl
    exact hPair hc rfl

theorem shownLines_pair (cs : List Char) : shownLines ('\r' :: '\n' :: cs) = [] :: shownLines cs :=
  rfl

theorem shownLines_feed (cs : List Char) : shownLines ('\n' :: cs) = [] :: shownLines cs :=
  shownLines_break rfl fun h => absurd h (by decide)

theorem shownLines_ordinary (h : isLineBreak c = false) :
    shownLines (c :: cs) = (c :: (shownLines cs).headD []) :: (shownLines cs).tail := by
  have hLine : c ≠ '\r' := fun hc => by
    rw [hc] at h
    cases h
  unfold shownLines
  rw [lineChars]
  · simp only [h]
    cases hRest : (lineChars cs).1 with
    | some line => rfl
    | none =>
      rw [lineChars_eq_none hRest]
      rfl
  · exact fun rest hc _ => hLine hc

theorem exists_cons_shownLines (h : cs ≠ []) : ∃ first later, shownLines cs = first :: later := by
  unfold shownLines
  cases hLine : (lineChars cs).1 with
  | none => exact absurd (lineChars_eq_none hLine) h
  | some first => exact ⟨first, (lineChars cs).2, rfl⟩

/-- A text begins with a carriage return and a line feed, with another end of a line, or with a
character that ends none. -/
theorem shownLines_induction {P : List Char → Prop} (nil : P [])
    (pair : ∀ cs, P cs → P ('\r' :: '\n' :: cs))
    (ends : ∀ c cs, isLineBreak c = true → (c = '\r' → cs.head? ≠ some '\n') → P cs → P (c :: cs))
    (ordinary : ∀ c cs, isLineBreak c = false → P cs → P (c :: cs)) (cs : List Char) : P cs := by
  fun_induction lineChars cs with
  | case1 => exact nil
  | case2 cs line later _ ih => exact pair cs ih
  | case3 c cs hPair line later _ hBreak ih =>
    refine ends c cs hBreak (fun hc hHead => ?_) ih
    obtain ⟨rest, hRest⟩ := List.head?_eq_some_iff.1 hHead
    exact hPair rest hc hRest
  | case4 c cs hPair line later _ hBreak ih =>
    exact ordinary c cs (Bool.eq_false_iff.2 hBreak) ih

/-- Lines are made of the characters of the text that end none. -/
theorem mem_shownLines (hText : text ∈ shownLines cs) (hMem : c ∈ text) :
    c ∈ cs ∧ isLineBreak c = false := by
  induction cs using shownLines_induction generalizing text with
  | nil => cases hText
  | pair cs ih =>
    rw [shownLines_pair] at hText
    rcases List.mem_cons.1 hText with rfl | hText
    · cases hMem
    · exact (ih hText hMem).imp (fun h => List.mem_cons_of_mem _ (List.mem_cons_of_mem _ h)) id
  | ends d cs hBreak hPair ih =>
    rw [shownLines_break hBreak hPair] at hText
    rcases List.mem_cons.1 hText with rfl | hText
    · cases hMem
    · exact (ih hText hMem).imp (List.mem_cons_of_mem _) id
  | ordinary d cs hOrdinary ih =>
    rw [shownLines_ordinary hOrdinary] at hText
    have hLater (h : ∃ line ∈ shownLines cs, c ∈ line) : c ∈ d :: cs ∧ isLineBreak c = false := by
      obtain ⟨line, hLine, hMem⟩ := h
      exact (ih hLine hMem).imp (List.mem_cons_of_mem _) id
    rcases List.mem_cons.1 hText with rfl | hText
    · rcases List.mem_cons.1 hMem with rfl | hMem
      · exact ⟨List.mem_cons_self, hOrdinary⟩
      · cases hLines : shownLines cs with
        | nil =>
          rw [hLines] at hMem
          cases hMem
        | cons first later =>
          rw [hLines] at hMem
          exact hLater ⟨first, hLines ▸ List.mem_cons_self, hMem⟩
    · exact hLater ⟨text, List.mem_of_mem_tail hText, hMem⟩

/-- Characters that end no line belong to the first line of what follows. -/
theorem shownLines_append {later : List (List Char)} (hText : ∀ c ∈ text, isLineBreak c = false)
    (h : shownLines rest = line :: later) :
    shownLines (text ++ rest) = (text ++ line) :: later := by
  induction text with
  | nil => exact h
  | cons c text ih =>
    obtain ⟨hOrdinary, hText⟩ := List.forall_mem_cons.1 hText
    rw [List.cons_append, shownLines_ordinary hOrdinary, ih hText]
    rfl

/-- What ends with a line feed is shown apart from what stands behind it. -/
theorem exists_shownLines_append (hLine : '\n' ∉ line) (rest : List Char) :
    ∃ first later, shownLines (line ++ '\n' :: rest) = (first :: later) ++ shownLines rest := by
  induction line with
  | nil => exact ⟨[], [], shownLines_feed rest⟩
  | cons c line ih =>
    obtain ⟨first, later, hShown⟩ := ih fun h => hLine (List.mem_cons_of_mem c h)
    rw [List.cons_append]
    by_cases hBreak : isLineBreak c = true
    · by_cases hPair : c = '\r' ∧ line = []
      · obtain ⟨rfl, rfl⟩ := hPair
        exact ⟨[], [], shownLines_pair rest⟩
      · refine ⟨[], first :: later, ?_⟩
        rw [shownLines_break hBreak, hShown]
        · rfl
        · intro hc
          cases line with
          | nil => exact absurd ⟨hc, rfl⟩ hPair
          | cons d line =>
            intro hHead
            cases hHead
            exact hLine (List.mem_cons_of_mem c List.mem_cons_self)
    · refine ⟨c :: first, later, ?_⟩
      rw [shownLines_ordinary (Bool.eq_false_iff.2 hBreak), hShown]
      rfl

/-! ### Lines that end at line feeds only -/

/-- The text is that of the line; if a carriage return stands at the end, it may be left out. -/
def IsTextOf (text line : List Char) : Prop := line = text ∨ line = text ++ ['\r']

/-- The line holds no end of a line, but for a carriage return at its own end. -/
def Unbroken (line : List Char) : Prop :=
  ∃ text, IsTextOf text line ∧ ∀ c ∈ text, isLineBreak c = false

theorem exists_shownLines_of_unbroken (h : Unbroken line) (rest : List Char) :
    ∃ text, IsTextOf text line ∧
      shownLines (line ++ '\n' :: rest) = text :: shownLines rest := by
  obtain ⟨text, hLine | hLine, hText⟩ := h
  · refine ⟨text, .inl hLine, ?_⟩
    rw [hLine, shownLines_append hText (shownLines_feed rest), List.append_nil]
  · refine ⟨text, .inr hLine, ?_⟩
    rw [hLine, List.append_assoc, List.singleton_append,
      shownLines_append hText (shownLines_pair rest), List.append_nil]

theorem shownLines_of_ordinary (hText : ∀ c ∈ text, isLineBreak c = false) (hSome : text ≠ []) :
    shownLines text = [text] := by
  induction text with
  | nil => exact absurd rfl hSome
  | cons c text ih =>
    obtain ⟨hOrdinary, hText⟩ := List.forall_mem_cons.1 hText
    rw [shownLines_ordinary hOrdinary]
    cases text with
    | nil => rfl
    | cons d text =>
      rw [ih hText (List.cons_ne_nil d text)]
      rfl

/-- Of a last line, its text is shown, or nothing if it is empty. -/
theorem shownLines_of_unbroken (h : Unbroken line) :
    shownLines line = [] ∨ ∃ text, IsTextOf text line ∧ shownLines line = [text] := by
  obtain ⟨text, hLine, hText⟩ := h
  rcases id hLine with rfl | rfl
  · by_cases hSome : line = []
    · exact .inl (hSome ▸ rfl)
    · exact .inr ⟨line, hLine, shownLines_of_ordinary hText hSome⟩
  · refine .inr ⟨text, hLine, ?_⟩
    have hReturn : shownLines ['\r'] = [[]] := rfl
    rw [shownLines_append hText hReturn, List.append_nil]

/-- If the lines up to one hold no other ends of lines, then what is shown with its number is its
text. -/
theorem isTextOf_of_getElem? (hLines : ∀ line ∈ (feedLines cs).take (n + 1), Unbroken line)
    (h : (shownLines cs)[n]? = some text) :
    ∃ line, (feedLines cs)[n]? = some line ∧ IsTextOf text line := by
  induction cs using lines_induction generalizing n with
  | last line hFeed =>
    rw [feedLines_of_not_mem hFeed] at hLines ⊢
    have hLine : Unbroken line := hLines line List.mem_cons_self
    rcases shownLines_of_unbroken hLine with hNone | ⟨shown, hShown, hOne⟩
    · rw [hNone] at h
      cases h
    · rw [hOne] at h
      cases n with
      | zero =>
        cases h
        exact ⟨line, rfl, hShown⟩
      | succ n => cases h
  | step line rest hFeed ih =>
    rw [feedLines_append hFeed] at hLines ⊢
    obtain ⟨shown, hShown, hAll⟩ :=
      exists_shownLines_of_unbroken (hLines line List.mem_cons_self) rest
    rw [hAll] at h
    cases n with
    | zero =>
      cases h
      exact ⟨line, rfl, hShown⟩
    | succ n => exact ih (fun later hLater => hLines later (List.mem_cons_of_mem _ hLater)) h

/-- Of a line that is not empty, something is shown. -/
theorem exists_shown (h : (feedLines cs)[n]? = some line) (hLine : line ≠ []) :
    ∃ text, (shownLines cs)[n]? = some text := by
  suffices hLength : n < (shownLines cs).length from ⟨_, List.getElem?_eq_getElem hLength⟩
  induction cs using lines_induction generalizing n with
  | last all hFeed =>
    rw [feedLines_of_not_mem hFeed] at h
    cases n with
    | zero =>
      cases h
      obtain ⟨first, later, hShown⟩ := exists_cons_shownLines hLine
      rw [hShown]
      exact Nat.succ_pos _
    | succ n => cases h
  | step first rest hFeed ih =>
    rw [feedLines_append hFeed] at h
    obtain ⟨text, later, hShown⟩ := exists_shownLines_append hFeed rest
    rw [hShown, List.length_append, List.length_cons]
    cases n with
    | zero => omega
    | succ n =>
      have hLater := ih h
      omega

/-! ### Positions -/

theorem cutChars_front (h : '\n' ∉ line) (rest : List Char) :
    cutChars '\n' (line ++ rest) = (line ++ (cutChars '\n' rest).1, (cutChars '\n' rest).2) := by
  induction line with
  | nil => rfl
  | cons c line ih =>
    have hc : c ≠ '\n' := fun hc => h (hc ▸ List.mem_cons_self)
    rw [List.cons_append, cutChars, ih fun hMem => h (List.mem_cons_of_mem c hMem)]
    simp [hc]

theorem behind_of_not_mem (h : '\n' ∉ line) : Position.behind line = ⟨1, line.length⟩ := by
  have hAll : ∀ c ∈ line.reverse, decide (c ≠ '\n') = true := by
    intro c hc
    exact decide_eq_true fun hSame => h (hSame ▸ List.mem_reverse.1 hc)
  have hTake : line.reverse.takeWhile (· ≠ '\n') = line.reverse := List.takeWhile_eq_self_iff.2 hAll
  rw [Position.behind, List.count_eq_zero.2 h, hTake, List.length_reverse]

theorem behind_append (h : '\n' ∉ line) (later : List Char) :
    Position.behind (line ++ '\n' :: later) =
      ⟨(Position.behind later).line + 1, (Position.behind later).column⟩ := by
  have hColumn : (line ++ '\n' :: later).reverse.takeWhile (· ≠ '\n') =
      later.reverse.takeWhile (· ≠ '\n') := by
    rw [List.reverse_append, List.reverse_cons, List.append_assoc, List.takeWhile_append]
    split
    · rename_i hLength
      have hNone : (['\n'] ++ line.reverse).takeWhile (· ≠ '\n') = [] := rfl
      rw [hNone, List.append_nil]
      exact ((List.takeWhile_prefix _).eq_of_length hLength).symm
    · rfl
  rw [Position.behind, Position.behind, hColumn, List.count_append, List.count_eq_zero.2 h,
    List.count_cons_self, Nat.zero_add]

/-- The lines before a position, one character more for each, and the column count up to it; and
what is on its line from there on and the lines behind it are the lines of what follows. -/
theorem exists_feedLines_behind (front rest : List Char) :
    ∃ before line after, feedLines (front ++ rest) = before ++ line :: after ∧
      before.length + 1 = (Position.behind front).line ∧
      (Position.behind front).column ≤ line.length ∧
      (before.map fun line => line.length + 1).sum + (Position.behind front).column =
        front.length ∧
      line.drop (Position.behind front).column :: after = feedLines rest := by
  induction front using lines_induction with
  | last line hFeed =>
    refine ⟨[], line ++ (cutChars '\n' rest).1, (cutChars '\n' rest).2, ?_⟩
    rw [feedLines, cutChars_front hFeed, behind_of_not_mem hFeed, List.drop_left]
    refine ⟨rfl, rfl, ?_, Nat.zero_add _, rfl⟩
    rw [List.length_append]
    exact Nat.le_add_right _ _
  | step first later hFeed ih =>
    obtain ⟨before, line, after, hLines, hNumber, hColumn, hCount, hRest⟩ := ih
    refine ⟨first :: before, line, after, ?_⟩
    rw [List.append_assoc, List.cons_append, feedLines_append hFeed, hLines, behind_append hFeed]
    refine ⟨rfl, ?_, hColumn, ?_, hRest⟩
    · rw [List.length_cons, hNumber]
    · rw [List.map_cons, List.sum_cons, List.length_append, List.length_cons, ← hCount]
      dsimp only
      omega

/-- The lines with line feeds between them are the text. -/
theorem intercalate_feedLines (cs : List Char) : ['\n'].intercalate (feedLines cs) = cs := by
  induction cs using lines_induction with
  | last line hFeed => rw [feedLines_of_not_mem hFeed, List.intercalate_singleton]
  | step line rest hFeed ih =>
    have hStep : ['\n'].intercalate (line :: feedLines rest) =
        line ++ ['\n'] ++ ['\n'].intercalate (feedLines rest) := List.intercalate_cons_cons
    rw [feedLines_append hFeed, hStep, ih, List.append_assoc]
    rfl

theorem lines_eq_map (s : String) : lines s = (shownLines s.toList).map String.ofList := rfl

theorem getElem?_lines {s : String} {n : Nat} {text : String} :
    (lines s)[n]? = some text ↔ (shownLines s.toList)[n]? = some text.toList := by
  rw [lines_eq_map, List.getElem?_map, Option.map_eq_some_iff]
  constructor
  · rintro ⟨line, hLine, rfl⟩
    rw [String.toList_ofList, hLine]
  · intro h
    exact ⟨text.toList, h, String.ofList_toList⟩

end Text

/-- A snippet holds the lines up to some distance from the wrong one, each with its number. -/
theorem Snippet.mem_around_iff {source : String} {errorLine context number : Int}
    {column : Option Int} {text : String} :
    (number, text) ∈ (around source errorLine context column).lines ↔
      ∃ i : Nat, (errorLine - 1 - context).toNat ≤ i ∧ i < (errorLine + context).toNat ∧
        (Text.shownLines source.toList)[i]? = some text.toList ∧ number = i + 1 := by
  generalize hFirst : (errorLine - 1 - context).toNat = first
  generalize hLast : (errorLine + context).toNat = last
  have hTake (i : Nat) : (((Text.lines source).zipIdx.take last).drop first)[i]? =
      if first + i < last then ((Text.lines source)[first + i]?).map (·, first + i) else none := by
    rw [List.getElem?_drop, List.getElem?_take, List.getElem?_zipIdx, Nat.zero_add]
  simp only [around, hFirst, hLast, List.mem_map]
  constructor
  · rintro ⟨⟨line, i⟩, hMem, hSame⟩
    cases hSame
    obtain ⟨j, hj⟩ := List.mem_iff_getElem?.1 hMem
    rw [hTake] at hj
    split at hj
    · rename_i hBound
      obtain ⟨found, hFound, hPair⟩ := Option.map_eq_some_iff.1 hj
      cases hPair
      exact ⟨first + j, Nat.le_add_right _ _, hBound, Text.getElem?_lines.1 hFound, rfl⟩
    · cases hj
  · rintro ⟨i, hLow, hHigh, hText, rfl⟩
    refine ⟨(text, i), List.mem_iff_getElem?.2 ⟨i - first, ?_⟩, rfl⟩
    rw [hTake, Nat.add_sub_cancel' hLow, if_pos hHigh, Text.getElem?_lines.2 hText]
    rfl

end Stencil
