import Stencil.Template.Lexeme
import Mathlib.Data.List.TakeWhile
import Mathlib.Tactic.IntervalCases

/-!
What the recognisers find in front of a text that is known so far: names, the ends of tags, and the
shortest runs before an end. Whatever follows plays no part, and that is what makes it possible to
read a text piece by piece.
-/

namespace Stencil.Text

theorem isBlank_iff (c : Char) : isBlank c = true ↔
    9 ≤ c.toNat ∧ c.toNat ≤ 13 ∨ 28 ≤ c.toNat ∧ c.toNat ≤ 32 ∨ c.toNat = 0x85 ∨
      c.toNat = 0xa0 ∨ c.toNat = 0x1680 ∨ 0x2000 ≤ c.toNat ∧ c.toNat ≤ 0x200a ∨
      c.toNat = 0x2028 ∨ c.toNat = 0x2029 ∨ c.toNat = 0x202f ∨ c.toNat = 0x205f ∨
      c.toNat = 0x3000 := by
  simp [isBlank, or_assoc]

/-- No blank may stand in a name. -/
theorem not_isWord_of_isBlank {c : Char} (h : isBlank c = true) : isWord c = false := by
  obtain ⟨n, hn⟩ : ∃ n, n = c.toNat := ⟨_, rfl⟩
  have hc : c = Char.ofNat n := by rw [hn, Char.ofNat_toNat]
  rw [isBlank_iff, ← hn] at h
  rw [hc]
  clear hn hc
  obtain ⟨h1, h2⟩ | ⟨h1, h2⟩ | rfl | rfl | rfl | ⟨h1, h2⟩ | rfl | rfl | rfl | rfl | rfl := h
  all_goals first | decide +kernel | (interval_cases n <;> decide +kernel)

theorem not_isBlank_of_isWord {c : Char} (h : isWord c = true) : isBlank c = false := by
  cases hb : isBlank c with
  | false => rfl
  | true => rw [not_isWord_of_isBlank hb] at h; cases h

end Stencil.Text

namespace Stencil.Scan

open Text

variable {rest run blanks word : List Char}

/-! ### Names -/

/-- A name ends where no word character follows. -/
theorem name_of_word (hne : word ≠ []) (hw : ∀ c ∈ word, isWord c = true)
    (hr : ∀ c ∈ rest.head?, isWord c = false) : name (word ++ rest) = some (word, rest) := by
  have htake : rest.takeWhile isWord = [] := by
    cases rest with
    | nil => rfl
    | cons c rest => simp [hr c rfl]
  have hdrop : rest.dropWhile isWord = rest := by
    cases rest with
    | nil => rfl
    | cons c rest => simp [hr c rfl]
  unfold name
  rw [List.takeWhile_append_of_pos hw, List.dropWhile_append_of_pos hw, htake, hdrop,
    List.append_nil]
  cases word with
  | nil => exact absurd rfl hne
  | cons c word => rfl

/-! ### The fronts of tags -/

/-- A tag begins with two braces and, blanks aside, with its mark. -/
theorem openTag_of_mark {mark : Char} (hm : isBlank mark = false) (rest : List Char) :
    openTag mark ('{' :: '{' :: mark :: rest) = some (['{', '{', mark], rest) := by
  simp [openTag, hm]

theorem openTag_of_ne {mark c : Char} (hb : isBlank c = false) (hc : c ≠ mark)
    (rest : List Char) : openTag mark ('{' :: '{' :: c :: rest) = none := by
  simp [openTag, hb, hc]

/-! ### The ends of tags -/

theorem closeTag_of_blanks (hb : ∀ c ∈ blanks, isBlank c = true) (rest : List Char) :
    closeTag (blanks ++ '}' :: '}' :: rest) = some (blanks ++ ['}', '}'], rest) := by
  have h : isBlank '}' = false := by decide
  unfold closeTag
  rw [List.dropWhile_append_of_pos hb, List.takeWhile_append_of_pos hb]
  simp [h]

@[simp] theorem closeTag_braces (rest : List Char) :
    closeTag ('}' :: '}' :: rest) = some (['}', '}'], rest) := by
  simpa using closeTag_of_blanks (List.forall_mem_nil _) rest

/-- What is recognised as an end is one: blanks and two braces. -/
theorem closeTag_eq_some {cs taken : List Char} (h : closeTag cs = some (taken, rest)) :
    ∃ blanks, (∀ c ∈ blanks, isBlank c = true) ∧ taken = blanks ++ ['}', '}'] ∧
      cs = blanks ++ '}' :: '}' :: rest := by
  have hcs := closeTag_append h
  unfold closeTag at h
  split at h
  · simp only [Option.some.injEq, Prod.mk.injEq] at h
    obtain ⟨rfl, rfl⟩ := h
    refine ⟨cs.takeWhile isBlank, fun c hc => List.mem_takeWhile_imp hc, rfl, ?_⟩
    simpa using hcs.symm
  · cases h

theorem closeTag_cons_of_blank {c : Char} (hb : isBlank c = true) (cs : List Char) :
    closeTag (c :: cs) = (closeTag cs).map fun (taken, rest) => (c :: taken, rest) := by
  unfold closeTag
  simp only [List.dropWhile_cons, List.takeWhile_cons, hb, if_true]
  split
  · rfl
  · rfl

/-- No end stands before a character that is neither a blank nor a brace. -/
theorem closeTag_eq_none (hrun : ∀ c ∈ run, c ≠ '}') (hs : ∃ c ∈ run, isBlank c = false)
    (rest : List Char) : closeTag (run ++ rest) = none := by
  induction run with
  | nil =>
    obtain ⟨c, hc, _⟩ := hs
    cases hc
  | cons c run ih =>
    cases hb : isBlank c with
    | true =>
      obtain ⟨d, hd, hdb⟩ := hs
      have hmem : d ∈ run := by
        rcases List.mem_cons.1 hd with rfl | h
        · rw [hb] at hdb
          cases hdb
        · exact h
      rw [List.cons_append, closeTag_cons_of_blank hb,
        ih (fun x hx => hrun x (List.mem_cons_of_mem c hx)) ⟨d, hmem, hdb⟩]
      rfl
    | false =>
      have hc : c ≠ '}' := hrun c List.mem_cons_self
      simp [closeTag, hb, hc]

/-! ### Runs up to an end -/

/-- A run that can stand before the end of a tag and is read back whole: it holds no closing brace,
and its last character is no blank. -/
structure Solid (run : List Char) : Prop where
  braces : ∀ c ∈ run, c ≠ '}'
  last : ∀ c ∈ run.getLast?, isBlank c = false

theorem Solid.tail {c : Char} (h : Solid (c :: run)) : Solid run := by
  refine ⟨fun d hd => h.braces d (List.mem_cons_of_mem c hd), fun d hd => h.last d ?_⟩
  cases run with
  | nil => cases hd
  | cons b run => simpa using hd

theorem Solid.exists_not_isBlank (h : Solid run) (hne : run ≠ []) :
    ∃ c ∈ run, isBlank c = false :=
  ⟨run.getLast hne, List.getLast_mem hne, h.last _ (List.getLast?_eq_some_getLast hne)⟩

/-- No end stands inside a solid run. -/
theorem Solid.closeTag_eq_none (h : Solid run) (hne : run ≠ []) (rest : List Char) :
    closeTag (run ++ rest) = none :=
  Scan.closeTag_eq_none h.braces (h.exists_not_isBlank hne) rest

theorem shortestArgument_of_solid (h : Solid run) (hne : run ≠ []) (hl : '\n' ∉ run)
    (rest : List Char) :
    shortestArgument (run ++ '}' :: '}' :: rest) = some ⟨some run, run ++ ['}', '}'], rest⟩ := by
  induction run with
  | nil => exact absurd rfl hne
  | cons c run ih =>
    have hc : c ≠ '\n' := fun hc => hl (hc ▸ List.mem_cons_self)
    unfold shortestArgument
    by_cases hrun : run = []
    · subst hrun
      simp [hc]
    · have htail := ih h.tail hrun fun hm => hl (List.mem_cons_of_mem c hm)
      simp [hc, h.tail.closeTag_eq_none hrun, htail]

theorem shortestExpression_of_solid (h : Solid run) (rest : List Char) :
    shortestExpression (run ++ '}' :: '}' :: rest) = some (run, run ++ ['}', '}'], rest) := by
  induction run with
  | nil =>
    unfold shortestExpression
    simp
  | cons c run ih =>
    have hc : c ≠ '}' := h.braces c List.mem_cons_self
    have hclose := h.closeTag_eq_none (List.cons_ne_nil c run) ('}' :: '}' :: rest)
    rw [List.cons_append] at hclose
    rw [List.cons_append]
    unfold shortestExpression
    simp [hclose, hc, ih h.tail]

/-- The rest of a tag without arguments. -/
@[simp] theorem tagTail_braces (rest : List Char) :
    tagTail ('}' :: '}' :: rest) = some ⟨none, ['}', '}'], rest⟩ := by
  have h : isBlank '}' = false := by decide
  simp [tagTail, argumentAfter, h]

/-- The rest of a tag with arguments behind a single blank. -/
theorem tagTail_of_solid (h : Solid run) (hl : '\n' ∉ run)
    (hf : ∃ c ∈ run.head?, isBlank c = false) (rest : List Char) :
    tagTail (' ' :: (run ++ '}' :: '}' :: rest)) =
      some ⟨some run, ' ' :: (run ++ ['}', '}']), rest⟩ := by
  obtain ⟨c, hc, hb⟩ := hf
  obtain ⟨run, rfl⟩ : ∃ later, run = c :: later := by
    cases run with
    | nil => cases hc
    | cons d run =>
      cases hc
      exact ⟨run, rfl⟩
  have harg := shortestArgument_of_solid h (List.cons_ne_nil c run) hl rest
  rw [List.cons_append] at harg
  have htake : (c :: (run ++ '}' :: '}' :: rest)).takeWhile isBlank = [] := by simp [hb]
  have hdrop : (c :: (run ++ '}' :: '}' :: rest)).dropWhile isBlank =
      c :: (run ++ '}' :: '}' :: rest) := by simp [hb]
  simp [tagTail, argumentAfter, htake, hdrop, harg]

/-! ### Whole tags -/

/-- An opening tag is its name and what stands behind it. -/
theorem openingTag_eq (hne : word ≠ []) (hw : ∀ c ∈ word, isWord c = true)
    (hr : ∀ c ∈ rest.head?, isWord c = false) :
    openingTag ('{' :: '{' :: '#' :: (word ++ rest)) = (tagTail rest).map fun tail =>
      ⟨some (.opening (String.ofList word) (tail.arguments.map String.ofList)),
        '{' :: '{' :: '#' :: (word ++ tail.taken), tail.rest⟩ := by
  have hm : isBlank '#' = false := by decide
  unfold openingTag
  rw [openTag_of_mark hm]
  simp only [Option.bind_eq_bind, Option.bind_some, name_of_word hne hw hr]
  cases tagTail rest with
  | none => rfl
  | some tail => rfl

/-- A closing tag is its name with braces around it. -/
theorem closingTag_eq (hne : word ≠ []) (hw : ∀ c ∈ word, isWord c = true) (rest : List Char) :
    closingTag ('{' :: '{' :: '/' :: (word ++ '}' :: '}' :: rest)) =
      some ⟨some (.closing (String.ofList word)), '{' :: '{' :: '/' :: (word ++ ['}', '}']),
        rest⟩ := by
  have hm : isBlank '/' = false := by decide
  have hr : ∀ c ∈ ('}' :: '}' :: rest).head?, isWord c = false := by
    intro c hc
    cases hc
    decide
  unfold closingTag
  rw [openTag_of_mark hm]
  simp only [Option.bind_eq_bind, Option.bind_some, name_of_word hne hw hr, closeTag_braces]
  rfl

/-- The inclusion of a partial is its name, behind a blank, and what stands behind it. -/
theorem inclusionTag_eq (hne : word ≠ []) (hw : ∀ c ∈ word, isWord c = true)
    (hr : ∀ c ∈ rest.head?, isWord c = false) :
    inclusionTag ('{' :: '{' :: '>' :: ' ' :: (word ++ rest)) = (tagTail rest).map fun tail =>
      ⟨some (.inclusion (String.ofList word) (tail.arguments.map String.ofList)),
        '{' :: '{' :: '>' :: ' ' :: (word ++ tail.taken), tail.rest⟩ := by
  have hm : isBlank '>' = false := by decide
  obtain ⟨c, later, rfl⟩ := List.exists_cons_of_ne_nil hne
  have hc : isBlank c = false := not_isBlank_of_isWord (hw c List.mem_cons_self)
  have hfront : (' ' :: (c :: later ++ rest)).takeWhile isBlank = [' '] := by simp [hc]
  have hback : (' ' :: (c :: later ++ rest)).dropWhile isBlank = c :: later ++ rest := by simp [hc]
  unfold inclusionTag
  rw [openTag_of_mark hm]
  simp only [Option.bind_eq_bind, Option.bind_some, hfront, hback, name_of_word hne hw hr]
  cases tagTail rest with
  | none => rfl
  | some tail => rfl

/-- An output tag is an expression in braces. -/
theorem outputTag_eq {c : Char} (hb : isBlank c = false) (hc : c ≠ '#' ∧ c ≠ '/' ∧ c ≠ '>')
    (h : Solid (c :: run)) (rest : List Char) :
    outputTag ('{' :: '{' :: c :: (run ++ '}' :: '}' :: rest)) =
      some ⟨some (.output (String.ofList (c :: run))),
        '{' :: '{' :: c :: (run ++ ['}', '}']), rest⟩ := by
  simp [outputTag, startsExpression, hb, hc, shortestExpression_of_solid h.tail]

/-- Plain text ends before two braces and at the end of the source. -/
theorem textRun_append_of_plain (hb : ¬ ['{', '{'] <:+: run) (hl : run.getLast? ≠ some '{')
    (hr : rest = [] ∨ ∃ later, rest = '{' :: '{' :: later) :
    textRun (run ++ rest) = (run, rest) := by
  induction run with
  | nil =>
    rcases hr with rfl | ⟨later, rfl⟩
    · rfl
    · rfl
  | cons c run ih =>
    have hopen : ¬(c = '{' ∧ (run ++ rest).head? = some '{') := by
      rintro ⟨rfl, hhead⟩
      cases run with
      | nil => exact hl rfl
      | cons d run =>
        cases hhead
        exact hb ⟨[], run, rfl⟩
    have hlast : run.getLast? ≠ some '{' := by
      cases run with
      | nil => simp
      | cons d run => simpa using hl
    have htail := ih (fun h => hb (h.trans (List.suffix_cons c run).isInfix)) hlast
    rw [List.cons_append, textRun, if_neg hopen, htail]

end Stencil.Scan

namespace Stencil.Lexeme

open Scan

/-- The first of the shapes that recognises the front of a text gives the first lexeme. -/
theorem ofCharsIn_of_firstMatch {order : List Shape} {cs : List Char} {m : Match}
    (h : firstMatch order cs = some m) :
    ofCharsIn order cs = ⟨m.kind, m.taken⟩ :: ofCharsIn order m.rest := by
  cases cs with
  | nil => cases (firstMatch_length h)
  | cons c cs =>
    rw [ofCharsIn]
    split
    · rename_i found hfound
      cases hfound.symm.trans h
      rfl
    · rename_i hnone
      cases hnone.symm.trans h

/-- A character at which no shape is recognised is a lexeme. -/
theorem ofCharsIn_of_firstMatch_eq_none {order : List Shape} {c : Char} {cs : List Char}
    (h : firstMatch order (c :: cs) = none) :
    ofCharsIn order (c :: cs) = ⟨some .text, [c]⟩ :: ofCharsIn order cs := by
  rw [ofCharsIn]
  split
  · rename_i found hfound
    cases hfound.symm.trans h
  · rfl

theorem ofChars_of_firstMatch {cs : List Char} {m : Match}
    (h : firstMatch priority cs = some m) : ofChars cs = ⟨m.kind, m.taken⟩ :: ofChars m.rest :=
  ofCharsIn_of_firstMatch h

theorem firstMatch_opening {cs : List Char} {m : Match} (h : openingTag cs = some m) :
    firstMatch priority cs = some m := by
  simp [firstMatch, priority, Shape.match?, h]

theorem firstMatch_closing {cs : List Char} {m : Match}
    (h : closingTag ('{' :: '{' :: '/' :: cs) = some m) :
    firstMatch priority ('{' :: '{' :: '/' :: cs) = some m := by
  have hb : Text.isBlank '/' = false := by decide
  simp [firstMatch, priority, Shape.match?, h, openingTag,
    openTag_of_ne hb (show '/' ≠ '#' by decide)]

theorem firstMatch_inclusion {cs : List Char} {m : Match}
    (h : inclusionTag ('{' :: '{' :: '>' :: cs) = some m) :
    firstMatch priority ('{' :: '{' :: '>' :: cs) = some m := by
  have hb : Text.isBlank '>' = false := by decide
  simp [firstMatch, priority, Shape.match?, h, openingTag, closingTag,
    openTag_of_ne hb (show '>' ≠ '#' by decide), openTag_of_ne hb (show '>' ≠ '/' by decide)]

theorem firstMatch_output {c : Char} (hb : Text.isBlank c = false)
    (hc : c ≠ '#' ∧ c ≠ '/' ∧ c ≠ '>') {cs : List Char} {m : Match}
    (hn : Scan.comment ('{' :: '{' :: c :: cs) = none)
    (h : outputTag ('{' :: '{' :: c :: cs) = some m) :
    firstMatch priority ('{' :: '{' :: c :: cs) = some m := by
  simp [firstMatch, priority, Shape.match?, h, hn, openingTag, closingTag, inclusionTag,
    openTag_of_ne hb hc.1, openTag_of_ne hb hc.2.1, openTag_of_ne hb hc.2.2]

/-- What does not begin with two braces is no tag and no comment. -/
theorem firstMatch_plain {cs : List Char} (h : ¬ ['{', '{'] <+: cs) :
    firstMatch priority cs = plain cs := by
  have hne : ∀ later, cs ≠ '{' :: '{' :: later := by
    rintro later rfl
    exact h ⟨later, rfl⟩
  have hopen : ∀ mark, openTag mark cs = none := by
    intro mark
    unfold openTag
    split
    · exact absurd rfl (hne _)
    · rfl
  have hcomment : Scan.comment cs = none := by
    unfold Scan.comment
    split
    · exact absurd rfl (hne _)
    · rfl
  have houtput : outputTag cs = none := by
    unfold outputTag
    split
    · exact absurd rfl (hne _)
    · rfl
  simp only [firstMatch, priority, List.findSome?_cons, Shape.match?, openingTag, closingTag,
    inclusionTag, hopen, hcomment, houtput, Option.bind_eq_bind, Option.bind_none,
    List.findSome?_nil]
  cases plain cs with
  | none => rfl
  | some m => rfl

end Stencil.Lexeme
