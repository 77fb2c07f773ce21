import Stencil.Proofs.Scanning
import Stencil.Template.Print

/-!
Where a tag without arguments ends. It ends at its own braces unless blanks stand before them and
another pair of closing braces can be reached from there without leaving the line: then all that
lies between becomes its argument.
-/

namespace Stencil

open Text Scan

/-- The token as many characters further on. -/
def Token.shift (distance : Nat) (token : Token) : Token :=
  { token with offset := token.offset + distance }

/-- In front of the text, the tag is a token with nothing but blanks for arguments, and the text
behind it is read as if it stood alone. -/
def StandsAlone (kind : Option String → Token.Kind) (tag rest : String) : Prop :=
  ∃ arguments : Option String,
    (∀ text ∈ arguments, ∀ c ∈ text.toList, isBlank c = true) ∧
      tokenize (tag ++ rest) =
        ⟨kind arguments, tag, 0⟩ :: (tokenize rest).map (Token.shift tag.length)

/-- From the second of two closing braces on, another pair of closing braces follows a run within
one line, with blanks before it at most. The run may be empty, and it may start with the brace. -/
def MoreBraces (rest : List Char) : Prop :=
  ∃ run blanks later, '}' :: rest = run ++ (blanks ++ '}' :: '}' :: later) ∧ '\n' ∉ run ∧
    ∀ c ∈ blanks, isBlank c = true

/-! ### Arguments behind blanks -/

theorem shortestArgument_eq_some {cs : List Char} {tail : Tail}
    (h : shortestArgument cs = some tail) :
    ∃ run blanks, run ≠ [] ∧ '\n' ∉ run ∧ (∀ c ∈ blanks, isBlank c = true) ∧
      tail.arguments = some run ∧ tail.taken = run ++ (blanks ++ ['}', '}']) ∧
      cs = run ++ (blanks ++ '}' :: '}' :: tail.rest) := by
  induction cs generalizing tail with
  | nil => cases h
  | cons c cs ih =>
    unfold shortestArgument at h
    split at h
    · cases h
    · rename_i hc
      split at h
      · rename_i taken rest hclose
        obtain ⟨blanks, hb, rfl, rfl⟩ := closeTag_eq_some hclose
        cases h
        exact ⟨[c], blanks, List.cons_ne_nil _ _, by simpa using Ne.symm hc, hb, rfl, rfl, rfl⟩
      · simp only [Option.map_eq_some_iff] at h
        obtain ⟨inner, hi, rfl⟩ := h
        obtain ⟨run, blanks, -, hl, hb, harg, htaken, hcs⟩ := ih hi
        refine ⟨c :: run, blanks, List.cons_ne_nil _ _, ?_, hb, ?_, ?_, ?_⟩
        · simpa [Ne.symm hc] using hl
        · simp [harg]
        · simp [htaken]
        · simp [hcs]

/-- Where an end can be reached within the line there is an argument. -/
theorem shortestArgument_ne_none {run blanks : List Char} (hne : run ≠ []) (hl : '\n' ∉ run)
    (hb : ∀ c ∈ blanks, isBlank c = true) (later : List Char) :
    shortestArgument (run ++ (blanks ++ '}' :: '}' :: later)) ≠ none := by
  induction run with
  | nil => exact absurd rfl hne
  | cons c run ih =>
    have hc : c ≠ '\n' := fun hc => hl (hc ▸ List.mem_cons_self)
    rw [List.cons_append]
    unfold shortestArgument
    rw [if_neg hc]
    split
    · exact Option.some_ne_none _
    · rename_i hclose
      have hrun : run ≠ [] := by
        rintro rfl
        rw [List.nil_append, closeTag_of_blanks hb] at hclose
        cases hclose
      have := ih hrun fun hm => hl (List.mem_cons_of_mem c hm)
      rwa [ne_eq, Option.map_eq_none_iff]

theorem shortestArgument_braces (rest : List Char) :
    shortestArgument ('}' :: '}' :: rest) ≠ none ↔ MoreBraces rest := by
  constructor
  · intro h
    obtain ⟨tail, ht⟩ := Option.ne_none_iff_exists'.1 h
    obtain ⟨run, blanks, hne, hl, hb, -, -, hcs⟩ := shortestArgument_eq_some ht
    obtain ⟨c, run, rfl⟩ := List.exists_cons_of_ne_nil hne
    refine ⟨run, blanks, tail.rest, ?_, fun hm => hl (List.mem_cons_of_mem c hm), hb⟩
    exact (List.cons.inj hcs).2
  · rintro ⟨run, blanks, later, hcs, hl, hb⟩
    rw [hcs, ← List.cons_append]
    refine shortestArgument_ne_none (List.cons_ne_nil _ _) ?_ hb later
    simpa using hl

/-- If an argument starts right behind the blanks, all blanks stand before it. -/
theorem argumentAfter_of_some {blanks body : List Char} (hne : blanks ≠ []) {tail : Tail}
    (h : shortestArgument body = some tail) :
    argumentAfter blanks body = some { tail with taken := blanks ++ tail.taken } := by
  induction blanks with
  | nil => exact absurd rfl hne
  | cons c blanks ih =>
    unfold argumentAfter
    cases blanks with
    | nil => simp [argumentAfter, h]
    | cons b blanks => simp [ih (List.cons_ne_nil _ _)]

/-- If none starts there, a blank can be the argument, and the tag ends at the next braces. -/
theorem argumentAfter_of_none {blanks : List Char} (hb : ∀ c ∈ blanks, isBlank c = true)
    {rest : List Char} (h : shortestArgument ('}' :: '}' :: rest) = none) :
    argumentAfter blanks ('}' :: '}' :: rest) = none ∨
      ∃ b, isBlank b = true ∧ argumentAfter blanks ('}' :: '}' :: rest) =
        some ⟨some [b], blanks ++ ['}', '}'], rest⟩ := by
  induction blanks with
  | nil => exact .inl rfl
  | cons c blanks ih =>
    have hb' : ∀ d ∈ blanks, isBlank d = true := fun d hd => hb d (List.mem_cons_of_mem c hd)
    unfold argumentAfter
    rcases ih hb' with hi | ⟨b, hbb, hi⟩
    · rw [hi]
      cases blanks with
      | nil => exact .inl (by simp [h])
      | cons b blanks =>
        have hclose := closeTag_of_blanks (fun d hd => hb' d (List.mem_cons_of_mem b hd)) rest
        by_cases hn : b = '\n'
        · exact .inl (by simp [shortestArgument, hn])
        · exact .inr ⟨b, hb' b List.mem_cons_self, by simp [shortestArgument, hn, hclose]⟩
    · rw [hi]
      exact .inr ⟨b, hbb, rfl⟩

/-! ### The rest of a tag behind its name -/

theorem takeWhile_blanks {blanks : List Char} (hb : ∀ c ∈ blanks, isBlank c = true)
    (rest : List Char) : (blanks ++ '}' :: '}' :: rest).takeWhile isBlank = blanks := by
  have h : isBlank '}' = false := by decide
  rw [List.takeWhile_append_of_pos hb]
  simp [h]

theorem dropWhile_blanks {blanks : List Char} (hb : ∀ c ∈ blanks, isBlank c = true)
    (rest : List Char) :
    (blanks ++ '}' :: '}' :: rest).dropWhile isBlank = '}' :: '}' :: rest := by
  have h : isBlank '}' = false := by decide
  rw [List.dropWhile_append_of_pos hb]
  simp [h]

theorem tagTail_of_moreBraces {blanks rest : List Char} (hb : ∀ c ∈ blanks, isBlank c = true)
    (hne : blanks ≠ []) (h : MoreBraces rest) :
    ∃ tail, tagTail (blanks ++ '}' :: '}' :: rest) = some tail ∧
      blanks.length + 2 < tail.taken.length := by
  obtain ⟨tail, ht⟩ := Option.ne_none_iff_exists'.1 ((shortestArgument_braces rest).2 h)
  obtain ⟨run, more, hrun, -, -, -, htaken, -⟩ := shortestArgument_eq_some ht
  refine ⟨{ tail with taken := blanks ++ tail.taken }, ?_, ?_⟩
  · unfold tagTail
    rw [takeWhile_blanks hb, dropWhile_blanks hb, argumentAfter_of_some hne ht]
  · have hpos := List.length_pos_iff.2 hrun
    simp only [htaken, List.length_append, List.length_cons, List.length_nil]
    omega

theorem tagTail_of_not_moreBraces {blanks rest : List Char}
    (hb : ∀ c ∈ blanks, isBlank c = true) (h : blanks = [] ∨ ¬ MoreBraces rest) :
    ∃ arguments : Option (List Char),
      (∀ run ∈ arguments, ∀ c ∈ run, isBlank c = true) ∧
        tagTail (blanks ++ '}' :: '}' :: rest) =
          some ⟨arguments, blanks ++ ['}', '}'], rest⟩ := by
  unfold tagTail
  rw [takeWhile_blanks hb, dropWhile_blanks hb]
  have hafter : argumentAfter blanks ('}' :: '}' :: rest) = none ∨
      ∃ b, isBlank b = true ∧ argumentAfter blanks ('}' :: '}' :: rest) =
        some ⟨some [b], blanks ++ ['}', '}'], rest⟩ := by
    rcases h with rfl | h
    · exact .inl rfl
    · rw [← shortestArgument_braces, not_not] at h
      exact argumentAfter_of_none hb h
  rcases hafter with ha | ⟨b, hbb, ha⟩
  · refine ⟨none, fun run hrun => ?_, ?_⟩
    · cases hrun
    · rw [ha, closeTag_of_blanks hb]
      rfl
  · refine ⟨some [b], fun run hrun c hc => ?_, ?_⟩
    · cases hrun
      rwa [List.mem_singleton.1 hc]
    · rw [ha]

/-! ### Tokens in front of a text -/

theorem tokensFrom_add (distance start : Nat) (lexemes : List Lexeme) :
    Lexeme.tokensFrom (start + distance) lexemes =
      (Lexeme.tokensFrom start lexemes).map (Token.shift distance) := by
  induction lexemes generalizing start with
  | nil => rfl
  | cons lexeme later ih =>
    have hstart : start + distance + lexeme.text.length =
        start + lexeme.text.length + distance := by omega
    cases hk : lexeme.kind with
    | none => simp only [Lexeme.tokensFrom, hk, hstart, ih]
    | some kind => simp only [Lexeme.tokensFrom, hk, hstart, ih, List.map_cons, Token.shift]

theorem tokenize_of_firstMatch {kind : Token.Kind} {taken rest : List Char} {source : String}
    (h : Lexeme.firstMatch Lexeme.priority source.toList = some ⟨some kind, taken, rest⟩) :
    tokenize source = ⟨kind, String.ofList taken, 0⟩ ::
      (tokenize (String.ofList rest)).map (Token.shift taken.length) := by
  unfold tokenize
  rw [Lexeme.ofChars_of_firstMatch h, String.toList_ofList, ← tokensFrom_add]
  rfl

/-- A tag whose recognition does not depend on what comes later decides the first token. -/
theorem standsAlone_iff_of_tagTail {kind : Option String → Token.Kind} {tag rest : String}
    (front : List Char) {blanks : List Char} (hb : ∀ c ∈ blanks, isBlank c = true)
    (htag : tag.toList = front ++ (blanks ++ ['}', '}']))
    (hmatch : ∀ tail, tagTail (blanks ++ '}' :: '}' :: rest.toList) = some tail →
      Lexeme.firstMatch Lexeme.priority (front ++ (blanks ++ '}' :: '}' :: rest.toList)) =
        some ⟨some (kind (tail.arguments.map String.ofList)), front ++ tail.taken, tail.rest⟩) :
    StandsAlone kind tag rest ↔ blanks = [] ∨ ¬ MoreBraces rest.toList := by
  have hsource : (tag ++ rest).toList = front ++ (blanks ++ '}' :: '}' :: rest.toList) := by
    simp [htag]
  constructor
  · rintro ⟨arguments, -, htokens⟩
    by_contra hnot
    obtain ⟨hne, hmore⟩ := not_or.1 hnot
    obtain ⟨tail, htail, hlong⟩ := tagTail_of_moreBraces hb hne (not_not.1 hmore)
    rw [tokenize_of_firstMatch (hsource ▸ hmatch tail htail)] at htokens
    have hlexeme : String.ofList (front ++ tail.taken) = tag :=
      congrArg Token.lexeme (List.cons.inj htokens).1
    have hlength := congrArg (·.toList.length) hlexeme
    simp only [String.toList_ofList, htag, List.length_append, List.length_cons,
      List.length_nil] at hlength
    omega
  · intro h
    obtain ⟨arguments, hblank, htail⟩ := tagTail_of_not_moreBraces hb h
    refine ⟨arguments.map String.ofList, fun text htext c hc => ?_, ?_⟩
    · obtain ⟨run, hrun, rfl⟩ := Option.mem_map.1 htext
      rw [String.toList_ofList] at hc
      exact hblank run hrun c hc
    · rw [tokenize_of_firstMatch (hsource ▸ hmatch _ htail)]
      simp only [← htag, String.ofList_toList, String.length_toList]

/-- What may stand behind the name of a tag without arguments ends the name. -/
theorem not_isWord_head {blanks : List Char} (hb : ∀ c ∈ blanks, isBlank c = true)
    (rest : List Char) : ∀ c ∈ (blanks ++ '}' :: '}' :: rest).head?, isWord c = false := by
  intro c hc
  cases blanks with
  | nil =>
    cases hc
    decide
  | cons b later =>
    cases hc
    exact not_isWord_of_isBlank (hb c List.mem_cons_self)

section

variable {name blanks : String} (hne : name ≠ "") (hw : ∀ c ∈ name.toList, isWord c = true)
  (hb : ∀ c ∈ blanks.toList, isBlank c = true)
include hne hw hb

theorem standsAlone_opening_iff (rest : String) :
    StandsAlone (.opening name) (Node.tag ("#" ++ name ++ blanks)) rest ↔
      blanks = "" ∨ ¬ MoreBraces rest.toList := by
  have hchars : name.toList ≠ [] := fun h => hne (String.toList_eq_nil_iff.1 h)
  rw [standsAlone_iff_of_tagTail ('{' :: '{' :: '#' :: name.toList) hb ?_ ?_,
    String.toList_eq_nil_iff]
  · simp [Node.tag]
  · intro tail htail
    refine Lexeme.firstMatch_opening ?_
    have := openingTag_eq hchars hw (not_isWord_head hb rest.toList)
    simpa [htail] using this

theorem standsAlone_inclusion_iff (rest : String) :
    StandsAlone (.inclusion name) (Node.tag ("> " ++ name ++ blanks)) rest ↔
      blanks = "" ∨ ¬ MoreBraces rest.toList := by
  have hchars : name.toList ≠ [] := fun h => hne (String.toList_eq_nil_iff.1 h)
  rw [standsAlone_iff_of_tagTail ('{' :: '{' :: '>' :: ' ' :: name.toList) hb ?_ ?_,
    String.toList_eq_nil_iff]
  · simp [Node.tag]
  · intro tail htail
    refine Lexeme.firstMatch_inclusion ?_
    have := inclusionTag_eq hchars hw (not_isWord_head hb rest.toList)
    simpa [htail] using this

end

/-- The exact condition under which a tag without arguments ends at its own braces, for opening tags
and for inclusions. -/
theorem standsAlone_iff {name blanks : String} (hne : name ≠ "")
    (hw : ∀ c ∈ name.toList, isWord c = true) (hb : ∀ c ∈ blanks.toList, isBlank c = true)
    (rest : String) :
    (StandsAlone (.opening name) (Node.tag ("#" ++ name ++ blanks)) rest ↔
        blanks = "" ∨ ¬ MoreBraces rest.toList) ∧
      (StandsAlone (.inclusion name) (Node.tag ("> " ++ name ++ blanks)) rest ↔
        blanks = "" ∨ ¬ MoreBraces rest.toList) :=
  ⟨standsAlone_opening_iff hne hw hb rest, standsAlone_inclusion_iff hne hw hb rest⟩

/-- With a blank before the braces it matters what follows on the line. -/
theorem standsAlone_iff_if_blank :
    ("if" ≠ "" ∧ (∀ c ∈ "if".toList, isWord c = true) ∧ ∀ c ∈ " ".toList, isBlank c = true) ∧
      (StandsAlone (.opening "if") (Node.tag ("#" ++ "if" ++ " ")) "x\n\x7d\x7d" ↔
        " " = "" ∨ ¬ MoreBraces "x\n\x7d\x7d".toList) ∧
      (StandsAlone (.inclusion "if") (Node.tag ("> " ++ "if" ++ " ")) "x\n\x7d\x7d" ↔
        " " = "" ∨ ¬ MoreBraces "x\n\x7d\x7d".toList) := by
  have hname : "if" ≠ "" := by decide
  have hw : ∀ c ∈ "if".toList, isWord c = true := by simp [isWord]
  have hb : ∀ c ∈ " ".toList, isBlank c = true := by simp [isBlank]
  exact ⟨⟨hname, hw, hb⟩, standsAlone_iff hname hw hb "x\n\x7d\x7d"⟩

/-- A blank before the braces, and the closing tag of the block becomes part of the opening tag. -/
theorem not_standsAlone_if :
    ¬ StandsAlone (.opening "if") (Node.tag "#if ") ("x" ++ Node.tag "/if") := by
  have hmore : MoreBraces ("x" ++ Node.tag "/if").toList :=
    ⟨"\x7dx\x7b\x7b/if".toList, [], [], by decide, by decide, by simp⟩
  have hname : "if" ≠ "" := by decide
  have hw : ∀ c ∈ "if".toList, isWord c = true := by simp [isWord]
  have hb : ∀ c ∈ " ".toList, isBlank c = true := by simp [isBlank]
  intro h
  rcases (standsAlone_opening_iff hname hw hb ("x" ++ Node.tag "/if")).1 h with hblank | hnot
  · exact absurd hblank (by decide)
  · exact hnot hmore

end Stencil
