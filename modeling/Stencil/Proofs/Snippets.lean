import Stencil.Proofs.LineBreaks
import Stencil.Proofs.Scanning
import Stencil.Proofs.Tiling

/-!
Which lines a snippet shows. Errors are placed by counting line feeds, but the lines of a snippet
are counted as a reader sees them. As long as a line feed, alone or behind a carriage return, is all
that ends a line, a snippet shows the line of the error and its neighbours. A line that some other
character ends is shown in pieces, and then the numbers do not fit.
-/

namespace Stencil

/-! ### The first characters of tags -/

namespace Lexeme

open Scan

theorem head?_of_firstMatch {cs : List Char} {m : Match} (h : firstMatch priority cs = some m)
    (hKind : m.kind ≠ some .text) : m.taken.head? = some '{' := by
  obtain ⟨hChars, hTaken⟩ := firstMatch_append h
  by_cases hBraces : ['{', '{'] <+: cs
  · obtain ⟨rest, hRest⟩ := hBraces
    obtain ⟨c, taken, hCons⟩ := List.exists_cons_of_ne_nil hTaken
    have hHead := congrArg List.head? (hChars.trans hRest.symm)
    rw [hCons] at hHead ⊢
    exact hHead
  · rw [firstMatch_plain hBraces, plain] at h
    split at h
    · cases h
    · cases h
      exact absurd rfl hKind

/-- Tags and comments begin with a brace. -/
theorem head?_of_mem {cs : List Char} {lexeme : Lexeme} (h : lexeme ∈ ofChars cs)
    (hKind : lexeme.kind ≠ some .text) : lexeme.text.head? = some '{' := by
  obtain ⟨rest, m, hMatch, rfl⟩ | ⟨c, rfl⟩ := exists_match_of_mem h
  · exact head?_of_firstMatch hMatch hKind
  · exact absurd rfl hKind

theorem exists_of_mem_tokensFrom {start : Nat} {lexemes : List Lexeme} {token : Token}
    (h : token ∈ tokensFrom start lexemes) :
    ∃ lexeme ∈ lexemes, lexeme.kind = some token.kind ∧
      token.lexeme = String.ofList lexeme.text := by
  induction lexemes generalizing start with
  | nil => cases h
  | cons lexeme lexemes ih =>
    have hLater (h : token ∈ tokensFrom (start + lexeme.text.length) lexemes) :
        ∃ later ∈ lexeme :: lexemes, later.kind = some token.kind ∧
          token.lexeme = String.ofList later.text := by
      obtain ⟨later, hMem, hSame⟩ := ih h
      exact ⟨later, List.mem_cons_of_mem _ hMem, hSame⟩
    rw [tokensFrom] at h
    cases hKind : lexeme.kind with
    | none =>
      rw [hKind] at h
      exact hLater h
    | some kind =>
      rw [hKind] at h
      rcases List.mem_cons.1 h with rfl | h
      · exact ⟨lexeme, List.mem_cons_self, hKind, rfl⟩
      · exact hLater h

end Lexeme

/-- A tag stands in the source where its token says, and begins with a brace there. -/
theorem getElem?_offset {source : String} {token : Token} (hToken : token ∈ tokenize source)
    (hKind : token.kind ≠ .text) : source.toList[token.offset]? = some '{' := by
  obtain ⟨lexeme, hLexeme, hSame, hText⟩ := Lexeme.exists_of_mem_tokensFrom hToken
  have hHead : token.lexeme.toList.head? = some '{' := by
    rw [hText, String.toList_ofList]
    refine Lexeme.head?_of_mem hLexeme fun hPlain => hKind ?_
    rw [hSame] at hPlain
    exact Option.some.inj hPlain
  have hStretch : (source.toList.drop token.offset).take
      (token.offset + token.lexeme.length - token.offset) = token.lexeme.toList :=
    (tiles_tokenize source).extract (List.length_nil (α := Char)) token hToken
  rw [← hStretch, List.head?_take] at hHead
  split at hHead
  · cases hHead
  · rwa [List.head?_drop] at hHead

theorem Token.kind_ne_text {token : Token}
    (h : token.kind.label ∈ ["VARIABLE", "BLOCK_START", "PARTIAL"]) : token.kind ≠ .text := by
  intro hText
  rw [hText] at h
  exact absurd h (by decide)

/-! ### The line of an offset -/

open Text

/-- The offset lies in the line, which has the number among the lines that line feeds part. -/
def HoldsOffset (source : String) (offset number : Nat) (line : String) : Prop :=
  ∃ before after, Text.cut '\n' source = before ++ line :: after ∧ number = before.length + 1 ∧
    (before.map fun line => line.length + 1).sum ≤ offset ∧
    offset ≤ (before.map fun line => line.length + 1).sum + line.length

/-- What a snippet for an offset is to show: the line of the offset, with the column in it, and the
lines next to it under their own numbers. -/
structure Snippet.ShowsLines (snippet : Snippet) (source : String) (offset : Nat) : Prop where
  errorLine : ∃ number line text, ∃ column : Nat, HoldsOffset source offset number line ∧
    (snippet.errorLine, text) ∈ snippet.lines ∧ IsTextOf text.toList line.toList ∧
    snippet.column = some (column : Int) ∧ column < text.length ∧
    text.toList[column]? = source.toList[offset]?
  numbered : ∀ number text, (number, text) ∈ snippet.lines →
    (number - snippet.errorLine).natAbs ≤ 2 ∧ ∃ (i : Nat) (line : String),
      number = i + 1 ∧ (Text.cut '\n' source)[i]? = some line ∧ IsTextOf text.toList line.toList

theorem getElem?_cut {source : String} {i : Nat} {line : String} :
    (Text.cut '\n' source)[i]? = some line ↔
      (feedLines source.toList)[i]? = some line.toList := by
  have hCut : Text.cut '\n' source = (feedLines source.toList).map String.ofList := rfl
  rw [hCut, List.getElem?_map, Option.map_eq_some_iff]
  constructor
  · rintro ⟨line, hLine, rfl⟩
    rw [String.toList_ofList, hLine]
  · intro h
    exact ⟨line.toList, h, String.ofList_toList⟩

theorem ofOffset_eq {source : String} {offset : Nat} (h : offset ≤ source.toList.length) :
    Position.ofOffset source offset = Position.behind (source.toList.take offset) := by
  rw [Position.ofOffset, Position.clamp, Int.toNat_natCast, Nat.min_eq_left h]

/-- The position of a character that ends no line, and the line that it is on. -/
theorem exists_line {source : String} {offset : Nat} {c : Char}
    (h : source.toList[offset]? = some c) (hc : c ≠ '\n') :
    let position := Position.ofOffset source offset
    ∃ line, HoldsOffset source offset position.line line ∧
      (Text.cut '\n' source)[position.line - 1]? = some line ∧
      line.toList[position.column]? = some c := by
  intro position
  obtain ⟨hBound, hChar⟩ := List.getElem?_eq_some_iff.1 h
  have hPosition : position = Position.behind (source.toList.take offset) :=
    ofOffset_eq (Nat.le_of_lt hBound)
  obtain ⟨before, chars, after, hLines, hNumber, -, hCount, hRest⟩ :=
    exists_feedLines_behind (source.toList.take offset) (source.toList.drop offset)
  rw [List.take_append_drop] at hLines
  replace hRest := (List.cons.inj hRest).1
  rw [← hPosition] at hNumber hCount hRest
  rw [List.length_take, Nat.min_eq_left (Nat.le_of_lt hBound)] at hCount
  have hColumn : chars[position.column]? = some c := by
    rw [List.drop_eq_getElem_cons hBound, cutChars, hChar] at hRest
    simp only [hc, if_false] at hRest
    rw [← List.head?_drop, hRest]
    rfl
  have hCut : Text.cut '\n' source = (feedLines source.toList).map String.ofList := rfl
  rw [hLines, List.map_append, List.map_cons] at hCut
  have hSum : ((before.map String.ofList).map fun line => line.length + 1).sum + position.column =
      offset := by
    have hLengths : (fun line => line.length + 1) ∘ String.ofList =
        fun chars : List Char => chars.length + 1 :=
      funext fun chars => congrArg (· + 1) String.length_ofList
    rw [List.map_map, hLengths, hCount]
  have hShort : position.column < chars.length := (List.getElem?_eq_some_iff.1 hColumn).1
  refine ⟨String.ofList chars,
    ⟨before.map String.ofList, after.map String.ofList, hCut, ?_, ?_, ?_⟩, ?_, ?_⟩
  · rw [List.length_map, hNumber]
  · omega
  · rw [String.length_ofList]
    omega
  · rw [hCut, ← hNumber, Nat.add_sub_cancel, ← List.length_map (f := String.ofList),
      List.getElem?_append_right (Nat.le_refl _), Nat.sub_self]
    rfl
  · rwa [String.toList_ofList]

theorem Text.IsTextOf.getElem? {text whole : List Char} (h : IsTextOf text whole) {column : Nat}
    {c : Char} (hc : c ≠ '\r') (hLine : whole[column]? = some c) : text[column]? = some c := by
  rcases h with rfl | rfl
  · exact hLine
  · rw [List.getElem?_append] at hLine
    split at hLine
    · exact hLine
    · rw [List.getElem?_singleton] at hLine
      split at hLine
      · exact absurd (Option.some.inj hLine).symm hc
      · cases hLine

theorem atOffset_eq {source : String} {offset : Nat} {c : Char}
    (h : source.toList[offset]? = some c) :
    Snippet.atOffset (some source) (some (offset : Int)) =
      some (.around source (Position.ofOffset source offset).line 2
        (some (Position.ofOffset source offset).column)) := by
  refine if_neg ?_
  rintro rfl
  cases h

/-! ### When snippets show the lines that they number -/

section

variable {source : String} {offset : Nat} {c : Char}

/-- What is shown under a number within two lines of the error is the text of the line with that
number, if no line so far holds another end of a line. -/
theorem isTextOf_of_mem {number : Int} {text : String} {errorLine : Nat} {column : Option Int}
    (hLines : ∀ line ∈ (Text.cut '\n' source).take (errorLine + 2), Unbroken line.toList)
    (h : (number, text) ∈ (Snippet.around source errorLine 2 column).lines) :
    ∃ (i : Nat) (line : String), number = i + 1 ∧ (Text.cut '\n' source)[i]? = some line ∧
      IsTextOf text.toList line.toList := by
  obtain ⟨i, -, hHigh, hShown, rfl⟩ := Snippet.mem_around_iff.1 h
  have hBefore : ∀ line ∈ (feedLines source.toList).take (i + 1), Unbroken line := by
    intro line hMem
    obtain ⟨j, hj⟩ := List.mem_iff_getElem?.1 hMem
    rw [List.getElem?_take] at hj
    split at hj
    swap
    · cases hj
    have hCut : (Text.cut '\n' source)[j]? = some (String.ofList line) :=
      getElem?_cut.2 (by rwa [String.toList_ofList])
    have hUnbroken := hLines (String.ofList line) (List.mem_iff_getElem?.2 ⟨j, ?_⟩)
    · rwa [String.toList_ofList] at hUnbroken
    · rwa [List.getElem?_take_of_lt (by omega)]
  obtain ⟨line, hLine, hText⟩ := isTextOf_of_getElem? hBefore hShown
  exact ⟨i, String.ofList line, rfl, getElem?_cut.2 (by rwa [String.toList_ofList]),
    by rwa [String.toList_ofList]⟩

theorem showsLines_of_unbroken (h : source.toList[offset]? = some c) (hc : isLineBreak c = false)
    (hLines : ∀ line ∈ (Text.cut '\n' source).take ((Position.ofOffset source offset).line + 2),
      Unbroken line.toList) :
    (Snippet.around source (Position.ofOffset source offset).line 2
      (some (Position.ofOffset source offset).column)).ShowsLines source offset := by
  have hFeed : c ≠ '\n' := fun h => by simp [h, isLineBreak] at hc
  have hReturn : c ≠ '\r' := fun h => by simp [h, isLineBreak] at hc
  obtain ⟨line, hHolds, hCut, hChar⟩ := exists_line h hFeed
  generalize Position.ofOffset source offset = position at *
  obtain ⟨i, hNumber⟩ : ∃ i, position.line = i + 1 := by
    obtain ⟨before, -, -, hNumber, -⟩ := hHolds
    exact ⟨before.length, hNumber⟩
  rw [hNumber, Nat.add_sub_cancel] at hCut
  have hSome : line.toList ≠ [] := by
    intro hNone
    rw [hNone] at hChar
    cases hChar
  obtain ⟨text, hShown⟩ := exists_shown (getElem?_cut.1 hCut) hSome
  have hMem : ((position.line : Int), String.ofList text) ∈
      (Snippet.around source position.line 2 (some position.column)).lines := by
    refine Snippet.mem_around_iff.2 ⟨i, by omega, by omega, ?_, by omega⟩
    rw [String.toList_ofList, hShown]
  obtain ⟨j, found, hj, hFound, hText⟩ := isTextOf_of_mem hLines hMem
  obtain rfl : i = j := by omega
  rw [hCut] at hFound
  cases hFound
  have hHere := hText.getElem? hReturn hChar
  refine ⟨⟨position.line, line, _, position.column, hHolds, hMem, hText, rfl, ?_, ?_⟩, ?_⟩
  · rw [← String.length_toList]
    exact (List.getElem?_eq_some_iff.1 hHere).1
  · rw [hHere, h]
  · intro number text hNear
    refine ⟨?_, isTextOf_of_mem hLines hNear⟩
    obtain ⟨k, hLow, hHigh, -, rfl⟩ := Snippet.mem_around_iff.1 hNear
    have hSame : (Snippet.around source position.line 2 (some position.column)).errorLine =
        position.line := rfl
    rw [hSame]
    omega

/-- A line that something else ends is not shown as it is. -/
theorem unbroken_of_showsLines {errorLine i : Nat} {column : Option Int} {line : String}
    (h : (Snippet.around source errorLine 2 column).ShowsLines source offset)
    (hLine : (Text.cut '\n' source)[i]? = some line) (hLow : errorLine ≤ i + 3)
    (hHigh : i < errorLine + 2) : Unbroken line.toList := by
  by_cases hNone : line.toList = []
  · exact ⟨[], .inl hNone, by simp⟩
  · obtain ⟨text, hShown⟩ := exists_shown (getElem?_cut.1 hLine) hNone
    have hMem : ((i : Int) + 1, String.ofList text) ∈
        (Snippet.around source errorLine 2 column).lines := by
      refine Snippet.mem_around_iff.2 ⟨i, by omega, by omega, ?_, rfl⟩
      rw [String.toList_ofList, hShown]
    obtain ⟨-, j, found, hj, hFound, hText⟩ := h.numbered _ _ hMem
    obtain rfl : i = j := by omega
    rw [hLine] at hFound
    cases hFound
    rw [String.toList_ofList] at hText
    exact ⟨text, hText, fun c hc => (mem_shownLines (List.mem_of_getElem? hShown) hc).2⟩

end

/-- The snippet for a tag is about the line and the column where the tag begins. It shows the lines
around there as long as no line up to the second behind the tag holds another end of a line; and it
does not show them if one of the lines that it is to show holds one. -/
theorem snippets_show_lines {source : String} {token : Token} (hToken : token ∈ tokenize source)
    (hLabel : token.kind.label ∈ ["VARIABLE", "BLOCK_START", "PARTIAL"]) :
    ∃ snippet line, ∃ number column : Nat,
      Snippet.atOffset (some source) (some (token.offset : Int)) = some snippet ∧
      snippet.errorLine = number ∧ HoldsOffset source token.offset number line ∧
      snippet.column = some (column : Int) ∧
      line.toList[column]? = source.toList[token.offset]? ∧
      ((∀ line ∈ (Text.cut '\n' source).take (number + 2), Unbroken line.toList) →
        snippet.ShowsLines source token.offset) ∧
      (snippet.ShowsLines source token.offset → ∀ (i : Nat) (line : String),
        (Text.cut '\n' source)[i]? = some line → number ≤ i + 3 → i < number + 2 →
          Unbroken line.toList) := by
  have hChar := getElem?_offset hToken (Token.kind_ne_text hLabel)
  obtain ⟨line, hHolds, -, hColumn⟩ := exists_line hChar (by decide)
  exact ⟨_, line, _, _, atOffset_eq hChar, rfl, hHolds, rfl, hColumn.trans hChar.symm,
    showsLines_of_unbroken hChar (by decide),
    fun h _ _ hLine hLow hHigh => unbroken_of_showsLines h hLine hLow hHigh⟩

/-- A carriage return before the line feed does no harm. -/
theorem snippets_show_lines_return :
    let source := "a\r\nb " ++ Node.tag "#if x"
    let token : Token := ⟨.opening "if" (some "x"), Node.tag "#if x", 5⟩
    token ∈ tokenize source ∧ token.kind.label ∈ ["VARIABLE", "BLOCK_START", "PARTIAL"] ∧
      ∃ snippet, Snippet.atOffset (some source) (some (token.offset : Int)) = some snippet ∧
        snippet.ShowsLines source token.offset := by
  intro source token
  have hToken : token ∈ tokenize source := by decide +kernel
  have hLabel : token.kind.label ∈ ["VARIABLE", "BLOCK_START", "PARTIAL"] := by decide
  obtain ⟨snippet, -, number, -, hSnippet, -, -, -, -, hShows, -⟩ :=
    snippets_show_lines hToken hLabel
  refine ⟨hToken, hLabel, snippet, hSnippet, hShows fun line hLine => ?_⟩
  have hCut : Text.cut '\n' source = ["a\r", "b " ++ Node.tag "#if x"] := by decide +kernel
  have hOrdinary (text : List Char) (h : text.any isLineBreak = false) :
      ∀ c ∈ text, isLineBreak c = false := fun c hc =>
    Bool.eq_false_iff.2 (List.any_eq_false.1 h c hc)
  have hMem := List.mem_of_mem_take hLine
  rw [hCut] at hMem
  simp only [List.mem_cons, List.not_mem_nil, or_false] at hMem
  rcases hMem with rfl | rfl
  · exact ⟨['a'], .inr rfl, hOrdinary _ (by decide +kernel)⟩
  · exact ⟨_, .inl rfl, hOrdinary _ (by decide +kernel)⟩

/-- A form feed ends a line for the reader, and the tag behind it is looked for on the line before
its own. -/
theorem not_showsLines_formFeed :
    let source := "a\x0cb\n" ++ Node.tag "x"
    let token : Token := ⟨.output "x", Node.tag "x", 4⟩
    token ∈ tokenize source ∧ token.kind.label ∈ ["VARIABLE", "BLOCK_START", "PARTIAL"] ∧
      Snippet.atOffset (some source) (some (token.offset : Int)) =
        some ⟨[(1, "a"), (2, "b"), (3, Node.tag "x")], 2, some 0⟩ ∧
      ∀ snippet, Snippet.atOffset (some source) (some (token.offset : Int)) = some snippet →
        ¬ snippet.ShowsLines source token.offset := by
  intro source token
  refine ⟨by decide +kernel, by decide, by decide +kernel, fun snippet hSnippet hShows => ?_⟩
  have hChar : source.toList[token.offset]? = some '\x7b' := by decide +kernel
  have hNumber : (Position.ofOffset source (token.offset : Int)).line = 2 := by decide +kernel
  have hFirst : (Text.cut '\n' source)[0]? = some "a\x0cb" := by decide +kernel
  rw [atOffset_eq hChar] at hSnippet
  cases hSnippet
  obtain ⟨text, hLine | hLine, hText⟩ :=
    unbroken_of_showsLines hShows hFirst (by omega) (by omega)
  · exact absurd (hText '\x0c' (hLine ▸ by decide)) (by decide)
  · have hLast := congrArg List.getLast? hLine
    rw [List.getLast?_concat] at hLast
    exact absurd hLast (by decide)

end Stencil
