import Stencil.Proofs.Nesting
import Stencil.Proofs.Snippets
import Stencil.Proofs.Transparency

/-!
Positions are faithful. A greater offset has a later position, and line and column give the offset
back. So the position of a block that is not closed is where its opening tag is written.
-/

namespace Stencil

namespace Position

/-- A position lies before another: on an earlier line, or on the same line in an earlier column. -/
def Before (position later : Position) : Prop :=
  position.line < later.line ∨ position.line = later.line ∧ position.column < later.column

theorem Before.trans {first second third : Position} (h : first.Before second)
    (h' : second.Before third) : first.Before third := by
  unfold Before at *
  omega

/-- Every character moves a position on. -/
theorem before_behind_concat (front : List Char) (c : Char) :
    (behind front).Before (behind (front ++ [c])) := by
  by_cases hFeed : c = '\n'
  · rw [hFeed, behind_append_newline]
    exact .inl (Nat.lt_succ_self _)
  · rw [behind_append_of_ne front hFeed]
    exact .inr ⟨rfl, Nat.lt_succ_self _⟩

theorem before_behind_append (front : List Char) {cs : List Char} (h : cs ≠ []) :
    (behind front).Before (behind (front ++ cs)) := by
  induction cs generalizing front with
  | nil => exact absurd rfl h
  | cons c cs ih =>
    have hStep := before_behind_concat front c
    by_cases hLast : cs = []
    · rwa [hLast]
    · have hLater := ih (front ++ [c]) hLast
      rw [List.append_assoc, List.singleton_append] at hLater
      exact hStep.trans hLater

theorem before_ofOffset {source : String} {offset later : Nat} (h : offset < later)
    (hBound : later ≤ source.length) :
    (ofOffset source offset).Before (ofOffset source later) := by
  rw [← String.length_toList] at hBound
  obtain ⟨count, rfl⟩ := Nat.exists_eq_add_of_le h.le
  rw [ofOffset_eq (h.le.trans hBound), ofOffset_eq hBound, List.take_add]
  apply before_behind_append
  apply List.ne_nil_of_length_pos
  rw [List.length_take, List.length_drop]
  omega

/-- An offset outside the source has the position of the nearer end. -/
theorem ofOffset_clamp (source : String) (offset : Int) :
    ofOffset source offset = ofOffset source (max 0 (min offset source.length)) := by
  have hSame : clamp offset source.toList.length =
      clamp (max 0 (min offset source.length)) source.toList.length := by
    unfold clamp
    rw [String.length_toList]
    omega
  rw [ofOffset, ofOffset, hSame]

/-- The text of a source from a position on: the rest of its line and the later lines. -/
def textFrom (source : String) (position : Position) : List Char :=
  (['\n'].intercalate
    (((Text.cut '\n' source).drop (position.line - 1)).map String.toList)).drop position.column

theorem drop_intercalate_cons {column : Nat} {line : List Char} (h : column ≤ line.length)
    (later : List (List Char)) :
    (['\n'].intercalate (line :: later)).drop column =
      ['\n'].intercalate (line.drop column :: later) := by
  cases later with
  | nil => rw [List.intercalate_singleton, List.intercalate_singleton]
  | cons next later =>
    rw [List.intercalate_cons_cons, List.intercalate_cons_cons, List.append_assoc,
      List.append_assoc, List.drop_append_of_le_length h]

/-- The position of an offset is that column of that line, and the lines before it, each with its
line feed, and the column together are the offset. -/
theorem exists_lines {source : String} {offset : Nat} (h : offset ≤ source.length) :
    ∃ before line after, Text.cut '\n' source = before ++ line :: after ∧
      (ofOffset source offset).line = before.length + 1 ∧
      (ofOffset source offset).column ≤ line.length ∧
      (before.map fun line => line.length + 1).sum + (ofOffset source offset).column = offset ∧
      textFrom source (ofOffset source offset) = source.toList.drop offset := by
  rw [← String.length_toList] at h
  obtain ⟨before, line, after, hLines, hNumber, hColumn, hCount, hRest⟩ :=
    Text.exists_feedLines_behind (source.toList.take offset) (source.toList.drop offset)
  rw [List.take_append_drop] at hLines
  rw [← ofOffset_eq h] at hNumber hColumn hCount hRest
  rw [List.length_take, Nat.min_eq_left h] at hCount
  have hCut : Text.cut '\n' source = (before ++ line :: after).map String.ofList :=
    congrArg (List.map String.ofList) hLines
  have hLengths : (fun line => line.length + 1) ∘ String.ofList =
      fun chars : List Char => chars.length + 1 :=
    funext fun chars => congrArg (· + 1) String.length_ofList
  have hChars : String.toList ∘ String.ofList = id := funext fun chars => String.toList_ofList
  refine ⟨before.map String.ofList, String.ofList line, after.map String.ofList, ?_, ?_, ?_, ?_, ?_⟩
  · rw [hCut, List.map_append, List.map_cons]
  · rw [List.length_map, hNumber]
  · rwa [String.length_ofList]
  · rw [List.map_map, hLengths, hCount]
  · rw [textFrom, hCut, ← hNumber, Nat.add_sub_cancel, ← List.map_drop, List.drop_left,
      List.map_map, hChars, List.map_id, drop_intercalate_cons hColumn, hRest,
      Text.intercalate_feedLines]

end Position

/-! ### Opening tags -/

namespace Scan

open Text

theorem exists_blanks_of_openTag {mark : Char} {cs taken rest : List Char}
    (h : openTag mark cs = some (taken, rest)) :
    ∃ blanks, (∀ c ∈ blanks, isBlank c = true) ∧ taken = '{' :: '{' :: (blanks ++ [mark]) := by
  unfold openTag at h
  split at h
  · rename_i cs
    split at h
    · split at h
      · rename_i hMark
        cases h
        exact ⟨cs.takeWhile isBlank, fun c hc => List.mem_takeWhile_imp hc, by rw [hMark]⟩
      · cases h
    · cases h
  · cases h

/-- An opening tag is written with two braces, blanks, a hash sign and the name. -/
theorem exists_front_of_openingTag {cs : List Char} {m : Match} (h : openingTag cs = some m) :
    ∃ name arguments blanks behind, m.kind = some (.opening name arguments) ∧
      (∀ c ∈ blanks, isBlank c = true) ∧
      m.taken = '{' :: '{' :: (blanks ++ '#' :: (name.toList ++ behind)) := by
  simp only [openingTag, Option.bind_eq_bind, Option.bind_eq_some_iff, Prod.exists,
    Option.pure_def, Option.some.injEq] at h
  obtain ⟨front, cs1, hFront, word, cs2, hName, tail, hTail, rfl⟩ := h
  obtain ⟨blanks, hBlanks, rfl⟩ := exists_blanks_of_openTag hFront
  exact ⟨String.ofList word, _, blanks, tail.taken, rfl, hBlanks, by simp⟩

end Scan

theorem Lexeme.exists_front_of_opening {cs : List Char} {lexeme : Lexeme} {name : String}
    {arguments : Option String} (h : lexeme ∈ ofChars cs)
    (hKind : lexeme.kind = some (.opening name arguments)) :
    ∃ blanks behind, (∀ c ∈ blanks, Text.isBlank c = true) ∧
      lexeme.text = '{' :: '{' :: (blanks ++ '#' :: (name.toList ++ behind)) := by
  obtain ⟨rest, m, hMatch, rfl⟩ | ⟨c, rfl⟩ := exists_match_of_mem h
  · dsimp only at hKind ⊢
    obtain ⟨shape, -, hShape⟩ := List.exists_of_findSome?_eq_some hMatch
    have hGives := Scan.Shape.gives hShape
    rw [hKind] at hGives
    have hOpening : shape = .opening := by
      cases shape <;> simp_all [Scan.Shape.Gives]
    subst hOpening
    obtain ⟨word, written, blanks, behind, hWord, hBlanks, hTaken⟩ :=
      Scan.exists_front_of_openingTag hShape
    rw [hKind] at hWord
    cases hWord
    exact ⟨blanks, behind, hBlanks, hTaken⟩
  · cases hKind

/-- A token is written in the source where it says. -/
theorem lexeme_isPrefix {source : String} {token : Token} (hToken : token ∈ tokenize source) :
    token.lexeme.toList <+: source.toList.drop token.offset := by
  have hStretch : (source.toList.drop token.offset).take
      (token.offset + token.lexeme.length - token.offset) = token.lexeme.toList :=
    (tiles_tokenize source).extract (List.length_nil (α := Char)) token hToken
  rw [← hStretch]
  exact List.take_prefix _ _

/-- An opening tag is written in the source where its token says. -/
theorem exists_front_of_opening {source : String} {token : Token} {name : String}
    {arguments : Option String} (hToken : token ∈ tokenize source)
    (hKind : token.kind = .opening name arguments) :
    token.offset ≤ source.length ∧ ∃ blanks behind, (∀ c ∈ blanks, Text.isBlank c = true) ∧
      source.toList.drop token.offset =
        '{' :: '{' :: (blanks ++ '#' :: (name.toList ++ behind)) := by
  obtain ⟨lexeme, hLexeme, hSame, hText⟩ := Lexeme.exists_of_mem_tokensFrom hToken
  obtain ⟨blanks, behind, hBlanks, hFront⟩ :=
    lexeme.exists_front_of_opening hLexeme (hSame.trans (congrArg some hKind))
  obtain ⟨rest, hRest⟩ := lexeme_isPrefix hToken
  rw [hText, String.toList_ofList, hFront] at hRest
  constructor
  · by_contra hBeyond
    rw [List.drop_of_length_le (by rw [String.length_toList]; omega)] at hRest
    cases hRest
  · exact ⟨blanks, behind ++ rest, hBlanks, by rw [← hRest]; simp⟩

/-! ### Blocks that are not closed -/

/-- An error about a block that is not closed comes from one of the opening tags of the source. -/
theorem Template.exists_token_of_unclosed {limit : Nat} {source : String} {name : Option String}
    {error : CompileError} (h : compile limit source name = .error error)
    (hCode : error.code = some .unclosedBlock) :
    ∃ token ∈ tokenize source, ∃ block arguments, token.kind = .opening block arguments ∧
      error.name = some block ∧ error.place = ⟨some source, some token.offset, name⟩ := by
  rw [compile] at h
  rcases parse_outcome limit (tokenize source) (some source) name with
    ⟨-, nodes, hParse⟩ | ⟨-, place, token, block, arguments, -, hAt, hKind, hParse⟩ |
    ⟨-, deep, hParse, hDeep⟩
  · rw [hParse] at h
    cases h
  · rw [hParse] at h
    cases h
    exact ⟨token, List.mem_of_getElem? hAt, block, arguments, hKind, rfl, rfl⟩
  · rw [hParse] at h
    cases h
    rw [hDeep] at hCode
    cases hCode

theorem History.compile_error {history : History} {limit : Nat} {options : Options}
    {source : String} {name : Option String} {error : CompileError}
    (h : history.compile limit options source name = .error error) :
    Template.compile limit source name = .error error := by
  have hMake (hError : history.make limit options source name = .error error) :
      Template.compile limit source name = .error error := by
    unfold make at hError
    cases hNodes : Template.compile limit source name with
    | ok nodes =>
      rw [hNodes] at hError
      cases hError
    | error found =>
      rw [hNodes] at hError
      cases hError
      rfl
  cases hCache : options.cache with
  | false => exact hMake (by rwa [compile_of_not_cache hCache] at h)
  | true =>
    cases hFound : history.cache.find? source with
    | some entry =>
      obtain ⟨used, -, hCompile⟩ := compile_of_find? limit name hCache hFound
      rw [hCompile] at h
      cases h
    | none =>
      rw [compile_of_find?_none hCache hFound] at h
      cases hResult : history.make limit options source name with
      | ok made =>
        rw [hResult] at h
        cases h
      | error found =>
        rw [hResult] at h
        cases h
        exact hMake hResult

theorem Engine.compile_error {engine : Engine} {source : String} {name : Option String}
    {overrides : Overrides} {error : CompileError}
    (h : (engine.compile source name overrides).1 = .error (.error (.compile error))) :
    Template.compile (engine.setup.machine.nesting []) source name = .error error := by
  cases hCompile : engine.history.compile (engine.setup.machine.nesting [])
      (engine.setup.options.merge overrides) source name with
  | ok compiled =>
    rw [compile_of_ok hCompile] at h
    cases h
  | error found =>
    rw [compile_of_error hCompile] at h
    cases h
    exact History.compile_error hCompile

/-- Positions rise strictly with the offsets of a source, and all other offsets have the positions
of its ends. Line and column are a place on one of the lines that line feeds part, and give the
offset back. So the error for a block that is not closed has the position where the text goes on
with the front of a tag that opens a block of that name. -/
theorem positions_are_faithful (source : String) :
    (∀ offset later : Nat, offset < later → later ≤ source.length →
        (Position.ofOffset source offset).Before (Position.ofOffset source later)) ∧
      (∀ offset : Int, Position.ofOffset source offset =
        Position.ofOffset source (max 0 (min offset source.length))) ∧
      (∀ offset : Nat, offset ≤ source.length →
        let position := Position.ofOffset source offset
        ∃ before line after, Text.cut '\n' source = before ++ line :: after ∧
          position.line = before.length + 1 ∧ position.column ≤ line.length ∧
          (before.map fun line => line.length + 1).sum + position.column = offset) ∧
      ∀ (engine : Engine) (name : Option String) (overrides : Overrides) (error : CompileError),
        (engine.compile source name overrides).1 = .error (.error (.compile error)) →
        error.code = some .unclosedBlock →
        ∃ position block blanks behind, error.place.position? = some position ∧
          error.name = some block ∧ (∀ c ∈ blanks, Text.isBlank c = true) ∧
          position.textFrom source =
            '{' :: '{' :: (blanks ++ '#' :: (block.toList ++ behind)) := by
  refine ⟨fun offset later => Position.before_ofOffset, Position.ofOffset_clamp source,
    fun offset hOffset => ?_, fun engine name overrides error hError hCode => ?_⟩
  · obtain ⟨before, line, after, hCut, hLine, hColumn, hSum, -⟩ := Position.exists_lines hOffset
    exact ⟨before, line, after, hCut, hLine, hColumn, hSum⟩
  · obtain ⟨token, hToken, block, arguments, hKind, hName, hPlace⟩ :=
      Template.exists_token_of_unclosed (Engine.compile_error hError) hCode
    obtain ⟨hBound, blanks, behind, hBlanks, hText⟩ := exists_front_of_opening hToken hKind
    obtain ⟨-, -, -, -, -, -, -, hFrom⟩ := Position.exists_lines hBound
    exact ⟨_, block, blanks, behind, by rw [hPlace]; rfl, hName, hBlanks, hFrom.trans hText⟩

/-- A block on the second line is not closed; its tag is written with a line feed in it. -/
theorem positions_are_faithful_second_line :
    let source := "a\nbc\x7b\x7b\n#if x\x7d\x7d"
    let position : Position := ⟨2, 2⟩
    4 < 5 ∧ 5 ≤ source.length ∧
      (Position.ofOffset source (4 : Nat)).Before (Position.ofOffset source (5 : Nat)) ∧
      ∃ error,
        ((Engine.new .small {}).compile source none {}).1 = .error (.error (.compile error)) ∧
        error.code = some .unclosedBlock ∧ error.place.position? = some position ∧
        error.name = some "if" ∧
        ∃ blanks behind, (∀ c ∈ blanks, Text.isBlank c = true) ∧
          position.textFrom source =
            '{' :: '{' :: (blanks ++ '#' :: ("if".toList ++ behind)) := by
  intro source position
  let error := CompileError.ofCause (.unclosed "if") ⟨some source, some 4, none⟩
  obtain ⟨hRise, -, -, hErrors⟩ := positions_are_faithful source
  have hError : ((Engine.new .small {}).compile source none {}).1 =
      .error (.error (.compile error)) := Engine.eq_error_of_failure? (by decide +kernel)
  obtain ⟨found, block, blanks, behind, hPosition, hName, hBlanks, hText⟩ :=
    hErrors (Engine.new .small {}) none {} error hError rfl
  have hSame : error.place.position? = some position := by decide +kernel
  rw [hSame] at hPosition
  cases hPosition
  cases hName
  have hLength : 5 ≤ source.length := by decide +kernel
  exact ⟨by decide, hLength, hRise 4 5 (by decide) hLength, error, hError, rfl, hSame, rfl, blanks,
    behind, hBlanks, hText⟩

end Stencil
