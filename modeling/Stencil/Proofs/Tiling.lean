import Stencil.Proofs.Building
import Stencil.Proofs.Transparency
import Stencil.Template.Print

/-!
Tokens tile the source. Every token is a stretch of it, the stretches lie one behind the other, and
nothing lies between them but comments. A source without comments is what its tokens say together,
and one that is all plain text renders to itself.
-/

namespace Stencil

/-! ### Comments -/

namespace Comment

/-- What a comment starts with. -/
def opener : List Char := ['{', '{', '!', '-', '-']

/-- What a comment ends with. -/
def ending : List Char := ['-', '-', '}', '}']

end Comment

open Comment

/-- The text is a comment: it runs from an opener to the first ending behind it. -/
def IsComment (cs : List Char) : Prop :=
  ∃ inside, cs = opener ++ (inside ++ ending) ∧
    ∀ before after, inside ++ ending = before ++ ending ++ after → after = []

/-- The text is made up of comments, one behind the other. It may be empty. -/
def AreComments (cs : List Char) : Prop :=
  ∃ comments : List (List Char), cs = comments.flatten ∧ ∀ comment ∈ comments, IsComment comment

theorem areComments_nil : AreComments [] := ⟨[], rfl, fun _ h => nomatch h⟩

theorem IsComment.append {comment cs : List Char} (h : IsComment comment) (hc : AreComments cs) :
    AreComments (comment ++ cs) := by
  obtain ⟨comments, rfl, hAll⟩ := hc
  exact ⟨comment :: comments, rfl, List.forall_mem_cons.2 ⟨h, hAll⟩⟩

/-- Where no comments are, nothing is made up of comments. -/
theorem AreComments.eq_nil {gap rest : List Char} (h : AreComments gap)
    (hNone : ∀ comment, comment <:+: gap ++ rest → ¬ IsComment comment) : gap = [] := by
  obtain ⟨comments, rfl, hAll⟩ := h
  cases comments with
  | nil => rfl
  | cons comment comments =>
    refine absurd (hAll _ List.mem_cons_self) (hNone comment ⟨[], comments.flatten ++ rest, ?_⟩)
    simp

theorem IsComment.opener_isInfix {comment : List Char} (h : IsComment comment) :
    opener <:+: comment := by
  obtain ⟨inside, rfl, -⟩ := h
  exact ⟨[], inside ++ ending, by simp⟩

namespace Scan

theorem commentTail_eq_some {cs taken rest : List Char}
    (h : commentTail cs = some (taken, rest)) :
    (∃ inside, taken = inside ++ ending) ∧
      ∀ before after, taken = before ++ ending ++ after → after = [] := by
  fun_induction commentTail cs generalizing taken rest with
  | case1 later =>
    cases h
    refine ⟨⟨[], rfl⟩, fun before after hSame => ?_⟩
    have hLength := congrArg List.length hSame
    simp only [List.length_append, List.length_cons, List.length_nil, ending] at hLength
    exact List.eq_nil_of_length_eq_zero (by omega)
  | case2 c cs hNot ih =>
    obtain ⟨⟨taken, later⟩, hTail, hSame⟩ := Option.map_eq_some_iff.1 h
    cases hSame
    obtain ⟨⟨inside, hInside⟩, hFirst⟩ := ih hTail
    refine ⟨⟨c :: inside, congrArg _ hInside⟩, fun before after hSame => ?_⟩
    cases before with
    | nil =>
      -- The ending does not stand here, since the search went on.
      cases hSame
      exact absurd (commentTail_append hTail).symm (hNot _ rfl)
    | cons b before => exact hFirst before after (List.cons.inj hSame).2
  | case3 => cases h

theorem comment_eq_some {cs : List Char} {m : Match} (h : comment cs = some m) :
    IsComment m.taken := by
  unfold comment at h
  split at h
  · obtain ⟨⟨taken, rest⟩, hTail, rfl⟩ := Option.map_eq_some_iff.1 h
    obtain ⟨⟨inside, rfl⟩, hFirst⟩ := commentTail_eq_some hTail
    exact ⟨inside, rfl, hFirst⟩
  · cases h

/-- The kinds of token that a shape gives. A comment gives none. -/
def Shape.Gives : Shape → Option Token.Kind → Prop
  | .opening, kind => ∃ name arguments, kind = some (.opening name arguments)
  | .closing, kind => ∃ name, kind = some (.closing name)
  | .inclusion, kind => ∃ name context, kind = some (.inclusion name context)
  | .comment, kind => kind = none
  | .output, kind => ∃ expression, kind = some (.output expression)
  | .text, kind => kind = some .text

theorem Shape.gives {shape : Shape} {cs : List Char} {m : Match}
    (h : shape.match? cs = some m) : shape.Gives m.kind := by
  cases shape with
  | comment =>
    simp only [Shape.match?, Scan.comment] at h
    split at h
    · obtain ⟨found, hFound, rfl⟩ := Option.map_eq_some_iff.1 h
      rfl
    · cases h
  | opening =>
    simp only [Shape.match?, openingTag, Option.bind_eq_bind, Option.bind_eq_some_iff,
      Prod.exists, Option.pure_def, Option.some.injEq] at h
    obtain ⟨front, cs1, h1, word, cs2, h2, tail, h3, rfl⟩ := h
    exact ⟨_, _, rfl⟩
  | closing =>
    simp only [Shape.match?, closingTag, Option.bind_eq_bind, Option.bind_eq_some_iff,
      Prod.exists, Option.pure_def, Option.some.injEq] at h
    obtain ⟨front, cs1, h1, word, cs2, h2, back, rest, h3, rfl⟩ := h
    exact ⟨_, rfl⟩
  | inclusion =>
    simp only [Shape.match?, inclusionTag, Option.bind_eq_bind, Option.bind_eq_some_iff,
      Prod.exists, Option.pure_def, Option.some.injEq] at h
    obtain ⟨front, cs1, h1, word, cs2, h2, tail, h3, rfl⟩ := h
    exact ⟨_, _, rfl⟩
  | output =>
    simp only [Shape.match?, outputTag] at h
    split at h
    · split at h
      · split at h
        · obtain ⟨found, hFound, rfl⟩ := Option.map_eq_some_iff.1 h
          exact ⟨_, rfl⟩
        · cases h
      · cases h
    · cases h
  | text =>
    simp only [Shape.match?, plain] at h
    split at h
    · cases h
    · cases h
      rfl

/-- Only comments have no kind. -/
theorem Shape.isComment {shape : Shape} {cs : List Char} {m : Match}
    (h : shape.match? cs = some m) (hKind : m.kind = none) : IsComment m.taken := by
  have hGives := Shape.gives h
  rw [hKind] at hGives
  cases shape with
  | comment => exact comment_eq_some h
  | opening | inclusion =>
    obtain ⟨name, arguments, hSome⟩ := hGives
    cases hSome
  | closing | output =>
    obtain ⟨parameter, hSome⟩ := hGives
    cases hSome
  | text => cases hGives

end Scan

namespace Lexeme

/-- A lexeme is what a shape recognises, or a character of plain text by itself. -/
theorem exists_match_of_mem {order : List Scan.Shape} {cs : List Char} {lexeme : Lexeme}
    (h : lexeme ∈ ofCharsIn order cs) :
    (∃ rest m, firstMatch order rest = some m ∧ lexeme = ⟨m.kind, m.taken⟩) ∨
      ∃ c, lexeme = ⟨some .text, [c]⟩ := by
  fun_induction ofCharsIn order cs with
  | case1 => cases h
  | case2 c cs m hMatch ih =>
    rcases List.mem_cons.1 h with rfl | h
    · exact .inl ⟨c :: cs, m, hMatch, rfl⟩
    · exact ih h
  | case3 c cs hNone ih =>
    rcases List.mem_cons.1 h with rfl | h
    · exact .inr ⟨c, rfl⟩
    · exact ih h

theorem isComment_of_mem {order : List Scan.Shape} {cs : List Char} {lexeme : Lexeme}
    (h : lexeme ∈ ofCharsIn order cs) (hKind : lexeme.kind = none) : IsComment lexeme.text := by
  obtain ⟨rest, m, hMatch, rfl⟩ | ⟨c, rfl⟩ := exists_match_of_mem h
  · obtain ⟨shape, -, hShape⟩ := List.exists_of_findSome?_eq_some hMatch
    exact Scan.Shape.isComment hShape hKind
  · cases hKind

end Lexeme

/-! ### Tiles -/

/-- The tokens tile the text, which starts at the offset: they are stretches of it, and what lies
before, between and behind them are comments. -/
inductive Tiles : Nat → List Char → List Token → Prop
  | nil {start : Nat} {gap : List Char} (hGap : AreComments gap) : Tiles start gap []
  | cons {start : Nat} {gap rest : List Char} {token : Token} {tokens : List Token}
      (hGap : AreComments gap) (hOffset : token.offset = start + gap.length)
      (hLexeme : token.lexeme ≠ "")
      (h : Tiles (token.offset + token.lexeme.length) rest tokens) :
      Tiles start (gap ++ (token.lexeme.toList ++ rest)) (token :: tokens)

/-- The stretches of a text before, between and behind tokens: where they start and stop. -/
def gaps (start stop : Nat) : List Token → List (Nat × Nat)
  | [] => [(start, stop)]
  | token :: tokens =>
    (start, token.offset) :: gaps (token.offset + token.lexeme.length) stop tokens

namespace Tiles

variable {start : Nat} {cs before : List Char} {tokens : List Token}

theorem comment {text : List Char} (hText : IsComment text)
    (h : Tiles (start + text.length) cs tokens) : Tiles start (text ++ cs) tokens := by
  cases h with
  | nil hGap => exact .nil (hText.append hGap)
  | cons hGap hOffset hLexeme h =>
    rw [← List.append_assoc]
    refine .cons (hText.append hGap) ?_ hLexeme h
    rw [hOffset, List.length_append]
    omega

theorem tokensFrom {lexemes : List Lexeme} (hText : ∀ lexeme ∈ lexemes, lexeme.text ≠ [])
    (hComment : ∀ lexeme ∈ lexemes, lexeme.kind = none → IsComment lexeme.text) :
    Tiles start (lexemes.flatMap Lexeme.text) (Lexeme.tokensFrom start lexemes) := by
  induction lexemes generalizing start with
  | nil => exact .nil areComments_nil
  | cons lexeme lexemes ih =>
    obtain ⟨hFirst, hText⟩ := List.forall_mem_cons.1 hText
    obtain ⟨hNone, hComment⟩ := List.forall_mem_cons.1 hComment
    rw [List.flatMap_cons, Lexeme.tokensFrom]
    cases hKind : lexeme.kind with
    | none => exact .comment (hNone hKind) (ih hText hComment)
    | some kind =>
      have hSame : (String.ofList lexeme.text).toList = lexeme.text := String.toList_ofList
      let token : Token := ⟨kind, String.ofList lexeme.text, start⟩
      have hLexeme : token.lexeme ≠ "" := by simpa [token] using hFirst
      have hRest : Tiles (token.offset + token.lexeme.length) (lexemes.flatMap Lexeme.text)
          (Lexeme.tokensFrom (start + lexeme.text.length) lexemes) := by
        rw [← String.length_toList, hSame]
        exact ih hText hComment
      have hTile := Tiles.cons areComments_nil rfl hLexeme hRest
      rwa [List.nil_append, hSame] at hTile

theorem le_offset (h : Tiles start cs tokens) : ∀ token ∈ tokens, start ≤ token.offset := by
  induction h with
  | nil => exact fun _ h => nomatch h
  | cons hGap hOffset hLexeme h ih =>
    refine List.forall_mem_cons.2 ⟨by omega, fun token hToken => ?_⟩
    have := ih token hToken
    omega

theorem lexeme_ne (h : Tiles start cs tokens) : ∀ token ∈ tokens, token.lexeme ≠ "" := by
  induction h with
  | nil => exact fun _ h => nomatch h
  | cons hGap hOffset hLexeme h ih => exact List.forall_mem_cons.2 ⟨hLexeme, ih⟩

/-- The tokens lie one behind the other. -/
theorem pairwise (h : Tiles start cs tokens) :
    tokens.Pairwise fun token later => token.offset + token.lexeme.length ≤ later.offset := by
  induction h with
  | nil => exact .nil
  | cons hGap hOffset hLexeme h ih => exact .cons h.le_offset ih

theorem extract_middle (before middle after : List Char) :
    (before ++ (middle ++ after)).extract before.length (before.length + middle.length) =
      middle := by
  simp

/-- Every token is a stretch of the text. -/
theorem extract (h : Tiles start cs tokens) (hBefore : before.length = start) :
    ∀ token ∈ tokens, (before ++ cs).extract token.offset
      (token.offset + token.lexeme.length) = token.lexeme.toList := by
  induction h generalizing before with
  | nil => exact fun _ h => nomatch h
  | @cons start gap rest token tokens hGap hOffset hLexeme h ih =>
    have hLength : (before ++ gap).length = token.offset := by
      rw [List.length_append, hBefore, hOffset]
    rw [List.forall_mem_cons, ← List.append_assoc]
    constructor
    · rw [← hLength, ← String.length_toList]
      exact extract_middle _ _ _
    · rw [← List.append_assoc]
      exact ih (by rw [List.length_append, hLength, String.length_toList])

/-- Between the tokens there are comments and nothing else. -/
theorem gaps (h : Tiles start cs tokens) (hBefore : before.length = start) :
    ∀ gap ∈ gaps start (before ++ cs).length tokens,
      gap.1 ≤ gap.2 ∧ AreComments ((before ++ cs).extract gap.1 gap.2) := by
  induction h generalizing before with
  | @nil start gap hGap =>
    subst hBefore
    have hMiddle := extract_middle before gap []
    rw [List.append_nil] at hMiddle
    rw [Stencil.gaps, List.forall_mem_singleton, List.length_append, hMiddle]
    exact ⟨Nat.le_add_right _ _, hGap⟩
  | @cons start gap rest token tokens hGap hOffset hLexeme h ih =>
    subst hBefore
    rw [Stencil.gaps, List.forall_mem_cons]
    constructor
    · rw [hOffset, extract_middle]
      exact ⟨Nat.le_add_right _ _, hGap⟩
    · rw [← List.append_assoc, ← List.append_assoc]
      exact ih (by simp [hOffset, Nat.add_assoc, String.length_toList])

/-- A text without comments is what its tokens say together. -/
theorem join (h : Tiles start cs tokens)
    (hNone : ∀ comment, comment <:+: cs → ¬ IsComment comment) :
    (String.join (tokens.map Token.lexeme)).toList = cs := by
  induction h with
  | @nil start gap hGap =>
    rw [← List.append_nil gap] at hNone
    rw [hGap.eq_nil hNone]
    rfl
  | @cons start gap rest token tokens hGap hOffset hLexeme h ih =>
    obtain rfl := hGap.eq_nil hNone
    rw [List.nil_append] at hNone ⊢
    rw [List.map_cons, String.join_cons, String.toList_append, ih]
    rintro comment ⟨before, after, rfl⟩
    exact hNone comment ⟨token.lexeme.toList ++ before, after, by simp⟩

end Tiles

theorem tiles_tokenize (source : String) : Tiles 0 source.toList (tokenize source) := by
  have hTiles : Tiles 0 ((Lexeme.ofChars source.toList).flatMap Lexeme.text) (tokenize source) :=
    .tokensFrom (fun _ => Lexeme.text_ne_nil_of_mem) fun _ => Lexeme.isComment_of_mem
  rwa [Lexeme.ofChars, Lexeme.flatMap_text_ofCharsIn] at hTiles

/-! ### Plain text -/

/-- The nodes of tokens that are all plain text. -/
theorem Tree.build_texts (limit : Nat) {tokens : List Token}
    (h : ∀ token ∈ tokens, token.kind = .text) :
    build limit tokens = .ok (tokens.map fun token => .text token.offset token.lexeme) := by
  induction tokens with
  | nil => rw [build_nil, List.map_nil]
  | cons token tokens ih =>
    obtain ⟨hFirst, hLater⟩ := List.forall_mem_cons.1 h
    have hLeaf : leaf? token = some (.text token.offset token.lexeme) := by rw [leaf?, hFirst]
    rw [build_leaf hLeaf, ih hLater]
    rfl

theorem Render.renderNodes_texts (setup : Setup) (enter : Entry) (frame : Frame)
    (tokens : List Token) (context : Value) (metadata : Metadata) :
    renderNodes setup enter frame
      (tokens.map fun token => .text token.offset token.lexeme) context metadata =
      pure (String.join (tokens.map Token.lexeme)) := by
  induction tokens with
  | nil => rw [List.map_nil, renderNodes, List.map_nil, String.join_nil]
  | cons token tokens ih =>
    rw [List.map_cons, renderNodes, renderNode, pure_bind, ih, pure_bind, List.map_cons,
      String.join_cons]

namespace Engine

/-- A source that is all plain text renders to what its tokens say together. -/
theorem outcome_texts {engine : Engine} (hFaithful : engine.Faithful) {source : String}
    (h : ∀ token ∈ tokenize source, token.kind = .text) (name : Option String)
    (overrides : Overrides) (context : Value) (named : List (String × Value)) :
    engine.outcome source name overrides context named =
      .ok (String.join ((tokenize source).map Token.lexeme)) := by
  have hBuild (limit : Nat) := Tree.build_texts limit h
  have hDeep : ¬Template.TooDeep (engine.setup.machine.nesting []) source := by
    intro hDeep
    rw [Template.TooDeep, hBuild] at hDeep
    cases hDeep
  obtain ⟨template, after, hCompile, hSpec, -⟩ := History.compile_of_reads hFaithful
    ⟨0, hBuild 0⟩ hDeep (engine.setup.options.merge overrides) name
  rw [outcome, compile_of_ok hCompile]
  dsimp only
  rw [call, Render.render, (Template.anonymous_eq_iff.1 hSpec).1, Render.renderNodes_texts]
  rfl

end Engine

/-- No character of a source is lost but those of comments: the tokens lie one behind the other,
each where the source has it, and everything else is comments. So the tokens of a source without
comments make up the source, and if they are all plain text it renders to itself. -/
theorem tokenize_tiles (source : String) :
    let tokens := tokenize source
    (tokens.Pairwise fun token later =>
        token.offset < later.offset ∧ token.offset + token.lexeme.length ≤ later.offset) ∧
      (∀ token ∈ tokens, token.lexeme ≠ "" ∧
        source.toList.extract token.offset (token.offset + token.lexeme.length) =
          token.lexeme.toList) ∧
      (∀ gap ∈ gaps 0 source.length tokens,
        gap.1 ≤ gap.2 ∧ AreComments (source.toList.extract gap.1 gap.2)) ∧
      (¬ opener <:+: source.toList → String.join (tokens.map Token.lexeme) = source) ∧
      ((∀ token ∈ tokens, token.kind = .text) →
        (∀ comment, comment <:+: source.toList → ¬ IsComment comment) →
        ∀ (machine : Machine) (options : Options) (operations : List Engine.Operation)
          (name : Option String) (overrides : Overrides) (context : Value)
          (named : List (String × Value)),
          let engine := (Engine.new machine options).performAll operations
          engine.outcome source name overrides context named = .ok source ∧
            (engine.render source context overrides).1 = .ok source) := by
  intro tokens
  have hTiles : Tiles 0 source.toList tokens := tiles_tokenize source
  have hStretch : ∀ token ∈ tokens, ([] ++ source.toList).extract token.offset
      (token.offset + token.lexeme.length) = token.lexeme.toList := hTiles.extract rfl
  have hGaps : ∀ gap ∈ gaps 0 ([] ++ source.toList).length tokens,
      gap.1 ≤ gap.2 ∧ AreComments (([] ++ source.toList).extract gap.1 gap.2) := hTiles.gaps rfl
  have hJoin (hNone : ∀ comment, comment <:+: source.toList → ¬ IsComment comment) :
      String.join (tokens.map Token.lexeme) = source := String.toList_inj.1 (hTiles.join hNone)
  refine ⟨?_, fun token hToken => ⟨hTiles.lexeme_ne token hToken, hStretch token hToken⟩, ?_,
    fun hNone => hJoin fun comment hInfix hComment => ?_, ?_⟩
  · refine hTiles.pairwise.imp_of_mem fun {token later} hToken _ hBehind => ⟨?_, hBehind⟩
    have hLength : token.lexeme.length ≠ 0 :=
      fun h => hTiles.lexeme_ne token hToken (String.length_eq_zero_iff.1 h)
    omega
  · rwa [List.nil_append, String.length_toList] at hGaps
  · exact hNone (hComment.opener_isInfix.trans hInfix)
  · intro hText hNone machine options operations name overrides context named engine
    have hFaithful : engine.Faithful := Engine.faithful_performAll machine options operations
    have hOutcome (name : Option String) (named : List (String × Value)) :
        engine.outcome source name overrides context named = .ok source := by
      rw [Engine.outcome_texts hFaithful hText, hJoin hNone]
    exact ⟨hOutcome name named, (engine.render_eq_outcome source context overrides).trans
      (hOutcome none [])⟩

/-- Braces that are no tag. -/
theorem tokenize_tiles_braces :
    let source := Node.tag "#" ++ "a"
    (∀ token ∈ tokenize source, token.kind = .text) ∧
      (tokenize source).map Token.offset = [0, 1] ∧
      String.join ((tokenize source).map Token.lexeme) = source ∧
      ((Engine.new .small {}).render source .null {}).1 = .ok source := by
  intro source
  have hText : ∀ token ∈ tokenize source, token.kind = .text := by decide +kernel
  have hOpener : ¬ opener <:+: source.toList := by decide +kernel
  have hNone : ∀ comment, comment <:+: source.toList → ¬ IsComment comment :=
    fun comment hInfix hComment => hOpener (hComment.opener_isInfix.trans hInfix)
  obtain ⟨-, -, -, hJoin, hRender⟩ := tokenize_tiles source
  exact ⟨hText, by decide +kernel, hJoin hOpener, (hRender hText hNone .small {} [] none {} .null []).2⟩

end Stencil
