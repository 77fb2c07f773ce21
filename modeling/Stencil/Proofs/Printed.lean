import Stencil.Proofs.Scanning
import Stencil.Proofs.Words
import Stencil.Template.Print

/-!
The tokens of nodes that are written as text. Every node that can be written at all is read as its
own tokens, whatever is written behind it; only plain text must be followed by a tag or by nothing.
-/

namespace Stencil.Node

open Text Scan

/-! ### What can be written -/

/-- A word inside a tag. -/
structure IsTagWord (s : String) : Prop where
  ne_empty : s ≠ ""
  blank : ∀ c ∈ s.toList, isBlank c = false
  marks : ∀ c ∈ s.toList, c ≠ '{' ∧ c ≠ '}' ∧ c ≠ '|'

/-- The name of a block or of a partial. -/
structure IsName (s : String) : Prop where
  ne_empty : s ≠ ""
  word : ∀ c ∈ s.toList, isWord c = true

/-- The first word of an expression: it does not look like the front of another tag. -/
structure IsHead (s : String) : Prop extends IsTagWord s where
  mark : ∀ c ∈ s.toList.head?, c ≠ '#' ∧ c ≠ '/' ∧ c ≠ '>'
  comment : ¬ ['!', '-', '-'] <+: s.toList

/-- Text that holds no tag and forms none with a tag behind it. -/
structure IsPlain (s : String) : Prop where
  ne_empty : s ≠ ""
  braces : ¬ ['{', '{'] <:+: s.toList
  last : s.toList.getLast? ≠ some '{'

/-- Whether the node is plain text. -/
def isText : Node → Bool
  | .text .. => true
  | _ => false

mutual

/-- Every part of the node can be written. -/
def Printable : Node → Prop
  | .text _ content => IsPlain content
  | .output _ path arguments filters =>
    IsHead path ∧ (∀ word ∈ arguments, IsTagWord word) ∧
      ∀ filter ∈ filters, IsTagWord filter.name ∧ ∀ word ∈ filter.arguments, IsTagWord word
  | .block _ name arguments children =>
    IsName name ∧ (∀ word ∈ arguments, IsTagWord word) ∧ PrintableAll children
  | .inclusion _ name context => IsName name ∧ ∀ word ∈ context, IsTagWord word

/-- Every node can be written, and no two texts stand next to each other. -/
def PrintableAll : List Node → Prop
  | [] => True
  | node :: nodes =>
    Printable node ∧ (isText node = true → ∀ next ∈ nodes.head?, isText next = false) ∧
      PrintableAll nodes

end

/-! ### The tokens of what is written -/

/-- Arguments as a tag holds them. -/
def argumentText (arguments : List String) : Option String :=
  if arguments.isEmpty then none else some (spaced arguments)

mutual

/-- The tokens of the written form of a node that starts at an offset. -/
def tokens (start : Nat) : Node → List Token
  | .text _ content => [⟨.text, content, start⟩]
  | .output _ path arguments filters =>
    [⟨.output (expression path arguments filters), tag (expression path arguments filters), start⟩]
  | .block _ name arguments children =>
    let inner := start + (openingTag name arguments).length
    ⟨.opening name (argumentText arguments), openingTag name arguments, start⟩ ::
      (tokensAll inner children ++
        [⟨.closing name, tag ("/" ++ name), inner + (printAll children).length⟩])
  | .inclusion _ name context =>
    [⟨.inclusion name context, tag (spaced (">" :: name :: context.toList)), start⟩]

/-- The tokens of the written forms of nodes that follow one another from an offset on. -/
def tokensAll (start : Nat) : List Node → List Token
  | [] => []
  | node :: nodes => tokens start node ++ tokensAll (start + (print node).length) nodes

end

/-! ### Words of tags -/

theorem IsTagWord.bare {s : String} (h : IsTagWord s) : Bare s.toList :=
  ⟨fun hnil => h.ne_empty (String.toList_eq_nil_iff.1 hnil), h.blank⟩

theorem bare_of_mem {words : List String} (h : ∀ word ∈ words, IsTagWord word) :
    ∀ cs ∈ words.map String.toList, Bare cs := by
  intro cs hcs
  obtain ⟨word, hword, rfl⟩ := List.mem_map.1 hcs
  exact (h word hword).bare

theorem toList_tag (inside : String) :
    (tag inside).toList = '{' :: '{' :: (inside.toList ++ ['}', '}']) := by
  simp [tag]

theorem toList_spaced (words : List String) :
    (spaced words).toList = [' '].intercalate (words.map String.toList) :=
  String.toList_intercalate

/-- The characters of words with a separator between them are those of the words and of the
separator. -/
theorem mem_intercalate {separator : List Char} {words : List (List Char)} {c : Char}
    (h : c ∈ separator.intercalate words) : c ∈ separator ∨ ∃ word ∈ words, c ∈ word := by
  induction words with
  | nil => cases h
  | cons word words ih =>
    cases words with
    | nil => exact .inr ⟨word, List.mem_cons_self, by simpa using h⟩
    | cons next words =>
      rw [List.intercalate_cons_cons, List.mem_append, List.mem_append] at h
      rcases h with (h | h) | h
      · exact .inr ⟨word, List.mem_cons_self, h⟩
      · exact .inl h
      · rcases ih h with hs | ⟨other, hother, hc⟩
        · exact .inl hs
        · exact .inr ⟨other, List.mem_cons_of_mem word hother, hc⟩

theorem intercalate_ne_nil {separator word : List Char} (hw : word ≠ [])
    (words : List (List Char)) : separator.intercalate (word :: words) ≠ [] := by
  obtain ⟨c, word, rfl⟩ := List.exists_cons_of_ne_nil hw
  rw [← cons_intercalate]
  exact List.cons_ne_nil _ _

theorem getLast?_intercalate {separator : List Char} {words : List (List Char)}
    (hw : ∀ word ∈ words, word ≠ []) :
    ∀ c ∈ (separator.intercalate words).getLast?, ∃ word ∈ words, c ∈ word.getLast? := by
  induction words with
  | nil =>
    intro c hc
    cases hc
  | cons word words ih =>
    intro c hc
    cases words with
    | nil => exact ⟨word, List.mem_cons_self, by simpa using hc⟩
    | cons next words =>
      have hne : separator.intercalate (next :: words) ≠ [] :=
        intercalate_ne_nil (hw next (by simp)) words
      rw [List.intercalate_cons_cons, List.getLast?_append,
        Option.or_of_isSome (List.getLast?_isSome.2 hne)] at hc
      obtain ⟨other, hother, hlast⟩ := ih (fun w hm => hw w (List.mem_cons_of_mem word hm)) c hc
      exact ⟨other, List.mem_cons_of_mem word hother, hlast⟩

/-- Pieces that end in no blank and hold no closing brace make up a run that is read back whole. -/
theorem solid_intercalate {separator : List Char} (hs : '}' ∉ separator)
    {pieces : List (List Char)} (hne : ∀ piece ∈ pieces, piece ≠ [])
    (hp : ∀ piece ∈ pieces, Solid piece) : Solid (separator.intercalate pieces) := by
  constructor
  · intro c hc hbrace
    subst hbrace
    rcases mem_intercalate hc with hm | ⟨piece, hpiece, hm⟩
    · exact hs hm
    · exact (hp piece hpiece).braces _ hm rfl
  · intro c hc
    obtain ⟨piece, hpiece, hlast⟩ := getLast?_intercalate hne c hc
    exact (hp piece hpiece).last c hlast

theorem IsTagWord.solid {s : String} (h : IsTagWord s) : Solid s.toList :=
  ⟨fun c hc => (h.marks c hc).2.1, fun c hc => h.blank c (List.mem_of_getLast? hc)⟩

theorem spaced_ne_nil {word : String} (h : IsTagWord word) (words : List String) :
    (spaced (word :: words)).toList ≠ [] := by
  rw [toList_spaced, List.map_cons]
  exact intercalate_ne_nil h.bare.ne_nil _

theorem solid_spaced {words : List String} (h : ∀ word ∈ words, IsTagWord word) :
    Solid (spaced words).toList := by
  rw [toList_spaced]
  refine solid_intercalate (by decide) (fun cs hcs => (bare_of_mem h cs hcs).ne_nil) ?_
  intro cs hcs
  obtain ⟨word, hword, rfl⟩ := List.mem_map.1 hcs
  exact (h word hword).solid

/-- A character between words is a space. -/
theorem mem_spaced {words : List String} {c : Char} (h : c ∈ (spaced words).toList) :
    c = ' ' ∨ ∃ word ∈ words, c ∈ word.toList := by
  rw [toList_spaced] at h
  rcases mem_intercalate h with hs | ⟨cs, hcs, hc⟩
  · exact .inl (List.mem_singleton.1 hs)
  · obtain ⟨word, hword, rfl⟩ := List.mem_map.1 hcs
    exact .inr ⟨word, hword, hc⟩

theorem newline_not_mem_spaced {words : List String} (h : ∀ word ∈ words, IsTagWord word) :
    '\n' ∉ (spaced words).toList := by
  intro hm
  rcases mem_spaced hm with hs | ⟨word, hword, hc⟩
  · exact absurd hs (by decide)
  · exact absurd ((h word hword).blank _ hc) (by decide)

/-! ### Tags in front of a text -/

/-- Arguments with the blank that stands before them. -/
def argumentChars (arguments : List String) : List Char :=
  if arguments.isEmpty then [] else ' ' :: (spaced arguments).toList

theorem toList_spaced_cons (word : String) (words : List String) :
    (spaced (word :: words)).toList = word.toList ++ argumentChars words := by
  cases words with
  | nil => simp [toList_spaced, argumentChars]
  | cons next words =>
    rw [toList_spaced, List.map_cons, List.map_cons, List.intercalate_cons_cons]
    simp [argumentChars, toList_spaced]

theorem tagTail_arguments {arguments : List String} (h : ∀ word ∈ arguments, IsTagWord word)
    (rest : List Char) :
    tagTail (argumentChars arguments ++ '}' :: '}' :: rest) =
      some ⟨(argumentText arguments).map String.toList,
        argumentChars arguments ++ ['}', '}'], rest⟩ := by
  cases arguments with
  | nil => exact tagTail_braces rest
  | cons word words =>
    have hword := (h word List.mem_cons_self).bare
    have hhead : ∃ c ∈ (spaced (word :: words)).toList.head?, isBlank c = false := by
      obtain ⟨c, cs, hcs⟩ := List.exists_cons_of_ne_nil hword.ne_nil
      refine ⟨c, ?_, hword.blank c (hcs ▸ List.mem_cons_self)⟩
      simp [toList_spaced_cons, hcs]
    exact tagTail_of_solid (solid_spaced h) (newline_not_mem_spaced h) hhead rest

theorem not_isWord_argumentChars (arguments : List String) (rest : List Char) :
    ∀ c ∈ (argumentChars arguments ++ '}' :: '}' :: rest).head?, isWord c = false := by
  intro c hc
  cases arguments with
  | nil =>
    cases hc
    decide
  | cons word words =>
    cases hc
    decide

theorem IsName.ne_nil {s : String} (h : IsName s) : s.toList ≠ [] :=
  fun hnil => h.ne_empty (String.toList_eq_nil_iff.1 hnil)

theorem firstMatch_openingTag {name : String} {arguments : List String} (hn : IsName name)
    (ha : ∀ word ∈ arguments, IsTagWord word) (rest : List Char) :
    Lexeme.firstMatch Lexeme.priority ((openingTag name arguments).toList ++ rest) =
      some ⟨some (.opening name (argumentText arguments)), (openingTag name arguments).toList,
        rest⟩ := by
  have hchars : (openingTag name arguments).toList =
      '{' :: '{' :: '#' :: (name.toList ++ (argumentChars arguments ++ ['}', '}'])) := by
    simp [openingTag, toList_tag, toList_spaced_cons]
  have h := openingTag_eq hn.ne_nil hn.word (not_isWord_argumentChars arguments rest)
  rw [tagTail_arguments ha, Option.map_some] at h
  refine Lexeme.firstMatch_opening ?_
  rw [hchars]
  simpa [Function.comp_def] using h

theorem firstMatch_closingTag {name : String} (hn : IsName name) (rest : List Char) :
    Lexeme.firstMatch Lexeme.priority ((tag ("/" ++ name)).toList ++ rest) =
      some ⟨some (.closing name), (tag ("/" ++ name)).toList, rest⟩ := by
  have hchars : (tag ("/" ++ name)).toList =
      '{' :: '{' :: '/' :: (name.toList ++ ['}', '}']) := by
    simp [toList_tag]
  have h := closingTag_eq hn.ne_nil hn.word rest
  rw [hchars]
  refine Lexeme.firstMatch_closing ?_
  simpa using h

theorem firstMatch_inclusionTag {name : String} {context : Option String} (hn : IsName name)
    (hc : ∀ word ∈ context, IsTagWord word) (rest : List Char) :
    Lexeme.firstMatch Lexeme.priority
        ((tag (spaced (">" :: name :: context.toList))).toList ++ rest) =
      some ⟨some (.inclusion name context), (tag (spaced (">" :: name :: context.toList))).toList,
        rest⟩ := by
  have ha : ∀ word ∈ context.toList, IsTagWord word := by simpa using hc
  have hchars : (tag (spaced (">" :: name :: context.toList))).toList =
      '{' :: '{' :: '>' :: ' ' ::
        (name.toList ++ (argumentChars context.toList ++ ['}', '}'])) := by
    rw [toList_tag, toList_spaced_cons]
    simp [argumentChars, toList_spaced_cons]
  have htext : argumentText context.toList = context := by
    cases context with
    | none => rfl
    | some word => simp [argumentText, spaced]
  have h := inclusionTag_eq hn.ne_nil hn.word (not_isWord_argumentChars context.toList rest)
  rw [tagTail_arguments ha, Option.map_some, htext] at h
  rw [hchars]
  refine Lexeme.firstMatch_inclusion ?_
  simpa [Function.comp_def] using h

/-! ### Expressions -/

/-- The pieces of an expression: the path with its arguments, and the filters with theirs. -/
def pieces (path : String) (arguments : List String) (filters : List Filter) : List String :=
  spaced (path :: arguments) ::
    filters.map fun filter => spaced (filter.name :: filter.arguments)

theorem toList_expression (path : String) (arguments : List String) (filters : List Filter) :
    (expression path arguments filters).toList =
      [' ', '|', ' '].intercalate ((pieces path arguments filters).map String.toList) :=
  String.toList_intercalate

section

variable {path : String} {arguments : List String} {filters : List Filter} (hp : IsHead path)
  (ha : ∀ word ∈ arguments, IsTagWord word)
  (hf : ∀ filter ∈ filters, IsTagWord filter.name ∧ ∀ word ∈ filter.arguments, IsTagWord word)
include hp ha hf

/-- Every piece is a list of words of which the first exists. -/
theorem exists_words_of_mem_pieces {piece : String} (h : piece ∈ pieces path arguments filters) :
    ∃ word words, piece = spaced (word :: words) ∧ ∀ w ∈ word :: words, IsTagWord w := by
  rcases List.mem_cons.1 h with rfl | h
  · refine ⟨path, arguments, rfl, fun w hw => ?_⟩
    rcases List.mem_cons.1 hw with rfl | hw
    · exact hp.toIsTagWord
    · exact ha w hw
  · obtain ⟨filter, hfilter, rfl⟩ := List.mem_map.1 h
    obtain ⟨hname, hwords⟩ := hf filter hfilter
    refine ⟨filter.name, filter.arguments, rfl, fun w hw => ?_⟩
    rcases List.mem_cons.1 hw with rfl | hw
    · exact hname
    · exact hwords w hw

theorem solid_expression : Solid (expression path arguments filters).toList := by
  rw [toList_expression]
  refine solid_intercalate (by decide) (fun cs hcs => ?_) (fun cs hcs => ?_)
  · obtain ⟨piece, hpiece, rfl⟩ := List.mem_map.1 hcs
    obtain ⟨word, words, rfl, hw⟩ := exists_words_of_mem_pieces hp ha hf hpiece
    exact spaced_ne_nil (hw word List.mem_cons_self) words
  · obtain ⟨piece, hpiece, rfl⟩ := List.mem_map.1 hcs
    obtain ⟨word, words, rfl, hw⟩ := exists_words_of_mem_pieces hp ha hf hpiece
    exact solid_spaced hw

omit hp ha hf

/-- Behind the path of an expression there is nothing or a space. -/
theorem exists_toList_expression (path : String) (arguments : List String)
    (filters : List Filter) :
    ∃ more, (expression path arguments filters).toList = path.toList ++ more ∧
      ∀ c ∈ more.head?, c = ' ' := by
  rw [toList_expression, pieces, List.map_cons, toList_spaced_cons]
  have harg : ∀ c ∈ (argumentChars arguments).head?, c = ' ' := by
    intro c hc
    cases arguments with
    | nil => cases hc
    | cons word words =>
      cases hc
      rfl
  cases filters with
  | nil => exact ⟨argumentChars arguments, by simp, harg⟩
  | cons filter filters =>
    rw [List.map_cons, List.map_cons, List.intercalate_cons_cons, List.append_assoc,
      List.append_assoc]
    refine ⟨_, rfl, fun c hc => ?_⟩
    cases hcs : argumentChars arguments with
    | nil =>
      rw [hcs] at hc
      cases hc
      rfl
    | cons d ds =>
      rw [hcs] at hc harg
      cases hc
      exact harg c rfl

end

/-- A path that does not begin like a comment does not become one by what follows it. -/
theorem comment_eq_none {path more : List Char} (hne : path ≠ [])
    (hp : ¬ ['!', '-', '-'] <+: path) (hm : ∀ c ∈ more.head?, c = ' ' ∨ c = '}') :
    Scan.comment ('{' :: '{' :: (path ++ more)) = none := by
  have hmore : ∀ cs, more ≠ '-' :: cs := by
    rintro cs rfl
    rcases hm '-' rfl with h | h
    · exact absurd h (by decide)
    · exact absurd h (by decide)
  unfold Scan.comment
  split
  · rename_i cs heq
    simp only [List.cons.injEq, true_and] at heq
    match path, hne, hp, heq with
    | [_], _, _, heq => exact absurd (List.cons.inj heq).2 (hmore _)
    | [_, _], _, _, heq => exact absurd (List.cons.inj (List.cons.inj heq).2).2 (hmore _)
    | a :: b :: c :: path, _, hp, heq =>
      simp only [List.cons_append, List.cons.injEq] at heq
      obtain ⟨rfl, rfl, rfl, -⟩ := heq
      exact absurd ⟨path, rfl⟩ hp
  · rfl

theorem firstMatch_outputTag {path : String} {arguments : List String} {filters : List Filter}
    (hp : IsHead path) (ha : ∀ word ∈ arguments, IsTagWord word)
    (hf : ∀ filter ∈ filters, IsTagWord filter.name ∧
      ∀ word ∈ filter.arguments, IsTagWord word) (rest : List Char) :
    Lexeme.firstMatch Lexeme.priority
        ((tag (expression path arguments filters)).toList ++ rest) =
      some ⟨some (.output (expression path arguments filters)),
        (tag (expression path arguments filters)).toList, rest⟩ := by
  obtain ⟨more, hchars, hmore⟩ := exists_toList_expression path arguments filters
  obtain ⟨c, cs, hcs⟩ := List.exists_cons_of_ne_nil hp.bare.ne_nil
  have hexpr : (expression path arguments filters).toList = c :: (cs ++ more) := by
    rw [hchars, hcs, List.cons_append]
  have hsolid : Solid (c :: (cs ++ more)) := hexpr ▸ solid_expression hp ha hf
  have hblank : isBlank c = false := hp.blank c (hcs ▸ List.mem_cons_self)
  have hafter : ∀ d ∈ (more ++ '}' :: '}' :: rest).head?, d = ' ' ∨ d = '}' := by
    intro d hd
    cases more with
    | nil =>
      cases hd
      exact .inr rfl
    | cons e more =>
      cases hd
      exact .inl (hmore d rfl)
  have hcomment := comment_eq_none hp.bare.ne_nil hp.comment hafter
  have htag := outputTag_eq hblank (hp.mark c (by rw [hcs]; rfl)) hsolid rest
  rw [← hexpr, String.ofList_toList] at htag
  rw [hcs, List.cons_append] at hcomment
  rw [toList_tag, hexpr]
  refine Lexeme.firstMatch_output hblank (hp.mark c (by rw [hcs]; rfl)) ?_ ?_
  · simpa using hcomment
  · simpa using htag

/-! ### Nodes in front of a text -/

theorem firstMatch_text {content : String} (h : IsPlain content) {rest : List Char}
    (hr : rest = [] ∨ ∃ later, rest = '{' :: '{' :: later) :
    Lexeme.firstMatch Lexeme.priority (content.toList ++ rest) =
      some ⟨some .text, content.toList, rest⟩ := by
  have hne : content.toList ≠ [] := fun hnil => h.ne_empty (String.toList_eq_nil_iff.1 hnil)
  have hrun := textRun_append_of_plain h.braces h.last hr
  have hopen : ¬ ['{', '{'] <+: content.toList ++ rest := by
    rintro ⟨later, hl⟩
    obtain ⟨c, cs, hcs⟩ := List.exists_cons_of_ne_nil hne
    rw [← hl, hcs] at hrun
    simp [textRun] at hrun
  rw [Lexeme.firstMatch_plain hopen]
  unfold plain
  rw [hrun]
  obtain ⟨c, cs, hcs⟩ := List.exists_cons_of_ne_nil hne
  rw [hcs]

/-- A tag begins with two braces. -/
theorem exists_toList_print {node : Node} (h : isText node = false) :
    ∃ later, (print node).toList = '{' :: '{' :: later := by
  cases node with
  | text => cases h
  | output => exact ⟨_, by rw [print, toList_tag]⟩
  | block => exact ⟨_, by rw [print, openingTag, String.toList_append, String.toList_append,
      toList_tag, List.cons_append, List.cons_append, List.cons_append, List.cons_append]⟩
  | inclusion => exact ⟨_, by rw [print, toList_tag]⟩

/-- One lexeme that does not depend on what follows gives one token. -/
theorem tokensFrom_of_firstMatch {kind : Token.Kind} {taken : String} {rest : List Char}
    (start : Nat) (h : Lexeme.firstMatch Lexeme.priority (taken.toList ++ rest) =
      some ⟨some kind, taken.toList, rest⟩) :
    Lexeme.tokensFrom start (Lexeme.ofChars (taken.toList ++ rest)) =
      ⟨kind, taken, start⟩ ::
        Lexeme.tokensFrom (start + taken.length) (Lexeme.ofChars rest) := by
  rw [Lexeme.ofChars_of_firstMatch h]
  simp only [Lexeme.tokensFrom, String.ofList_toList, String.length_toList]

mutual

theorem tokensFrom_print (start : Nat) (node : Node) (rest : List Char) (h : Printable node)
    (hr : isText node = true → rest = [] ∨ ∃ later, rest = '{' :: '{' :: later) :
    Lexeme.tokensFrom start (Lexeme.ofChars ((print node).toList ++ rest)) =
      tokens start node ++
        Lexeme.tokensFrom (start + (print node).length) (Lexeme.ofChars rest) := by
  cases node with
  | text offset content =>
    rw [Printable] at h
    rw [print, tokensFrom_of_firstMatch start (firstMatch_text h (hr rfl)), tokens]
    simp
  | output offset path arguments filters =>
    rw [Printable] at h
    obtain ⟨hp, ha, hf⟩ := h
    rw [print, tokensFrom_of_firstMatch start (firstMatch_outputTag hp ha hf rest), tokens]
    simp
  | block offset name arguments children =>
    rw [Printable] at h
    obtain ⟨hn, ha, hc⟩ := h
    have hopen := firstMatch_openingTag hn ha
      ((printAll children).toList ++ ((tag ("/" ++ name)).toList ++ rest))
    have hinner := tokensFrom_printAll (start + (openingTag name arguments).length) children
      ((tag ("/" ++ name)).toList ++ rest) hc (.inr ⟨_, by
        rw [toList_tag, List.cons_append, List.cons_append]⟩)
    have hclose := tokensFrom_of_firstMatch
      (start + (openingTag name arguments).length + (printAll children).length)
      (firstMatch_closingTag hn rest)
    rw [print, String.toList_append, String.toList_append, List.append_assoc, List.append_assoc,
      tokensFrom_of_firstMatch start hopen, hinner, hclose, tokens]
    simp [Nat.add_assoc]
  | inclusion offset name context =>
    rw [Printable] at h
    obtain ⟨hn, hc⟩ := h
    rw [print, tokensFrom_of_firstMatch start (firstMatch_inclusionTag hn hc rest), tokens]
    simp

/-- Nodes are read as their tokens up to where a tag or nothing follows. -/
theorem tokensFrom_printAll (start : Nat) (nodes : List Node) (rest : List Char)
    (h : PrintableAll nodes) (hr : rest = [] ∨ ∃ later, rest = '{' :: '{' :: later) :
    Lexeme.tokensFrom start (Lexeme.ofChars ((printAll nodes).toList ++ rest)) =
      tokensAll start nodes ++
        Lexeme.tokensFrom (start + (printAll nodes).length) (Lexeme.ofChars rest) := by
  cases nodes with
  | nil => simp [printAll, tokensAll]
  | cons node nodes =>
    rw [PrintableAll] at h
    obtain ⟨hnode, hnext, hnodes⟩ := h
    have hafter : isText node = true →
        (printAll nodes).toList ++ rest = [] ∨
          ∃ later, (printAll nodes).toList ++ rest = '{' :: '{' :: later := by
      intro ht
      cases nodes with
      | nil => simpa using hr
      | cons next nodes =>
        obtain ⟨later, hl⟩ := exists_toList_print (hnext ht next rfl)
        refine .inr ⟨later ++ ((printAll nodes).toList ++ rest), ?_⟩
        rw [printAll, String.toList_append, hl]
        simp
    rw [printAll, String.toList_append, List.append_assoc,
      tokensFrom_print start node _ hnode hafter,
      tokensFrom_printAll (start + (print node).length) nodes rest hnodes hr, tokensAll]
    simp [Nat.add_assoc]

end

/-- The written form of nodes is read as their tokens. -/
theorem tokenize_printAll {nodes : List Node} (h : PrintableAll nodes) :
    tokenize (printAll nodes) = tokensAll 0 nodes := by
  have hall := tokensFrom_printAll 0 nodes [] h (.inl rfl)
  have hnil : Lexeme.ofChars [] = [] := by
    rw [Lexeme.ofChars, Lexeme.ofCharsIn]
  rw [List.append_nil, hnil, Lexeme.tokensFrom, List.append_nil] at hall
  exact hall

end Stencil.Node
