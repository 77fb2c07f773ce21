import Stencil.Proofs.Building
import Stencil.Proofs.Printed
import Stencil.Template.Compile

/-!
Nodes that are written as text are read back as they were, with the offsets at which they were
written. What is read as tokens is built into the same tree: words are found again in the tags, and
every block ends at its own closing tag.
-/

namespace Stencil.Node

open Text

/-! ### What the tags say -/

theorem words_spaced {words : List String} (h : ∀ word ∈ words, IsTagWord word) :
    Text.words (spaced words) = words := by
  rw [Text.words, toList_spaced, wordChars_intercalate (bare_of_mem h), List.map_map]
  simp [Function.comp_def]

theorem words_argumentText {arguments : List String} (h : ∀ word ∈ arguments, IsTagWord word) :
    ((argumentText arguments).map Text.words).getD [] = arguments := by
  cases arguments with
  | nil => rfl
  | cons word words => exact words_spaced h

theorem trim_of_bare {s : String} (h : Bare s.toList) : Text.trim s = s := by
  rw [Text.trim, trimChars_of_bare h, String.ofList_toList]

theorem contextExpression_eq {context : Option String} (h : ∀ word ∈ context, IsTagWord word) :
    Tree.contextExpression context = context := by
  cases context with
  | none => rfl
  | some word =>
    have hword : IsTagWord word := h word rfl
    simp [Tree.contextExpression, trim_of_bare hword.bare, hword.ne_empty]

theorem bar_not_mem_spaced {words : List String} (h : ∀ word ∈ words, IsTagWord word) :
    '|' ∉ (spaced words).toList := by
  intro hm
  rcases mem_spaced hm with hs | ⟨word, hword, hc⟩
  · exact absurd hs (by decide)
  · exact ((h word hword).marks _ hc).2.2 rfl

/-- The filters of an expression are found again, whatever blanks stand around them. -/
theorem filters_eq {filters : List Filter} {stages : List (List Char)} (offset : Nat)
    (h : stages.map wordChars =
      filters.map fun filter => (filter.name :: filter.arguments).map String.toList) :
    (stages.filterMap fun stage => Tree.filter? offset (String.ofList stage)) =
      filters.map fun filter => { filter with offset := offset } := by
  induction filters generalizing stages with
  | nil =>
    rw [List.map_nil, List.map_eq_nil_iff] at h
    rw [h]
    rfl
  | cons filter filters ih =>
    obtain ⟨stage, later, rfl, hstage, hlater⟩ := List.map_eq_cons_iff.1 h
    have hwords : Text.words (String.ofList stage) = filter.name :: filter.arguments := by
      rw [Text.words, String.toList_ofList, hstage, List.map_map]
      simp [Function.comp_def]
    have hfilter : Tree.filter? offset (String.ofList stage) =
        some { filter with offset := offset } := by
      rw [Tree.filter?, hwords]
    simp only [List.filterMap_cons, hfilter, ih hlater, List.map_cons]

theorem outputNode_expression {path : String} {arguments : List String} {filters : List Filter}
    (hp : IsHead path) (ha : ∀ word ∈ arguments, IsTagWord word)
    (hf : ∀ filter ∈ filters, IsTagWord filter.name ∧
      ∀ word ∈ filter.arguments, IsTagWord word) (start : Nat) :
    Tree.outputNode start (expression path arguments filters) =
      .output start path arguments (filters.map fun filter => { filter with offset := start }) := by
  have hhead : ∀ word ∈ path :: arguments, IsTagWord word := by
    intro word hword
    rcases List.mem_cons.1 hword with rfl | hword
    · exact hp.toIsTagWord
    · exact ha word hword
  have hbars : ∀ cs ∈ (pieces path arguments filters).map String.toList, '|' ∉ cs := by
    intro cs hcs
    obtain ⟨piece, hpiece, rfl⟩ := List.mem_map.1 hcs
    obtain ⟨word, words, rfl, hw⟩ := exists_words_of_mem_pieces hp ha hf hpiece
    exact bar_not_mem_spaced hw
  rw [pieces, List.map_cons] at hbars
  obtain ⟨hfirst, hlater⟩ := cutChars_intercalate _ _ hbars
  have hstages : ((filters.map fun filter =>
        spaced (filter.name :: filter.arguments)).map String.toList).map wordChars =
      filters.map fun filter => (filter.name :: filter.arguments).map String.toList := by
    rw [List.map_map, List.map_map]
    refine List.map_congr_left fun filter hfilter => ?_
    obtain ⟨hname, hwords⟩ := hf filter hfilter
    have hall : ∀ word ∈ filter.name :: filter.arguments, IsTagWord word := by
      intro word hword
      rcases List.mem_cons.1 hword with rfl | hword
      · exact hname
      · exact hwords word hword
    rw [Function.comp_apply, Function.comp_apply, toList_spaced,
      wordChars_intercalate (bare_of_mem hall)]
  have hfilters := filters_eq start (hlater.trans hstages)
  unfold Tree.outputNode
  rw [toList_expression, pieces, List.map_cons]
  generalize hcut : cutChars '|' ([' ', '|', ' '].intercalate
    ((spaced (path :: arguments)).toList :: (filters.map fun filter =>
      spaced (filter.name :: filter.arguments)).map String.toList)) = cut at hfirst hfilters
  obtain ⟨head, stages⟩ := cut
  have hwords : Text.words (String.ofList head) = path :: arguments := by
    rw [← words_spaced hhead, Text.words, Text.words, String.toList_ofList]
    rcases hfirst with h | h
    · rw [show head = _ from h]
    · rw [show head = _ from h, wordChars_append_blank isBlank_space]
  simp only [hwords, hfilters]
  cases arguments with
  | cons word words => rfl
  | nil =>
    have hpath : (spaced [path]).toList = path.toList := by simp [toList_spaced]
    have htrim : Text.trim (String.ofList head) = path := by
      rw [Text.trim, String.toList_ofList]
      rcases hfirst with h | h
      · rw [show head = _ from h, hpath, trimChars_of_bare hp.bare, String.ofList_toList]
      · rw [show head = _ from h, hpath, trimChars_bare_append hp.bare isBlank_space,
          String.ofList_toList]
    simp only [htrim]

/-! ### Blocks -/

mutual

/-- The tokens of a node balance, so no search for a closing tag ends among them. -/
theorem splitAtClose_tokens (name : String) (depth start : Nat) (node : Node)
    (behind : List Token) :
    Tree.splitAtClose name (depth + 1) (tokens start node ++ behind) =
      (Tree.splitAtClose name (depth + 1) behind).map fun cut =>
        (tokens start node ++ cut.1, cut.2) := by
  cases node with
  | text offset content =>
    rw [tokens, List.singleton_append, Tree.splitAtClose_leaf rfl]
    rfl
  | output offset path arguments filters =>
    rw [tokens, List.singleton_append, Tree.splitAtClose_leaf rfl]
    rfl
  | inclusion offset other context =>
    rw [tokens, List.singleton_append, Tree.splitAtClose_leaf rfl]
    rfl
  | block offset other arguments children =>
    rw [tokens, List.cons_append, List.append_assoc, List.singleton_append,
      Tree.splitAtClose_opening rfl]
    by_cases hname : other = name
    · rw [if_pos hname, splitAtClose_tokensAll name (depth + 1) _ children,
        Tree.splitAtClose_closing_succ (by rw [hname]), Option.map_map, Option.map_map]
      simp [Function.comp_def, Tree.putInside]
    · rw [if_neg hname, splitAtClose_tokensAll name depth _ children,
        Tree.splitAtClose_closing_ne rfl hname, Option.map_map, Option.map_map]
      simp [Function.comp_def, Tree.putInside]

theorem splitAtClose_tokensAll (name : String) (depth start : Nat) (nodes : List Node)
    (behind : List Token) :
    Tree.splitAtClose name (depth + 1) (tokensAll start nodes ++ behind) =
      (Tree.splitAtClose name (depth + 1) behind).map fun cut =>
        (tokensAll start nodes ++ cut.1, cut.2) := by
  cases nodes with
  | nil => simp [tokensAll]
  | cons node nodes =>
    rw [tokensAll, List.append_assoc, splitAtClose_tokens name depth start node,
      splitAtClose_tokensAll name depth _ nodes, Option.map_map]
    simp [Function.comp_def]

end

mutual

theorem build_tokens (start : Nat) (node : Node) {limit : Nat} {behind : List Token}
    {later : List Node} (h : Printable node) (hd : depth node ≤ limit)
    (hb : Tree.build limit behind = .ok later) :
    Tree.build limit (tokens start node ++ behind) = .ok (placed start node :: later) := by
  cases node with
  | text offset content =>
    rw [tokens, List.singleton_append, Tree.build_leaf rfl, hb, placed]
    rfl
  | output offset path arguments filters =>
    rw [Printable] at h
    obtain ⟨hp, ha, hf⟩ := h
    rw [tokens, List.singleton_append, Tree.build_leaf rfl, hb, placed,
      outputNode_expression hp ha hf]
    rfl
  | inclusion offset name context =>
    rw [Printable] at h
    rw [tokens, List.singleton_append, Tree.build_leaf rfl, hb, placed,
      contextExpression_eq h.2]
    rfl
  | block offset name arguments children =>
    rw [Printable] at h
    obtain ⟨hn, ha, hc⟩ := h
    rw [depth] at hd
    obtain ⟨limit, rfl⟩ := Nat.exists_eq_add_of_le' (Nat.le_of_add_left_le hd)
    have hsplit : Tree.splitAtClose name 1
        (tokensAll (start + (openingTag name arguments).length) children ++
          ⟨.closing name, tag ("/" ++ name),
            start + (openingTag name arguments).length + (printAll children).length⟩ :: behind) =
        some (tokensAll (start + (openingTag name arguments).length) children, behind) := by
      rw [splitAtClose_tokensAll name 0, Tree.splitAtClose_closing_one rfl]
      simp
    have hchildren := build_tokensAll (start + (openingTag name arguments).length) children hc
      (Nat.le_of_succ_le_succ hd)
    rw [tokens, List.cons_append, List.append_assoc, List.singleton_append,
      Tree.build_block rfl hsplit, hchildren, hb, placed, words_argumentText ha]
    rfl

theorem build_tokensAll (start : Nat) (nodes : List Node) {limit : Nat}
    (h : PrintableAll nodes) (hd : depthAll nodes ≤ limit) :
    Tree.build limit (tokensAll start nodes) = .ok (placedAll start nodes) := by
  cases nodes with
  | nil => rw [tokensAll, Tree.build_nil, placedAll]
  | cons node nodes =>
    rw [PrintableAll] at h
    obtain ⟨hnode, -, hnodes⟩ := h
    rw [depthAll, Nat.max_le] at hd
    rw [tokensAll, placedAll]
    exact build_tokens start node hnode hd.1
      (build_tokensAll (start + (print node).length) nodes hnodes hd.2)

end

/-- Nodes that can be written, and in which no more blocks lie inside one another than the limit
allows, are read back from their written form with the offsets at which they were written. -/
theorem parse_tokenize_printAll {nodes : List Node} {limit : Nat} (h : PrintableAll nodes)
    (hd : depthAll nodes ≤ limit) (source name : Option String) :
    Template.parse limit (tokenize (printAll nodes)) source name = .ok (placedAll 0 nodes) := by
  rw [Template.parse, tokenize_printAll h, build_tokensAll 0 nodes h hd]

/-- A loop inside a loop of the same name, among text, an expression and a partial. -/
def nestedLoops : List Node :=
  [.block 0 "each" ["rows"]
    [.text 0 "<\x7br> ",
      .block 0 "each" ["this"] [.output 0 "name" ["this"] [⟨0, "truncate", ["3"]⟩]],
      .inclusion 0 "end" (some "row")],
    .text 0 "\x7d\x7d"]

theorem printable_nestedLoops : PrintableAll nestedLoops := by
  have word (s : String) (hne : s ≠ "") (hb : ∀ c ∈ s.toList, isBlank c = false)
      (hm : ∀ c ∈ s.toList, c ≠ '{' ∧ c ≠ '}' ∧ c ≠ '|') : IsTagWord s := ⟨hne, hb, hm⟩
  have hname : IsHead "name" :=
    ⟨word _ (by decide) (by simp [isBlank]) (by simp), by simp, by decide⟩
  have hrows : IsTagWord "rows" := word _ (by decide) (by simp [isBlank]) (by simp)
  have hthis : IsTagWord "this" := word _ (by decide) (by simp [isBlank]) (by simp)
  have hrow : IsTagWord "row" := word _ (by decide) (by simp [isBlank]) (by simp)
  have htruncate : IsTagWord "truncate" := word _ (by decide) (by simp [isBlank]) (by simp)
  have hthree : IsTagWord "3" := word _ (by decide) (by simp [isBlank]) (by simp)
  have heach : IsName "each" := ⟨by decide, by simp [isWord]⟩
  have hend : IsName "end" := ⟨by decide, by simp [isWord]⟩
  have hfront : IsPlain "<\x7br> " := ⟨by decide, by decide, by decide⟩
  have hback : IsPlain "\x7d\x7d" := ⟨by decide, by decide, by decide⟩
  simp [nestedLoops, PrintableAll, Printable, isText, *]

theorem parse_tokenize_printAll_nestedLoops :
    PrintableAll nestedLoops ∧ depthAll nestedLoops ≤ 2 ∧
      Template.parse 2 (tokenize (printAll nestedLoops)) none none =
        .ok (placedAll 0 nestedLoops) := by
  have hd : depthAll nestedLoops ≤ 2 := by decide
  exact ⟨printable_nestedLoops, hd, parse_tokenize_printAll printable_nestedLoops hd none none⟩

end Stencil.Node
