import Stencil.Template.Tree

/-!
How a tree is built, one kind of token at a time. A token that is no tag of a block is a node of its
own; an opening tag cuts what follows it into what lies inside its block and what lies behind.
-/

namespace Stencil.Tree

/-- The node that a token is by itself. The tags of blocks are none. -/
def leaf? (token : Token) : Option Node :=
  match token.kind with
  | .text => some (.text token.offset token.lexeme)
  | .output expression => some (outputNode token.offset expression)
  | .inclusion name context => some (.inclusion token.offset name (contextExpression context))
  | _ => none

/-- A token put in front of what lies inside a block. -/
def putInside (token : Token) (cut : List Token × List Token) : List Token × List Token :=
  (token :: cut.1, cut.2)

/-- A token is a node by itself or the tag of a block. -/
theorem leaf_or_tag (token : Token) :
    (∃ node, leaf? token = some node) ∨ (∃ name arguments, token.kind = .opening name arguments) ∨
      ∃ name, token.kind = .closing name := by
  unfold leaf?
  cases token.kind with
  | text => exact .inl ⟨_, rfl⟩
  | output expression => exact .inl ⟨_, rfl⟩
  | inclusion name context => exact .inl ⟨_, rfl⟩
  | opening name arguments => exact .inr (.inl ⟨_, _, rfl⟩)
  | closing name => exact .inr (.inr ⟨_, rfl⟩)

variable {limit depth : Nat} {name other : String} {arguments : Option String} {node : Node}
  {token : Token} {tokens inside behind : List Token}

/-! ### Cutting at a closing tag -/

theorem splitAtClose_leaf (hl : leaf? token = some node) :
    splitAtClose name depth (token :: tokens) =
      (splitAtClose name depth tokens).map (putInside token) := by
  unfold leaf? at hl
  split at hl
  · simp only [splitAtClose, *]
    rfl
  · simp only [splitAtClose, *]
    rfl
  · simp only [splitAtClose, *]
    rfl
  · cases hl

theorem splitAtClose_opening (hk : token.kind = .opening other arguments) :
    splitAtClose name depth (token :: tokens) =
      (splitAtClose name (if other = name then depth + 1 else depth) tokens).map
        (putInside token) := by
  simp only [splitAtClose, hk]
  rfl

theorem splitAtClose_closing_ne (hk : token.kind = .closing other) (hne : other ≠ name) :
    splitAtClose name depth (token :: tokens) =
      (splitAtClose name depth tokens).map (putInside token) := by
  simp only [splitAtClose, hk, if_neg hne]
  rfl

theorem splitAtClose_closing_one (hk : token.kind = .closing name) :
    splitAtClose name 1 (token :: tokens) = some ([], tokens) := by
  simp only [splitAtClose, hk, if_true]

theorem splitAtClose_closing_succ (hk : token.kind = .closing name) :
    splitAtClose name (depth + 2) (token :: tokens) =
      (splitAtClose name (depth + 1) tokens).map (putInside token) := by
  simp only [splitAtClose, hk, if_true]
  rfl

/-! ### Building -/

@[simp] theorem build_nil (limit : Nat) : build limit [] = .ok [] := by
  rw [build]

theorem build_leaf (hl : leaf? token = some node) :
    build limit (token :: tokens) = (build limit tokens).map (node :: ·) := by
  rw [build]
  unfold leaf? at hl
  split at hl
  · cases hl
    simp only [*]
    rfl
  · cases hl
    simp only [*]
    rfl
  · cases hl
    simp only [*]
    rfl
  · cases hl

theorem build_closing (hk : token.kind = .closing name) :
    build limit (token :: tokens) = build limit tokens := by
  rw [build]
  simp only [hk]

theorem build_unclosed (hk : token.kind = .opening name arguments)
    (hs : splitAtClose name 1 tokens = none) :
    build limit (token :: tokens) = .error (.unclosed name token.offset) := by
  rw [build]
  simp only [hk]
  split
  · rfl
  · rename_i heq
    rw [hs] at heq
    cases heq

theorem build_tooDeep (hk : token.kind = .opening name arguments)
    (hs : splitAtClose name 1 tokens = some (inside, behind)) :
    build 0 (token :: tokens) = .error .tooDeep := by
  rw [build]
  simp only [hk]
  split
  · rename_i heq
    rw [hs] at heq
    cases heq
  · rfl

theorem build_block (hk : token.kind = .opening name arguments)
    (hs : splitAtClose name 1 tokens = some (inside, behind)) :
    build (limit + 1) (token :: tokens) = (build limit inside).bind fun children =>
      (build (limit + 1) behind).map
        (.block token.offset name ((arguments.map Text.words).getD []) children :: ·) := by
  rw [build]
  simp only [hk]
  split
  · rename_i heq
    rw [hs] at heq
    cases heq
  · rename_i heq
    rw [hs] at heq
    cases heq
    rfl

/-! ### What is at fault -/

/-- Why no tree is built of the tokens, if none is. -/
def fault? (limit : Nat) (tokens : List Token) : Option TreeError :=
  match build limit tokens with
  | .ok _ => none
  | .error e => some e

theorem fault?_eq_none_iff :
    fault? limit tokens = none ↔ ∃ nodes, build limit tokens = .ok nodes := by
  unfold fault?
  cases build limit tokens <;> simp

theorem fault?_eq_some_iff {e : TreeError} :
    fault? limit tokens = some e ↔ build limit tokens = .error e := by
  unfold fault?
  cases build limit tokens <;> simp

@[simp] theorem fault?_nil (limit : Nat) : fault? limit [] = none := by
  rw [fault?, build_nil]

theorem fault?_leaf (hl : leaf? token = some node) :
    fault? limit (token :: tokens) = fault? limit tokens := by
  rw [fault?, fault?, build_leaf hl]
  cases build limit tokens <;> rfl

theorem fault?_closing (hk : token.kind = .closing name) :
    fault? limit (token :: tokens) = fault? limit tokens := by
  rw [fault?, fault?, build_closing hk]

theorem fault?_unclosed (hk : token.kind = .opening name arguments)
    (hs : splitAtClose name 1 tokens = none) :
    fault? limit (token :: tokens) = some (.unclosed name token.offset) := by
  rw [fault?, build_unclosed hk hs]

theorem fault?_tooDeep (hk : token.kind = .opening name arguments)
    (hs : splitAtClose name 1 tokens = some (inside, behind)) :
    fault? 0 (token :: tokens) = some .tooDeep := by
  rw [fault?, build_tooDeep hk hs]

/-- The inside of a block is built before what lies behind it. -/
theorem fault?_block (hk : token.kind = .opening name arguments)
    (hs : splitAtClose name 1 tokens = some (inside, behind)) :
    fault? (limit + 1) (token :: tokens) =
      (fault? limit inside).or (fault? (limit + 1) behind) := by
  rw [fault?, fault?, fault?, build_block hk hs]
  cases build limit inside with
  | error e => rfl
  | ok children => cases build (limit + 1) behind <;> rfl

/-- Induction along the way in which a tree is built. -/
theorem build_induction {P : Nat → List Token → Prop} (nil : ∀ limit, P limit [])
    (leaf : ∀ limit token tokens node, leaf? token = some node → P limit tokens →
      P limit (token :: tokens))
    (closing : ∀ limit token tokens name, token.kind = .closing name → P limit tokens →
      P limit (token :: tokens))
    (unclosed : ∀ limit token tokens name arguments, token.kind = .opening name arguments →
      splitAtClose name 1 tokens = none → P limit (token :: tokens))
    (tooDeep : ∀ token tokens name arguments inside behind,
      token.kind = .opening name arguments →
      splitAtClose name 1 tokens = some (inside, behind) → P 0 (token :: tokens))
    (block : ∀ limit token tokens name arguments inside behind,
      token.kind = .opening name arguments →
      splitAtClose name 1 tokens = some (inside, behind) → P limit inside →
      P (limit + 1) behind → P (limit + 1) (token :: tokens))
    (limit : Nat) (tokens : List Token) : P limit tokens := by
  fun_induction build limit tokens with
  | case1 limit => exact nil limit
  | case2 limit token tokens hk ih =>
    have hl : leaf? token = some (.text token.offset token.lexeme) := by simp only [leaf?, hk]
    exact leaf _ _ _ _ hl ih
  | case3 limit token tokens expression hk ih =>
    have hl : leaf? token = some (outputNode token.offset expression) := by
      simp only [leaf?, hk]
    exact leaf _ _ _ _ hl ih
  | case4 limit token tokens name context hk ih =>
    have hl : leaf? token = some (.inclusion token.offset name (contextExpression context)) := by
      simp only [leaf?, hk]
    exact leaf _ _ _ _ hl ih
  | case5 limit token tokens name hk ih => exact closing _ _ _ name hk ih
  | case6 limit token tokens name arguments hk hs => exact unclosed _ _ _ _ _ hk hs
  | case7 token tokens name arguments hk inside behind hs =>
    exact tooDeep _ _ _ _ _ _ hk hs
  | case8 token tokens name arguments hk inside behind hs limit ihInside ihBehind =>
    exact block _ _ _ _ _ _ _ hk hs ihInside ihBehind

/-- Two limits come to the same, unless one of them is too low. -/
theorem build_eq_or_tooDeep (limit other : Nat) (tokens : List Token) :
    build limit tokens = build other tokens ∨ build limit tokens = .error .tooDeep ∨
      build other tokens = .error .tooDeep := by
  induction limit, tokens using build_induction generalizing other with
  | nil limit => exact .inl (by rw [build_nil, build_nil])
  | leaf limit token tokens node hl ih =>
    rw [build_leaf hl, build_leaf hl]
    rcases ih other with h | h | h
    · exact .inl (by rw [h])
    · exact .inr (.inl (by rw [h]; rfl))
    · exact .inr (.inr (by rw [h]; rfl))
  | closing limit token tokens name hk ih =>
    rw [build_closing hk, build_closing hk]
    exact ih other
  | unclosed limit token tokens name arguments hk hs =>
    exact .inl (by rw [build_unclosed hk hs, build_unclosed hk hs])
  | tooDeep token tokens name arguments inside behind hk hs =>
    exact .inr (.inl (build_tooDeep hk hs))
  | block limit token tokens name arguments inside behind hk hs ihInside ihBehind =>
    cases other with
    | zero => exact .inr (.inr (build_tooDeep hk hs))
    | succ other =>
      rw [build_block hk hs, build_block hk hs]
      rcases ihInside other with h | h | h
      · rw [h]
        -- What lies behind the block is only reached if its inside is built.
        cases build other inside with
        | error e => exact .inl rfl
        | ok children =>
          rcases ihBehind (other + 1) with h | h | h
          · exact .inl (by rw [h])
          · exact .inr (.inl (by rw [h]; rfl))
          · exact .inr (.inr (by rw [h]; rfl))
      · exact .inr (.inl (by rw [h]; rfl))
      · exact .inr (.inr (by rw [h]; rfl))

/-- An opening tag makes a block, or no tree is built. -/
theorem exists_block_of_build (hk : token.kind = .opening name arguments) {nodes : List Node}
    (h : build limit (token :: tokens) = .ok nodes) :
    ∃ words children later, nodes = .block token.offset name words children :: later := by
  cases hs : splitAtClose name 1 tokens with
  | none =>
    rw [build_unclosed hk hs] at h
    cases h
  | some cut =>
    cases limit with
    | zero =>
      rw [build_tooDeep hk hs] at h
      cases h
    | succ limit =>
      rw [build_block hk hs] at h
      cases hInside : build limit cut.1 with
      | error e =>
        rw [hInside] at h
        cases h
      | ok children =>
        rw [hInside] at h
        cases hBehind : build (limit + 1) cut.2 with
        | error e =>
          rw [hBehind] at h
          cases h
        | ok later =>
          rw [hBehind] at h
          cases h
          exact ⟨_, _, _, rfl⟩

/-- Where there are no blocks, the limit plays no part. -/
theorem build_of_no_blocks {nodes : List Node} (h : build limit tokens = .ok nodes)
    (hBlocks : ∀ offset name words children, Node.block offset name words children ∉ nodes)
    (limit' : Nat) : build limit' tokens = .ok nodes := by
  induction tokens generalizing nodes with
  | nil => rw [build_nil] at h ⊢; exact h
  | cons token tokens ih =>
    rcases leaf_or_tag token with ⟨node, hl⟩ | ⟨name, arguments, hk⟩ | ⟨name, hk⟩
    · rw [build_leaf hl] at h ⊢
      cases hLater : build limit tokens with
      | error e =>
        rw [hLater] at h
        cases h
      | ok later =>
        rw [hLater] at h
        cases h
        rw [ih hLater fun _ _ _ _ hMem => hBlocks _ _ _ _ (List.mem_cons_of_mem _ hMem)]
        rfl
    · obtain ⟨words, children, later, rfl⟩ := exists_block_of_build hk h
      exact absurd List.mem_cons_self (hBlocks _ _ _ _)
    · rw [build_closing hk] at h ⊢
      exact ih h hBlocks

end Stencil.Tree
