import Stencil.Proofs.Places
import Stencil.Template.Compile
import Mathlib.Data.List.Forall2

/-!
Tokens and the nodes that are built of them. Every token but the closing tags becomes one node, in
order. A block is the node of its opening tag; what it holds are the nodes of the tokens up to the
closing tag that balances it. A closing tag that ends no block lies in no block of its name.
-/

namespace Stencil

/-- Whether the token is the closing tag of a block. -/
def Token.isClosing (token : Token) : Bool :=
  match token.kind with
  | .closing _ => true
  | _ => false

/-- The node says what the token says, and stands where it does. -/
def Token.Becomes (token : Token) : Node → Prop
  | .text offset content => token.kind = .text ∧ token.offset = offset ∧ token.lexeme = content
  | .output offset path arguments filters => ∃ expression, token.kind = .output expression ∧
      token.offset = offset ∧
      Tree.outputNode offset expression = .output offset path arguments filters
  | .block offset name arguments _ => ∃ written, token.kind = .opening name written ∧
      token.offset = offset ∧ arguments = (written.map Text.words).getD []
  | .inclusion offset name context => ∃ written, token.kind = .inclusion name written ∧
      token.offset = offset ∧ context = Tree.contextExpression written

namespace Tree

/-- The tokens other than closing tags become the nodes, one by one and in order. -/
def Become (tokens : List Token) (nodes : List Node) : Prop :=
  List.Forall₂ Token.Becomes (tokens.filter (!·.isClosing)) nodes

/-- The tags at the two places make a block of the tree. The tokens strictly between them become all
that it holds, and those in front of it and behind it what comes before and after. -/
def IsBlockOf (nodes : List Node) (tokens : List Token) (start stop : Nat) : Prop :=
  ∃ token offset name arguments children before after,
    Node.preorderAll nodes =
      before ++ .block offset name arguments children :: (Node.preorderAll children ++ after) ∧
    tokens[start]? = some token ∧ token.Becomes (.block offset name arguments children) ∧
    ClosesAt tokens stop name ∧ Become (tokens.take start) before ∧
    Become (between tokens start stop) (Node.preorderAll children) ∧
    Become (tokens.drop (stop + 1)) after

variable {limit start start' stop place : Nat} {name : String} {arguments : Option String}
  {token closer : Token} {node : Node} {tokens inside behind front rest : List Token}
  {nodes children before after : List Node}

/-! ### What is built -/

/-- The nodes are built of the tokens, whatever the limit is. -/
inductive Builds : List Token → List Node → Prop
  | nil : Builds [] []
  | leaf {token : Token} {tokens : List Token} {node : Node} {nodes : List Node}
      (hLeaf : leaf? token = some node) (h : Builds tokens nodes) :
      Builds (token :: tokens) (node :: nodes)
  | closing {token : Token} {tokens : List Token} {nodes : List Node} {name : String}
      (hKind : token.kind = .closing name) (h : Builds tokens nodes) :
      Builds (token :: tokens) nodes
  | block {token closer : Token} {inside behind : List Token} {children later : List Node}
      {name : String} {arguments : Option String} (hKind : token.kind = .opening name arguments)
      (hCloser : closer.kind = .closing name) (hBalanced : Balanced name inside)
      (hInside : Builds inside children) (hBehind : Builds behind later) :
      Builds (token :: (inside ++ closer :: behind))
        (.block token.offset name ((arguments.map Text.words).getD []) children :: later)

theorem builds_of_build (h : build limit tokens = .ok nodes) : Builds tokens nodes := by
  induction limit, tokens using build_induction generalizing nodes with
  | nil limit =>
    rw [build_nil] at h
    cases h
    exact .nil
  | leaf limit token tokens node hLeaf ih =>
    rw [build_leaf hLeaf] at h
    cases hLater : build limit tokens with
    | error error =>
      rw [hLater] at h
      cases h
    | ok later =>
      rw [hLater] at h
      cases h
      exact .leaf hLeaf (ih hLater)
  | closing limit token tokens name hKind ih =>
    rw [build_closing hKind] at h
    exact .closing hKind (ih h)
  | unclosed limit token tokens name arguments hKind hSplit =>
    rw [build_unclosed hKind hSplit] at h
    cases h
  | tooDeep token tokens name arguments inside behind hKind hSplit =>
    rw [build_tooDeep hKind hSplit] at h
    cases h
  | block limit token tokens name arguments inside behind hKind hSplit ihInside ihBehind =>
    rw [build_block hKind hSplit] at h
    obtain ⟨closer, hCloser, rfl, hBalanced⟩ := splitAtClose_one_eq_some_iff.1 hSplit
    cases hInside : build limit inside with
    | error error =>
      rw [hInside] at h
      cases h
    | ok children =>
      cases hBehind : build (limit + 1) behind with
      | error error =>
        rw [hInside, hBehind] at h
        cases h
      | ok later =>
        rw [hInside, hBehind] at h
        cases h
        exact .block hKind hCloser hBalanced (ihInside hInside) (ihBehind hBehind)

/-! ### Nodes one by one -/

theorem become_nil : Become [] [] := List.Forall₂.nil

theorem become_cons (hNode : token.Becomes node) (hOpen : token.isClosing = false)
    (h : Become tokens nodes) : Become (token :: tokens) (node :: nodes) := by
  rw [Become, List.filter_cons_of_pos (by rw [hOpen]; rfl)]
  exact .cons hNode h

theorem become_closing (hKind : token.kind = .closing name) (h : Become tokens nodes) :
    Become (token :: tokens) nodes := by
  have hClosing : token.isClosing = true := by rw [Token.isClosing, hKind]
  rw [Become, List.filter_cons_of_neg (by rw [hClosing]; nofun)]
  exact h

theorem Become.append (hFront : Become front before) (hRest : Become rest after) :
    Become (front ++ rest) (before ++ after) := by
  rw [Become, List.filter_append]
  exact List.rel_append hFront hRest

/-- A token that is a node by itself becomes that node, and nothing else. -/
theorem becomes_of_leaf (h : leaf? token = some node) :
    token.Becomes node ∧ token.isClosing = false ∧ node.preorder = [node] := by
  unfold leaf? at h
  split at h
  · rename_i hKind
    cases h
    exact ⟨⟨hKind, rfl, rfl⟩, by rw [Token.isClosing, hKind], by rw [Node.preorder]; nofun⟩
  · rename_i expression hKind
    have hOpen : token.isClosing = false := by rw [Token.isClosing, hKind]
    cases h
    unfold outputNode
    dsimp only
    split
    · rename_i hWords
      exact ⟨⟨expression, hKind, rfl, by simp only [outputNode, hWords]⟩, hOpen,
        by rw [Node.preorder]; nofun⟩
    · rename_i hWords
      refine ⟨⟨expression, hKind, rfl, ?_⟩, hOpen, by rw [Node.preorder]; nofun⟩
      unfold outputNode
      dsimp only
      split
      · rename_i hOther
        exact absurd hOther (hWords _ _ _)
      · rfl
  · rename_i context hKind
    cases h
    exact ⟨⟨context, hKind, rfl, rfl⟩, by rw [Token.isClosing, hKind],
      by rw [Node.preorder]; nofun⟩
  · cases h

theorem becomes_block (hKind : token.kind = .opening name arguments) (children : List Node) :
    token.Becomes (.block token.offset name ((arguments.map Text.words).getD []) children) ∧
      token.isClosing = false :=
  ⟨⟨arguments, hKind, rfl, rfl⟩, by rw [Token.isClosing, hKind]⟩

theorem preorderAll_block (offset : Nat) (name : String) (arguments : List String)
    (children later : List Node) :
    Node.preorderAll (.block offset name arguments children :: later) =
      .block offset name arguments children ::
        (Node.preorderAll children ++ Node.preorderAll later) := by
  rw [Node.preorderAll, Node.preorder, List.cons_append]

/-- No token is lost, none is used twice, and their order is kept. -/
theorem Builds.become (h : Builds tokens nodes) : Become tokens (Node.preorderAll nodes) := by
  induction h with
  | nil =>
    rw [Node.preorderAll]
    exact become_nil
  | leaf hLeaf _ ih =>
    obtain ⟨hNode, hOpen, hPreorder⟩ := becomes_of_leaf hLeaf
    rw [Node.preorderAll, hPreorder]
    exact become_cons hNode hOpen ih
  | closing hKind _ ih => exact become_closing hKind ih
  | block hKind hCloser _ _ _ ihInside ihBehind =>
    obtain ⟨hNode, hOpen⟩ := becomes_block hKind _
    rw [preorderAll_block]
    exact become_cons hNode hOpen (ihInside.append (become_closing hCloser ihBehind))

/-! ### The block of an opening tag -/

/-- The opening tag `token` is paired with a closing tag behind it, in what follows. Among all the
nodes it becomes a block, which holds what stands between the two tags. -/
inductive Ends (all : List Node) (front : List Token) (token : Token) (name : String)
    (arguments : List String) : List Token → Prop
  | closer {inside behind : List Token} {closer : Token} {children before after : List Node}
      (hCloser : closer.kind = .closing name) (hBalanced : Balanced name inside)
      (hAll : all = before ++ .block token.offset name arguments children ::
        (Node.preorderAll children ++ after))
      (hFront : Become front before) (hInside : Become inside (Node.preorderAll children))
      (hBehind : Become behind after) :
      Ends all front token name arguments (inside ++ closer :: behind)

/-- A pair of tags stays one with other tokens around. -/
theorem Ends.extend {all earlier later : List Node} {first last : List Token}
    {arguments : List String} (h : Ends all front token name arguments rest)
    (hFirst : Become first earlier) (hLast : Become last later) :
    Ends (earlier ++ (all ++ later)) (first ++ front) token name arguments (rest ++ last) := by
  cases h with
  | @closer inside behind closer children before after hCloser hBalanced hAll hFront hInside
      hBehind =>
    rw [List.append_assoc, List.cons_append]
    refine .closer hCloser hBalanced ?_ (hFirst.append hFront) hInside (hBehind.append hLast)
    rw [hAll]
    simp

/-- Every opening tag among the tokens is paired with a closing tag. -/
theorem Builds.ends (h : Builds tokens nodes) (hTokens : tokens = front ++ token :: rest)
    (hKind : token.kind = .opening name arguments) :
    Ends (Node.preorderAll nodes) front token name ((arguments.map Text.words).getD []) rest := by
  induction h generalizing front rest with
  | nil => simp at hTokens
  | @leaf first tokens node nodes hLeaf _ ih =>
    obtain ⟨hNode, hOpen, hPreorder⟩ := becomes_of_leaf hLeaf
    rw [Node.preorderAll, hPreorder]
    cases front with
    | nil =>
      cases hTokens
      rw [leaf?, hKind] at hLeaf
      cases hLeaf
    | cons _ front =>
      cases hTokens
      simpa using (ih rfl).extend (become_cons hNode hOpen become_nil) become_nil
  | @closing first tokens nodes other hOther _ ih =>
    cases front with
    | nil =>
      cases hTokens
      rw [hKind] at hOther
      cases hOther
    | cons _ front =>
      cases hTokens
      simpa using (ih rfl).extend (become_closing hOther become_nil) become_nil
  | @block opener last within later held nodes other written hOpener hLast hWithin hHeld hNodes
      ihHeld ihNodes =>
    obtain ⟨hNode, hOpen⟩ := becomes_block hOpener held
    rw [preorderAll_block]
    cases front with
    | nil =>
      cases hTokens
      rw [hKind] at hOpener
      cases hOpener
      exact .closer hLast hWithin rfl become_nil hHeld.become hNodes.become
    | cons _ front =>
      rw [List.cons_append, List.cons.injEq] at hTokens
      obtain ⟨rfl, hTokens⟩ := hTokens
      -- The tag stands in the block or behind it, and is not what closes the block.
      rcases List.append_eq_append_iff.1 hTokens with ⟨more, rfl, hRest⟩ | ⟨more, hHere, hRest⟩
      · cases more with
        | nil =>
          cases hRest
          rw [hKind] at hLast
          cases hLast
        | cons _ more =>
          cases hRest
          have hBlock : Become (opener :: (within ++ [last])) _ :=
            become_cons hNode hOpen (hHeld.become.append (become_closing hLast become_nil))
          simpa using (ihNodes rfl).extend hBlock become_nil
      · cases more with
        | nil =>
          cases hRest
          rw [hKind] at hLast
          cases hLast
        | cons _ more =>
          cases hRest
          exact (ihHeld hHere).extend (become_cons hNode hOpen become_nil)
            (become_closing hLast hNodes.become)

/-! ### Pairs of tags -/

/-- Where more blocks of a name are opened than closed, there is one behind which the tags of that
name balance. -/
theorem exists_opening_of_surplus_pos {count : Nat} (h : 0 < surplus name (tokens.drop count)) :
    ∃ before opener arguments after, tokens = before ++ opener :: after ∧
      opener.kind = .opening name arguments ∧ Balanced name after := by
  induction tokens generalizing count with
  | nil => simp at h
  | cons token tokens ih =>
    by_cases hLater : ∃ count, 0 < surplus name (tokens.drop count)
    · obtain ⟨count, hLater⟩ := hLater
      obtain ⟨before, opener, arguments, after, rfl, hKind, hBalanced⟩ := ih hLater
      exact ⟨token :: before, opener, arguments, after, rfl, hKind, hBalanced⟩
    · -- No end of the list opens more than it closes but the whole, so that is due to its first tag.
      have hEnds : ∀ count, surplus name (tokens.drop count) ≤ 0 := by
        intro count
        by_contra hPos
        exact hLater ⟨count, by omega⟩
      have hAll := hEnds 0
      rw [List.drop_zero] at hAll
      have hFirst : 0 < change name token + surplus name tokens := by
        cases count with
        | zero => exact h
        | succ count => exact absurd h (Int.not_lt.2 (hEnds count))
      have hOpens : 0 < change name token := by omega
      unfold change at hOpens
      split at hOpens
      · rename_i other arguments hKind
        split at hOpens
        · rename_i hSame
          subst hSame
          have hChange : change other token = 1 := by rw [change_opening hKind, if_pos rfl]
          have hZero : surplus other tokens = 0 := by omega
          refine ⟨[], token, arguments, tokens, rfl, hKind, fun count => ?_, hZero⟩
          have hSum := surplus_append other (tokens.take count) (tokens.drop count)
          rw [List.take_append_drop] at hSum
          have hEnd := hEnds count
          omega
        · cases hOpens
      · split at hOpens <;> omega
      · cases hOpens

theorem between_split (hStart : start < place) (hPlace : place < stop)
    (hAt : tokens[place]? = some token) :
    between tokens start stop =
      between tokens start place ++ token :: between tokens place stop := by
  obtain ⟨hLt, rfl⟩ := List.getElem?_eq_some_iff.1 hAt
  have hFront : (tokens.take stop).take place = tokens.take place := by
    rw [List.take_take, Nat.min_eq_left (by omega)]
  have hHere : (tokens.take stop).drop place = tokens[place] :: between tokens place stop := by
    rw [List.drop_eq_getElem_cons (by rw [List.length_take]; omega), List.getElem_take]
    rfl
  calc
    between tokens start stop = (tokens.take stop).drop (start + 1) := rfl
    _ = ((tokens.take stop).take place ++ (tokens.take stop).drop place).drop (start + 1) := by
      rw [List.take_append_drop]
    _ = between tokens start place ++ tokens[place] :: between tokens place stop := by
      rw [hFront, hHere, List.drop_append_of_le_length (by rw [List.length_take]; omega)]
      rfl

theorem OpensAt.unique {other : String} (h : OpensAt tokens place name)
    (h' : OpensAt tokens place other) : name = other := by
  obtain ⟨token, arguments, hAt, hKind⟩ := h
  obtain ⟨token', arguments', hAt', hKind'⟩ := h'
  rw [hAt] at hAt'
  cases hAt'
  rw [hKind] at hKind'
  cases hKind'
  rfl

theorem ClosesAt.unique {other : String} (h : ClosesAt tokens place name)
    (h' : ClosesAt tokens place other) : name = other := by
  obtain ⟨token, hAt, hKind⟩ := h
  obtain ⟨token', hAt', hKind'⟩ := h'
  rw [hAt] at hAt'
  cases hAt'
  rw [hKind] at hKind'
  cases hKind'
  rfl

/-- Tags between which all tags of their name balance make a block, whatever stands around them. -/
theorem isBlock_of_tags (front : List Token) (hKind : token.kind = .opening name arguments)
    (hCloser : closer.kind = .closing name) (hBalanced : Balanced name inside)
    (behind : List Token) :
    IsBlock (front ++ token :: (inside ++ closer :: behind)) front.length
      (front.length + (inside.length + 1)) := by
  have hSplit : splitAtClose name 1 (inside ++ closer :: behind) = some (inside, behind) :=
    splitAtClose_one_eq_some_iff.2 ⟨closer, hCloser, rfl, hBalanced⟩
  exact (isBlock_append_left front).2 ((isBlock_zero_of_split hKind hSplit).2 rfl)

/-- A closing tag ends one block only. -/
theorem IsBlock.start_unique (h : IsBlock tokens start stop) (h' : IsBlock tokens start' stop) :
    start = start' := by
  -- If one block started inside the other, the closing tag of the inner one would be missing.
  have hNot : ∀ {start start'}, IsBlock tokens start stop → IsBlock tokens start' stop →
      ¬start < start' := by
    intro start start' h h' hLt
    obtain ⟨name, -, hCloses, -, hOuter⟩ := h
    obtain ⟨other, ⟨opener, arguments, hAt, hKind⟩, hCloses', hStop, hInner⟩ := h'
    cases hCloses.unique hCloses'
    rw [between_split hLt hStop hAt] at hOuter
    have hSurplus := hOuter.surplus_eq
    rw [surplus_append, surplus_cons, hInner.surplus_eq, change_opening hKind, if_pos rfl] at hSurplus
    have hDepth := (covered_append.1 hOuter.covered).2.depth_nonneg
    omega
  have hLeft := hNot h h'
  have hRight := hNot h' h
  omega

/-- Inside a block, a closing tag of its name ends a block. -/
theorem Encloses.exists_isBlock (h : Encloses tokens start stop place)
    (hOpens : OpensAt tokens start name) (hCloses : ClosesAt tokens place name) :
    ∃ start', IsBlock tokens start' place := by
  obtain ⟨block, hStart, hStop⟩ := h
  obtain ⟨other, hOther, -, -, hBalanced⟩ := block
  cases hOpens.unique hOther
  obtain ⟨closer, hAt, hKind⟩ := id hCloses
  rw [between_split hStart hStop hAt] at hBalanced
  have hDepth := (covered_cons.1 (covered_append.1 hBalanced.covered).2).2.depth_nonneg
  rw [change_closing hKind, if_pos rfl] at hDepth
  -- In front of the closing tag a block of its name is open, for else it would end the outer one.
  have hPos : 0 < surplus name ((between tokens start place).drop 0) := by
    rw [List.drop_zero]
    omega
  obtain ⟨before, opener, arguments, after, hCut, hOpener, hAfter⟩ :=
    exists_opening_of_surplus_pos hPos
  have hFront : tokens.take place = tokens.take (start + 1) ++ (before ++ opener :: after) := by
    rw [← hCut, between]
    have hTake : tokens.take (start + 1) = (tokens.take place).take (start + 1) := by
      rw [List.take_take, Nat.min_eq_left (by omega)]
    rw [hTake, List.take_append_drop]
  obtain ⟨hLt, rfl⟩ := List.getElem?_eq_some_iff.1 hAt
  have hTokens : tokens =
      (tokens.take (start + 1) ++ before) ++ opener :: (after ++ tokens[place] ::
        tokens.drop (place + 1)) := by
    rw [List.append_assoc, ← List.cons_append, ← List.append_assoc, ← List.append_assoc,
      List.append_assoc _ before, ← hFront, List.getElem_cons_drop, List.take_append_drop]
  have hLength := congrArg List.length hFront
  rw [List.length_take, Nat.min_eq_left (by omega), ← List.append_assoc, List.length_append,
    List.length_cons] at hLength
  refine ⟨(tokens.take (start + 1) ++ before).length, ?_⟩
  have hBlock := isBlock_of_tags (tokens.take (start + 1) ++ before) hOpener hKind hAfter
    (tokens.drop (place + 1))
  rwa [← hTokens, ← hLength] at hBlock

/-- The block of an opening tag is a block of the tree that is built. -/
theorem Builds.exists_isBlockOf (h : Builds tokens nodes) (hOpens : OpensAt tokens start name) :
    ∃ stop, (∀ other, IsBlock tokens start other ↔ other = stop) ∧
      IsBlockOf nodes tokens start stop := by
  obtain ⟨token, arguments, hAt, hKind⟩ := hOpens
  obtain ⟨hLt, rfl⟩ := List.getElem?_eq_some_iff.1 hAt
  have hTokens : tokens = tokens.take start ++ tokens[start] :: tokens.drop (start + 1) := by
    rw [List.getElem_cons_drop, List.take_append_drop]
  have hEnds := h.ends hTokens hKind
  have hLength : (tokens.take start).length = start := by
    rw [List.length_take, Nat.min_eq_left (Nat.le_of_lt hLt)]
  generalize tokens[start] = token at *
  generalize tokens.take start = front at *
  generalize tokens.drop (start + 1) = rest at *
  subst hLength
  cases hEnds with
  | @closer inside behind closer children before after hCloser hBalanced hAll hFront hInside
      hBehind =>
    have hBlock := isBlock_of_tags front hKind hCloser hBalanced behind
    rw [← hTokens] at hBlock
    refine ⟨front.length + (inside.length + 1),
      fun other => ⟨fun hOther => hOther.stop_unique hBlock, fun hOther => hOther ▸ hBlock⟩, ?_⟩
    refine ⟨token, _, name, _, children, before, after, hAll, hAt, (becomes_block hKind _).1,
      ⟨closer, ?_, hCloser⟩, ?_, ?_, ?_⟩
    · simp [hTokens]
    · rw [hTokens, List.take_left]
      exact hFront
    · rw [hTokens, between, List.take_length_add_append, List.drop_length_add_append,
        List.take_succ_cons, List.drop_succ_cons, List.drop_zero, List.take_left]
      exact hInside
    · rw [hTokens, Nat.add_assoc, List.drop_length_add_append, List.drop_succ_cons,
        List.drop_length_add_append, List.drop_succ_cons, List.drop_zero]
      exact hBehind

end Tree

namespace Template

open Stencil.Tree

/-- The nodes of a template are those of its tokens, none of which is lost, used twice or out of
order. An opening tag is paired with one closing tag of its name, with which no other is paired, and
its block holds just what stands between the two; a closing tag that is left over lies in no block
of its name. -/
theorem parse_pairs_tags {limit : Nat} {tokens : List Token} {source name : Option String}
    {nodes : List Node} (h : parse limit tokens source name = .ok nodes) :
    Become tokens (Node.preorderAll nodes) ∧
      (∀ start block, OpensAt tokens start block →
        ∃ stop, (∀ other, IsBlock tokens start other ↔ other = stop) ∧
          IsBlockOf nodes tokens start stop) ∧
      (∀ start start' stop, IsBlock tokens start stop → IsBlock tokens start' stop →
        start = start') ∧
      ∀ place block, ClosesAt tokens place block → (∀ start, ¬IsBlock tokens start place) →
        ∀ start stop, Encloses tokens start stop place → ¬OpensAt tokens start block := by
  have hBuilds : Builds tokens nodes := by
    unfold parse at h
    split at h
    · rename_i built hBuild
      cases h
      exact builds_of_build hBuild
    · cases h
  refine ⟨hBuilds.become, fun start block => hBuilds.exists_isBlockOf,
    fun start start' stop => IsBlock.start_unique, ?_⟩
  intro place block hCloses hNone start stop hEncloses hOpens
  obtain ⟨start', hBlock⟩ := hEncloses.exists_isBlock hOpens hCloses
  exact hNone start' hBlock

/-- Blocks of one name inside one another, with a closing tag of another name in the inner one. -/
def strayClosing : List Token :=
  [⟨.opening "a" none, "\x7b\x7b#a\x7d\x7d", 0⟩, ⟨.opening "a" none, "\x7b\x7b#a\x7d\x7d", 6⟩,
    ⟨.closing "b", "\x7b\x7b/b\x7d\x7d", 12⟩, ⟨.closing "a", "\x7b\x7b/a\x7d\x7d", 18⟩,
    ⟨.text, "x", 24⟩, ⟨.closing "a", "\x7b\x7b/a\x7d\x7d", 25⟩]

theorem parse_pairs_tags_strayClosing :
    let nodes : List Node := [.block 0 "a" [] [.block 6 "a" [] [], .text 24 "x"]]
    parse 4 strayClosing none none = .ok nodes ∧ Become strayClosing (Node.preorderAll nodes) ∧
      (∃ stop, IsBlock strayClosing 0 stop ∧ IsBlockOf nodes strayClosing 0 stop) ∧
      ∀ start stop, Encloses strayClosing start stop 2 → ¬OpensAt strayClosing start "b" := by
  intro nodes
  have hParse : parse 4 strayClosing none none = .ok nodes := by cbv
  have hOpens : OpensAt strayClosing 0 "a" := ⟨_, none, rfl, rfl⟩
  have hCloses : ClosesAt strayClosing 2 "b" := ⟨_, rfl, rfl⟩
  have hNone : ∀ start, ¬IsBlock strayClosing start 2 := by
    rintro start ⟨name, ⟨token, arguments, hAt, hKind⟩, hEnd, -⟩
    cases hCloses.unique hEnd
    have hMem := List.mem_of_getElem? hAt
    simp only [strayClosing, List.mem_cons, List.not_mem_nil, or_false] at hMem
    rcases hMem with rfl | rfl | rfl | rfl | rfl | rfl <;> simp at hKind
  obtain ⟨hBecome, hPairs, -, hStray⟩ := parse_pairs_tags hParse
  obtain ⟨stop, hBlock, hHolds⟩ := hPairs 0 "a" hOpens
  exact ⟨hParse, hBecome, ⟨stop, (hBlock stop).2 rfl, hHolds⟩, hStray 2 "b" hCloses hNone⟩

end Template

end Stencil
