import Stencil.Proofs.Building

/-!
The tags of one name, counted. A closing tag balances an opening one if the tags of that name
between the two balance, and this is the closing tag at which what follows an opening tag is cut.
-/

namespace Stencil.Tree

/-- What a token adds to the number of open blocks of a name. -/
def change (name : String) (token : Token) : Int :=
  match token.kind with
  | .opening other _ => if other = name then 1 else 0
  | .closing other => if other = name then -1 else 0
  | _ => 0

/-- The opening tags of a name less its closing tags. -/
def surplus (name : String) : List Token → Int
  | [] => 0
  | token :: tokens => change name token + surplus name tokens

/-- Behind `depth` open blocks of a name, no closing tag of that name lacks its block. -/
def Covered (name : String) (depth : Int) (tokens : List Token) : Prop :=
  ∀ count, 0 ≤ depth + surplus name (tokens.take count)

/-- Every tag of a name has its other half among the tokens. -/
structure Balanced (name : String) (tokens : List Token) : Prop where
  covered : Covered name 0 tokens
  surplus_eq : surplus name tokens = 0

variable {name other : String} {arguments : Option String} {node : Node} {limit count : Nat}
  {depth : Int} {token closer : Token} {tokens inside behind front : List Token}

/-! ### Counting -/

@[simp] theorem surplus_nil (name : String) : surplus name [] = 0 := rfl

@[simp] theorem surplus_cons (name : String) (token : Token) (tokens : List Token) :
    surplus name (token :: tokens) = change name token + surplus name tokens := rfl

@[simp] theorem surplus_append (name : String) (front tokens : List Token) :
    surplus name (front ++ tokens) = surplus name front + surplus name tokens := by
  induction front with
  | nil => simp
  | cons token front ih => rw [List.cons_append, surplus_cons, surplus_cons, ih, Int.add_assoc]

theorem change_leaf (hl : leaf? token = some node) : change name token = 0 := by
  unfold leaf? at hl
  split at hl
  · simp only [change, *]
  · simp only [change, *]
  · simp only [change, *]
  · cases hl

theorem change_opening (hk : token.kind = .opening other arguments) :
    change name token = if other = name then 1 else 0 := by
  simp only [change, hk]

theorem change_closing (hk : token.kind = .closing other) :
    change name token = if other = name then -1 else 0 := by
  simp only [change, hk]

theorem covered_nil : Covered name depth [] ↔ 0 ≤ depth := by
  simp [Covered]

theorem covered_cons :
    Covered name depth (token :: tokens) ↔
      0 ≤ depth ∧ Covered name (depth + change name token) tokens := by
  constructor
  · intro h
    refine ⟨?_, fun count => ?_⟩
    · have := h 0
      simpa using this
    · have := h (count + 1)
      rw [List.take_succ_cons, surplus_cons] at this
      omega
  · rintro ⟨hd, h⟩ count
    cases count with
    | zero => simpa using hd
    | succ count =>
      have := h count
      rw [List.take_succ_cons, surplus_cons]
      omega

theorem covered_append :
    Covered name depth (front ++ tokens) ↔
      Covered name depth front ∧ Covered name (depth + surplus name front) tokens := by
  induction front generalizing depth with
  | nil =>
    rw [List.nil_append, surplus_nil, Int.add_zero, covered_nil]
    constructor
    · intro h
      have := h 0
      exact ⟨by simpa using this, h⟩
    · exact fun h => h.2
  | cons token front ih =>
    rw [List.cons_append, covered_cons, covered_cons, ih, surplus_cons, and_assoc, Int.add_assoc]

theorem Covered.depth_nonneg (h : Covered name depth tokens) : 0 ≤ depth := by
  have := h 0
  simpa using this

theorem Covered.mono {more : Int} (h : Covered name depth tokens) (hle : depth ≤ more) :
    Covered name more tokens := by
  intro count
  have := h count
  omega

/-! ### The closing tag at which tokens are cut -/

/-- The first token is where the cut is made, or it stands in front of what the others are cut
into. -/
theorem splitAtClose_cons {depth : Nat} (tokens : List Token)
    (hne : ¬(token.kind = .closing name ∧ depth = 0)) :
    ∃ later : Nat, (later : Int) = depth + change name token ∧
      splitAtClose name (depth + 1) (token :: tokens) =
        (splitAtClose name (later + 1) tokens).map (putInside token) := by
  rcases leaf_or_tag token with ⟨node, hl⟩ | ⟨other, arguments, hk⟩ | ⟨other, hk⟩
  · exact ⟨depth, by rw [change_leaf hl]; omega, splitAtClose_leaf hl⟩
  · rw [change_opening hk, splitAtClose_opening hk]
    by_cases ho : other = name
    · rw [if_pos ho, if_pos ho]
      exact ⟨depth + 1, by omega, rfl⟩
    · rw [if_neg ho, if_neg ho]
      exact ⟨depth, by omega, rfl⟩
  · rw [change_closing hk]
    by_cases ho : other = name
    · subst ho
      obtain ⟨depth, rfl⟩ := Nat.exists_eq_succ_of_ne_zero fun hd => hne ⟨hk, hd⟩
      rw [if_pos rfl]
      exact ⟨depth, by omega, splitAtClose_closing_succ hk⟩
    · rw [if_neg ho]
      exact ⟨depth, by omega, splitAtClose_closing_ne hk ho⟩

/-- The cut is made at the first closing tag that uses up all the depth. -/
theorem splitAtClose_eq_some_iff {depth : Nat} :
    splitAtClose name (depth + 1) tokens = some (inside, behind) ↔
      ∃ closer : Token, closer.kind = .closing name ∧ tokens = inside ++ closer :: behind ∧
        Covered name depth inside ∧ depth + surplus name inside = 0 := by
  induction tokens generalizing depth inside with
  | nil => simp [splitAtClose]
  | cons token tokens ih =>
    by_cases hcut : token.kind = .closing name ∧ depth = 0
    · obtain ⟨hk, rfl⟩ := hcut
      rw [splitAtClose_closing_one hk]
      constructor
      · intro h
        cases h
        exact ⟨token, hk, rfl, covered_nil.2 (by omega), rfl⟩
      · rintro ⟨closer, hcloser, heq, hc, -⟩
        cases inside with
        | nil => cases heq; rfl
        | cons first rest =>
          cases heq
          have hd := (covered_cons.1 hc).2.depth_nonneg
          rw [change_closing hk, if_pos rfl] at hd
          omega
    · obtain ⟨later, hd, hs⟩ := splitAtClose_cons tokens hcut
      rw [hs, Option.map_eq_some_iff]
      constructor
      · rintro ⟨⟨rest, behind'⟩, hrest, heq⟩
        cases heq
        obtain ⟨closer, hk, rfl, hc, hsur⟩ := ih.1 hrest
        rw [hd] at hc hsur
        refine ⟨closer, hk, rfl, covered_cons.2 ⟨by omega, hc⟩, ?_⟩
        rw [surplus_cons, ← Int.add_assoc]
        exact hsur
      · rintro ⟨closer, hk, heq, hc, hsur⟩
        cases inside with
        | nil =>
          cases heq
          rw [surplus_nil] at hsur
          exact absurd ⟨hk, by omega⟩ hcut
        | cons first rest =>
          cases heq
          rw [covered_cons, ← hd] at hc
          rw [surplus_cons] at hsur
          exact ⟨(rest, behind), ih.2 ⟨closer, hk, rfl, hc.2, by omega⟩, rfl⟩

theorem splitAtClose_eq_none_iff {depth : Nat} :
    splitAtClose name (depth + 1) tokens = none ↔ Covered name depth tokens := by
  induction tokens generalizing depth with
  | nil => simp [splitAtClose, covered_nil]
  | cons token tokens ih =>
    rw [covered_cons]
    by_cases hcut : token.kind = .closing name ∧ depth = 0
    · obtain ⟨hk, rfl⟩ := hcut
      rw [splitAtClose_closing_one hk, change_closing hk, if_pos rfl]
      constructor
      · intro h
        cases h
      · intro h
        have hd := h.2.depth_nonneg
        omega
    · obtain ⟨later, hd, hs⟩ := splitAtClose_cons tokens hcut
      rw [hs, Option.map_eq_none_iff, ih, hd]
      constructor
      · exact fun h => ⟨by omega, h⟩
      · exact fun h => h.2

/-- What follows an opening tag is cut at the closing tag that balances it. -/
theorem splitAtClose_one_eq_some_iff :
    splitAtClose name 1 tokens = some (inside, behind) ↔
      ∃ closer : Token, closer.kind = .closing name ∧ tokens = inside ++ closer :: behind ∧
        Balanced name inside := by
  rw [show (1 : Nat) = 0 + 1 from rfl, splitAtClose_eq_some_iff]
  constructor
  · rintro ⟨closer, hk, heq, hc, hsur⟩
    exact ⟨closer, hk, heq, hc, by omega⟩
  · rintro ⟨closer, hk, heq, hb⟩
    exact ⟨closer, hk, heq, hb.covered, by rw [hb.surplus_eq]; omega⟩

theorem splitAtClose_one_eq_none_iff :
    splitAtClose name 1 tokens = none ↔ Covered name 0 tokens :=
  splitAtClose_eq_none_iff

/-! ### Closed blocks and blocks that are left open -/

/-- Every block is closed within the block around it. Closing tags that close nothing there are
passed over. -/
inductive Closed : List Token → Prop
  | nil : Closed []
  | leaf {token : Token} {tokens : List Token} {node : Node} :
      leaf? token = some node → Closed tokens → Closed (token :: tokens)
  | closing {token : Token} {tokens : List Token} {name : String} :
      token.kind = .closing name → Closed tokens → Closed (token :: tokens)
  | block {token closer : Token} {inside behind : List Token} {name : String}
      {arguments : Option String} :
      token.kind = .opening name arguments → closer.kind = .closing name →
      Balanced name inside → Closed inside → Closed behind →
      Closed (token :: (inside ++ closer :: behind))

/-- Some block is not closed within the block around it. The first such block has the given name and
starts at the given offset. -/
inductive LeftOpen (name : String) (offset : Nat) : List Token → Prop
  | here {token : Token} {tokens : List Token} {arguments : Option String} :
      token.kind = .opening name arguments → token.offset = offset → Covered name 0 tokens →
      LeftOpen name offset (token :: tokens)
  | leaf {token : Token} {tokens : List Token} {node : Node} :
      leaf? token = some node → LeftOpen name offset tokens →
      LeftOpen name offset (token :: tokens)
  | closing {token : Token} {tokens : List Token} {other : String} :
      token.kind = .closing other → LeftOpen name offset tokens →
      LeftOpen name offset (token :: tokens)
  | inside {token closer : Token} {inside behind : List Token} {other : String}
      {arguments : Option String} :
      token.kind = .opening other arguments → closer.kind = .closing other →
      Balanced other inside → LeftOpen name offset inside →
      LeftOpen name offset (token :: (inside ++ closer :: behind))
  | behind {token closer : Token} {inside behind : List Token} {other : String}
      {arguments : Option String} :
      token.kind = .opening other arguments → closer.kind = .closing other →
      Balanced other inside → Closed inside → LeftOpen name offset behind →
      LeftOpen name offset (token :: (inside ++ closer :: behind))

theorem closed_of_fault?_eq_none (limit : Nat) (tokens : List Token)
    (h : fault? limit tokens = none) : Closed tokens := by
  induction limit, tokens using build_induction with
  | nil limit => exact .nil
  | leaf limit token tokens node hl ih =>
    rw [fault?_leaf hl] at h
    exact .leaf hl (ih h)
  | closing limit token tokens other hk ih =>
    rw [fault?_closing hk] at h
    exact .closing hk (ih h)
  | unclosed limit token tokens other arguments hk hs =>
    rw [fault?_unclosed hk hs] at h
    cases h
  | tooDeep token tokens other arguments inside behind hk hs =>
    rw [fault?_tooDeep hk hs] at h
    cases h
  | block limit token tokens other arguments inside behind hk hs ihInside ihBehind =>
    rw [fault?_block hk hs, Option.or_eq_none_iff] at h
    obtain ⟨closer, hcloser, rfl, hb⟩ := splitAtClose_one_eq_some_iff.1 hs
    exact .block hk hcloser hb (ihInside h.1) (ihBehind h.2)

theorem leftOpen_of_fault?_eq_some (limit : Nat) (tokens : List Token) {offset : Nat}
    (h : fault? limit tokens = some (.unclosed name offset)) : LeftOpen name offset tokens := by
  induction limit, tokens using build_induction with
  | nil limit =>
    rw [fault?_nil] at h
    cases h
  | leaf limit token tokens node hl ih =>
    rw [fault?_leaf hl] at h
    exact .leaf hl (ih h)
  | closing limit token tokens other hk ih =>
    rw [fault?_closing hk] at h
    exact .closing hk (ih h)
  | unclosed limit token tokens other arguments hk hs =>
    rw [fault?_unclosed hk hs] at h
    cases h
    exact .here hk rfl (splitAtClose_one_eq_none_iff.1 hs)
  | tooDeep token tokens other arguments inside behind hk hs =>
    rw [fault?_tooDeep hk hs] at h
    cases h
  | block limit token tokens other arguments inside behind hk hs ihInside ihBehind =>
    rw [fault?_block hk hs, Option.or_eq_some_iff] at h
    obtain ⟨closer, hcloser, rfl, hb⟩ := splitAtClose_one_eq_some_iff.1 hs
    rcases h with hinside | ⟨hinside, hbehind⟩
    · exact .inside hk hcloser hb (ihInside hinside)
    · exact .behind hk hcloser hb (closed_of_fault?_eq_none limit inside hinside)
        (ihBehind hbehind)

end Stencil.Tree
