import Stencil.Proofs.Places
import Stencil.Proofs.StackMachine
import Stencil.Template.Compile

/-!
How the blocks of some tokens lie to one another. The opening tag that is reported as not closed is
the first one whose block does not end within the block around it.
-/

namespace Stencil.Tree

/-- No block around the place starts behind this one. -/
structure Innermost (tokens : List Token) (start stop place : Nat) : Prop where
  encloses : Encloses tokens start stop place
  innermost : ∀ start' stop', Encloses tokens start' stop' place → start' ≤ start

/-- Where the surroundings of a place end: with the innermost block around it, or with the tokens if
there is none. -/
def SurroundingsEnd (tokens : List Token) (place stop : Nat) : Prop :=
  (∃ start, Innermost tokens start stop place) ∨
    (∀ start stop, ¬Encloses tokens start stop place) ∧ stop = tokens.length

/-- The block of an opening tag does not end before its surroundings do. -/
def Unclosed (tokens : List Token) (place : Nat) (name : String) : Prop :=
  OpensAt tokens place name ∧
    ∃ stop, SurroundingsEnd tokens place stop ∧ ∀ close, IsBlock tokens place close → stop ≤ close

/-- The first opening tag whose block does not end before its surroundings do. -/
structure FirstUnclosed (tokens : List Token) (place : Nat) (name : String) : Prop where
  unclosed : Unclosed tokens place name
  first : ∀ earlier < place, ∀ other, ¬Unclosed tokens earlier other

/-- More than `limit` blocks lie inside one another. -/
def NestedBeyond (limit : Nat) (tokens : List Token) : Prop :=
  ∃ blocks : List (Nat × Nat), blocks.length = limit + 1 ∧
    (∀ block ∈ blocks, IsBlock tokens block.1 block.2) ∧
    blocks.Pairwise fun outer inner => outer.1 < inner.1 ∧ inner.2 < outer.2

/-- Blocks, each of which lies inside the one before it. -/
structure Nested (tokens : List Token) (blocks : List (Nat × Nat)) : Prop where
  isBlock : ∀ block ∈ blocks, IsBlock tokens block.1 block.2
  pairwise : blocks.Pairwise fun outer inner => outer.1 < inner.1 ∧ inner.2 < outer.2

variable {name other : String} {arguments : Option String} {node : Node}
  {limit offset place start stop stop' bound : Nat} {token closer : Token}
  {tokens inside behind front : List Token} {blocks : List (Nat × Nat)}

/-! ### Blocks within their surroundings -/

/-- A block starts at a place and ends before every block around it. -/
def Fits (tokens : List Token) (place : Nat) : Prop :=
  ∃ close, IsBlock tokens place close ∧
    ∀ start stop, Encloses tokens start stop place → close < stop

/-- The blocks that start before a place end before every block around them. -/
def FitBefore (tokens : List Token) (bound : Nat) : Prop :=
  ∀ place < bound, ∀ name, OpensAt tokens place name → Fits tokens place

/-- A place around which there is a block lies in an innermost one. -/
theorem Encloses.exists_innermost (h : Encloses tokens start stop place) :
    ∃ start stop, Innermost tokens start stop place := by
  apply Classical.byContradiction
  intro hnone
  -- A block around the place that is not innermost has one behind its start, and so without end.
  have hbehind : ∀ bound, ∃ start stop, bound ≤ start ∧ Encloses tokens start stop place := by
    intro bound
    induction bound with
    | zero => exact ⟨start, stop, Nat.zero_le _, h⟩
    | succ bound ih =>
      obtain ⟨start, stop, hle, he⟩ := ih
      apply Classical.byContradiction
      intro hno
      refine hnone ⟨start, stop, he, fun start' stop' he' => ?_⟩
      rcases Nat.lt_or_ge start start' with hlt | hge
      · exact absurd ⟨start', stop', by omega, he'⟩ hno
      · exact hge
  obtain ⟨start', stop', hle, he⟩ := hbehind place
  have hlt := he.start_lt
  omega

theorem exists_surroundingsEnd (tokens : List Token) (place : Nat) :
    ∃ stop, SurroundingsEnd tokens place stop := by
  by_cases h : ∃ start stop, Encloses tokens start stop place
  · obtain ⟨start, stop, he⟩ := h
    obtain ⟨start, stop, hi⟩ := he.exists_innermost
    exact ⟨stop, .inl ⟨start, hi⟩⟩
  · exact ⟨tokens.length, .inr ⟨fun start stop he => h ⟨start, stop, he⟩, rfl⟩⟩

theorem Fits.not_unclosed (h : Fits tokens place) : ¬Unclosed tokens place name := by
  obtain ⟨close, hblock, hinside⟩ := h
  rintro ⟨-, stop, ⟨start, hi⟩ | ⟨-, rfl⟩, hclose⟩
  · have hlt := hinside start stop hi.encloses
    have hle := hclose close hblock
    omega
  · have hlt := hblock.lt_length
    have hle := hclose close hblock
    omega

/-- Where the blocks that start earlier fit, a block that ends before its innermost surroundings
ends before all of them. -/
theorem fits_of_lt (hf : FitBefore tokens place) {close : Nat}
    (hblock : IsBlock tokens place close) (hs : SurroundingsEnd tokens place stop)
    (hlt : close < stop) : Fits tokens place := by
  refine ⟨close, hblock, fun start' stop' he => ?_⟩
  rcases hs with ⟨start, hi⟩ | ⟨hnone, -⟩
  · rcases Nat.lt_or_eq_of_le (hi.innermost start' stop' he) with hlt' | rfl
    · -- The innermost block starts inside the other one, so it ends before that one does.
      obtain ⟨name, hopen, -⟩ := hi.encloses.block
      obtain ⟨stop₁, hblock₁, hinside⟩ := hf start hi.encloses.start_lt name hopen
      have heq := hblock₁.stop_unique hi.encloses.block
      have hstart := hi.encloses.start_lt
      have hplace := he.lt_stop
      have hstop := hinside start' stop' ⟨he.block, hlt', by omega⟩
      omega
    · rw [he.block.stop_unique hi.encloses.block]
      exact hlt
  · exact absurd he (hnone start' stop')

/-- The first block that does not fit is the first one that is not closed. -/
theorem firstUnclosed_of_not_fits (ho : OpensAt tokens place name) (hn : ¬Fits tokens place)
    (hf : FitBefore tokens place) : FirstUnclosed tokens place name := by
  constructor
  · obtain ⟨stop, hs⟩ := exists_surroundingsEnd tokens place
    refine ⟨ho, stop, hs, fun close hblock => ?_⟩
    rcases Nat.lt_or_ge close stop with hlt | hge
    · exact absurd (fits_of_lt hf hblock hs hlt) hn
    · exact hge
  · intro earlier hlt other hu
    exact (hf earlier hlt other hu.1).not_unclosed hu

/-- What a block fits into does not change behind tokens whose blocks end among themselves. -/
theorem fits_append_left
    (h : ∀ start stop, start < front.length → IsBlock (front ++ tokens) start stop →
      stop < front.length) :
    Fits (front ++ tokens) (front.length + place) ↔ Fits tokens place := by
  constructor
  · rintro ⟨close, hblock, hinside⟩
    have hlt := hblock.lt
    obtain ⟨close, rfl⟩ := Nat.exists_eq_add_of_le (show front.length ≤ close by omega)
    refine ⟨close, (isBlock_append_left front).1 hblock, fun start stop he => ?_⟩
    have hstop := hinside _ _ (he.append_left front)
    omega
  · rintro ⟨close, hblock, hinside⟩
    refine ⟨front.length + close, (isBlock_append_left front).2 hblock, fun start stop he => ?_⟩
    have hstart := he.start_lt
    have hstop := he.lt_stop
    have hfront : front.length ≤ start := by
      rcases Nat.lt_or_ge start front.length with hlt | hge
      · have hends := h start stop hlt he.block
        omega
      · exact hge
    obtain ⟨start, rfl⟩ := Nat.exists_eq_add_of_le hfront
    obtain ⟨stop, rfl⟩ := Nat.exists_eq_add_of_le (show front.length ≤ stop by omega)
    have hclose := hinside start stop
      ⟨(isBlock_append_left front).1 he.block, by omega, by omega⟩
    omega

/-! ### Blocks inside and behind a block -/

theorem fits_cons (hno : ∀ name, ¬OpensAt (token :: tokens) 0 name) :
    Fits (token :: tokens) (place + 1) ↔ Fits tokens place := by
  have hends : ∀ start stop, start < [token].length → IsBlock ([token] ++ tokens) start stop →
      stop < [token].length := by
    intro start stop hlt hblock
    obtain rfl : start = 0 := Nat.lt_one_iff.1 hlt
    obtain ⟨name, hopen, -⟩ := hblock
    exact absurd hopen (hno name)
  rw [Nat.add_comm]
  exact fits_append_left hends

theorem fitBefore_cons (hno : ∀ name, ¬OpensAt (token :: tokens) 0 name)
    (h : FitBefore tokens bound) : FitBefore (token :: tokens) (bound + 1) := by
  intro place hlt name ho
  cases place with
  | zero => exact absurd ho (hno name)
  | succ place =>
    rw [opensAt_cons_succ] at ho
    exact (fits_cons hno).2 (h place (by omega) name ho)

theorem not_opensAt_of_leaf (hl : leaf? token = some node) (name : String) :
    ¬OpensAt (token :: tokens) 0 name := by
  rintro ⟨first, arguments, hfirst, hk⟩
  cases hfirst
  rw [leaf?, hk] at hl
  cases hl

theorem not_opensAt_of_closing (hk : token.kind = .closing other) (name : String) :
    ¬OpensAt (token :: tokens) 0 name := by
  rintro ⟨first, arguments, hfirst, hk'⟩
  cases hfirst
  rw [hk] at hk'
  cases hk'

section Block

variable (hk : token.kind = .opening name arguments) (hcloser : closer.kind = .closing name)
  (hb : Balanced name inside)

include hk hcloser hb

theorem isBlock_outer_iff :
    IsBlock (token :: (inside ++ closer :: behind)) 0 stop ↔ stop = inside.length + 1 :=
  isBlock_zero_of_split hk (splitAtClose_one_eq_some_iff.2 ⟨closer, hcloser, rfl, hb⟩)

theorem fits_inside (hlt : place < inside.length) :
    Fits (token :: (inside ++ closer :: behind)) (place + 1) ↔ Fits inside place := by
  have houter : IsBlock (token :: (inside ++ closer :: behind)) 0 (inside.length + 1) :=
    (isBlock_outer_iff hk hcloser hb).2 rfl
  constructor
  · rintro ⟨close, hblock, hinside⟩
    have hclose := hinside 0 _ ⟨houter, Nat.succ_pos _, by omega⟩
    obtain ⟨close, rfl⟩ := Nat.exists_eq_add_one_of_ne_zero (Nat.ne_zero_of_lt hblock.lt)
    rw [isBlock_cons_succ, isBlock_append_right _ (by omega)] at hblock
    refine ⟨close, hblock, fun start stop he => ?_⟩
    have he' : Encloses (inside ++ closer :: behind) start stop place :=
      ⟨(isBlock_append_right _ he.block.lt_length).2 he.block, he.start_lt, he.lt_stop⟩
    have hstop := hinside _ _ he'.cons_succ
    omega
  · rintro ⟨close, hblock, hinside⟩
    have hlength := hblock.lt_length
    refine ⟨close + 1, isBlock_cons_succ.2 ((isBlock_append_right _ hlength).2 hblock),
      fun start stop he => ?_⟩
    have hstart := he.start_lt
    have hstop := he.lt_stop
    cases start with
    | zero =>
      rw [(isBlock_outer_iff hk hcloser hb).1 he.block]
      omega
    | succ start =>
      obtain ⟨stop, rfl⟩ := Nat.exists_eq_add_one_of_ne_zero (Nat.ne_zero_of_lt hstop)
      rcases Nat.lt_or_ge stop inside.length with hin | hout
      · have hblock' := he.block
        rw [isBlock_cons_succ, isBlock_append_right _ hin] at hblock'
        have hclose := hinside start stop ⟨hblock', by omega, by omega⟩
        omega
      · omega

theorem fitBefore_inside (hle : bound ≤ inside.length) (h : FitBefore inside bound) :
    FitBefore (token :: (inside ++ closer :: behind)) (bound + 1) := by
  intro place hlt other ho
  cases place with
  | zero =>
    refine ⟨inside.length + 1, (isBlock_outer_iff hk hcloser hb).2 rfl, fun start stop he => ?_⟩
    exact absurd he.start_lt (Nat.not_lt_zero _)
  | succ place =>
    rw [opensAt_cons_succ, opensAt_append_right _ (by omega)] at ho
    exact (fits_inside hk hcloser hb (by omega)).2 (h place (by omega) other ho)

/-- Where everything inside a block fits, no block reaches over its end. -/
theorem stop_lt_of_fitBefore (h : FitBefore inside inside.length)
    (hblock : IsBlock (token :: (inside ++ closer :: behind)) start stop)
    (hlt : start < inside.length + 2) : stop < inside.length + 2 := by
  cases start with
  | zero =>
    rw [(isBlock_outer_iff hk hcloser hb).1 hblock]
    omega
  | succ start =>
    obtain ⟨other, ho, -⟩ := id hblock
    rw [opensAt_cons_succ] at ho
    rcases Nat.lt_or_ge start inside.length with hin | hout
    · rw [opensAt_append_right _ hin] at ho
      obtain ⟨close, hclose, -⟩ := h start hin other ho
      have hlength := hclose.lt_length
      have hmoved : IsBlock (token :: (inside ++ closer :: behind)) (start + 1) (close + 1) :=
        isBlock_cons_succ.2 ((isBlock_append_right _ hlength).2 hclose)
      rw [hblock.stop_unique hmoved]
      omega
    · -- The closing tag of the block itself opens nothing.
      obtain rfl : start = inside.length + 0 := by omega
      rw [opensAt_append_left] at ho
      exact absurd ho (not_opensAt_of_closing hcloser other)

theorem fits_behind (h : FitBefore inside inside.length) :
    Fits (token :: (inside ++ closer :: behind)) (inside.length + 2 + place) ↔
      Fits behind place := by
  have hfront : token :: (inside ++ closer :: behind) =
      (token :: (inside ++ [closer])) ++ behind := by simp
  have hlength : (token :: (inside ++ [closer])).length = inside.length + 2 := by simp
  have hends : ∀ start stop, start < (token :: (inside ++ [closer])).length →
      IsBlock (token :: (inside ++ [closer]) ++ behind) start stop →
      stop < (token :: (inside ++ [closer])).length := by
    intro start stop hlt hblock
    rw [← hfront] at hblock
    rw [hlength] at hlt ⊢
    exact stop_lt_of_fitBefore hk hcloser hb h hblock hlt
  rw [hfront, ← hlength]
  exact fits_append_left hends

theorem fitBefore_behind (h : FitBefore inside inside.length) (hbehind : FitBefore behind bound) :
    FitBefore (token :: (inside ++ closer :: behind)) (inside.length + 2 + bound) := by
  intro place hlt other ho
  rcases Nat.lt_or_ge place (inside.length + 1) with hin | hout
  · exact fitBefore_inside hk hcloser hb (Nat.le_refl _) h place hin other ho
  · obtain ⟨place, rfl⟩ := Nat.exists_eq_add_of_le hout
    rw [Nat.add_right_comm, opensAt_cons_succ, opensAt_append_left] at ho
    cases place with
    | zero => exact absurd ho (not_opensAt_of_closing hcloser other)
    | succ place =>
      rw [opensAt_cons_succ] at ho
      rw [show inside.length + 1 + (place + 1) = inside.length + 2 + place by omega]
      exact (fits_behind hk hcloser hb h).2 (hbehind place (by omega) other ho)

end Block

/-! ### Blocks that lie too deep -/

theorem nestedBeyond_iff :
    NestedBeyond limit tokens ↔ ∃ blocks, blocks.length = limit + 1 ∧ Nested tokens blocks := by
  constructor
  · rintro ⟨blocks, hlength, hblocks, hpairwise⟩
    exact ⟨blocks, hlength, hblocks, hpairwise⟩
  · rintro ⟨blocks, hlength, hnested⟩
    exact ⟨blocks, hlength, hnested.isBlock, hnested.pairwise⟩

/-- Blocks that lie inside one another keep doing so where they are moved to another list. -/
theorem Nested.moveOn {tokens' : List Token} (shift : Nat) (h : Nested tokens blocks)
    (hm : ∀ block ∈ blocks, IsBlock tokens' (shift + block.1) (shift + block.2)) :
    Nested tokens' (blocks.map fun block => (shift + block.1, shift + block.2)) := by
  constructor
  · intro block hmem
    obtain ⟨moved, hmoved, rfl⟩ := List.mem_map.1 hmem
    exact hm moved hmoved
  · rw [List.pairwise_map]
    exact h.pairwise.imp fun hlt => ⟨by omega, by omega⟩

theorem Nested.append_left (front : List Token) (h : Nested tokens blocks) :
    Nested (front ++ tokens)
      (blocks.map fun block => (front.length + block.1, front.length + block.2)) :=
  h.moveOn front.length fun block hmem => (isBlock_append_left front).2 (h.isBlock block hmem)

theorem NestedBeyond.append_left (front : List Token) (h : NestedBeyond limit tokens) :
    NestedBeyond limit (front ++ tokens) := by
  obtain ⟨blocks, hlength, hnested⟩ := nestedBeyond_iff.1 h
  exact nestedBeyond_iff.2 ⟨_, by rw [List.length_map, hlength], hnested.append_left front⟩

theorem nestedBeyond_zero (h : IsBlock tokens start stop) : NestedBeyond 0 tokens := by
  refine ⟨[(start, stop)], rfl, ?_, List.pairwise_singleton _ _⟩
  intro block hmem
  rw [List.mem_singleton.1 hmem]
  exact h

/-- A block around blocks that lie inside one another. -/
theorem Nested.around (hk : token.kind = .opening name arguments)
    (hcloser : closer.kind = .closing name) (hb : Balanced name inside)
    (h : Nested inside blocks) :
    Nested (token :: (inside ++ closer :: behind))
      ((0, inside.length + 1) :: blocks.map fun block => (1 + block.1, 1 + block.2)) := by
  have hmoved : Nested (token :: (inside ++ closer :: behind))
      (blocks.map fun block => (1 + block.1, 1 + block.2)) := by
    refine h.moveOn 1 fun block hmem => ?_
    have hblock := h.isBlock block hmem
    rw [Nat.add_comm 1, Nat.add_comm 1, isBlock_cons_succ]
    exact (isBlock_append_right _ hblock.lt_length).2 hblock
  refine ⟨List.forall_mem_cons.2 ⟨(isBlock_outer_iff hk hcloser hb).2 rfl, hmoved.isBlock⟩,
    List.pairwise_cons.2 ⟨fun block hmem => ?_, hmoved.pairwise⟩⟩
  obtain ⟨inner, hinner, rfl⟩ := List.mem_map.1 hmem
  have hlength := (h.isBlock inner hinner).lt_length
  exact ⟨by omega, by omega⟩

theorem NestedBeyond.around (hk : token.kind = .opening name arguments)
    (hcloser : closer.kind = .closing name) (hb : Balanced name inside)
    (h : NestedBeyond limit inside) :
    NestedBeyond (limit + 1) (token :: (inside ++ closer :: behind)) := by
  obtain ⟨blocks, hlength, hnested⟩ := nestedBeyond_iff.1 h
  exact nestedBeyond_iff.2 ⟨_, by rw [List.length_cons, List.length_map, hlength],
    hnested.around hk hcloser hb⟩

/-- Blocks that lie inside one another start in different places. -/
theorem NestedBeyond.lt_length (h : NestedBeyond limit tokens) : limit < tokens.length := by
  obtain ⟨blocks, hlength, hblocks, hnested⟩ := h
  have hcount : ∀ bound, (∀ block ∈ blocks, bound ≤ block.1 ∧ block.1 < tokens.length) →
      blocks.length ≤ tokens.length - bound := by
    clear hlength hblocks
    induction blocks with
    | nil => exact fun bound _ => Nat.zero_le _
    | cons outer blocks ih =>
      intro bound hin
      obtain ⟨hinner, hnested⟩ := List.pairwise_cons.1 hnested
      obtain ⟨hle, hlt⟩ := hin outer List.mem_cons_self
      have hrest := ih hnested (outer.1 + 1) fun block hmem =>
        ⟨(hinner block hmem).1, (hin block (List.mem_cons_of_mem _ hmem)).2⟩
      rw [List.length_cons]
      omega
  have hall := hcount 0 fun block hmem =>
    ⟨Nat.zero_le _, Nat.lt_trans (hblocks block hmem).lt (hblocks block hmem).lt_length⟩
  omega

/-! ### What the faults say -/

/-- Where every block is closed, every block fits. -/
theorem Closed.fitBefore (h : Closed tokens) : FitBefore tokens tokens.length := by
  induction h with
  | nil =>
    intro place hlt
    exact absurd hlt (Nat.not_lt_zero _)
  | leaf hl _ ih => exact fitBefore_cons (not_opensAt_of_leaf hl) ih
  | closing hk _ ih => exact fitBefore_cons (not_opensAt_of_closing hk) ih
  | @block token closer inside behind name arguments hk hcloser hb _ _ ihInside ihBehind =>
    have hlength : (token :: (inside ++ closer :: behind)).length =
        inside.length + 2 + behind.length := by
      rw [List.length_cons, List.length_append, List.length_cons]
      omega
    rw [hlength]
    exact fitBefore_behind hk hcloser hb ihInside ihBehind

/-- The first block that is not closed is the first one that does not fit. -/
theorem LeftOpen.exists_not_fits (h : LeftOpen name offset tokens) :
    ∃ (place : Nat) (token : Token) (arguments : Option String), tokens[place]? = some token ∧
      token.kind = .opening name arguments ∧ token.offset = offset ∧ ¬Fits tokens place ∧
      FitBefore tokens place := by
  induction h with
  | @here token tokens arguments hk hoff hcover =>
    refine ⟨0, token, arguments, rfl, hk, hoff, ?_, ?_⟩
    · rintro ⟨close, hblock, -⟩
      obtain ⟨inside, behind, hs, -⟩ := (isBlock_zero_iff hk).1 hblock
      rw [splitAtClose_one_eq_none_iff.2 hcover] at hs
      cases hs
    · intro place hlt
      exact absurd hlt (Nat.not_lt_zero _)
  | @leaf token tokens node hl _ ih =>
    obtain ⟨place, opener, arguments, hat, hk, hoff, hn, hf⟩ := ih
    have hno : ∀ other, ¬OpensAt (token :: tokens) 0 other := not_opensAt_of_leaf hl
    exact ⟨place + 1, opener, arguments, hat, hk, hoff, mt (fits_cons hno).1 hn,
      fitBefore_cons hno hf⟩
  | @closing token tokens other hk _ ih =>
    obtain ⟨place, opener, arguments, hat, hopener, hoff, hn, hf⟩ := ih
    have hno : ∀ other, ¬OpensAt (token :: tokens) 0 other := not_opensAt_of_closing hk
    exact ⟨place + 1, opener, arguments, hat, hopener, hoff, mt (fits_cons hno).1 hn,
      fitBefore_cons hno hf⟩
  | inside hk hcloser hb _ ih =>
    obtain ⟨place, opener, arguments, hat, hopener, hoff, hn, hf⟩ := ih
    obtain ⟨hlt, -⟩ := List.getElem?_eq_some_iff.1 hat
    refine ⟨place + 1, opener, arguments, ?_, hopener, hoff,
      mt (fits_inside hk hcloser hb hlt).1 hn,
      fitBefore_inside hk hcloser hb (Nat.le_of_lt hlt) hf⟩
    rw [List.getElem?_cons_succ, List.getElem?_append_left hlt]
    exact hat
  | @behind token closer inside behind other arguments hk hcloser hb hinside _ ih =>
    obtain ⟨place, opener, arguments, hat, hopener, hoff, hn, hf⟩ := ih
    have hfit : FitBefore inside inside.length := hinside.fitBefore
    refine ⟨inside.length + 2 + place, opener, arguments, ?_, hopener, hoff,
      mt (fits_behind hk hcloser hb hfit).1 hn, fitBefore_behind hk hcloser hb hfit hf⟩
    rw [show inside.length + 2 + place = inside.length + (place + 1) + 1 by omega,
      List.getElem?_cons_succ, List.getElem?_append_right (Nat.le_add_right _ _),
      Nat.add_sub_cancel_left, List.getElem?_cons_succ]
    exact hat

theorem nestedBeyond_of_tooDeep (limit : Nat) (tokens : List Token)
    (h : fault? limit tokens = some .tooDeep) : NestedBeyond limit tokens := by
  induction limit, tokens using build_induction with
  | nil limit =>
    rw [fault?_nil] at h
    cases h
  | leaf limit token tokens node hl ih =>
    rw [fault?_leaf hl] at h
    exact (ih h).append_left [token]
  | closing limit token tokens other hk ih =>
    rw [fault?_closing hk] at h
    exact (ih h).append_left [token]
  | unclosed limit token tokens other arguments hk hs =>
    rw [fault?_unclosed hk hs] at h
    cases h
  | tooDeep token tokens other arguments inside behind hk hs =>
    exact nestedBeyond_zero ((isBlock_zero_of_split hk hs).2 rfl)
  | block limit token tokens other arguments inside behind hk hs ihInside ihBehind =>
    rw [fault?_block hk hs, Option.or_eq_some_iff] at h
    obtain ⟨closer, hcloser, rfl, hb⟩ := splitAtClose_one_eq_some_iff.1 hs
    rcases h with hinside | ⟨-, hbehind⟩
    · exact (ihInside hinside).around hk hcloser hb
    · have hmoved := (ihBehind hbehind).append_left (token :: (inside ++ [closer]))
      rwa [List.cons_append, List.append_assoc, List.singleton_append] at hmoved

end Stencil.Tree

namespace Stencil.Template

open Stencil.Tree

variable {limit : Nat} {tokens : List Token} {source name : Option String}

theorem parse_of_fault?_eq_none (h : fault? limit tokens = none) (source name : Option String) :
    ∃ nodes, parse limit tokens source name = .ok nodes := by
  obtain ⟨nodes, hb⟩ := fault?_eq_none_iff.1 h
  exact ⟨nodes, by rw [parse, hb]⟩

theorem parse_of_fault?_eq_some {e : TreeError} (h : fault? limit tokens = some e)
    (source name : Option String) :
    parse limit tokens source name = .error (treeError tokens source name e) := by
  rw [parse, fault?_eq_some_iff.1 h]

/-- Tokens are read if the stack machine accepts them. If it does not, the error is about the first
opening tag that is not closed. In place of both, blocks may be found to lie too deep. -/
theorem parse_outcome (limit : Nat) (tokens : List Token) (source name : Option String) :
    (Accepted tokens ∧ ∃ nodes, parse limit tokens source name = .ok nodes) ∨
    (¬Accepted tokens ∧ ∃ (place : Nat) (token : Token) (block : String)
      (arguments : Option String), FirstUnclosed tokens place block ∧
        tokens[place]? = some token ∧ token.kind = .opening block arguments ∧
        parse limit tokens source name = .error
          { cause := .unclosed block, name := some block,
            place := ⟨source, some token.offset, name⟩, code := some .unclosedBlock }) ∨
    (NestedBeyond limit tokens ∧ ∃ e, parse limit tokens source name = .error e ∧
      e.code = some .nestingTooDeep) := by
  cases hf : fault? limit tokens with
  | none =>
    have hclosed := closed_of_fault?_eq_none limit tokens hf
    exact .inl ⟨hclosed.accepted, parse_of_fault?_eq_none hf source name⟩
  | some e =>
    have hparse := parse_of_fault?_eq_some hf source name
    cases e with
    | unclosed block offset =>
      have hopen : LeftOpen block offset tokens := leftOpen_of_fault?_eq_some limit tokens hf
      have hrejected : ¬Accepted tokens := hopen.not_accepted
      obtain ⟨place, token, arguments, hat, hk, rfl, hn, hfit⟩ := hopen.exists_not_fits
      have hfirst := firstUnclosed_of_not_fits ⟨token, arguments, hat, hk⟩ hn hfit
      exact .inr (.inl ⟨hrejected, place, token, block, arguments, hfirst, hat, hk, hparse⟩)
    | tooDeep =>
      have hdeep := nestedBeyond_of_tooDeep limit tokens hf
      exact .inr (.inr ⟨hdeep, _, hparse, rfl⟩)

/-- Tokens whose blocks do not lie too deep are read if and only if the stack machine accepts them,
and otherwise the error is about the first opening tag that is not closed. -/
theorem parse_ok_iff_accepted (h : ¬NestedBeyond limit tokens) (source name : Option String) :
    ((∃ nodes, parse limit tokens source name = .ok nodes) ↔ Accepted tokens) ∧
      ∀ e, parse limit tokens source name = .error e →
        ∃ (place : Nat) (token : Token) (block : String) (arguments : Option String),
          FirstUnclosed tokens place block ∧ tokens[place]? = some token ∧
          token.kind = .opening block arguments ∧
          e = { cause := .unclosed block, name := some block,
                place := ⟨source, some token.offset, name⟩, code := some .unclosedBlock } := by
  rcases parse_outcome limit tokens source name with ⟨ha, nodes, hparse⟩ |
    ⟨hr, place, token, block, arguments, hfirst, hat, hk, hparse⟩ | ⟨hdeep, -⟩
  · refine ⟨iff_of_true ⟨nodes, hparse⟩ ha, fun e he => ?_⟩
    rw [hparse] at he
    cases he
  · refine ⟨iff_of_false ?_ hr, fun e he => ?_⟩
    · rintro ⟨nodes, hok⟩
      rw [hparse] at hok
      cases hok
    · rw [hparse] at he
      cases he
      exact ⟨place, token, block, arguments, hfirst, hat, hk, rfl⟩
  · exact absurd hdeep h

/-- Two blocks neither of which lies inside the other. -/
def overlapping : List Token :=
  [⟨.opening "a" none, "\x7b\x7b#a\x7d\x7d", 0⟩, ⟨.opening "b" none, "\x7b\x7b#b\x7d\x7d", 6⟩,
    ⟨.closing "a", "\x7b\x7b/a\x7d\x7d", 12⟩, ⟨.closing "b", "\x7b\x7b/b\x7d\x7d", 18⟩]

theorem parse_ok_iff_accepted_overlapping :
    ¬NestedBeyond 4 overlapping ∧ ¬Accepted overlapping ∧
      ¬∃ nodes, parse 4 overlapping none none = .ok nodes := by
  have hdeep : ¬NestedBeyond 4 overlapping := fun h => Nat.lt_irrefl 4 h.lt_length
  have hrejected : ¬Accepted overlapping := by decide
  exact ⟨hdeep, hrejected, mt (parse_ok_iff_accepted hdeep none none).1.1 hrejected⟩

end Stencil.Template
