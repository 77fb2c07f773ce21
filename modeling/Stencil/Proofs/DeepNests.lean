import Stencil.Proofs.Nesting
import Stencil.Proofs.Tiling

/-!
Blocks that lie too deep, and the error that reports them. Tokens are refused at the first block
whose own nest goes beyond the limit, and that block lies in no other. The error, though, is about
the first block of all, which need not be that one.
-/

namespace Stencil.Tree

/-- More than `limit` blocks lie inside one another, and the outermost of them starts at the
place. -/
def NestsBeyond (limit : Nat) (tokens : List Token) (place : Nat) : Prop :=
  ∃ stop blocks, blocks.length = limit ∧ Nested tokens ((place, stop) :: blocks)

/-- A block starts at the place, and lies in no other. -/
def OnTop (tokens : List Token) (place : Nat) : Prop :=
  (∃ name, OpensAt tokens place name) ∧ ∀ start stop, ¬Encloses tokens start stop place

/-- The first opening tag stands at the place. -/
def OpensFirst (tokens : List Token) (place : Nat) : Prop :=
  (∃ name, OpensAt tokens place name) ∧ ∀ earlier < place, ∀ name, ¬OpensAt tokens earlier name

variable {name : String} {arguments : Option String} {limit place start stop : Nat}
  {token closer : Token} {tokens inside behind front : List Token}
  {blocks : List (Nat × Nat)}

/-! ### Nests -/

theorem NestsBeyond.nestedBeyond (h : NestsBeyond limit tokens place) :
    NestedBeyond limit tokens := by
  obtain ⟨stop, blocks, hLength, hNested⟩ := h
  exact nestedBeyond_iff.2 ⟨_, by rw [List.length_cons, hLength], hNested⟩

theorem NestedBeyond.exists_place (h : NestedBeyond limit tokens) :
    ∃ place, NestsBeyond limit tokens place := by
  obtain ⟨blocks, hLength, hNested⟩ := nestedBeyond_iff.1 h
  obtain ⟨⟨place, stop⟩, blocks, rfl⟩ := List.exists_cons_of_length_eq_add_one hLength
  exact ⟨place, stop, blocks, Nat.succ.inj hLength, hNested⟩

theorem NestsBeyond.isBlock (h : NestsBeyond limit tokens place) :
    ∃ stop, IsBlock tokens place stop := by
  obtain ⟨stop, blocks, -, hNested⟩ := h
  exact ⟨stop, hNested.isBlock _ List.mem_cons_self⟩

theorem NestsBeyond.opensAt (h : NestsBeyond limit tokens place) :
    ∃ name, OpensAt tokens place name := by
  obtain ⟨stop, name, hOpen, -⟩ := h.isBlock
  exact ⟨name, hOpen⟩

/-- Blocks that lie inside one another keep doing so where they are moved back. -/
theorem Nested.moveBack (tokens' : List Token) (shift : Nat) (h : Nested tokens blocks)
    (hMove : ∀ block ∈ blocks, shift ≤ block.1 ∧
      IsBlock tokens' (block.1 - shift) (block.2 - shift)) :
    Nested tokens' (blocks.map fun block => (block.1 - shift, block.2 - shift)) := by
  constructor
  · intro block hMem
    obtain ⟨moved, hMoved, rfl⟩ := List.mem_map.1 hMem
    exact (hMove moved hMoved).2
  · rw [List.pairwise_map]
    refine h.pairwise.imp_of_mem fun {outer inner} hOuter hInner hInside => ?_
    have hStart := (hMove outer hOuter).1
    have hLess := (h.isBlock inner hInner).lt
    exact ⟨by omega, by omega⟩

/-- What nests at a place does not depend on the tokens in front. -/
theorem nestsBeyond_append_left (front : List Token) :
    NestsBeyond limit (front ++ tokens) (front.length + place) ↔
      NestsBeyond limit tokens place := by
  constructor
  · rintro ⟨stop, blocks, hLength, hNested⟩
    have hBack := hNested.moveBack tokens front.length fun block hMem => ?_
    · rw [List.map_cons, Nat.add_sub_cancel_left] at hBack
      exact ⟨_, _, by rw [List.length_map, hLength], hBack⟩
    · have hFront : front.length ≤ block.1 := by
        rcases List.mem_cons.1 hMem with rfl | hMem
        · exact Nat.le_add_right _ _
        · have hInside := (List.pairwise_cons.1 hNested.pairwise).1 block hMem
          omega
      have hBlock := hNested.isBlock block hMem
      have hLess := hBlock.lt
      refine ⟨hFront, (isBlock_append_left front).1 ?_⟩
      have hBelow := Nat.le_trans hFront (Nat.le_of_lt hLess)
      rwa [Nat.add_sub_cancel' hFront, Nat.add_sub_cancel' hBelow]
  · rintro ⟨stop, blocks, hLength, hNested⟩
    exact ⟨_, _, by rw [List.length_map, hLength], hNested.append_left front⟩

theorem nestsBeyond_cons : NestsBeyond limit (token :: tokens) (place + 1) ↔
    NestsBeyond limit tokens place := by
  rw [Nat.add_comm]
  exact nestsBeyond_append_left [token]

theorem not_nestsBeyond_zero (hNo : ∀ name, ¬OpensAt (token :: tokens) 0 name) :
    ¬NestsBeyond limit (token :: tokens) 0 := by
  intro h
  obtain ⟨name, hOpen⟩ := h.opensAt
  exact hNo name hOpen

/-- A token that opens nothing adds to no nest. -/
theorem not_nestedBeyond_cons (hNo : ∀ name, ¬OpensAt (token :: tokens) 0 name)
    (h : ¬NestedBeyond limit tokens) : ¬NestedBeyond limit (token :: tokens) := by
  intro hDeep
  obtain ⟨place, hNest⟩ := hDeep.exists_place
  cases place with
  | zero => exact not_nestsBeyond_zero hNo hNest
  | succ place => exact h (nestsBeyond_cons.1 hNest).nestedBeyond

/-- Tokens in front that hold no block around a place leave it on top. -/
theorem onTop_append_left
    (h : ∀ start stop, start < front.length → IsBlock (front ++ tokens) start stop →
      stop < front.length) (hTop : OnTop tokens place) :
    OnTop (front ++ tokens) (front.length + place) := by
  obtain ⟨⟨name, hOpen⟩, hNone⟩ := hTop
  refine ⟨⟨name, (opensAt_append_left front).2 hOpen⟩, fun start stop hAround => ?_⟩
  have hStart := hAround.start_lt
  have hStop := hAround.lt_stop
  rcases Nat.lt_or_ge start front.length with hLess | hMore
  · have hEnd := h start stop hLess hAround.block
    omega
  · obtain ⟨start, rfl⟩ := Nat.exists_eq_add_of_le hMore
    obtain ⟨stop, rfl⟩ := Nat.exists_eq_add_of_le (show front.length ≤ stop by omega)
    exact hNone start stop
      ⟨(isBlock_append_left front).1 hAround.block, by omega, by omega⟩

theorem onTop_cons (hNo : ∀ name, ¬OpensAt (token :: tokens) 0 name) (hTop : OnTop tokens place) :
    OnTop (token :: tokens) (place + 1) := by
  rw [Nat.add_comm]
  show OnTop ([token] ++ tokens) ([token].length + place)
  refine onTop_append_left (fun start stop hLess hBlock => ?_) hTop
  obtain rfl : start = 0 := Nat.lt_one_iff.1 hLess
  obtain ⟨name, hOpen, -⟩ := hBlock
  exact absurd hOpen (hNo name)

section Block

variable (hk : token.kind = .opening name arguments) (hcloser : closer.kind = .closing name)
  (hb : Balanced name inside)

include hk hcloser hb

theorem nestsBeyond_around (h : NestedBeyond limit inside) :
    NestsBeyond (limit + 1) (token :: (inside ++ closer :: behind)) 0 := by
  obtain ⟨blocks, hLength, hNested⟩ := nestedBeyond_iff.1 h
  exact ⟨_, _, by rw [List.length_map, hLength], hNested.around hk hcloser hb⟩

/-- A nest lies behind a block, or what is inside its outermost block is inside that block, if
everything there fits. -/
theorem nestsBeyond_block_cases (hFit : FitBefore inside inside.length)
    (h : NestsBeyond (limit + 1) (token :: (inside ++ closer :: behind)) place) :
    NestedBeyond limit inside ∨
      ∃ later, place = inside.length + 2 + later ∧ NestsBeyond (limit + 1) behind later := by
  rcases Nat.lt_or_ge place (inside.length + 2) with hLess | hMore
  · obtain ⟨stop, blocks, hLength, hNested⟩ := h
    have hStop := stop_lt_of_fitBefore hk hcloser hb hFit
      (hNested.isBlock _ List.mem_cons_self) hLess
    obtain ⟨hInside, hPairwise⟩ := List.pairwise_cons.1 hNested.pairwise
    have hInner : Nested (token :: (inside ++ closer :: behind)) blocks :=
      ⟨fun block hMem => hNested.isBlock block (List.mem_cons_of_mem _ hMem), hPairwise⟩
    have hBack := hInner.moveBack inside 1 fun block hMem => ?_
    · exact .inl (nestedBeyond_iff.2 ⟨_, by rw [List.length_map, hLength], hBack⟩)
    · have hBounds := hInside block hMem
      have hBlock := hInner.isBlock block hMem
      have hOrder := hBlock.lt
      dsimp only at hBounds
      have hEnd : block.2 - 1 < inside.length := by omega
      have hMoved : IsBlock (token :: (inside ++ closer :: behind)) (block.1 - 1 + 1)
          (block.2 - 1 + 1) := by
        rwa [Nat.sub_add_cancel (by omega), Nat.sub_add_cancel (by omega)]
      refine ⟨by omega, (isBlock_append_right (closer :: behind) hEnd).1 ?_⟩
      exact isBlock_cons_succ.1 hMoved
  · obtain ⟨later, rfl⟩ := Nat.exists_eq_add_of_le hMore
    refine .inr ⟨later, rfl, ?_⟩
    rw [← nestsBeyond_append_left (token :: (inside ++ [closer]))]
    simpa using h

end Block

/-! ### The block at which tokens are refused -/

/-- Where a tree is built, blocks do not lie too deep. -/
theorem not_nestedBeyond_of_fault?_eq_none (limit : Nat) (tokens : List Token)
    (h : fault? limit tokens = none) : ¬NestedBeyond limit tokens := by
  induction limit, tokens using build_induction with
  | nil limit => exact fun hDeep => absurd hDeep.lt_length (Nat.not_lt_zero _)
  | leaf limit token tokens node hl ih =>
    rw [fault?_leaf hl] at h
    exact not_nestedBeyond_cons (not_opensAt_of_leaf hl) (ih h)
  | closing limit token tokens other hk ih =>
    rw [fault?_closing hk] at h
    exact not_nestedBeyond_cons (not_opensAt_of_closing hk) (ih h)
  | unclosed limit token tokens other arguments hk hs =>
    rw [fault?_unclosed hk hs] at h
    cases h
  | tooDeep token tokens other arguments inside behind hk hs =>
    rw [fault?_tooDeep hk hs] at h
    cases h
  | block limit token tokens other arguments inside behind hk hs ihInside ihBehind =>
    rw [fault?_block hk hs, Option.or_eq_none_iff] at h
    obtain ⟨closer, hcloser, rfl, hb⟩ := splitAtClose_one_eq_some_iff.1 hs
    have hFit := (closed_of_fault?_eq_none limit inside h.1).fitBefore
    intro hDeep
    obtain ⟨place, hNest⟩ := hDeep.exists_place
    rcases nestsBeyond_block_cases hk hcloser hb hFit hNest with hInside | ⟨later, -, hBehind⟩
    · exact ihInside h.1 hInside
    · exact ihBehind h.2 hBehind.nestedBeyond

/-- The first block whose nest goes beyond the limit is there, and no other block is around it. -/
structure FirstDeep (limit : Nat) (tokens : List Token) (deep : Nat) : Prop where
  onTop : OnTop tokens deep
  nestsBeyond : NestsBeyond limit tokens deep
  earlier : ∀ place < deep, ¬NestsBeyond limit tokens place

theorem firstDeep_zero (hOpen : OpensAt tokens 0 name) (h : NestsBeyond limit tokens 0) :
    FirstDeep limit tokens 0 where
  onTop := ⟨⟨name, hOpen⟩, fun _ _ hAround => absurd hAround.start_lt (Nat.not_lt_zero _)⟩
  nestsBeyond := h
  earlier place hLess := absurd hLess (Nat.not_lt_zero place)

theorem FirstDeep.cons {deep : Nat} (h : FirstDeep limit tokens deep)
    (hNo : ∀ name, ¬OpensAt (token :: tokens) 0 name) :
    FirstDeep limit (token :: tokens) (deep + 1) where
  onTop := onTop_cons hNo h.onTop
  nestsBeyond := nestsBeyond_cons.2 h.nestsBeyond
  earlier place hLess := by
    cases place with
    | zero => exact not_nestsBeyond_zero hNo
    | succ place => exact mt nestsBeyond_cons.1 (h.earlier place (Nat.lt_of_succ_lt_succ hLess))

/-- A block in which everything fits and nothing lies too deep may stand in front. -/
theorem FirstDeep.behind_block {deep : Nat} (h : FirstDeep (limit + 1) behind deep)
    (hk : token.kind = .opening name arguments) (hcloser : closer.kind = .closing name)
    (hb : Balanced name inside) (hFit : FitBefore inside inside.length)
    (hShallow : ¬NestedBeyond limit inside) :
    FirstDeep (limit + 1) (token :: (inside ++ closer :: behind)) (inside.length + 2 + deep) := by
  have hFront : token :: (inside ++ closer :: behind) =
      (token :: (inside ++ [closer])) ++ behind := by simp
  have hLength : (token :: (inside ++ [closer])).length = inside.length + 2 := by simp
  refine ⟨?_, ?_, fun place hLess hEarly => ?_⟩
  · rw [hFront, ← hLength]
    refine onTop_append_left (fun start stop hLess hBlock => ?_) h.onTop
    rw [← hFront] at hBlock
    rw [hLength] at hLess ⊢
    exact stop_lt_of_fitBefore hk hcloser hb hFit hBlock hLess
  · rw [hFront, ← hLength]
    exact (nestsBeyond_append_left _).2 h.nestsBeyond
  · rcases nestsBeyond_block_cases hk hcloser hb hFit hEarly with hDeep | ⟨later, rfl, hLater⟩
    · exact hShallow hDeep
    · exact h.earlier later (by omega) hLater

/-- Tokens whose blocks lie too deep are refused at the first block whose nest goes beyond the
limit, and no other block is around that one. -/
theorem exists_firstDeep (limit : Nat) (tokens : List Token)
    (h : fault? limit tokens = some .tooDeep) : ∃ deep, FirstDeep limit tokens deep := by
  induction limit, tokens using build_induction with
  | nil limit =>
    rw [fault?_nil] at h
    cases h
  | leaf limit token tokens node hl ih =>
    rw [fault?_leaf hl] at h
    obtain ⟨deep, hDeep⟩ := ih h
    exact ⟨_, hDeep.cons (not_opensAt_of_leaf hl)⟩
  | closing limit token tokens other hk ih =>
    rw [fault?_closing hk] at h
    obtain ⟨deep, hDeep⟩ := ih h
    exact ⟨_, hDeep.cons (not_opensAt_of_closing hk)⟩
  | unclosed limit token tokens other arguments hk hs =>
    rw [fault?_unclosed hk hs] at h
    cases h
  | tooDeep token tokens other arguments inside behind hk hs =>
    have hBlock : IsBlock (token :: tokens) 0 (inside.length + 1) :=
      (isBlock_zero_of_split hk hs).2 rfl
    exact ⟨0, firstDeep_zero ((opensAt_cons_zero hk).2 rfl)
      ⟨_, [], rfl, List.forall_mem_singleton.2 hBlock, List.pairwise_singleton _ _⟩⟩
  | block limit token tokens other arguments inside behind hk hs ihInside ihBehind =>
    rw [fault?_block hk hs, Option.or_eq_some_iff] at h
    obtain ⟨closer, hcloser, rfl, hb⟩ := splitAtClose_one_eq_some_iff.1 hs
    rcases h with hInside | ⟨hNone, hBehind⟩
    · obtain ⟨deep, hDeep⟩ := ihInside hInside
      exact ⟨0, firstDeep_zero ((opensAt_cons_zero hk).2 rfl)
        (nestsBeyond_around hk hcloser hb hDeep.nestsBeyond.nestedBeyond)⟩
    · -- Everything inside the block fits, so it reaches over nothing behind it.
      obtain ⟨deep, hDeep⟩ := ihBehind hBehind
      have hFit := (closed_of_fault?_eq_none limit inside hNone).fitBefore
      exact ⟨_, hDeep.behind_block hk hcloser hb hFit
        (not_nestedBeyond_of_fault?_eq_none limit inside hNone)⟩

end Stencil.Tree

namespace Stencil

/-- The error is about the block that starts at the place: it has the name and the offset of the
opening tag there. -/
def CompileError.IsAbout (error : CompileError) (tokens : List Token) (place : Nat) : Prop :=
  ∃ token block arguments, tokens[place]? = some token ∧ token.kind = .opening block arguments ∧
    error.name = some block ∧ error.place.offset = some (token.offset : Int)

/-- The error is about a block that lies in no other and whose own nest goes beyond the limit. -/
def CompileError.NamesDeepNest (error : CompileError) (limit : Nat) (tokens : List Token) : Prop :=
  ∃ place, error.IsAbout tokens place ∧ Tree.OnTop tokens place ∧
    Tree.NestsBeyond limit tokens place

theorem CompileError.IsAbout.place_unique {error : CompileError} {tokens : List Token}
    {place place' : Nat} (hOffsets : (tokens.map Token.offset).Nodup)
    (h : error.IsAbout tokens place) (h' : error.IsAbout tokens place') : place = place' := by
  obtain ⟨token, block, arguments, hAt, -, -, hOffset⟩ := h
  obtain ⟨token', block', arguments', hAt', -, -, hOffset'⟩ := h'
  rw [hOffset'] at hOffset
  have hSame : token'.offset = token.offset := Int.ofNat.inj (Option.some.inj hOffset)
  have hMap : (tokens.map Token.offset)[place]? = (tokens.map Token.offset)[place']? := by
    rw [List.getElem?_map, List.getElem?_map, hAt, hAt', Option.map_some, Option.map_some, hSame]
  obtain ⟨hLess, -⟩ := List.getElem?_eq_some_iff.1 hAt
  exact (List.getElem?_inj (by rwa [List.length_map]) hOffsets).1 hMap

/-- The tokens of a source start in different places. -/
theorem nodup_offset_tokenize (source : String) :
    ((tokenize source).map Token.offset).Nodup := by
  have hTiles := tiles_tokenize source
  rw [List.nodup_iff_pairwise_ne, List.pairwise_map]
  refine hTiles.pairwise.imp_of_mem fun {token later} hToken _ hBehind => ?_
  have hLength : token.lexeme.length ≠ 0 :=
    fun h => hTiles.lexeme_ne token hToken (String.length_eq_zero_iff.1 h)
  omega

namespace Template

open Stencil.Tree

variable {limit place : Nat} {tokens : List Token} {source name : Option String}
  {error : CompileError}

theorem exists_firstOpening (h : ∃ name, OpensAt tokens place name) :
    ∃ first token block arguments, first ≤ place ∧ OpensFirst tokens first ∧
      tokens[first]? = some token ∧ token.kind = .opening block arguments ∧
      firstOpening tokens = some (block, token.offset) := by
  induction tokens generalizing place with
  | nil =>
    obtain ⟨name, token, arguments, hAt, -⟩ := h
    cases hAt
  | cons token tokens ih =>
    by_cases hHere : ∃ block arguments, token.kind = .opening block arguments
    · obtain ⟨block, arguments, hKind⟩ := hHere
      refine ⟨0, token, block, arguments, Nat.zero_le _,
        ⟨⟨block, (opensAt_cons_zero hKind).2 rfl⟩, fun earlier hLess => ?_⟩, rfl, hKind, ?_⟩
      · exact absurd hLess (Nat.not_lt_zero _)
      · simp only [firstOpening, hKind]
    · have hNo : ∀ name, ¬OpensAt (token :: tokens) 0 name := by
        rintro name ⟨found, arguments, hAt, hKind⟩
        cases hAt
        exact hHere ⟨name, arguments, hKind⟩
      cases place with
      | zero =>
        obtain ⟨name, hOpen⟩ := h
        exact absurd hOpen (hNo name)
      | succ place =>
        obtain ⟨name, hOpen⟩ := h
        obtain ⟨first, found, block, arguments, hLess, ⟨⟨other, hFound⟩, hNone⟩, hAt, hKind,
          hFirst⟩ := ih ⟨name, opensAt_cons_succ.1 hOpen⟩
        refine ⟨first + 1, found, block, arguments, Nat.succ_le_succ hLess,
          ⟨⟨other, opensAt_cons_succ.2 hFound⟩, fun earlier hEarly => ?_⟩, hAt, hKind, ?_⟩
        · cases earlier with
          | zero => exact hNo
          | succ earlier =>
            intro name hOpen
            exact hNone earlier (Nat.lt_of_succ_lt_succ hEarly) name (opensAt_cons_succ.1 hOpen)
        · unfold firstOpening
          split
          · rename_i block' arguments' hKind'
            exact absurd ⟨block', arguments', hKind'⟩ hHere
          · exact hFirst

theorem fault?_of_nestingTooDeep (h : parse limit tokens source name = .error error)
    (hCode : error.code = some .nestingTooDeep) :
    fault? limit tokens = some .tooDeep ∧ error = treeError tokens source name .tooDeep := by
  cases hFault : fault? limit tokens with
  | none =>
    obtain ⟨nodes, hParse⟩ := parse_of_fault?_eq_none hFault source name
    rw [hParse] at h
    cases h
  | some e =>
    rw [parse_of_fault?_eq_some hFault] at h
    cases h
    cases e with
    | unclosed block offset => cases hCode
    | tooDeep => exact ⟨rfl, rfl⟩

/-- Where blocks lie too deep, the error is about the first block of all. -/
theorem exists_isAbout_of_nestingTooDeep (h : parse limit tokens source name = .error error)
    (hCode : error.code = some .nestingTooDeep) :
    ∃ first deep, OpensFirst tokens first ∧ error.IsAbout tokens first ∧
      error.place.source = source ∧ error.place.templateName = name ∧ first ≤ deep ∧
      FirstDeep limit tokens deep := by
  obtain ⟨hFault, rfl⟩ := fault?_of_nestingTooDeep h hCode
  obtain ⟨deep, hDeep⟩ := exists_firstDeep limit tokens hFault
  obtain ⟨first, token, block, arguments, hLess, hFirst, hAt, hKind, hFound⟩ :=
    exists_firstOpening hDeep.onTop.1
  have hAbout : (treeError tokens source name .tooDeep).IsAbout tokens first := by
    refine ⟨token, block, arguments, hAt, hKind, ?_, ?_⟩
    · rw [treeError, hFound]
      rfl
    · rw [treeError, hFound]
      rfl
  exact ⟨first, deep, hFirst, hAbout, rfl, rfl, hLess, hDeep⟩

theorem nestsBeyond_iff_of_firstDeep {first deep : Nat} (hLess : first ≤ deep)
    (hDeep : FirstDeep limit tokens deep) :
    NestsBeyond limit tokens first ↔ first = deep := by
  constructor
  · intro hNests
    exact Nat.le_antisymm hLess (Nat.le_of_not_lt fun hBefore =>
      hDeep.earlier first hBefore hNests)
  · rintro rfl
    exact hDeep.nestsBeyond

/-- Where tokens start in different places, an error about a block names a nest that is too deep
exactly if that block is the first one with such a nest. -/
theorem namesDeepNest_iff_of_firstDeep {first deep : Nat}
    (hOffsets : (tokens.map Token.offset).Nodup) (hAbout : error.IsAbout tokens first)
    (hLess : first ≤ deep) (hDeep : FirstDeep limit tokens deep) :
    error.NamesDeepNest limit tokens ↔ first = deep := by
  constructor
  · rintro ⟨place, hPlace, -, hNests⟩
    rw [hPlace.place_unique hOffsets hAbout] at hNests
    exact (nestsBeyond_iff_of_firstDeep hLess hDeep).1 hNests
  · rintro rfl
    exact ⟨first, hAbout, hDeep.onTop, hDeep.nestsBeyond⟩

/-- A source is refused for the depth of its blocks with the right name and place exactly if its
first block is the one whose nest is too deep. -/
theorem compile_names_deep_iff {text : String} (h : compile limit text name = .error error)
    (hCode : error.code = some .nestingTooDeep) :
    ∃ first deep, OpensFirst (tokenize text) first ∧ FirstDeep limit (tokenize text) deep ∧
      (error.NamesDeepNest limit (tokenize text) ↔ first = deep) := by
  obtain ⟨first, deep, hFirst, hAbout, -, -, hLess, hDeep⟩ :=
    exists_isAbout_of_nestingTooDeep h hCode
  exact ⟨first, deep, hFirst, hDeep,
    namesDeepNest_iff_of_firstDeep (nodup_offset_tokenize text) hAbout hLess hDeep⟩

/-- Where blocks lie too deep, there is a first block whose own nest goes beyond the limit, and it
lies in no other. The error is about the first block of all. That is the block with the nest that is
too deep exactly if no block starts before that one. -/
theorem nesting_error_names_deep_iff (h : parse limit tokens source name = .error error)
    (hCode : error.code = some .nestingTooDeep) :
    ∃ first deep, OpensFirst tokens first ∧ error.IsAbout tokens first ∧
      error.place.source = source ∧ error.place.templateName = name ∧ first ≤ deep ∧
      OnTop tokens deep ∧ NestsBeyond limit tokens deep ∧
      (∀ place < deep, ¬NestsBeyond limit tokens place) ∧
      (NestsBeyond limit tokens first ↔ first = deep) ∧
      ((tokens.map Token.offset).Nodup →
        (error.NamesDeepNest limit tokens ↔ first = deep)) := by
  obtain ⟨first, deep, hFirst, hAbout, hSource, hName, hLess, hDeep⟩ :=
    exists_isAbout_of_nestingTooDeep h hCode
  exact ⟨first, deep, hFirst, hAbout, hSource, hName, hLess, hDeep.onTop, hDeep.nestsBeyond,
    hDeep.earlier, nestsBeyond_iff_of_firstDeep hLess hDeep,
    fun hOffsets => namesDeepNest_iff_of_firstDeep hOffsets hAbout hLess hDeep⟩

/-- A block that holds nothing, and behind it one block inside another. -/
def shallowFirst : List Token :=
  [⟨.opening "a" none, Node.tag "#a", 0⟩, ⟨.closing "a", Node.tag "/a", 6⟩,
    ⟨.opening "b" none, Node.tag "#b", 12⟩, ⟨.opening "b" none, Node.tag "#b", 18⟩,
    ⟨.closing "b", Node.tag "/b", 24⟩, ⟨.closing "b", Node.tag "/b", 30⟩]

/-- Without the block in front, the error is about the right one. -/
theorem nesting_error_names_deep_iff_alone :
    let tokens := shallowFirst.drop 2
    let error := CompileError.ofCause (.tooDeep "b") ⟨none, some 12, none⟩
    parse 1 tokens none none = .error error ∧ error.code = some .nestingTooDeep ∧
      error.NamesDeepNest 1 tokens := by
  intro tokens error
  have hFault : fault? 1 tokens = some .tooDeep := by decide +kernel
  have hParse : parse 1 tokens none none = .error error := parse_of_fault?_eq_some hFault _ _
  have hNest : NestsBeyond 1 tokens 0 := by
    have hEmpty : splitAtClose "b" 1 [tokens[2]] = some ([], []) := by decide
    have hInner : NestedBeyond 0 [tokens[1], tokens[2]] :=
      nestedBeyond_zero ((isBlock_zero_of_split rfl hEmpty).2 rfl)
    obtain ⟨closer, hcloser, hSame, hb⟩ := splitAtClose_one_eq_some_iff.1
      (show splitAtClose "b" 1 [tokens[1], tokens[2], tokens[3]] =
        some ([tokens[1], tokens[2]], []) by decide)
    cases hSame
    exact nestsBeyond_around rfl hcloser hb hInner
  obtain ⟨first, deep, ⟨-, hNone⟩, -, -, -, -, -, -, -, hDeep, hNames⟩ :=
    nesting_error_names_deep_iff hParse rfl
  have hFirst : first = 0 :=
    Nat.eq_zero_of_not_pos fun hLater => hNone 0 hLater "b" ⟨_, none, rfl, rfl⟩
  subst hFirst
  exact ⟨hParse, rfl, (hNames (by decide)).2 (hDeep.1 hNest)⟩

/-- The block in front is reported, although it holds nothing. -/
theorem nesting_error_names_shallow :
    let error := CompileError.ofCause (.tooDeep "a") ⟨none, some 0, none⟩
    parse 1 shallowFirst none none = .error error ∧ error.code = some .nestingTooDeep ∧
      ¬error.NamesDeepNest 1 shallowFirst := by
  intro error
  have hFault : fault? 1 shallowFirst = some .tooDeep := by decide +kernel
  refine ⟨parse_of_fault?_eq_some hFault _ _, rfl, ?_⟩
  rintro ⟨place, hAbout, -, stop, blocks, hLength, hNested⟩
  have hOffsets : (shallowFirst.map Token.offset).Nodup := by decide
  have hHere : error.IsAbout shallowFirst 0 := ⟨_, "a", none, rfl, rfl, rfl, rfl⟩
  obtain rfl := hAbout.place_unique hOffsets hHere
  have hBlock := hNested.isBlock _ List.mem_cons_self
  have hEmpty : splitAtClose "a" 1 (shallowFirst.drop 1) = some ([], shallowFirst.drop 2) := by
    decide
  have hStop : stop = 1 := (isBlock_zero_of_split rfl hEmpty).1 hBlock
  obtain ⟨inner, rfl⟩ := List.length_eq_one_iff.1 hLength
  have hInside := (List.pairwise_cons.1 hNested.pairwise).1 inner List.mem_cons_self
  have hLess := (hNested.isBlock inner (by simp)).lt
  dsimp only at hInside
  omega

end Template

end Stencil
