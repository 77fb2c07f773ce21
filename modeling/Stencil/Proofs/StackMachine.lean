import Stencil.Proofs.Balance

/-!
A machine that reads tokens once and keeps the names of the open blocks on a stack. It accepts
tokens whose blocks are closed, and none in which a block is left open. Blocks are closed by
counting the tags of one name at a time, so what is known of a name on the stack is that its tags
are covered in what is still to be read.
-/

namespace Stencil.Tree

/-- What a token does to the names of the open blocks, the innermost one first. -/
def stackStep (stack : List String) (token : Token) : Option (List String) :=
  match token.kind with
  | .opening name _ => some (name :: stack)
  | .closing name =>
    if stack.head? = some name then some stack.tail
    else if name ∈ stack then none
    else some stack
  | _ => some stack

/-- The stack behind some tokens; none if one of them is rejected. -/
def runStack (stack : List String) (tokens : List Token) : Option (List String) :=
  tokens.foldlM stackStep stack

/-- The machine that starts without open blocks reads all the tokens and leaves no block open. -/
def Accepted (tokens : List Token) : Prop :=
  runStack [] tokens = some []

instance (tokens : List Token) : Decidable (Accepted tokens) :=
  inferInstanceAs (Decidable (runStack [] tokens = some []))

variable {name other : String} {arguments : Option String} {node : Node} {offset : Nat}
  {token closer : Token} {tokens inside behind : List Token} {stack above later : List String}

/-! ### Steps -/

theorem stackStep_leaf (hl : leaf? token = some node) : stackStep stack token = some stack := by
  unfold leaf? at hl
  split at hl
  · simp only [stackStep, *]
  · simp only [stackStep, *]
  · simp only [stackStep, *]
  · cases hl

theorem stackStep_opening (hk : token.kind = .opening name arguments) :
    stackStep stack token = some (name :: stack) := by
  simp only [stackStep, hk]

theorem stackStep_closing_top (hk : token.kind = .closing name) :
    stackStep (name :: stack) token = some stack := by
  simp [stackStep, hk]

theorem stackStep_closing_buried (hk : token.kind = .closing name) (hne : other ≠ name)
    (hm : name ∈ stack) : stackStep (other :: stack) token = none := by
  simp [stackStep, hk, hne, hm]

theorem stackStep_closing_stray (hk : token.kind = .closing name) (hm : name ∉ stack) :
    stackStep stack token = some stack := by
  have hhead : stack.head? ≠ some name := fun h => hm (List.mem_of_mem_head? h)
  simp only [stackStep, hk, if_neg hhead, if_neg hm]

@[simp] theorem runStack_nil (stack : List String) : runStack stack [] = some stack := rfl

theorem runStack_cons (stack : List String) (token : Token) (tokens : List Token) :
    runStack stack (token :: tokens) =
      (stackStep stack token).bind fun stack => runStack stack tokens := rfl

theorem runStack_append (stack : List String) (front tokens : List Token) :
    runStack stack (front ++ tokens) =
      (runStack stack front).bind fun stack => runStack stack tokens := by
  rw [runStack, List.foldlM_append]
  rfl

/-! ### Blocks that are closed -/

/-- A name whose tags are covered behind a closing tag is not that tag's. -/
theorem not_mem_of_covered (hk : token.kind = .closing name)
    (hc : ∀ n ∈ stack, Covered n 0 (token :: tokens)) : name ∉ stack := by
  intro hm
  have hd := (covered_cons.1 (hc name hm)).2.depth_nonneg
  rw [change_closing hk, if_pos rfl] at hd
  omega

theorem covered_of_leaf (hl : leaf? token = some node) (h : Covered name 0 (token :: tokens)) :
    Covered name 0 tokens := by
  have hrest := (covered_cons.1 h).2
  rwa [change_leaf hl, Int.add_zero] at hrest

theorem covered_of_closing (hk : token.kind = .closing other)
    (h : Covered name 0 (token :: tokens)) : Covered name 0 tokens := by
  refine (covered_cons.1 h).2.mono ?_
  rw [change_closing hk]
  split <;> omega

/-- The names that are covered behind an opening tag are covered in its block, and so is its own. -/
theorem covered_inside (hk : token.kind = .opening name arguments) (hb : Balanced name inside)
    (hc : ∀ n ∈ stack, Covered n 0 (token :: (inside ++ behind))) :
    ∀ n ∈ name :: stack, Covered n 0 inside := by
  intro n hn
  by_cases heq : n = name
  · rw [heq]
    exact hb.covered
  · have hm : n ∈ stack := (List.mem_cons.1 hn).resolve_left heq
    have hrest := (covered_cons.1 (hc n hm)).2
    rw [change_opening hk, if_neg (Ne.symm heq)] at hrest
    exact (covered_append.1 hrest).1

/-- If no name has more opening than closing tags in a block, the names that are covered before it
are covered behind it. -/
theorem covered_behind (hk : token.kind = .opening name arguments)
    (hcloser : closer.kind = .closing name)
    (hle : ∀ n, surplus n inside ≤ 0)
    (hc : ∀ n ∈ stack, Covered n 0 (token :: (inside ++ closer :: behind))) :
    ∀ n ∈ stack, Covered n 0 behind := by
  intro n hn
  have hrest := (covered_cons.1 (covered_append.1 (covered_cons.1 (hc n hn)).2).2).2
  refine hrest.mono ?_
  have hn := hle n
  rw [change_opening hk, change_closing hcloser]
  split <;> omega

theorem Closed.surplus_nonpos (h : Closed tokens) (name : String) : surplus name tokens ≤ 0 := by
  induction h with
  | nil => exact Int.le_refl 0
  | leaf hl _ ih =>
    rw [surplus_cons, change_leaf hl, Int.zero_add]
    exact ih
  | closing hk _ ih =>
    rw [surplus_cons, change_closing hk]
    split <;> omega
  | block hk hcloser _ _ _ ihInside ihBehind =>
    rw [surplus_cons, surplus_append, surplus_cons, change_opening hk, change_closing hcloser]
    split <;> omega

/-- Where every block is closed, every block that is opened is taken from the stack again. -/
theorem Closed.runStack (h : Closed tokens) (hc : ∀ name ∈ stack, Covered name 0 tokens) :
    runStack stack tokens = some stack := by
  induction h generalizing stack with
  | nil => rfl
  | leaf hl _ ih =>
    rw [runStack_cons, stackStep_leaf hl, Option.bind_some]
    exact ih fun name hm => covered_of_leaf hl (hc name hm)
  | closing hk _ ih =>
    rw [runStack_cons, stackStep_closing_stray hk (not_mem_of_covered hk hc), Option.bind_some]
    exact ih fun name hm => covered_of_closing hk (hc name hm)
  | block hk hcloser hb hinside _ ihInside ihBehind =>
    rw [runStack_cons, stackStep_opening hk, Option.bind_some, runStack_append,
      ihInside (covered_inside hk hb hc), Option.bind_some, runStack_cons,
      stackStep_closing_top hcloser, Option.bind_some]
    exact ihBehind (covered_behind hk hcloser hinside.surplus_nonpos hc)

/-! ### Blocks that are left open -/

theorem count_cons (name other : String) (above : List String) :
    ((other :: above).count name : Int) = above.count name + if other = name then 1 else 0 := by
  rw [List.count_cons]
  by_cases ho : other = name
  · simp [ho]
  · simp [ho]

/-- An open block stays on the stack while the tags of its name are covered, and what is above it
then holds its name as often as the tags say. -/
theorem runStack_above (above : List String)
    (h : runStack (above ++ name :: stack) tokens = some later)
    (hc : Covered name (above.count name) tokens) :
    ∃ front, later = front ++ name :: stack ∧
      (front.count name : Int) = above.count name + surplus name tokens := by
  induction tokens generalizing above with
  | nil =>
    rw [runStack_nil] at h
    cases h
    exact ⟨above, rfl, by simp⟩
  | cons token tokens ih =>
    rw [runStack_cons] at h
    have hrest := (covered_cons.1 hc).2
    rw [surplus_cons, ← Int.add_assoc]
    rcases leaf_or_tag token with ⟨node, hl⟩ | ⟨other, arguments, hk⟩ | ⟨other, hk⟩
    · rw [stackStep_leaf hl, Option.bind_some] at h
      rw [change_leaf hl, Int.add_zero] at hrest ⊢
      exact ih _ h hrest
    · rw [stackStep_opening hk, Option.bind_some, ← List.cons_append] at h
      have hcount : ((other :: above).count name : Int) =
          above.count name + change name token := by
        rw [count_cons, change_opening hk]
      rw [← hcount] at hrest ⊢
      exact ih _ h hrest
    · by_cases hm : other ∈ above ++ name :: stack
      · cases above with
        | nil =>
          rw [List.nil_append] at h hm
          by_cases ho : other = name
          · -- The closing tag of the block itself is not covered.
            have hd := hrest.depth_nonneg
            rw [change_closing hk, if_pos ho, List.count_nil] at hd
            omega
          · rw [stackStep_closing_buried hk (Ne.symm ho)
              ((List.mem_cons.1 hm).resolve_left ho)] at h
            cases h
        | cons top above =>
          rw [List.cons_append] at h hm
          by_cases ho : other = top
          · subst ho
            rw [stackStep_closing_top hk, Option.bind_some] at h
            have hcount : (above.count name : Int) =
                (other :: above).count name + change name token := by
              rw [count_cons, change_closing hk]
              split <;> omega
            rw [← hcount] at hrest ⊢
            exact ih _ h hrest
          · rw [stackStep_closing_buried hk (Ne.symm ho)
              ((List.mem_cons.1 hm).resolve_left ho)] at h
            cases h
      · rw [stackStep_closing_stray hk hm, Option.bind_some] at h
        have hne : other ≠ name := fun ho => hm (by simp [ho])
        rw [change_closing hk, if_neg hne, Int.add_zero] at hrest ⊢
        exact ih _ h hrest

/-- Where a block is not closed, the machine stops, or it leaves more blocks open than there were
before. -/
theorem LeftOpen.runStack (h : LeftOpen name offset tokens)
    (hc : ∀ name ∈ stack, Covered name 0 tokens) (hr : runStack stack tokens = some later) :
    ∃ top above, later = top :: above ++ stack := by
  induction h generalizing stack later with
  | here hk _ hcover =>
    rw [runStack_cons, stackStep_opening hk, Option.bind_some] at hr
    obtain ⟨front, rfl, -⟩ := runStack_above [] hr hcover
    cases front with
    | nil => exact ⟨name, [], rfl⟩
    | cons top front => exact ⟨top, front ++ [name], by simp⟩
  | leaf hl _ ih =>
    rw [runStack_cons, stackStep_leaf hl, Option.bind_some] at hr
    exact ih (fun n hm => covered_of_leaf hl (hc n hm)) hr
  | closing hk _ ih =>
    rw [runStack_cons, stackStep_closing_stray hk (not_mem_of_covered hk hc),
      Option.bind_some] at hr
    exact ih (fun n hm => covered_of_closing hk (hc n hm)) hr
  | @inside token closer inside behind other arguments hk hcloser hb _ ih =>
    -- A block inside is still open, so the closing tag of the outer one is rejected.
    rw [runStack_cons, stackStep_opening hk, Option.bind_some, runStack_append,
      Option.bind_eq_some_iff] at hr
    obtain ⟨middle, hmiddle, hr⟩ := hr
    obtain ⟨top, above, rfl⟩ := ih (covered_inside hk hb hc) hmiddle
    obtain ⟨front, heq, hcount⟩ := runStack_above [] hmiddle hb.covered
    rw [hb.surplus_eq, List.count_nil] at hcount
    have hfront : top :: above = front := List.append_cancel_right heq
    have htop : top ≠ other := by
      rintro rfl
      rw [← hfront, List.count_cons_self] at hcount
      omega
    rw [runStack_cons, List.cons_append, stackStep_closing_buried hcloser htop (by simp)] at hr
    cases hr
  | behind hk hcloser hb hinside _ ih =>
    rw [runStack_cons, stackStep_opening hk, Option.bind_some, runStack_append,
      hinside.runStack (covered_inside hk hb hc), Option.bind_some, runStack_cons,
      stackStep_closing_top hcloser, Option.bind_some] at hr
    exact ih (covered_behind hk hcloser hinside.surplus_nonpos hc) hr

theorem Closed.accepted (h : Closed tokens) : Accepted tokens :=
  h.runStack fun _ hm => by cases hm

theorem LeftOpen.not_accepted (h : LeftOpen name offset tokens) : ¬Accepted tokens := by
  intro ha
  obtain ⟨top, above, heq⟩ := h.runStack (fun _ hm => by cases hm) ha
  cases heq

end Stencil.Tree
