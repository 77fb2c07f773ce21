import Stencil.Proofs.Balance

/-!
Where the blocks of some tokens lie. Places count tokens from zero; they move along when other
tokens are put in front.
-/

namespace Stencil.Tree

/-- The opening tag of a block stands at a place. -/
def OpensAt (tokens : List Token) (place : Nat) (name : String) : Prop :=
  ∃ token arguments, tokens[place]? = some token ∧ token.kind = .opening name arguments

/-- The closing tag of a block stands at a place. -/
def ClosesAt (tokens : List Token) (place : Nat) (name : String) : Prop :=
  ∃ token, tokens[place]? = some token ∧ token.kind = .closing name

/-- The tokens strictly between two places. -/
def between (tokens : List Token) (start stop : Nat) : List Token :=
  (tokens.take stop).drop (start + 1)

/-- A block reaches from an opening tag to the closing tag of that name that balances it. -/
def IsBlock (tokens : List Token) (start stop : Nat) : Prop :=
  ∃ name, OpensAt tokens start name ∧ ClosesAt tokens stop name ∧ start < stop ∧
    Balanced name (between tokens start stop)

/-- A place lies inside a block. -/
structure Encloses (tokens : List Token) (start stop place : Nat) : Prop where
  block : IsBlock tokens start stop
  start_lt : start < place
  lt_stop : place < stop

variable {name other : String} {arguments : Option String} {place start stop stop' : Nat}
  {token closer : Token} {tokens inside behind : List Token}

/-! ### Opening tags -/

theorem opensAt_cons_zero (hk : token.kind = .opening name arguments) :
    OpensAt (token :: tokens) 0 other ↔ other = name := by
  constructor
  · rintro ⟨first, arguments', hfirst, hother⟩
    cases hfirst
    rw [hk] at hother
    cases hother
    rfl
  · rintro rfl
    exact ⟨token, arguments, rfl, hk⟩

theorem opensAt_cons_succ :
    OpensAt (token :: tokens) (place + 1) name ↔ OpensAt tokens place name := by
  unfold OpensAt
  rw [List.getElem?_cons_succ]

theorem opensAt_append_left (front : List Token) :
    OpensAt (front ++ tokens) (front.length + place) name ↔ OpensAt tokens place name := by
  unfold OpensAt
  rw [List.getElem?_append_right (Nat.le_add_right _ _), Nat.add_sub_cancel_left]

theorem opensAt_append_right (behind : List Token) (h : place < tokens.length) :
    OpensAt (tokens ++ behind) place name ↔ OpensAt tokens place name := by
  unfold OpensAt
  rw [List.getElem?_append_left h]

/-! ### Blocks -/

theorem IsBlock.lt (h : IsBlock tokens start stop) : start < stop := by
  obtain ⟨name, -, -, hlt, -⟩ := h
  exact hlt

theorem IsBlock.lt_length (h : IsBlock tokens start stop) : stop < tokens.length := by
  obtain ⟨name, -, ⟨closer, hcloser, -⟩, -, -⟩ := h
  exact (List.getElem?_eq_some_iff.1 hcloser).1

theorem isBlock_cons_succ :
    IsBlock (token :: tokens) (start + 1) (stop + 1) ↔ IsBlock tokens start stop := by
  unfold IsBlock OpensAt ClosesAt between
  simp only [List.getElem?_cons_succ, List.take_succ_cons, List.drop_succ_cons,
    Nat.add_lt_add_iff_right]

theorem isBlock_append_left (front : List Token) :
    IsBlock (front ++ tokens) (front.length + start) (front.length + stop) ↔
      IsBlock tokens start stop := by
  induction front with
  | nil => simp
  | cons token front ih =>
    rw [List.cons_append, List.length_cons, Nat.add_right_comm, Nat.add_right_comm _ 1 stop,
      isBlock_cons_succ, ih]

theorem isBlock_append_right (behind : List Token) (h : stop < tokens.length) :
    IsBlock (tokens ++ behind) start stop ↔ IsBlock tokens start stop := by
  have hclose : (tokens ++ behind)[stop]? = tokens[stop]? := List.getElem?_append_left h
  have hbetween : between (tokens ++ behind) start stop = between tokens start stop := by
    rw [between, between, List.take_append_of_le_length (Nat.le_of_lt h)]
  have hopen (hlt : start < stop) : (tokens ++ behind)[start]? = tokens[start]? :=
    List.getElem?_append_left (Nat.lt_trans hlt h)
  unfold IsBlock OpensAt ClosesAt
  constructor
  · rintro ⟨name, ho, hc, hlt, hb⟩
    rw [hopen hlt] at ho
    rw [hclose] at hc
    rw [hbetween] at hb
    exact ⟨name, ho, hc, hlt, hb⟩
  · rintro ⟨name, ho, hc, hlt, hb⟩
    rw [← hopen hlt] at ho
    rw [← hclose] at hc
    rw [← hbetween] at hb
    exact ⟨name, ho, hc, hlt, hb⟩

/-- The block of the first token ends where the tokens behind it are cut. -/
theorem isBlock_zero_iff (hk : token.kind = .opening name arguments) :
    IsBlock (token :: tokens) 0 stop ↔
      ∃ inside behind, splitAtClose name 1 tokens = some (inside, behind) ∧
        stop = inside.length + 1 := by
  constructor
  · rintro ⟨other, ho, ⟨closer, hat, hcloser⟩, hlt, hb⟩
    rw [opensAt_cons_zero hk] at ho
    subst ho
    obtain ⟨stop, rfl⟩ := Nat.exists_eq_add_one_of_ne_zero (Nat.ne_of_gt hlt)
    rw [List.getElem?_cons_succ] at hat
    obtain ⟨hstop, rfl⟩ := List.getElem?_eq_some_iff.1 hat
    rw [between, List.take_succ_cons, List.drop_succ_cons, List.drop_zero] at hb
    refine ⟨tokens.take stop, tokens.drop (stop + 1), ?_, ?_⟩
    · rw [splitAtClose_one_eq_some_iff]
      refine ⟨tokens[stop], hcloser, ?_, hb⟩
      rw [List.getElem_cons_drop, List.take_append_drop]
    · rw [List.length_take, Nat.min_eq_left (Nat.le_of_lt hstop)]
  · rintro ⟨inside, behind, hs, rfl⟩
    obtain ⟨closer, hcloser, rfl, hb⟩ := splitAtClose_one_eq_some_iff.1 hs
    refine ⟨name, (opensAt_cons_zero hk).2 rfl, ⟨closer, ?_, hcloser⟩, Nat.succ_pos _, ?_⟩
    · rw [List.getElem?_cons_succ, List.getElem?_append_right (Nat.le_refl _), Nat.sub_self]
      rfl
    · rw [between, List.take_succ_cons, List.drop_succ_cons, List.drop_zero, List.take_left]
      exact hb

theorem isBlock_zero_of_split (hk : token.kind = .opening name arguments)
    (hs : splitAtClose name 1 tokens = some (inside, behind)) :
    IsBlock (token :: tokens) 0 stop ↔ stop = inside.length + 1 := by
  rw [isBlock_zero_iff hk]
  constructor
  · rintro ⟨inside', behind', hs', rfl⟩
    rw [hs] at hs'
    cases hs'
    rfl
  · rintro rfl
    exact ⟨inside, behind, hs, rfl⟩

/-- A block ends in one place only. -/
theorem IsBlock.stop_unique (h : IsBlock tokens start stop) (h' : IsBlock tokens start stop') :
    stop = stop' := by
  induction start generalizing tokens stop stop' with
  | zero =>
    obtain ⟨name, ⟨token, arguments, hat, hk⟩, -⟩ := id h
    cases tokens with
    | nil => cases hat
    | cons first tokens =>
      cases hat
      obtain ⟨inside, behind, hs, rfl⟩ := (isBlock_zero_iff hk).1 h
      obtain ⟨inside', behind', hs', rfl⟩ := (isBlock_zero_iff hk).1 h'
      rw [hs] at hs'
      cases hs'
      rfl
  | succ start ih =>
    cases tokens with
    | nil => exact absurd h.lt_length (Nat.not_lt_zero _)
    | cons first tokens =>
      obtain ⟨stop, rfl⟩ := Nat.exists_eq_add_one_of_ne_zero (Nat.ne_zero_of_lt h.lt)
      obtain ⟨stop', rfl⟩ := Nat.exists_eq_add_one_of_ne_zero (Nat.ne_zero_of_lt h'.lt)
      rw [ih (isBlock_cons_succ.1 h) (isBlock_cons_succ.1 h')]

theorem Encloses.cons_succ (h : Encloses tokens start stop place) :
    Encloses (token :: tokens) (start + 1) (stop + 1) (place + 1) := by
  have hs := h.start_lt
  have hl := h.lt_stop
  exact ⟨isBlock_cons_succ.2 h.block, by omega, by omega⟩

theorem Encloses.append_left (front : List Token) (h : Encloses tokens start stop place) :
    Encloses (front ++ tokens) (front.length + start) (front.length + stop)
      (front.length + place) := by
  have hs := h.start_lt
  have hl := h.lt_stop
  exact ⟨(isBlock_append_left front).2 h.block, by omega, by omega⟩

end Stencil.Tree
