import Stencil.Number.Power

/-!
Machines: what an engine runs on. No template says anything about it, but it sets bounds to what can
be compiled, opened, compared and written, and tells the local time.
-/

namespace Stencil

/-- Something whose rendering has begun and is not over. -/
inductive Surrounding where
  | /-- The body of a block, which the helper with the name has asked for. -/
    body (helper : String)
  | /-- The partial with the name. -/
    inclusion (name : String)
  deriving DecidableEq, Repr

/-- What an engine runs on. What is open around a place, the innermost first, takes its part of the
stack there, and everything else makes do with the rest. -/
structure Machine where
  /-- How many blocks may lie inside one another in a source that is compiled inside of so much. -/
  nesting : List Surrounding → Nat
  /-- Whether there is stack enough to open the innermost. -/
  opens : List Surrounding → Bool := fun _ => true
  opens_of_sublist : ∀ {around around' : List Surrounding}, around.Sublist around' →
    opens around' = true → opens around = true := by intros; rfl
  /-- Whether keys can be compared inside of so much that lie so deep inside one another. -/
  compares : List Surrounding → Nat → Bool := fun _ _ => true
  compares_of_sublist : ∀ {around around' : List Surrounding}, around.Sublist around' →
    ∀ {depth : Nat}, compares around' depth = true → compares around depth = true := by
      intros; rfl
  /-- The length from which on there is no memory for a sequence. -/
  memory : Int
  /-- No sequence can be as long as a machine word counts. -/
  memory_le : memory ≤ twoTo 63 := by decide
  /-- How many seconds local time is ahead at a second of the world's clock. -/
  zone : Int → Int := fun _ => 0

namespace Machine

/-- A small machine, on which eight blocks may lie inside one another wherever that is. -/
def small : Machine where
  nesting _ := 8
  memory := twoTo 16

/-- What is left of a stack with so many levels inside of what takes some of them. -/
def levelsLeft (levels : Nat) (takes : Surrounding → Nat) : List Surrounding → Nat
  | [] => levels
  | surrounding :: around => levelsLeft levels takes around - takes surrounding

theorem levelsLeft_anti {around around' : List Surrounding} (h : around.Sublist around')
    (levels : Nat) (takes : Surrounding → Nat) :
    levelsLeft levels takes around' ≤ levelsLeft levels takes around := by
  induction h with
  | slnil => exact Nat.le_refl _
  | cons surrounding h ih => exact Nat.le_trans (Nat.sub_le _ _) ih
  | cons_cons surrounding h ih => exact Nat.sub_le_sub_right ih _

/-- A machine with a stack of so many levels. A block in a source takes one of them, and so does a
key inside another one. -/
def ofStack (levels : Nat) (takes : Surrounding → Nat) (memory : Int)
    (memory_le : memory ≤ twoTo 63 := by decide) : Machine where
  nesting := levelsLeft levels takes
  opens around := 0 < levelsLeft levels takes around
  opens_of_sublist h hOpens := by
    have hLess := levelsLeft_anti h levels takes
    simp only [decide_eq_true_eq] at hOpens ⊢
    omega
  compares around depth := depth < levelsLeft levels takes around
  compares_of_sublist h _ hCompares := by
    have hLess := levelsLeft_anti h levels takes
    simp only [decide_eq_true_eq] at hCompares ⊢
    omega
  memory
  memory_le

end Machine

end Stencil
