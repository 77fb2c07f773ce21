/-!
Tables: what is registered under a name, in the order in which the names were first registered.
-/

namespace Stencil

/-- Entries with an item put under a name. A name that is there keeps its place. -/
def Table.insertEntry {α : Type} (name : String) (item : α) :
    List (String × α) → List (String × α)
  | [] => [(name, item)]
  | entry :: entries =>
    if entry.1 = name then (name, item) :: entries
    else entry :: insertEntry name item entries

theorem Table.names_insertEntry {α : Type} (name : String) (item : α)
    (entries : List (String × α)) :
    (insertEntry name item entries).map Prod.fst =
      if name ∈ entries.map Prod.fst then entries.map Prod.fst
      else entries.map Prod.fst ++ [name] := by
  induction entries with
  | nil => rfl
  | cons entry entries ih =>
    by_cases hSame : entry.1 = name
    · simp [insertEntry, hSame]
    · simp only [insertEntry, if_neg hSame, List.map_cons, ih, List.mem_cons, Ne.symm hSame,
        false_or]
      split <;> rfl

theorem Table.nodup_insertEntry {α : Type} {entries : List (String × α)}
    (h : (entries.map Prod.fst).Nodup) (name : String) (item : α) :
    ((insertEntry name item entries).map Prod.fst).Nodup := by
  rw [names_insertEntry]
  split
  · exact h
  · rename_i hNew
    rw [List.nodup_append]
    refine ⟨h, List.pairwise_singleton _ _, ?_⟩
    rintro other hOther last hLast rfl
    exact hNew (List.mem_singleton.1 hLast ▸ hOther)

/-- Items under names. No name stands in a table twice. -/
structure Table (α : Type) where
  entries : List (String × α)
  nodup : (entries.map Prod.fst).Nodup := by decide
  deriving Repr

namespace Table

variable {α : Type}

def empty : Table α := ⟨[], List.nodup_nil⟩

def find? (table : Table α) (name : String) : Option α := table.entries.lookup name

def contains (table : Table α) (name : String) : Bool := (table.find? name).isSome

def size (table : Table α) : Nat := table.entries.length

def names (table : Table α) : List String := table.entries.map (·.1)

def sortedNames (table : Table α) : List String :=
  table.names.mergeSort fun a b => (compare a b).isLE

def insert (table : Table α) (name : String) (item : α) : Table α :=
  ⟨insertEntry name item table.entries, nodup_insertEntry table.nodup name item⟩

def insertAll (table : Table α) (items : List (String × α)) : Table α :=
  items.foldl (fun table item => table.insert item.1 item.2) table

/-- The table with the given items, of which a later one replaces an earlier one. -/
def ofList (items : List (String × α)) : Table α := insertAll empty items

theorem lookup_insertEntry (name other : String) (item : α) (entries : List (String × α)) :
    (insertEntry name item entries).lookup other =
      if other = name then some item else entries.lookup other := by
  induction entries with
  | nil =>
    by_cases h : other = name
    · simp [insertEntry, h]
    · simp [insertEntry, List.lookup_cons, h, beq_eq_false_iff_ne.2 h]
  | cons entry entries ih =>
    obtain ⟨key, value⟩ := entry
    by_cases hk : key = name
    · subst hk
      by_cases h : other = key
      · simp [insertEntry, h]
      · simp [insertEntry, List.lookup_cons, h, beq_eq_false_iff_ne.2 h]
    · by_cases h : other = key
      · subst h
        simp [insertEntry, hk]
      · simp [insertEntry, hk, List.lookup_cons, beq_eq_false_iff_ne.2 h, ih]

/-- After an item is put under a name it is found there, and all else is as before. -/
theorem find?_insert (table : Table α) (name other : String) (item : α) :
    (table.insert name item).find? other = if other = name then some item else table.find? other :=
  lookup_insertEntry name other item table.entries

/-- A name stands in a table just if there is something under it. -/
theorem mem_names_iff {table : Table α} {name : String} :
    name ∈ table.names ↔ (table.find? name).isSome := by
  unfold names find?
  induction table.entries with
  | nil => simp
  | cons entry entries ih =>
    rw [List.map_cons, List.mem_cons, ih, List.lookup_cons]
    by_cases hSame : name = entry.1
    · simp [hSame]
    · simp [hSame, beq_eq_false_iff_ne.2 hSame]

theorem mem_names_of_find? {table : Table α} {name : String} {item : α}
    (h : table.find? name = some item) : name ∈ table.names :=
  mem_names_iff.2 (Option.isSome_of_eq_some h)

end Table

end Stencil
