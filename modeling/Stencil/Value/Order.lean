import Stencil.Value.Basic

/-!
Equality and order of values. Numbers of all sorts, truth values among them, are compared by what
they count; lists and tuples by their first items that differ; maps are equal whatever the order of
their entries. Values of sorts that have no order in common are not ordered at all.

A NaN is not equal to itself, but a list or a map that holds one is: what stands inside a value is
compared as an item, and an item is the same as itself whatever it is.
-/

namespace Stencil

/-- How two numbers lie to one another, compared exactly. -/
def Number.compare? : Number → Number → Option Ordering
  | int m, int n => some (compare m n)
  | int m, float y => (y.compareInt? m).map Ordering.swap
  | float x, int n => x.compareInt? n
  | float x, float y => x.compare? y

/-- An order between two values that can be asked for. -/
inductive Relation where
  | lt | le | gt | ge
  deriving DecidableEq, Repr

/-- Whether values that lie to one another in this way stand in the relation. -/
def Relation.holds : Relation → Ordering → Bool
  | lt, o => o.isLT
  | le, o => o.isLE
  | gt, o => o.isGT
  | ge, o => o.isGE

namespace Value

/-- The number that a value counts as when values are compared. -/
def count? : Value → Option Number
  | bool b => some (.int b.toNat)
  | int n => some (.int n)
  | float x => some (.float x)
  | _ => none

/-- How two values that hold no others lie to one another. -/
def compare? (a b : Value) : Option Ordering :=
  match a, b with
  | text s, text t => some (compare s t)
  | bytes s, bytes t => some (compare (s.map UInt8.toNat) (t.map UInt8.toNat))
  | date d, date e => some (compare d.ordinal e.ordinal)
  | moment m, moment n => m.compare? n
  | a, b =>
    match a.count?, b.count? with
    | some m, some n => m.compare? n
    | _, _ => none

/-- Whether two values that hold no others are equal. -/
def equalAlone : Value → Value → Bool
  | null, null => true
  | zone m, zone n => m == n
  | object i .., object j .. => i == j
  | a, b => a.compare? b == some .eq

/-- Whether two values are one and the same NaN. -/
def sameNaN : Value → Value → Bool
  | float x, float y => x.sameNaN y
  | _, _ => false

mutual

def equal : Value → Value → Bool
  | list as, list bs | tuple _ as, tuple _ bs => equalAll as bs
  | map as, map bs | map as, lockedMap bs _ | lockedMap as _, map bs
  | lockedMap as _, lockedMap bs _ => as.length == bs.length && equalEntries as bs
  | a, b => equalAlone a b

def equalAll : List Value → List Value → Bool
  | [], [] => true
  | a :: as, b :: bs => (sameNaN a b || equal a b) && equalAll as bs
  | _, _ => false

/-- Whether each of the entries is the same as one of the others. -/
def equalEntries : List (Value × Value) → List (Value × Value) → Bool
  | [], _ => true
  | (key, value) :: as, bs =>
    (bs.any fun b =>
        (sameNaN key b.1 || equal key b.1) && (sameNaN value b.2 || equal value b.2)) &&
      equalEntries as bs

end

/-- Whether two values are the same as items of a list, or as keys or values of a map. -/
def sameItem (a b : Value) : Bool := sameNaN a b || equal a b

mutual

def related (r : Relation) : Value → Value → Bool
  | list as, list bs | tuple _ as, tuple _ bs => relatedAll r as bs
  | a, b => (a.compare? b).any r.holds

/-- Whether two lists stand in a relation: their first items that differ decide, and otherwise
their lengths. -/
def relatedAll (r : Relation) : List Value → List Value → Bool
  | a :: as, b :: bs => if sameItem a b then relatedAll r as bs else related r a b
  | as, bs => r.holds (compare as.length bs.length)

end

/-! ### Maps -/

def find? (key : Value) (entries : List (Value × Value)) : Option Value :=
  (entries.find? fun entry => entry.1.sameItem key).map (·.2)

/-- The entries with a new value for a key. A key that is there keeps its place. -/
def insert (key value : Value) : List (Value × Value) → List (Value × Value)
  | [] => [(key, value)]
  | entry :: entries =>
    if entry.1.sameItem key then (entry.1, value) :: entries
    else entry :: insert key value entries

/-- The entries with those of another map laid over them. -/
def merge (entries later : List (Value × Value)) : List (Value × Value) :=
  later.foldl (fun entries entry => insert entry.1 entry.2 entries) entries

mutual

/-- How deep two equal keys have to be looked into until it is clear that they are equal. One and
the same tuple need not be looked into, and there is only one that is empty. -/
def keyDepth : Value → Value → Nat
  | tuple _ [], tuple _ [] => 0
  | tuple m as, tuple n bs => if m = n then 0 else keyDepthAll as bs + 1
  | _, _ => 0

def keyDepthAll : List Value → List Value → Nat
  | a :: as, b :: bs => max (keyDepth a b) (keyDepthAll as bs)
  | _, _ => 0

end

/-- Whether a key that both maps have lies too deep to be compared. -/
def keysTooDeep (compares : Nat → Bool) (entries later : List (Value × Value)) : Bool :=
  later.any fun new => entries.any fun old =>
    old.1.sameItem new.1 && !compares (keyDepth old.1 new.1)

mutual

/-- Whether a value may be the key of a map. Lists and maps may not, and no tuple that holds one. -/
def checkKey : Value → Except Fault Unit
  | tuple _ items => checkKeys items
  | value@(list _) | value@(map _) | value@(lockedMap ..) => .error (.unfitKey value.fullTypeName)
  | _ => .ok ()

def checkKeys : List Value → Except Fault Unit
  | [] => .ok ()
  | value :: values => do
    checkKey value
    checkKeys values

end

/-- The map with the given entries, of which a later one replaces the value of an earlier one. -/
def ofEntries (entries : List (Value × Value)) : Except Fault Value := do
  checkKeys (entries.map (·.1))
  return map (merge [] entries)

/-! ### Entries laid over others -/

theorem sameItem_text_iff {value : Value} {name : String} :
    value.sameItem (.text name) = true ↔ value = .text name := by
  cases value <;> simp [sameItem, sameNaN, equal, equalAlone, compare?, count?]

theorem text_sameItem_iff {value : Value} {name : String} :
    (text name).sameItem value = true ↔ value = .text name := by
  cases value <;> simp [sameItem, sameNaN, equal, equalAlone, compare?, count?]
  exact eq_comm

theorem find?_cons (key : Value) (entry : Value × Value) (entries : List (Value × Value)) :
    find? key (entry :: entries) =
      if entry.1.sameItem key then some entry.2 else find? key entries := by
  unfold find?
  rw [List.find?_cons]
  cases entry.1.sameItem key <;> rfl

/-- A value is found under the text that it is put under, and all else is as before. -/
theorem find?_insert (name : String) (key value : Value) (entries : List (Value × Value)) :
    find? (.text name) (insert key value entries) =
      if key.sameItem (.text name) then some value else find? (.text name) entries := by
  induction entries with
  | nil => exact find?_cons ..
  | cons entry entries ih =>
    rw [insert, find?_cons]
    by_cases hSame : entry.1.sameItem key = true
    · -- The key that is kept and the new one are the same text, or neither is the one looked for.
      have hKey : entry.1.sameItem (.text name) = key.sameItem (.text name) := by
        rw [Bool.eq_iff_iff, sameItem_text_iff, sameItem_text_iff]
        constructor
        · intro hEntry
          rwa [hEntry, text_sameItem_iff] at hSame
        · intro hKey
          rwa [hKey, sameItem_text_iff] at hSame
      rw [if_pos hSame, find?_cons, hKey]
      split <;> rfl
    · rw [if_neg hSame, find?_cons, ih]
      by_cases hKey : key.sameItem (.text name) = true
      · rw [sameItem_text_iff.1 hKey] at hSame ⊢
        rw [if_neg hSame, if_neg hSame]
      · rw [if_neg hKey, if_neg hKey]

/-- What is laid over other entries is found first, and of that the last. -/
theorem find?_merge (name : String) (entries later : List (Value × Value)) :
    find? (.text name) (merge entries later) =
      (find? (.text name) later.reverse).or (find? (.text name) entries) := by
  unfold merge
  rw [← List.foldr_reverse]
  induction later.reverse with
  | nil => rfl
  | cons entry later ih =>
    rw [List.foldr_cons, find?_insert, ih, find?_cons]
    split <;> rfl

end Value

end Stencil
