import Stencil.Proofs.PlainData
import Stencil.Proofs.Scoping
import Stencil.Proofs.Words

/-!
Paths put together by dots. A path and one that leads on from where it ends make one path, and it
leads where the two lead one after the other. A first name that starts with `@` is the exception: it
is looked up among the metadata only if nothing follows it. And `this.` in front of a path can be
left off once, but not if there is another one behind it.
-/

namespace Stencil

/-- If a word and a separator begin what is cut off at a separator and what follows, then the word is
what is cut off, or both begin it. -/
theorem Text.eq_or_prefix_of_prefix_append {separator : Char} {word cs later : List Char}
    (hWord : separator ∉ word) (h : word ++ [separator] <+: cs ++ separator :: later) :
    cs = word ∨ word ++ [separator] <+: cs := by
  induction word generalizing cs with
  | nil =>
    cases cs with
    | nil => exact .inl rfl
    | cons c cs =>
      obtain ⟨rfl, -⟩ := List.cons_prefix_cons.1 h
      exact .inr (List.prefix_append [_] cs)
  | cons w word ih =>
    cases cs with
    | nil => exact absurd (List.cons_prefix_cons.1 h).1.symm (List.ne_of_not_mem_cons hWord)
    | cons c cs =>
      obtain ⟨rfl, hRest⟩ := List.cons_prefix_cons.1 h
      rcases ih (List.not_mem_of_not_mem_cons hWord) hRest with rfl | hPrefix
      · exact .inl rfl
      · exact .inr (List.cons_prefix_cons.2 ⟨rfl, hPrefix⟩)

namespace Value

/-- Maps inside one another, each with one name in it, and the innermost empty. -/
def nested : List String → Value
  | [] => .map []
  | name :: names => .map [(.text name, nested names)]

theorem walk_nested (names : List String) : (nested names).walk names = .ok (.map []) := by
  induction names with
  | nil => rfl
  | cons name names ih =>
    rw [nested, walk_map, find?_cons, if_pos (sameItem_text_iff.2 rfl)]
    exact ih

/-- More names than there are maps inside one another lead to nothing. -/
theorem walk_nested_of_length_lt {names longer : List String} (h : names.length < longer.length) :
    (nested names).walk longer = .ok .null := by
  induction names generalizing longer with
  | nil =>
    cases longer with
    | nil => cases h
    | cons name later => exact walk_null later
  | cons name names ih =>
    cases longer with
    | nil => cases h
    | cons first later =>
      rw [nested, walk_map, find?_cons]
      split
      · exact ih (Nat.lt_of_succ_lt_succ h)
      · exact walk_null later

end Value

namespace Path

/-! ### Paths that lead on -/

/-- The path is neither empty nor the context itself, and `this.` does not stand in front. -/
structure Proper (path : String) : Prop where
  ne_empty : path ≠ ""
  ne_this : path ≠ "this"
  ne_dot : path ≠ "."
  not_this : ¬ "this.".toList <+: path.toList

/-- The path leads on from whatever it is resolved in, and the metadata have no say in it. -/
structure Onward (path : String) : Prop extends Proper path where
  not_at : path.toList.head? ≠ some '@'

variable {path later : String} {context : Value} {metadata : Metadata}

theorem exists_eq_this (h : "this.".toList <+: path.toList) : ∃ rest, path = "this." ++ rest := by
  obtain ⟨cs, hChars⟩ := h
  exact ⟨String.ofList cs, String.toList_inj.1 (by simpa using hChars.symm)⟩

theorem withoutThis_this (path : String) : withoutThis ("this." ++ path) = path := by
  simp [withoutThis]

/-- What is put behind a path stays behind it when `this.` is left off. -/
theorem withoutThis_append (h : path ≠ "this") (later : String) :
    withoutThis (path ++ "." ++ later) = withoutThis path ++ "." ++ later := by
  by_cases hThis : "this.".toList <+: path.toList
  · obtain ⟨rest, rfl⟩ := exists_eq_this hThis
    rw [String.append_assoc, String.append_assoc, withoutThis_this, withoutThis_this,
      ← String.append_assoc]
  · have hLonger : ¬ "this.".toList <+: (path ++ "." ++ later).toList := by
      intro hLong
      rw [String.toList_append, String.toList_append, List.append_assoc] at hLong
      rcases Text.eq_or_prefix_of_prefix_append (by decide : '.' ∉ ['t', 'h', 'i', 's']) hLong with
        hSame | hShort
      · exact h (String.toList_inj.1 hSame)
      · exact hThis hShort
    rw [withoutThis_eq_self hThis, withoutThis_eq_self hLonger]

/-- A path asks for no metadata without `this.`, if `@` stands neither in front of it nor right
behind `this.`. -/
theorem withoutThis_not_at (hAt : path.toList.head? ≠ some '@')
    (hThisAt : ¬ "this.@".toList <+: path.toList) :
    (withoutThis path).toList.head? ≠ some '@' := by
  by_cases hThis : "this.".toList <+: path.toList
  · obtain ⟨rest, rfl⟩ := exists_eq_this hThis
    rw [withoutThis_this]
    intro hHead
    obtain ⟨cs, hChars⟩ := List.head?_eq_some_iff.1 hHead
    exact hThisAt ⟨cs, by simp [hChars]⟩
  · rwa [withoutThis_eq_self hThis]

theorem metadata?_nil (path : String) : metadata? path [] = none := ite_self none

/-- A path with a dot in it is not the context itself, but for the dot alone. -/
theorem resolve_of_dot (hDot : '.' ∈ path.toList) (hMore : path ≠ ".") (context : Value)
    (metadata : Metadata) :
    resolve context path metadata =
      match metadata? (withoutThis path) metadata with
      | some value => .ok value
      | none => context.walk (Text.cut '.' (withoutThis path)) := by
  refine resolve_of_ne ?_ ?_ hMore context metadata
  · rintro rfl
    exact absurd hDot (by decide)
  · rintro rfl
    exact absurd hDot (by decide)

theorem resolve_this (context : Value) (path : String) (metadata : Metadata) :
    resolve context ("this." ++ path) metadata =
      match metadata? path metadata with
      | some value => .ok value
      | none => context.walk (Text.cut '.' path) := by
  have hMore : "this." ++ path ≠ "." := fun hSame =>
    absurd (congrArg (·.toList.head?) hSame) (by simp)
  rw [resolve_of_dot (by simp) hMore, withoutThis_this]

theorem Onward.resolve (h : Onward path) (context : Value) (metadata : Metadata) :
    Path.resolve context path metadata = context.walk (Text.cut '.' path) := by
  rw [resolve_of_ne h.ne_empty h.ne_this h.ne_dot, withoutThis_eq_self h.not_this,
    metadata?_of_not_at h.not_at]

/-! ### One path behind another -/

/-- With more behind it, a path walks along its own names and then along those behind it. -/
theorem resolve_append (hThis : path ≠ "this") (hEmpty : path ≠ "")
    (hAt : (withoutThis path).toList.head? ≠ some '@') (later : String) (context : Value)
    (metadata : Metadata) :
    resolve context (path ++ "." ++ later) metadata =
      context.walk (Text.cut '.' (withoutThis path) ++ Text.cut '.' later) := by
  have hMore : path ++ "." ++ later ≠ "." := by
    intro hSame
    have hLength := congrArg String.length hSame
    simp only [String.length_append] at hLength
    have hOne : ".".length = 1 := by decide
    exact hEmpty (String.length_eq_zero_iff.1 (by omega))
  have hHead : (withoutThis path ++ "." ++ later).toList.head? ≠ some '@' := by
    rw [String.toList_append, String.toList_append, List.append_assoc]
    cases hChars : (withoutThis path).toList with
    | nil => simp
    | cons c cs =>
      rw [hChars] at hAt
      exact hAt
  rw [resolve_of_dot (by simp) hMore, withoutThis_append hThis, metadata?_of_not_at hHead,
    ← Text.cut_append]
  rfl

/-- A path that leads on may stand behind any path that is not empty, not the dot alone and asks for
no metadata: it is resolved in what that one leads to, and fails if that one does. -/
theorem resolve_dotted (hEmpty : path ≠ "") (hDot : path ≠ ".")
    (hAt : path.toList.head? ≠ some '@') (hThisAt : ¬ "this.@".toList <+: path.toList)
    (hLater : Onward later) (context : Value) (metadata : Metadata) :
    resolve context (path ++ "." ++ later) metadata =
      (do resolve (← resolve context path metadata) later metadata) := by
  by_cases hThis : path = "this"
  · subst hThis
    have hWhole : resolve context ("this" ++ "." ++ later) metadata =
        context.walk (Text.cut '.' later) := by
      rw [show "this" ++ "." ++ later = "this." ++ later from rfl, resolve_this,
        metadata?_of_not_at hLater.not_at]
    rw [hWhole, ← hLater.resolve context metadata]
    rfl
  · have hNotAt := withoutThis_not_at hAt hThisAt
    rw [resolve_append hThis hEmpty hNotAt, resolve_of_ne hEmpty hThis hDot,
      metadata?_of_not_at hNotAt, Value.walk_append]
    simp only [hLater.resolve]

/-- What the first of the items has under a name. -/
theorem resolve_dotted_item :
    let context : Value := .map [(.text "a", .list [.map [(.text "b", .int 1)]])]
    ("a.0" ≠ "" ∧ "a.0" ≠ "." ∧ "a.0".toList.head? ≠ some '@' ∧
        ¬ "this.@".toList <+: "a.0".toList ∧ Onward "b") ∧
      resolve context ("a.0" ++ "." ++ "b") [] =
        (do resolve (← resolve context "a.0" []) "b" []) ∧
      resolve context "a.0" [] = .ok (.map [(.text "b", .int 1)]) := by
  intro context
  have hEmpty : "a.0" ≠ "" := by decide
  have hDot : "a.0" ≠ "." := by decide
  have hAt : "a.0".toList.head? ≠ some '@' := by decide
  have hThisAt : ¬ "this.@".toList <+: "a.0".toList := by decide
  have hLater : Onward "b" := ⟨⟨by decide, by decide, by decide, by decide⟩, by decide⟩
  exact ⟨⟨hEmpty, hDot, hAt, hThisAt, hLater⟩,
    resolve_dotted hEmpty hDot hAt hThisAt hLater context [], rfl⟩

/-! ### Metadata -/

/-- A name that starts with `@`, with more behind it, is looked up in the context: the metadata
are asked for nothing but the whole path. -/
theorem resolve_at_dotted {name : String} (hName : '.' ∉ name.toList) (hLater : Onward later)
    (context : Value) (metadata : Metadata) :
    resolve context ("@" ++ name ++ "." ++ later) metadata =
      match metadata.lookup ("@" ++ name ++ "." ++ later) with
      | some found => .ok found
      | none => (do resolve (← context.walk ["@" ++ name]) later metadata) := by
  have hAt : ("@" ++ name ++ "." ++ later).toList.head? = some '@' := by simp
  have hFirst : '.' ∉ ("@" ++ name).toList := by simpa using hName
  have hCut : Text.cut '.' ("@" ++ name ++ "." ++ later) = ["@" ++ name] ++ Text.cut '.' later := by
    rw [← Text.cut_of_not_mem hFirst]
    exact Text.cut_append '.' ("@" ++ name) later
  rw [resolve_of_at hAt]
  cases metadata.lookup ("@" ++ name ++ "." ++ later) with
  | some found => rfl
  | none => simp only [hCut, Value.walk_append, hLater.resolve]

/-- Some context has something under the first name that the path leads to, and another has not. -/
theorem not_resolve_at_dotted {name : String} {metadata : Metadata} (hName : '.' ∉ name.toList)
    (hLater : Onward later) (hNone : metadata.lookup ("@" ++ name ++ "." ++ later) = none)
    (outcome : Except Fault Value) :
    ¬ ∀ context, resolve context ("@" ++ name ++ "." ++ later) metadata = outcome := by
  intro h
  have hWalk (context : Value) :
      context.walk (["@" ++ name] ++ Text.cut '.' later) = outcome := by
    rw [← h context, resolve_at_dotted hName hLater, hNone, Value.walk_append]
    simp only [hLater.resolve]
  have hFound := hWalk (.nested (["@" ++ name] ++ Text.cut '.' later))
  rw [Value.walk_nested, ← hWalk .null, Value.walk_null] at hFound
  cases hFound

/-- What follows a name that starts with `@` is never looked up in the metadata: the path leads to
what the metadata have under the whole of it, or to what it leads to in the context. So what stands
among the metadata under the name is entered, in every context, only if the metadata have the same
under the whole path too. -/
theorem metadata_entered_iff {metadata : Metadata} {name : String} {value : Value}
    (hName : '.' ∉ name.toList) (hValue : metadata.lookup ("@" ++ name) = some value)
    (hLater : Onward later) :
    (∀ context, resolve context ("@" ++ name) metadata = .ok value ∧
        resolve context ("@" ++ name ++ "." ++ later) metadata =
          match metadata.lookup ("@" ++ name ++ "." ++ later) with
          | some found => .ok found
          | none => (do resolve (← context.walk ["@" ++ name]) later metadata)) ∧
      ((∀ context, resolve context ("@" ++ name ++ "." ++ later) metadata =
          resolve value later metadata) ↔
        ∃ found, metadata.lookup ("@" ++ name ++ "." ++ later) = some found ∧
          resolve value later metadata = .ok found) := by
  have hWhole (context : Value) := resolve_at_dotted hName hLater context metadata
  refine ⟨fun context => ⟨?_, hWhole context⟩, fun h => ?_, ?_⟩
  · rw [resolve_of_at (by simp), hValue]
  · cases hFound : metadata.lookup ("@" ++ name ++ "." ++ later) with
    | none => exact absurd h (not_resolve_at_dotted hName hLater hFound _)
    | some found =>
      have hHere := h .null
      rw [hWhole, hFound] at hHere
      exact ⟨found, rfl, hHere.symm⟩
  · rintro ⟨found, hFound, hValue⟩ context
    rw [hWhole, hFound, hValue]

/-- Metadata that have the whole path as well. -/
theorem metadata_entered_iff_whole :
    let value : Value := .map [(.text "x", .int 1)]
    let metadata : Metadata := [("@n", value), ("@n.x", .int 1)]
    ('.' ∉ "n".toList ∧ metadata.lookup ("@" ++ "n") = some value ∧ Onward "x") ∧
      ∀ context, resolve context ("@" ++ "n" ++ "." ++ "x") metadata =
        resolve value "x" metadata := by
  intro value metadata
  have hName : '.' ∉ "n".toList := by decide
  have hValue : metadata.lookup ("@" ++ "n") = some value := rfl
  have hLater : Onward "x" := ⟨⟨by decide, by decide, by decide, by decide⟩, by decide⟩
  exact ⟨⟨hName, hValue, hLater⟩,
    (metadata_entered_iff hName hValue hLater).2.2 ⟨.int 1, rfl, rfl⟩⟩

/-- A map among the metadata holds the name, and it is not found there. -/
theorem metadata_not_entered :
    let value : Value := .map [(.text "x", .int 1)]
    resolve (.map []) "@n" [("@n", value)] = .ok value ∧
      resolve (.map []) "@n.x" [("@n", value)] = .ok .null ∧
      resolve value "x" [("@n", value)] = .ok (.int 1) :=
  ⟨rfl, rfl, rfl⟩

/-! ### `this` in front -/

/-- A path with so many times `this.` in front. -/
def prefixed : Nat → String → String
  | 0, path => path
  | times + 1, path => "this." ++ prefixed times path

theorem cut_this (path : String) : Text.cut '.' ("this." ++ path) = "this" :: Text.cut '.' path :=
  Text.cut_append '.' "this" path

theorem cut_prefixed (times : Nat) (path : String) :
    Text.cut '.' (prefixed times path) = List.replicate times "this" ++ Text.cut '.' path := by
  induction times with
  | zero => rfl
  | succ times ih => rw [prefixed, cut_this, ih, List.replicate_succ, List.cons_append]

theorem not_proper_iff :
    ¬ Proper path ↔ path = "" ∨ path = "this" ∨ path = "." ∨ ∃ rest, path = "this." ++ rest := by
  constructor
  · intro h
    by_contra hNone
    obtain ⟨hEmpty, hThis, hDot, hPrefix⟩ := by simpa only [not_or] using hNone
    exact h ⟨hEmpty, hThis, hDot, fun hFront => hPrefix (exists_eq_this hFront)⟩
  · rintro (rfl | rfl | rfl | ⟨rest, rfl⟩) h
    · exact h.ne_empty rfl
    · exact h.ne_this rfl
    · exact h.ne_dot rfl
    · exact h.not_this (by simp)

/-- `this.` in front of a path changes nothing if the path is proper. -/
theorem Proper.resolve_this (h : Proper path) (context : Value) (metadata : Metadata) :
    Path.resolve context ("this." ++ path) metadata = Path.resolve context path metadata := by
  have hPlain := resolve_of_ne h.ne_empty h.ne_this h.ne_dot context metadata
  rw [withoutThis_eq_self h.not_this] at hPlain
  exact (Path.resolve_this context path metadata).trans hPlain.symm

/-- Behind `this.`, the names of a path that is not proper are looked up one after the other, be
they empty or `this`. -/
theorem resolve_this_of_not_proper (h : ¬ Proper path) (context : Value) (metadata : Metadata) :
    resolve context ("this." ++ path) metadata = context.walk (Text.cut '.' path) := by
  have hAt : path.toList.head? ≠ some '@' := by
    rcases not_proper_iff.1 h with rfl | rfl | rfl | ⟨rest, rfl⟩ <;> simp
  rw [resolve_this, metadata?_of_not_at hAt]

/-- Before a path that is not proper, `this.` matters in some context. -/
theorem exists_resolve_this_ne (h : ¬ Proper path) :
    ∃ context, resolve context ("this." ++ path) [] ≠ resolve context path [] := by
  have hDiffer {left right : Except Fault Value} (hLeft : left = .ok .null)
      (hRight : right = .ok (.map [])) : left ≠ right := by
    rw [hLeft, hRight]
    nofun
  simp only [resolve_this_of_not_proper h]
  rcases not_proper_iff.1 h with rfl | rfl | rfl | ⟨rest, rfl⟩
  · exact ⟨.nested [""], (hDiffer rfl (Value.walk_nested [""])).symm⟩
  · exact ⟨.map [], hDiffer rfl rfl⟩
  · exact ⟨.map [], hDiffer rfl rfl⟩
  · refine ⟨.nested (Text.cut '.' rest), hDiffer ?_ ?_⟩
    · rw [cut_this]
      exact Value.walk_nested_of_length_lt (Nat.lt_succ_self _)
    · rw [resolve_this, metadata?_nil]
      exact Value.walk_nested (Text.cut '.' rest)

/-- `this.` in front of a path is neutral exactly if the path is proper, so it can be left off once
and no more than once: any further `this` is a name like all others. -/
theorem this_neutral_iff (path : String) :
    ((∀ context metadata,
        resolve context ("this." ++ path) metadata = resolve context path metadata) ↔
      Proper path) ∧
      (¬ Proper path → ∀ context metadata,
        resolve context ("this." ++ path) metadata = context.walk (Text.cut '.' path)) ∧
      ∀ times context metadata, resolve context (prefixed (times + 2) path) metadata =
        context.walk (List.replicate (times + 1) "this" ++ Text.cut '.' path) := by
  refine ⟨⟨fun h => ?_, Proper.resolve_this⟩, resolve_this_of_not_proper,
    fun times context metadata => ?_⟩
  · by_contra hNot
    obtain ⟨context, hDiffers⟩ := exists_resolve_this_ne hNot
    exact hDiffers (h context [])
  · rw [← cut_prefixed]
    exact resolve_this_of_not_proper (not_proper_iff.2 (.inr (.inr (.inr ⟨_, rfl⟩)))) context metadata

/-- Two times `this.` in front of a name that is there with one of them. -/
theorem this_not_neutral :
    let context : Value := .map [(.text "x", .int 1)]
    resolve context "this.this.x" [] = .ok .null ∧
      resolve context "this.x" [] = .ok (.int 1) :=
  ⟨rfl, rfl⟩

end Path

end Stencil
