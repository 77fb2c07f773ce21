import Stencil.Value.Path
import Stencil.Number.Numeral
import Mathlib.Data.List.TakeWhile

/-!
Looking up paths in plain data: nothing but numbers, texts, points in time, and lists and maps of
such. What is missing there is `null`, and only one thing fails: an item of a list is picked by a
text that consists of digits and yet is no number that can be read.
-/

namespace Stencil

/-! ### Texts that consist of digits -/

namespace Numeral

variable {cs : List Char} {text : String}

/-- A run of digits without underscores is read digit by digit. -/
theorem exists_digitRun (h : ∀ c ∈ cs, (Text.digitValue? c).isSome) (hSome : cs ≠ []) :
    ∃ digits, digitRun cs = some digits ∧ digits.length = cs.length := by
  fun_induction digitRun cs with
  | case1 => exact absurd rfl hSome
  | case2 c =>
    obtain ⟨d, hd⟩ := Option.isSome_iff_exists.1 (h c List.mem_cons_self)
    exact ⟨[d], by rw [hd]; rfl, rfl⟩
  | case3 c cs ih =>
    have hUnderscore := h '_' (List.mem_cons_of_mem _ List.mem_cons_self)
    exact absurd hUnderscore (by decide)
  | case4 c cs hLast hNext ih =>
    obtain ⟨d, hd⟩ := Option.isSome_iff_exists.1 (h c List.mem_cons_self)
    obtain ⟨later, hLater, hLength⟩ := ih (fun e he => h e (List.mem_cons_of_mem c he)) hLast
    refine ⟨d :: later, ?_, by rw [List.length_cons, List.length_cons, hLength]⟩
    rw [hd, hLater]
    rfl

theorem sign_of_digits (h : ∀ c ∈ cs, Text.isDigit c = true) : sign cs = (false, cs) := by
  unfold sign
  split
  · exact absurd (h '-' List.mem_cons_self) (by decide)
  · exact absurd (h '+' List.mem_cons_self) (by decide)
  · rfl

theorem inDigitRun_of_digit {c : Char} (h : Text.isDigit c = true) :
    inDigitRun c = (Text.digitValue? c).isSome := by
  have hOther : c ≠ '_' := by
    rintro rfl
    exact absurd h (by decide)
  simp [inDigitRun, hOther]

/-- A text of digits is read unless one of them is not decimal or there are too many. -/
theorem int?_of_digits (hDigits : ∀ c ∈ text.toList, Text.isDigit c = true)
    (hSome : text.toList ≠ []) :
    (∃ fault, int? text = .error fault) ↔
      (∃ c ∈ text.toList, Text.digitValue? c = none) ∨ Fault.digitLimit < text.length := by
  have hRun : ∀ c ∈ text.toList, inDigitRun c = (Text.digitValue? c).isSome :=
    fun c hc => inDigitRun_of_digit (hDigits c hc)
  unfold int?
  simp only [sign_of_digits hDigits]
  by_cases hAll : ∀ c ∈ text.toList, inDigitRun c = true
  · -- The run of digits is the whole text.
    obtain ⟨digits, hDigitRun, hLength⟩ :=
      exists_digitRun (fun c hc => hRun c hc ▸ hAll c hc) hSome
    have hNone : ¬ ∃ c ∈ text.toList, Text.digitValue? c = none := by
      rintro ⟨c, hc, hValue⟩
      have hSome := hRun c hc ▸ hAll c hc
      rw [hValue] at hSome
      cases hSome
    rw [List.takeWhile_eq_self_iff.2 hAll, List.dropWhile_eq_nil_iff.2 hAll, hDigitRun]
    simp only [hLength, String.length_toList, hNone, false_or]
    split
    · rename_i hMany
      exact ⟨fun _ => hMany, fun _ => ⟨_, rfl⟩⟩
    · rename_i hFew
      exact ⟨fun ⟨fault, h⟩ => by simp at h, fun hMany => absurd hMany hFew⟩
  · -- The run of digits stops early, and something is left behind it.
    have hStop : ∃ c ∈ text.toList, Text.digitValue? c = none := by
      obtain ⟨c, hc, hNot⟩ := not_forall₂.1 hAll
      exact ⟨c, hc, Option.not_isSome_iff_eq_none.1 (hRun c hc ▸ hNot)⟩
    have hRest : (text.toList.dropWhile inDigitRun).isEmpty = false := by
      rw [← Bool.not_eq_true, List.isEmpty_iff, List.dropWhile_eq_nil_iff]
      exact hAll
    refine ⟨fun _ => .inl hStop, fun _ => ?_⟩
    split
    · exact ⟨_, rfl⟩
    · rw [hRest]
      split
      · exact ⟨_, rfl⟩
      · exact ⟨_, rfl⟩

end Numeral

namespace Value

/-- The text consists of digits, but one of them is not decimal, or there are too many. -/
def Unreadable (segment : String) : Prop :=
  isIndex segment = true ∧
    ((∃ c ∈ segment.toList, Text.digitValue? c = none) ∨ Fault.digitLimit < segment.length)

theorem int?_of_isIndex {segment : String} (h : isIndex segment = true) :
    (∃ fault, Numeral.int? segment = .error fault) ↔ Unreadable segment := by
  have hDigits := h
  rw [isIndex, Bool.and_eq_true, List.all_eq_true, bne_iff_ne] at hDigits
  have hSome : segment.toList ≠ [] := fun hNone => hDigits.1 (String.toList_inj.1 hNone)
  rw [Numeral.int?_of_digits hDigits.2 hSome]
  exact ⟨fun hBad => ⟨h, hBad⟩, fun hBad => hBad.2⟩

/-! ### Plain values -/

/-- Data in which nothing fails of its own accord. Any keys may be in a map. -/
inductive Plain : Value → Prop
  | null : Plain .null
  | bool (b : Bool) : Plain (.bool b)
  | int (n : Int) : Plain (.int n)
  | float (x : Binary64) : Plain (.float x)
  | text (s : String) : Plain (.text s)
  | bytes (b : List UInt8) : Plain (.bytes b)
  | date (d : Date) : Plain (.date d)
  | moment (m : Moment) : Plain (.moment m)
  | zone (minutes : Int) : Plain (.zone minutes)
  | list {items : List Value} (h : ∀ item ∈ items, Plain item) : Plain (.list items)
  | tuple {mark : Nat} {items : List Value} (h : ∀ item ∈ items, Plain item) :
      Plain (.tuple mark items)
  | map {entries : List (Value × Value)} (h : ∀ entry ∈ entries, Plain entry.2) :
      Plain (.map entries)

/-- Nothing is there under the name. -/
def Lacks (name : String) : Value → Prop
  | null => True
  | map entries => find? (.text name) entries = none
  | lockedMap .. => False
  | list items | tuple _ items =>
    isIndex name = false ∧ name ≠ "length" ∨
      isIndex name = true ∧ ∃ n, Numeral.int? name = .ok n ∧ items.length ≤ n.toNat
  | value =>
    name.toList.head? = some '_' ∨ ∃ fault, value.member name = .error fault ∧ fault.kind = .member

theorem Plain.of_property? {name : String} {value found : Value} (hPlain : value.Plain)
    (h : value.property? name = some found) : found.Plain := by
  have hNumber {numerator denominator : Int} {name : String}
      (h : property?.number numerator denominator name = some found) : found.Plain := by
    unfold property?.number at h
    split at h <;> cases h <;> exact .int _
  have hDay {d : Date} {name : String} (h : property?.day d name = some found) : found.Plain := by
    unfold property?.day at h
    split at h <;> cases h <;> exact .int _
  cases hPlain with
  | bool b => exact hNumber h
  | int n => exact hNumber h
  | float x =>
    dsimp only [property?] at h
    split at h <;> cases h <;> exact .float _
  | date d =>
    dsimp only [property?] at h
    split at h
    case h_3 => exact hDay h
    all_goals
      cases h
      exact .date _
  | moment m =>
    dsimp only [property?] at h
    split at h
    case h_1 | h_2 =>
      cases h
      exact .moment _
    case h_7 =>
      cases h
      cases m.offset with
      | none => exact .null
      | some minutes => exact .zone minutes
    case h_9 => exact hDay h
    all_goals
      cases h
      exact .int _
  | zone minutes =>
    dsimp only [property?] at h
    split at h <;> cases h <;> exact .zone _
  | _ => cases h

theorem Plain.getD_find? {entries : List (Value × Value)} (h : ∀ entry ∈ entries, entry.2.Plain)
    (key : Value) : ((find? key entries).getD .null).Plain := by
  cases hFound : find? key entries with
  | none => exact .null
  | some value =>
    obtain ⟨entry, hEntry, rfl⟩ := Option.map_eq_some_iff.1 hFound
    exact h entry (List.mem_of_find?_eq_some hEntry)

theorem Plain.getD_getElem? {items : List Value} (h : ∀ item ∈ items, item.Plain) (i : Nat) :
    (items[i]?.getD .null).Plain := by
  cases hItem : items[i]? with
  | none => exact .null
  | some item => exact h item (List.mem_of_getElem? hItem)

/-- A result is plain, unless there is this reason for a fault. -/
inductive PlainUnless (reason : Prop) : Except Fault Value → Prop
  | plain {found : Value} (hNot : ¬ reason) (h : found.Plain) : PlainUnless reason (.ok found)
  | fault {fault : Fault} (h : reason) : PlainUnless reason (.error fault)

theorem PlainUnless.congr {reason other : Prop} {result : Except Fault Value}
    (h : PlainUnless reason result) (hSame : reason ↔ other) : PlainUnless other result := by
  cases h with
  | plain hNot h => exact .plain (fun hOther => hNot (hSame.2 hOther)) h
  | fault h => exact .fault (hSame.1 h)

theorem PlainUnless.of_ok {reason : Prop} {found : Value} (h : PlainUnless reason (.ok found)) :
    found.Plain := by
  cases h with
  | plain hNot h => exact h

theorem PlainUnless.error_iff {reason : Prop} {result : Except Fault Value}
    (h : PlainUnless reason result) : (∃ fault, result = .error fault) ↔ reason := by
  cases h with
  | plain hNot h => exact ⟨fun ⟨_, hFault⟩ => absurd hFault nofun, fun h => absurd h hNot⟩
  | fault h => exact ⟨fun _ => h, fun _ => ⟨_, rfl⟩⟩

theorem PlainUnless.exists_ok {reason : Prop} {result : Except Fault Value}
    (h : PlainUnless reason result) (hNot : ¬ reason) :
    ∃ found, result = .ok found ∧ found.Plain := by
  cases h with
  | plain _ h => exact ⟨_, rfl, h⟩
  | fault h => exact absurd h hNot

/-- An item of a list is picked, if the segment can be read. -/
theorem plainUnless_item {items : List Value} (h : ∀ item ∈ items, item.Plain) (segment : String) :
    PlainUnless (Unreadable segment) (item segment items) := by
  unfold item
  by_cases hIndex : isIndex segment = true
  · rw [if_pos hIndex, ← int?_of_isIndex hIndex]
    cases Numeral.int? segment with
    | error fault => exact .fault ⟨fault, rfl⟩
    | ok n => exact .plain (fun ⟨_, hFault⟩ => nomatch hFault) (Plain.getD_getElem? h n.toNat)
  · rw [if_neg hIndex]
    have hNot : ¬ Unreadable segment := fun hBad => hIndex hBad.1
    split
    · exact .plain hNot (.int _)
    · exact .plain hNot .null

/-- The value is a list, and the name picks no item from it since it cannot be read. -/
def Rejects (value : Value) (name : String) : Prop := value.items?.isSome = true ∧ Unreadable name

theorem Plain.memberOrNull {value : Value} (h : value.Plain) (name : String) {reason : Prop}
    (hNot : ¬ reason) : PlainUnless reason (value.memberOrNull name) := by
  have hMember : value.member name =
      (value.property? name).elim (.error (.noMember value.fullTypeName name)) .ok := by
    cases h <;> rfl
  rw [Value.memberOrNull, hMember]
  cases hFound : value.property? name with
  | none => exact .plain hNot .null
  | some found => exact .plain hNot (h.of_property? hFound)

/-- A segment fails in a list that rejects it, and leads to something plain otherwise. -/
theorem Plain.segment {value : Value} (h : value.Plain) (name : String) :
    PlainUnless (value.Rejects name) (value.segment name) := by
  have hOther (hNone : value.items? = none)
      (hSegment : value.segment name =
        if name.toList.head? = some '_' then .ok .null else value.memberOrNull name) :
      PlainUnless (value.Rejects name) (value.segment name) := by
    have hNot : ¬ value.Rejects name := by
      rintro ⟨hList, -⟩
      rw [hNone] at hList
      cases hList
    rw [hSegment]
    split
    · exact .plain hNot .null
    · exact h.memberOrNull name hNot
  cases h with
  | map hEntries => exact .plain (fun ⟨hList, _⟩ => nomatch hList) (.getD_find? hEntries (.text name))
  | list hItems => exact (plainUnless_item hItems name).congr (and_iff_right rfl).symm
  | tuple hItems => exact (plainUnless_item hItems name).congr (and_iff_right rfl).symm
  | _ => exact hOther rfl rfl

/-- Where nothing is there under a name, the segment leads to nothing. -/
theorem segment_of_lacks {value : Value} {name : String} (h : value.Lacks name)
    (hSome : value ≠ .null) : value.segment name = .ok .null := by
  have hList {items : List Value} (hLacks : isIndex name = false ∧ name ≠ "length" ∨
      isIndex name = true ∧ ∃ n, Numeral.int? name = .ok n ∧ items.length ≤ n.toNat) :
      item name items = .ok .null := by
    unfold item
    rcases hLacks with ⟨hIndex, hLength⟩ | ⟨hIndex, n, hNumber, hOut⟩
    · rw [hIndex, if_neg (by decide), if_neg hLength]
    · rw [if_pos hIndex, hNumber]
      change Except.ok (items[n.toNat]?.getD .null) = _
      rw [List.getElem?_eq_none hOut]
      rfl
  cases value with
  | null => exact absurd rfl hSome
  | map entries =>
    dsimp only [segment]
    rw [(h : find? (.text name) entries = none)]
    rfl
  | list items => exact hList h
  | tuple mark items => exact hList h
  | lockedMap entries fault => cases h
  | _ =>
    rcases h with hPrivate | ⟨fault, hMember, hKind⟩
    · exact if_pos hPrivate
    · dsimp only [segment]
      rw [memberOrNull, hMember]
      simp only [hKind, if_true, ite_self]

/-! ### Paths -/

theorem walk_null (names : List String) : walk .null names = .ok .null := by
  cases names <;> rfl

theorem walk_cons {value : Value} (h : value ≠ .null) (name : String) (later : List String) :
    value.walk (name :: later) = (do (← value.segment name).walk later) := by
  cases value with
  | null => exact absurd rfl h
  | _ => rfl

/-- A path leads on from where its beginning leads. -/
theorem walk_append (value : Value) (before after : List String) :
    value.walk (before ++ after) = (do (← value.walk before).walk after) := by
  induction before generalizing value with
  | nil => rfl
  | cons name before ih =>
    by_cases hNull : value = .null
    · rw [hNull, walk_null, walk_null]
      exact (walk_null after).symm
    · rw [List.cons_append, walk_cons hNull, walk_cons hNull]
      cases value.segment name with
      | error fault => rfl
      | ok found => exact ih found

/-- A walk along the names comes to a list that rejects the next name. -/
def Stumbles (value : Value) (names : List String) : Prop :=
  ∃ before name after list, names = before ++ name :: after ∧ value.walk before = .ok list ∧
    list.Rejects name

theorem not_stumbles_null (names : List String) : ¬ Stumbles .null names := by
  rintro ⟨before, name, after, list, -, hWalk, hList, -⟩
  rw [walk_null] at hWalk
  cases hWalk
  cases hList

/-- A walk stumbles at once, or after the first step. -/
theorem stumbles_cons {value : Value} (h : value ≠ .null) (name : String) (later : List String) :
    value.Stumbles (name :: later) ↔
      value.Rejects name ∨ ∃ found, value.segment name = .ok found ∧ found.Stumbles later := by
  constructor
  · rintro ⟨before, last, after, list, hNames, hWalk, hRejects⟩
    cases before with
    | nil =>
      cases hNames
      cases hWalk
      exact .inl hRejects
    | cons first before =>
      cases hNames
      rw [walk_cons h] at hWalk
      cases hSegment : value.segment name with
      | error fault =>
        rw [hSegment] at hWalk
        cases hWalk
      | ok found =>
        rw [hSegment] at hWalk
        exact .inr ⟨found, rfl, before, last, after, list, rfl, hWalk, hRejects⟩
  · rintro (hRejects | ⟨found, hSegment, before, last, after, list, rfl, hWalk, hRejects⟩)
    · exact ⟨[], name, later, value, rfl, rfl, hRejects⟩
    · refine ⟨name :: before, last, after, list, rfl, ?_, hRejects⟩
      rw [walk_cons h, hSegment]
      exact hWalk

/-- From plain data, a walk fails if it stumbles, and comes to something plain otherwise. -/
theorem Plain.walk {value : Value} (h : value.Plain) (names : List String) :
    PlainUnless (value.Stumbles names) (value.walk names) := by
  induction names generalizing value with
  | nil =>
    have hNot : ¬ value.Stumbles [] := by
      rintro ⟨before, name, after, list, hNames, -⟩
      exact absurd hNames.symm (by simp)
    have hHere : value.walk [] = .ok value := by cases value <;> rfl
    rw [hHere]
    exact .plain hNot h
  | cons name later ih =>
    by_cases hNull : value = .null
    · rw [hNull, walk_null]
      exact .plain (not_stumbles_null _) .null
    · have hStumbles := stumbles_cons hNull name later
      have hSegment := h.segment name
      rw [walk_cons hNull]
      generalize value.segment name = result at hStumbles hSegment
      cases hSegment with
      | fault hRejects => exact .fault (hStumbles.2 (.inl hRejects))
      | @plain found hNot hFound =>
        refine (ih hFound).congr ⟨fun hLater => hStumbles.2 (.inr ⟨found, rfl, hLater⟩), fun h => ?_⟩
        rcases hStumbles.1 h with hRejects | ⟨other, hOther, hLater⟩
        · exact absurd hRejects hNot
        · cases hOther
          exact hLater

/-- A walk that comes to where a name is missing ends with nothing. -/
theorem walk_of_lacks {value found : Value} {before : List String} {name : String}
    (hWalk : value.walk before = .ok found) (hLacks : found.Lacks name) (after : List String) :
    value.walk (before ++ name :: after) = .ok .null := by
  rw [walk_append, hWalk]
  change found.walk (name :: after) = _
  by_cases hNull : found = .null
  · rw [hNull, walk_null]
  · rw [walk_cons hNull, segment_of_lacks hLacks hNull]
    exact walk_null after

end Value

/-! ### Paths -/

/-- Data that are all plain. -/
def Metadata.Plain (metadata : Metadata) : Prop := ∀ entry ∈ metadata, entry.2.Plain

namespace Path

/-- The names along which the path walks from the context, unless it is nothing, the context itself
or a name among the metadata. -/
inductive Walks (metadata : Metadata) (path : String) : List String → Prop
  | intro (hEmpty : path ≠ "") (hThis : path ≠ "this") (hDot : path ≠ ".")
      (hMetadata : metadata? (withoutThis path) metadata = none) :
      Walks metadata path (Text.cut '.' (withoutThis path))

/-- The path walks from the context to a list, and on by something that cannot be read. -/
def Stumbles (context : Value) (path : String) (metadata : Metadata) : Prop :=
  ∃ names, Walks metadata path names ∧ context.Stumbles names

variable {context : Value} {path : String} {metadata : Metadata}

theorem resolve_of_walks {names : List String} (h : Walks metadata path names) (context : Value) :
    resolve context path metadata = context.walk names := by
  cases h with
  | intro hEmpty hThis hDot hMetadata =>
    rw [resolve_of_ne hEmpty hThis hDot, hMetadata]

/-- A path that does not walk leads to nothing, to the context itself or to a piece of metadata. -/
theorem resolve_of_not_walks (hContext : context.Plain) (hMetadata : metadata.Plain)
    (h : ¬ ∃ names, Walks metadata path names) {reason : Prop} (hNot : ¬ reason) :
    Value.PlainUnless reason (resolve context path metadata) := by
  unfold resolve
  by_cases hEmpty : path = ""
  · rw [if_pos hEmpty]
    exact .plain hNot .null
  by_cases hSelf : path = "this" ∨ path = "."
  · rw [if_neg hEmpty, if_pos hSelf]
    exact .plain hNot hContext
  rw [if_neg hEmpty, if_neg hSelf]
  obtain ⟨hThis, hDot⟩ := not_or.1 hSelf
  dsimp only
  cases hFound : metadata? (withoutThis path) metadata with
  | none => exact absurd ⟨_, .intro hEmpty hThis hDot hFound⟩ h
  | some found =>
    refine .plain hNot ?_
    unfold metadata? at hFound
    split at hFound
    · obtain ⟨front, back, hSplit, -⟩ := List.lookup_eq_some_iff.1 hFound
      refine hMetadata (withoutThis path, found) ?_
      rw [hSplit]
      exact List.mem_append_right _ List.mem_cons_self
    · cases hFound

/-- In plain data, a path fails only if it stumbles, and what it leads to is plain. -/
theorem plainUnless_resolve (hContext : context.Plain) (hMetadata : metadata.Plain)
    (path : String) :
    Value.PlainUnless (Stumbles context path metadata) (resolve context path metadata) := by
  by_cases hWalks : ∃ names, Walks metadata path names
  · obtain ⟨names, hNames⟩ := hWalks
    rw [resolve_of_walks hNames]
    refine (hContext.walk names).congr ⟨fun h => ⟨names, hNames, h⟩, ?_⟩
    rintro ⟨other, hOther, h⟩
    cases hNames
    cases hOther
    exact h
  · refine resolve_of_not_walks hContext hMetadata hWalks ?_
    rintro ⟨names, hNames, -⟩
    exact hWalks ⟨names, hNames⟩

end Path

end Stencil
