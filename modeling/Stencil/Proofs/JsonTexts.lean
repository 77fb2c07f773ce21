import Mathlib.Tactic.SplitIfs
import Stencil.Helper.Format
import Stencil.Proofs.JsonNumbers
import Stencil.Proofs.JsonReading
import Stencil.Proofs.WholeArguments

/-!
Values written as JSON. A value that is made of `null`, truth values, numbers, texts, points in
time, lists and maps with texts as keys is written as a JSON text that denotes it, however it is
indented, or not at all if one of its whole numbers has too many digits. That fails for what is no
finite number: it is written as well, by a name that is no JSON.
-/

namespace Stencil

namespace Json

/-! ### What a value denotes -/

/-- The text of a key. -/
def keyText : Value → String
  | .text s => s
  | _ => ""

mutual

/-- The data that a value is. Tuples become arrays, and points in time their texts. -/
def data : Value → Data
  | .bool b => .bool b
  | .int n => .number (.int n)
  | .float x => .number (.float x)
  | .text s => .text s
  | .date d => .text d.toText
  | .moment m => .text (m.toText "T")
  | .list items | .tuple _ items => .array (dataAll items)
  | .map entries => .object (dataEntries entries)
  | _ => .null

def dataAll : List Value → List Data
  | [] => []
  | value :: values => data value :: dataAll values

def dataEntries : List (Value × Value) → List (String × Data)
  | [] => []
  | (key, value) :: entries => (keyText key, data value) :: dataEntries entries

end

/-- A value that JSON data can stand for, but for its numbers that are not finite. -/
inductive Expressible : Value → Prop
  | null : Expressible .null
  | bool (b : Bool) : Expressible (.bool b)
  | int (n : Int) : Expressible (.int n)
  | float (x : Binary64) : Expressible (.float x)
  | text (s : String) : Expressible (.text s)
  | date (d : Date) : Expressible (.date d)
  | moment (m : Moment) : Expressible (.moment m)
  | list {items : List Value} (h : ∀ item ∈ items, Expressible item) : Expressible (.list items)
  | tuple {mark : Nat} {items : List Value} (h : ∀ item ∈ items, Expressible item) :
      Expressible (.tuple mark items)
  | map {entries : List (Value × Value)} (hKeys : ∀ entry ∈ entries, ∃ key, entry.1 = .text key)
      (h : ∀ entry ∈ entries, Expressible entry.2) : Expressible (.map entries)

/-- A whole number with more digits than are written. -/
def TooLong : Number → Prop
  | .int n => tenTo Fault.digitLimit ≤ n.natAbs
  | .float _ => False

/-- What is no finite number. -/
def NotFinite : Number → Prop
  | .float (.finite ..) => False
  | .float _ => True
  | .int _ => False

/-- How a number is written: as JSON has it if it is finite, and by its name otherwise. -/
inductive Written : Number → List Char → Prop
  | number {x : Number} {cs : List Char} (hFinite : ¬NotFinite x) (h : IsNumber x cs) : Written x cs
  | name {x : Binary64} (h : NotFinite (.float x)) : Written (.float x) (floatText x).toList

variable {value : Value} {part : Part} {layout : Layout} {depth : Nat}

theorem dataAll_eq_map (values : List Value) : dataAll values = values.map data := by
  induction values with
  | nil => rfl
  | cons value values ih => rw [dataAll, ih, List.map_cons]

theorem dataEntries_eq_map (entries : List (Value × Value)) :
    dataEntries entries = entries.map fun entry => (keyText entry.1, data entry.2) := by
  induction entries with
  | nil => rfl
  | cons entry entries ih => rw [dataEntries, ih, List.map_cons]

/-! ### Texts -/

theorem unit?_hexDigits {n : Nat} (h : n < 32) : unit? (Text.hexDigits 4 n) = some n := by
  have hUnits : (List.range 32).all (fun i => unit? (Text.hexDigits 4 i) = some i) = true := by
    decide +kernel
  exact of_decide_eq_true (List.all_eq_true.1 hUnits n (List.mem_range.2 h))

theorem isChar_encodeChar (c : Char) : IsChar c (encodeChar c) := by
  unfold encodeChar
  split_ifs with hSelf hFeed hReturn hTab hForm hBack hControl
  · refine .short ?_
    rcases hSelf with rfl | rfl <;> rfl
  · exact .short (by rw [hFeed]; rfl)
  · exact .short (by rw [hReturn]; rfl)
  · exact .short (by rw [hTab]; rfl)
  · exact .short (by rw [hForm]; rfl)
  · exact .short (by rw [hBack]; rfl)
  · exact .unit (unit?_hexDigits hControl)
  · exact .plain (Nat.le_of_not_lt hControl) (fun hQuote => hSelf (.inl hQuote))
      (fun hSlash => hSelf (.inr hSlash))

theorem isString_quoted (s : String) : IsString s (quoted s).toList := by
  refine ⟨s.toList.flatMap encodeChar, ?_, String.toList_ofList⟩
  induction s.toList with
  | nil => exact .nil
  | cons c cs ih => exact .cons (isChar_encodeChar c) ih

/-! ### Numbers -/

theorem floatText_mem {x : Binary64} (h : NotFinite (.float x)) :
    floatText x ∈ ["NaN", "Infinity", "-Infinity"] := by
  cases x with
  | nan mark => exact List.mem_cons_self
  | infinite negative => cases negative <;> decide
  | finite negative quanta => exact absurd h id

theorem Written.foreignIf {x : Number} {cs : List Char} (h : Written x cs) :
    ForeignIf (NotFinite x) cs := by
  cases h with
  | number hFinite h => exact h.foreignIf.congr (iff_of_false not_false hFinite)
  | @name x h =>
    have hNames : ∀ name ∈ ["NaN", "Infinity", "-Infinity"],
        '"' ∉ name.toList ∧ name.toList.any isForeign = true := by decide
    obtain ⟨hQuote, hForeign⟩ := hNames _ (floatText_mem h)
    exact ⟨_, outside_self hQuote, iff_of_true hForeign h⟩

theorem Written.ne_nil {x : Number} {cs : List Char} (h : Written x cs) : cs ≠ [] := by
  cases h with
  | number hFinite h => exact h.ne_nil
  | @name x h =>
    have hNames : ∀ name ∈ ["NaN", "Infinity", "-Infinity"], name.toList ≠ [] := by decide
    exact hNames _ (floatText_mem h)

theorem written_float (x : Binary64) : Written (.float x) (floatText x).toList := by
  cases x with
  | nan mark => exact .name trivial
  | infinite negative => exact .name trivial
  | finite negative quanta => exact .number id (isNumber_toText negative quanta)

/-! ### Rows -/

/-- A part is written, or one of its whole numbers has too many digits. -/
inductive Outcome (part : Part) : Option String → Prop
  | written (hShort : ¬part.Has TooLong) {t : String} (h : Spells Written part t.toList) :
      Outcome part (some t)
  | nothing (hLong : part.Has TooLong) : Outcome part none

/-- Every part is written, or one of the whole numbers has too many digits. -/
inductive RowOutcome (parts : List Part) : Option (List String) → Prop
  | written (hShort : ¬(Part.row parts).Has TooLong) {texts : List String}
      (h : List.Forall₂ (fun part t => Spells Written part t.toList) parts texts) :
      RowOutcome parts (some texts)
  | nothing (hLong : (Part.row parts).Has TooLong) : RowOutcome parts none

theorem rowOutcome_mapM {α : Type} {part : α → Part} {f : α → Option String} {as : List α}
    (h : ∀ a ∈ as, Outcome (part a) (f a)) : RowOutcome (as.map part) (as.mapM f) := by
  induction as with
  | nil => exact .written Part.not_has_row_nil .nil
  | cons a as ih =>
    have hFirst := h a List.mem_cons_self
    have hLater := ih fun b hb => h b (List.mem_cons_of_mem a hb)
    rw [List.map_cons, List.mapM_cons]
    generalize f a = first at hFirst
    generalize as.mapM f = later at hLater
    cases hFirst with
    | nothing hLong => exact .nothing (Part.has_row_cons.2 (.inl hLong))
    | written hShort hText =>
      cases hLater with
      | nothing hLong => exact .nothing (Part.has_row_cons.2 (.inr hLong))
      | written hShortLater hTexts =>
        exact .written (fun hLong => (Part.has_row_cons.1 hLong).elim hShort hShortLater)
          (.cons hText hTexts)

/-- Texts with commas and blanks between them. -/
theorem spells_row {parts : List Part} {texts : List String} {before behind : List Char}
    (h : List.Forall₂ (fun part t => Spells Written part t.toList) parts texts)
    (hSome : texts ≠ []) (hBefore : Blanks before) (hBehind : Blanks behind) :
    Spells Written (.row parts)
      (before ++ ((',' :: before).intercalate (texts.map String.toList) ++ behind)) := by
  induction h with
  | nil => exact absurd rfl hSome
  | @cons part t parts texts hText hTexts ih =>
    cases hTexts with
    | nil =>
      rw [List.map_cons, List.map_nil, List.intercalate_singleton]
      exact .last hBefore hText hBehind
    | cons hNext hLater =>
      have hRow := Spells.more hBefore hText Blanks.nil (ih nofun)
      rw [List.map_cons, List.map_cons, List.intercalate_cons_cons]
      simpa using hRow

theorem blanks_lineBreak (depth : Nat) (layout : Layout) :
    Blanks (lineBreak depth layout).toList := by
  cases layout with
  | compact => exact .nil
  | indented width =>
    rw [lineBreak, String.toList_ofList]
    intro c hMem
    rcases List.mem_cons.1 hMem with rfl | hMem
    · decide
    · rw [List.eq_of_mem_replicate hMem]
      decide

/-- What stands between the brackets. -/
theorem exists_row {parts : List Part} {texts : List String} (layout : Layout) (depth : Nat)
    (opening closing : String)
    (h : List.Forall₂ (fun part t => Spells Written part t.toList) parts texts) :
    ∃ inside, Spells Written (.row parts) inside ∧
      (enclosed layout depth opening closing texts).toList =
        opening.toList ++ (inside ++ closing.toList) := by
  cases h with
  | nil => exact ⟨[], .empty .nil, String.toList_append⟩
  | @cons part t parts texts hText hTexts =>
    refine ⟨_, spells_row (.cons hText hTexts) nofun (blanks_lineBreak (depth + 1) layout)
      (blanks_lineBreak depth layout), ?_⟩
    simp [enclosed, String.toList_intercalate]

/-! ### Values -/

theorem writeAll?_eq_mapM (layout : Layout) (depth : Nat) (values : List Value) :
    writeAll? layout depth values = values.mapM (write? layout depth) := by
  induction values with
  | nil => rfl
  | cons value values ih => rw [writeAll?, List.mapM_cons, ih]

/-- An entry of a map as it is written. -/
def entryText? (layout : Layout) (depth : Nat) (entry : Value × Value) : Option String := do
  return quoted (← key? entry.1) ++ colon layout ++ (← write? layout depth entry.2)

theorem entryText?_text (layout : Layout) (depth : Nat) (key : String) (value : Value) :
    entryText? layout depth (.text key, value) =
      (write? layout depth value).map (quoted key ++ colon layout ++ ·) := by
  rw [entryText?]
  cases write? layout depth value <;> rfl

theorem writeEntries?_eq_mapM (layout : Layout) (depth : Nat) (entries : List (Value × Value)) :
    writeEntries? layout depth entries = entries.mapM (entryText? layout depth) := by
  induction entries with
  | nil => rfl
  | cons entry entries ih =>
    rw [writeEntries?, List.mapM_cons, ih, entryText?]
    cases key? entry.1 with
    | none => rfl
    | some key => cases write? layout depth entry.2 <;> rfl

theorem outcome_int (n : Int) : Outcome (.value (.number (.int n))) (intText? n) := by
  unfold intText? Numeral.write
  split
  · rename_i hLong
    exact .nothing (.number hLong)
  · rename_i hShort
    exact .written (hShort ∘ Part.has_number.1) (.number (.number id (isNumber_int n)))

theorem outcome_text (s : String) : Outcome (.value (.text s)) (some (quoted s)) :=
  .written (Part.not_has_text s) (.text (isString_quoted s))

theorem RowOutcome.array {items : List Data} {outcome : Option (List String)}
    (h : RowOutcome (items.map .value) outcome) (layout : Layout) (depth : Nat) :
    Outcome (.value (.array items)) (outcome.map (enclosed layout depth "[" "]")) := by
  cases h with
  | nothing hLong => exact .nothing (.array hLong)
  | written hShort hTexts =>
    obtain ⟨inside, hInside, hText⟩ := exists_row layout depth "[" "]" hTexts
    refine .written (hShort ∘ Part.has_array.1) ?_
    rw [hText]
    exact .array hInside

theorem RowOutcome.object {members : List (String × Data)} {outcome : Option (List String)}
    (h : RowOutcome (Part.members members) outcome) (layout : Layout) (depth : Nat) :
    Outcome (.value (.object members)) (outcome.map (enclosed layout depth "\x7b" "\x7d")) := by
  cases h with
  | nothing hLong => exact .nothing (.object hLong)
  | written hShort hTexts =>
    obtain ⟨inside, hInside, hText⟩ := exists_row layout depth "\x7b" "\x7d" hTexts
    refine .written (hShort ∘ Part.has_object.1) ?_
    rw [hText]
    exact .object hInside

theorem exists_colon (layout : Layout) :
    ∃ behind, Blanks behind ∧ (colon layout).toList = ':' :: behind := by
  cases layout with
  | compact => exact ⟨[], .nil, by decide⟩
  | indented width =>
    exact ⟨[' '], List.forall_mem_singleton.2 rfl, by simp [colon]⟩

theorem Outcome.member {data : Data} {outcome : Option String} (h : Outcome (.value data) outcome)
    (key : String) (layout : Layout) :
    Outcome (.member key data) (outcome.map (quoted key ++ colon layout ++ ·)) := by
  cases h with
  | nothing hLong => exact .nothing (.member hLong)
  | @written hShort t hText =>
    obtain ⟨behind, hBehind, hColon⟩ := exists_colon layout
    refine .written (hShort ∘ Part.has_member.1) ?_
    have hMember := Spells.member (isString_quoted key) Blanks.nil hBehind hText
    simpa [hColon] using hMember

/-- Every expressible value is written, unless one of its whole numbers has too many digits. -/
theorem Expressible.outcome (h : Expressible value) (layout : Layout) (depth : Nat) :
    Outcome (.value (data value)) (write? layout depth value) := by
  induction h generalizing depth with
  | null => exact .written Part.not_has_null .null
  | bool b =>
    cases b with
    | false => exact .written (Part.not_has_bool false) .no
    | true => exact .written (Part.not_has_bool true) .yes
  | int n => exact outcome_int n
  | float h => exact .written (id ∘ Part.has_number.1) (.number (written_float h))
  | text s => exact outcome_text s
  | date d => exact outcome_text _
  | moment m => exact outcome_text _
  | @list items h ih =>
    have hRow := rowOutcome_mapM fun item hMem => ih item hMem (depth + 1)
    rw [write?, writeAll?_eq_mapM, data, dataAll_eq_map, bind_pure_comp, Option.map_eq_map]
    exact RowOutcome.array (by rwa [List.map_map]) layout depth
  | @tuple mark items h ih =>
    have hRow := rowOutcome_mapM fun item hMem => ih item hMem (depth + 1)
    rw [write?, writeAll?_eq_mapM, data, dataAll_eq_map, bind_pure_comp, Option.map_eq_map]
    exact RowOutcome.array (by rwa [List.map_map]) layout depth
  | @map entries hKeys h ih =>
    have hEntry : ∀ entry ∈ entries,
        Outcome (.member (keyText entry.1) (data entry.2))
          (entryText? layout (depth + 1) entry) := by
      rintro ⟨key, item⟩ hMem
      obtain ⟨s, rfl⟩ : ∃ s, key = .text s := hKeys _ hMem
      rw [entryText?_text]
      exact (ih _ hMem (depth + 1)).member s layout
    have hRow := rowOutcome_mapM hEntry
    rw [write?, writeEntries?_eq_mapM, data, dataEntries_eq_map, bind_pure_comp, Option.map_eq_map]
    exact RowOutcome.object (by rwa [Part.members, List.map_map]) layout depth

/-- Some number in the value has a property. -/
def Holds (property : Number → Prop) (value : Value) : Prop :=
  (Part.value (data value)).Has property

namespace Spells

variable {data : Data} {t : String}

theorem ne_empty (h : Spells Written (.value data) t.toList) : t ≠ "" := by
  rintro rfl
  generalize hNone : "".toList = cs at h
  cases h with
  | number h => exact h.ne_nil hNone.symm
  | text h =>
    obtain ⟨inside, -, rfl⟩ := h
    cases hNone
  | _ => cases hNone

/-- What is written is JSON if all numbers are finite. -/
theorem denotes (h : Spells Written (.value data) t.toList)
    (hFinite : ¬(Part.value data).Has NotFinite) : Denotes t data := by
  refine ⟨[], t.toList, [], .nil, h.mono (fun x cs hNumber hNot => ?_) hFinite, .nil,
    (List.append_nil _).symm⟩
  cases hNumber with
  | number hFinite h => exact h
  | name h => exact absurd h hNot

/-- The name of what is no finite number is no JSON. -/
theorem not_denotes (h : Spells Written (.value data) t.toList)
    (hName : (Part.value data).Has NotFinite) (other : Data) : ¬Denotes t other := by
  have hForeign : ForeignIf ((Part.value data).Has NotFinite) t.toList :=
    h.foreignIf fun _ _ => Written.foreignIf
  exact (hForeign.congr (iff_true_intro hName)).not_denotes other

end Spells

end Json

namespace Helper

open Json

variable {machine : Machine} {value : Value} {indent : Option Value} {width : Int}

theorem act_json (value : Value) (indent : Option Value) :
    (json machine).act (value :: indent.toList) = .ofExcept
      (do return .text (← jsonText machine (← (indent.getD .null).toInt 2) value)) :=
  act_binary _ _ value indent

theorem checkLength_of_lt (h : width < machine.memory) : checkLength machine width = .ok () := by
  have hBounds : machine.memory ≤ lengthBound := machine.memory_le
  rw [checkLength, if_neg (by omega), if_neg (by omega)]

/-- A text is written like any other value. -/
theorem jsonText_of_lt (h : width < machine.memory) (value : Value) :
    jsonText machine width value = .ok ((write? (layout width) 0 value).getD "") := by
  unfold jsonText
  split
  · rfl
  · rw [checkLength_of_lt h]
    rfl

theorem act_json_of_readable (hIndent : Readable indent)
    (hWidth : ∀ width, Means 2 indent width → width < machine.memory) (value : Value) :
    (json machine).act (value :: indent.toList) =
      .done (.text ((write? (layout (wholeAsked 2 indent)) 0 value).getD "")) := by
  have hText := jsonText_of_lt (hWidth _ (means_wholeAsked 2 indent)) value
  rw [act_json, toInt_of_readable hIndent]
  show Action.ofExcept (do return Value.text (← jsonText machine (wholeAsked 2 indent) value)) = _
  rw [hText]
  rfl

/-- An expressible value is written as a JSON text that denotes it and nothing else, or not at all
because a whole number has too many digits, unless it holds what is no finite number and could be
written. Then it is written all the same, and the text is no JSON. How it is indented makes no
difference. -/
theorem json_denotes_iff (hIndent : Readable indent)
    (hWidth : ∀ width, Means 2 indent width → width < machine.memory) (h : Expressible value) :
    ∃ t, (json machine).act (value :: indent.toList) = .done (.text t) ∧
      (t = "" ↔ Holds TooLong value) ∧
      (t = "" ∨ (∀ other, Denotes t other ↔ other = data value) ↔
        Holds TooLong value ∨ ¬Holds NotFinite value) ∧
      (t ≠ "" → Holds NotFinite value → ∀ other, ¬Denotes t other) := by
  refine ⟨_, act_json_of_readable hIndent hWidth value, ?_⟩
  have hOutcome := h.outcome (layout (wholeAsked 2 indent)) 0
  generalize write? (layout (wholeAsked 2 indent)) 0 value = outcome at hOutcome
  cases hOutcome with
  | nothing hLong =>
    have hEmpty : Option.getD none "" = "" := rfl
    exact ⟨iff_of_true hEmpty hLong, iff_of_true (.inl hEmpty) (.inl hLong),
      fun hSome => absurd hEmpty hSome⟩
  | @written hShort t hText =>
    rw [Option.getD_some]
    have hSome : t ≠ "" := hText.ne_empty
    refine ⟨iff_of_false hSome hShort, ?_, fun _ hName => ?_⟩
    · rw [or_iff_right hSome, Holds, or_iff_right hShort]
      constructor
      · intro hOnly hName
        exact hText.not_denotes hName _ ((hOnly _).2 rfl)
      · intro hFinite other
        have hDenotes := hText.denotes hFinite
        exact ⟨fun hOther => hOther.unique hDenotes, fun hSame => hSame ▸ hDenotes⟩
    · exact hText.not_denotes hName

/-- A map with a list in it, indented by the digit of a text. -/
theorem json_denotes_iff_nested :
    let half : Binary64 :=
      .finite false ⟨twoTo 1073, Binary64.fits_twoTo 1073, twoTo_lt_twoTo (by decide)⟩
    let value : Value := .map [(.text "a", .tuple 0 [.int 1, .float half, .null])]
    let indent : Option Value := some (.text "1")
    Readable indent ∧ Expressible value ∧
      ∃ t, (json .small).act (value :: indent.toList) = .done (.text t) ∧
        ∀ other, Denotes t other ↔
          other = .object [("a", .array [.number (.int 1), .number (.float half), .null])] := by
  intro half value indent
  have hNumber : indent.bind Value.toNumber? = some (.int 1) := by decide +kernel
  have hReadable : Readable indent := by
    intro d hWhole
    rw [hNumber] at hWhole
    cases hWhole
    decide +kernel
  have hWidth (width : Int) (h : Means 2 indent width) : width < Machine.small.memory := by
    rw [h.eq_wholeAsked, wholeAsked, hNumber]
    decide +kernel
  have hExpressible : Expressible value := by
    refine .map (by simp) (List.forall_mem_singleton.2 (.tuple ?_))
    exact List.forall_mem_cons.2 ⟨.int 1,
      List.forall_mem_cons.2 ⟨.float half, List.forall_mem_singleton.2 .null⟩⟩
  have hHolds (property : Number → Prop) :
      Holds property value ↔ property (.int 1) ∨ property (.float half) := by
    simp [Holds, value, data, dataAll, dataEntries, Part.members, Part.has_object,
      Part.has_row_cons, Part.has_member, Part.has_array]
  have hShort : ¬Holds TooLong value := by
    rw [hHolds, not_or]
    exact ⟨Nat.not_le.2 (by decide +kernel), id⟩
  have hFinite : ¬Holds NotFinite value := by
    rw [hHolds, not_or]
    exact ⟨id, id⟩
  obtain ⟨t, hAct, hEmpty, hDenotes, -⟩ := json_denotes_iff hReadable hWidth hExpressible
  exact ⟨hReadable, hExpressible, t, hAct,
    (hDenotes.2 (.inr hFinite)).resolve_left (hShort ∘ hEmpty.1)⟩

/-- What is no number is written by its name. -/
theorem json_writes_nan :
    Expressible (.float (.nan 0)) ∧ (json .small).act [.float (.nan 0)] = .done (.text "NaN") ∧
      "NaN" ≠ "" ∧ ∀ data, ¬Denotes "NaN" data := by
  have hWidth (width : Int) (h : Means 2 none width) : width < Machine.small.memory := by
    rw [h.eq_wholeAsked]
    decide +kernel
  have hAct : (json .small).act [.float (.nan 0)] = .done (.text "NaN") :=
    @act_json_of_readable .small none nofun hWidth (.float (.nan 0))
  have hText : Spells Written (.value (.number (.float (.nan 0)))) "NaN".toList :=
    .number (.name trivial)
  exact ⟨.float _, hAct, by decide, hText.not_denotes (.number trivial)⟩

end Helper

end Stencil
