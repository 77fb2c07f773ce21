import Stencil.Diagnostic.Error
import Stencil.Proofs.LineBreaks

/-!
Colours say nothing. A diagnostic with colours and the same diagnostic without them are the same
text once escape sequences are removed from both, whatever the fields of the error and the source
hold. The codes of a style are removed as a whole, and what stands before them or behind them is not
drawn into them: no sequence goes on over an escape or over the end of a line.
-/

namespace Stencil

namespace Palette

/-- No escape sequence that has begun before the text goes on in it. -/
def Stops (cs : List Char) : Prop := ∀ c ∈ cs.head?, c = '\n' ∨ c = '\x1b'

variable {rest front : List Char}

theorem stops_nil : Stops [] := nofun

theorem stops_newline (cs : List Char) : Stops ('\n' :: cs) := fun _ h =>
  .inl (Option.some.inj h).symm

theorem stops_escape (cs : List Char) : Stops ('\x1b' :: cs) := fun _ h =>
  .inr (Option.some.inj h).symm

/-! ### Where sequences end -/

theorem dropWhile_append_of_stops {p : Char → Bool} (hNewline : p '\n' = false)
    (hEscape : p '\x1b' = false) (h : Stops rest) (cs : List Char) :
    (cs ++ rest).dropWhile p = cs.dropWhile p ++ rest := by
  have hRest : rest.dropWhile p = rest := by
    cases rest with
    | nil => rfl
    | cons c rest =>
      rcases h c rfl with rfl | rfl
      · exact List.dropWhile_cons_of_neg (by simp [hNewline])
      · exact List.dropWhile_cons_of_neg (by simp [hEscape])
  rw [List.dropWhile_append, hRest]
  split
  · rename_i hEmpty
    rw [List.isEmpty_iff.1 hEmpty, List.nil_append]
  · rfl

theorem sequenceRest_of_stops (h : Stops rest) : sequenceRest rest = none := by
  cases rest with
  | nil => rfl
  | cons c rest =>
    rcases h c rfl with rfl | rfl
    · rfl
    · rfl

/-- A sequence that has not ended before the text does not end in it either. -/
theorem sequenceRest_append (h : Stops rest) (cs : List Char) :
    sequenceRest (cs ++ rest) = (sequenceRest cs).map (· ++ rest) := by
  cases cs with
  | nil => exact sequenceRest_of_stops h
  | cons c cs =>
    rw [List.cons_append, sequenceRest, sequenceRest]
    by_cases hBracket : c = '['
    · rw [if_pos hBracket, if_pos hBracket, dropWhile_append_of_stops rfl rfl h,
        dropWhile_append_of_stops rfl rfl h]
      cases (cs.dropWhile (between '0' · '?')).dropWhile (between ' ' · '/') with
      | nil =>
        cases rest with
        | nil => rfl
        | cons d rest =>
          rcases h d rfl with rfl | rfl
          · rfl
          · rfl
      | cons final body =>
        rw [List.cons_append]
        dsimp only
        split
        · rfl
        · rfl
    · rw [if_neg hBracket, if_neg hBracket]
      split
      · rfl
      · rfl

theorem strippedChars_sequence {cs after : List Char} (h : sequenceRest cs = some after) :
    strippedChars ('\x1b' :: cs) = strippedChars after := by
  rw [strippedChars, if_pos rfl]
  split
  · rename_i other hOther
    rw [h] at hOther
    rw [Option.some.inj hOther]
  · rename_i hNone
    rw [h] at hNone
    cases hNone

theorem strippedChars_lone {cs : List Char} (h : sequenceRest cs = none) :
    strippedChars ('\x1b' :: cs) = '\x1b' :: strippedChars cs := by
  rw [strippedChars, if_pos rfl]
  split
  · rename_i hSome
    rw [h] at hSome
    cases hSome
  · rfl

theorem strippedChars_cons {c : Char} (h : c ≠ '\x1b') (cs : List Char) :
    strippedChars (c :: cs) = c :: strippedChars cs := by
  rw [strippedChars, if_neg h]

/-- A text is stripped in pieces if no sequence of the first piece can go on in the second. -/
theorem strippedChars_append (h : Stops rest) (cs : List Char) :
    strippedChars (cs ++ rest) = strippedChars cs ++ strippedChars rest := by
  fun_induction strippedChars cs with
  | case1 => rfl
  | case2 cs after hAfter ih =>
    have hSequence : sequenceRest (cs ++ rest) = some (after ++ rest) := by
      rw [sequenceRest_append h, hAfter]
      rfl
    rw [List.cons_append, strippedChars_sequence hSequence, ih]
  | case3 cs hNone ih =>
    have hLone : sequenceRest (cs ++ rest) = none := by
      rw [sequenceRest_append h, hNone]
      rfl
    rw [List.cons_append, strippedChars_lone hLone, ih, List.cons_append]
  | case4 c cs hNot ih => rw [List.cons_append, strippedChars_cons hNot, ih, List.cons_append]

theorem strippedChars_append_of_not_mem {cs : List Char} (h : '\x1b' ∉ cs) (rest : List Char) :
    strippedChars (cs ++ rest) = cs ++ strippedChars rest := by
  induction cs with
  | nil => rfl
  | cons c cs ih =>
    have hNot : c ≠ '\x1b' := fun hSame => h (hSame ▸ List.mem_cons_self)
    rw [List.cons_append, strippedChars_cons hNot, ih fun hMem => h (List.mem_cons_of_mem c hMem),
      List.cons_append]

/-! ### Codes of styles -/

theorem exists_code (style : Style) : ∃ cs, style.code.toList = '\x1b' :: cs ∧
    ∀ rest, sequenceRest (cs ++ rest) = some rest := by
  cases style <;> exact ⟨_, rfl, fun _ => rfl⟩

theorem strippedChars_code (style : Style) (rest : List Char) :
    strippedChars (style.code.toList ++ rest) = strippedChars rest := by
  obtain ⟨cs, hCode, hSequence⟩ := exists_code style
  rw [hCode, List.cons_append, strippedChars_sequence (hSequence rest)]

theorem strippedChars_codes (styles : List Style) (rest : List Char) :
    strippedChars ((String.join (styles.map Style.code)).toList ++ rest) = strippedChars rest := by
  induction styles with
  | nil => rfl
  | cons style styles ih =>
    rw [List.map_cons, String.join_cons, String.toList_append, List.append_assoc,
      strippedChars_code, ih]

theorem stops_code (style : Style) (rest : List Char) : Stops (style.code.toList ++ rest) := by
  obtain ⟨cs, hCode, -⟩ := exists_code style
  rw [hCode]
  exact stops_escape _

/-! ### Texts -/

/-- The text holds no escape. -/
def Free (text : String) : Prop := '\x1b' ∉ text.toList

instance (text : String) : Decidable (Free text) := inferInstanceAs (Decidable (_ ∉ _))

theorem stripped_append {rest : String} (h : Stops rest.toList) (front : String) :
    stripped (front ++ rest) = stripped front ++ stripped rest := by
  rw [stripped, String.toList_append, strippedChars_append h, String.ofList_append]
  rfl

theorem stripped_free_append {front : String} (h : Free front) (rest : String) :
    stripped (front ++ rest) = front ++ stripped rest := by
  rw [stripped, String.toList_append, strippedChars_append_of_not_mem h, String.ofList_append,
    String.ofList_toList]
  rfl

theorem stripped_empty : stripped "" = "" := by
  simp [stripped, strippedChars]

theorem stripped_of_free {text : String} (h : Free text) : stripped text = text := by
  have hText := stripped_free_append h ""
  rwa [stripped_empty, String.append_empty] at hText

/-- The end of a line ends whatever has begun on it. -/
theorem stripped_append_newline (front rest : String) :
    stripped (front ++ "\n" ++ rest) = stripped front ++ "\n" ++ stripped rest := by
  have hStops : Stops ("\n" ++ rest).toList := by
    rw [String.toList_append]
    exact stops_newline _
  rw [String.append_assoc, stripped_append hStops, stripped_free_append (by decide),
    String.append_assoc]

theorem stripped_intercalate_newline (lines : List String) :
    stripped ("\n".intercalate lines) = "\n".intercalate (lines.map stripped) := by
  induction lines with
  | nil => exact stripped_empty
  | cons line lines ih =>
    cases lines with
    | nil => simp
    | cons next lines =>
      rw [String.intercalate_cons_cons, stripped_append_newline, ih]
      exact String.intercalate_cons_cons.symm

/-- What is painted is stripped apart from what stands behind it. Without colours this needs an end
of the painted text, or that no sequence begins in it. -/
theorem stripped_paint_append (coloured : Bool) (styles : List Style) {text rest : String}
    (h : Stops rest.toList ∨ Free text) :
    stripped (paint coloured styles text ++ rest) = stripped text ++ stripped rest := by
  by_cases hPainted : (coloured && !styles.isEmpty) = true
  · have hStops : Stops (Style.reset.code ++ rest).toList := by
      rw [String.toList_append]
      exact stops_code _ _
    have hReset : stripped (Style.reset.code ++ rest) = stripped rest := by
      rw [stripped, String.toList_append, strippedChars_code]
      rfl
    rw [paint, if_pos hPainted, String.append_assoc, String.append_assoc, stripped,
      String.toList_append, strippedChars_codes, ← stripped, stripped_append hStops, hReset]
  · rw [paint, if_neg hPainted]
    rcases h with hStops | hFree
    · exact stripped_append hStops text
    · rw [stripped_free_append hFree, stripped_of_free hFree]

theorem stripped_paint (coloured : Bool) (styles : List Style) (text : String) :
    stripped (paint coloured styles text) = stripped text := by
  have hText : stripped (paint coloured styles text ++ "") = stripped text ++ stripped "" :=
    stripped_paint_append coloured styles (.inl stops_nil)
  rwa [String.append_empty, stripped_empty, String.append_empty] at hText

/-! ### Texts without escapes -/

theorem free_append {front rest : String} (hFront : Free front) (hRest : Free rest) :
    Free (front ++ rest) := by
  rw [Free, String.toList_append, List.mem_append]
  exact fun h => h.elim hFront hRest

theorem free_replicate {c : Char} (h : c ≠ '\x1b') (n : Nat) :
    Free (String.ofList (List.replicate n c)) := by
  rw [Free, String.toList_ofList]
  exact fun hMem => h (List.eq_of_mem_replicate hMem).symm

theorem free_toString_nat (n : Nat) : Free (toString n) := by
  intro h
  rw [Nat.toString_eq_repr, Nat.toList_repr] at h
  have hDigit := Nat.isDigit_of_mem_toDigits (by decide) (by decide) h
  cases hDigit

theorem free_toString_int (n : Int) : Free (toString n) := by
  cases n with
  | ofNat n => exact free_toString_nat n
  | negSucc n => exact free_append (by decide) (free_toString_nat (n + 1))

theorem free_intercalate {separator : String} (hSeparator : Free separator) {lines : List String}
    (h : ∀ line ∈ lines, Free line) : Free (separator.intercalate lines) := by
  induction lines with
  | nil => exact List.not_mem_nil
  | cons line lines ih =>
    have hLine : Free line := h line List.mem_cons_self
    have hLines := ih fun later hLater => h later (List.mem_cons_of_mem line hLater)
    cases lines with
    | nil => rwa [String.intercalate_singleton]
    | cons next lines =>
      rw [String.intercalate_cons_cons]
      exact free_append (free_append hLine hSeparator) hLines

end Palette

/-! ### Snippets -/

namespace Snippet

open Palette

theorem free_paddedNumber (n : Int) : Free (paddedNumber n) :=
  free_append (free_replicate (by decide) _) (free_toString_int n)

theorem free_mark (wrong : Bool) (number : Int) :
    Free ((if wrong then ">" else " ") ++ paddedNumber number) := by
  refine free_append ?_ (free_paddedNumber number)
  split
  · decide
  · decide

theorem stripped_bar_append (coloured : Bool) (rest : String) :
    stripped (bar coloured ++ rest) = "   |" ++ stripped rest := by
  rw [bar, surroundings, stripped_paint_append _ _ (.inr (by decide)),
    stripped_of_free (by decide)]

theorem stripped_bar (coloured : Bool) : stripped (bar coloured) = "   |" :=
  (stripped_paint coloured _ _).trans (stripped_of_free (by decide))

theorem stripped_caretLine (coloured : Bool) (caret : String) :
    stripped (bar coloured ++ " " ++ wrongLine coloured caret) =
      "   |" ++ (" " ++ stripped caret) := by
  rw [String.append_assoc, stripped_bar_append, stripped_free_append (by decide), wrongLine,
    stripped_paint]

/-- What stands before the text of a line holds no escapes, so that nothing is drawn into it. -/
theorem stripped_formatLine (coloured : Bool) (number : Int) (text : String) (wrong : Bool) :
    stripped (formatLine coloured number text wrong) =
      (if wrong then ">" else " ") ++ paddedNumber number ++ (" | " ++ stripped text) := by
  have hNumber := free_mark wrong number
  have hText : stripped (if wrong then wrongLine coloured text else surroundings coloured text) =
      stripped text := by
    split
    · exact stripped_paint coloured _ text
    · exact stripped_paint coloured _ text
  rw [formatLine, lineNumber, String.append_assoc, stripped_paint_append _ _ (.inr hNumber),
    stripped_of_free hNumber, stripped_free_append (by decide), hText]

theorem stripped_format (coloured : Bool) (snippet : Snippet) :
    stripped (snippet.format coloured) = stripped (snippet.format false) := by
  simp only [format, stripped_intercalate_newline, List.map_append, List.map_cons, List.map_map,
    List.map_nil, Function.comp_def, stripped_bar, stripped_caretLine, stripped_formatLine]

theorem free_bar : Free (bar false) := by decide

theorem free_formatLine {number : Int} {text : String} (h : Free text) (wrong : Bool) :
    Free (formatLine false number text wrong) := by
  refine free_append (free_append (free_mark wrong number) (by decide)) ?_
  split
  · exact h
  · exact h

theorem free_format {snippet : Snippet} (h : ∀ line ∈ snippet.lines, Free line.2) :
    Free (snippet.format false) := by
  refine free_intercalate (by decide) fun line hLine => ?_
  simp only [List.mem_append, List.mem_cons, List.mem_map, List.not_mem_nil, or_false] at hLine
  rcases hLine with ((rfl | ⟨numbered, hNumbered, rfl⟩) | ⟨column, hColumn, rfl⟩) | rfl
  · exact free_bar
  · exact free_formatLine (h numbered hNumbered) _
  · refine free_append (free_append free_bar (by decide)) ?_
    rw [wrongLine, paint_plain, String.ofList_append]
    exact free_append (free_replicate (by decide) _) (by decide)
  · exact free_bar

/-- The lines that a snippet shows hold no escapes if the source holds none. -/
theorem free_line_of_atOffset {source : String} {offset : Int} {snippet : Snippet}
    (hSource : Free source) (h : atOffset (some source) (some offset) = some snippet) :
    ∀ line ∈ snippet.lines, Free line.2 := by
  unfold atOffset at h
  dsimp only at h
  split at h
  · cases h
  · cases h
    rintro ⟨number, text⟩ hLine hMem
    obtain ⟨i, -, -, hText, -⟩ := mem_around_iff.1 hLine
    exact hSource (Text.mem_shownLines (List.mem_of_getElem? hText) hMem).1

end Snippet

/-! ### Errors -/

open Palette

theorem CompileError.stripped_message (coloured : Bool) (e : CompileError) :
    stripped (e.message coloured) = stripped (e.message false) := by
  unfold message
  split
  · rw [stripped_append_newline, stripped_append_newline, Snippet.stripped_format]
  · rfl

theorem RenderError.stripped_locationLine (coloured : Bool) (e : RenderError) :
    (e.locationLine coloured).map stripped = (e.locationLine false).map stripped := by
  have hLine (coloured : Bool) (location : String) :
      stripped ("  Location: " ++ Palette.place coloured location) =
        "  Location: " ++ stripped location := by
    rw [stripped_free_append (by decide), Palette.place, stripped_paint]
  simp only [locationLine, List.map_map, Function.comp_def, hLine]

theorem RenderError.stripped_message (coloured : Bool) (e : RenderError) :
    stripped (e.message coloured) = stripped (e.message false) := by
  simp only [message, stripped_intercalate_newline, List.map_append, List.map_cons, List.map_map,
    Function.comp_def, stripped_locationLine coloured, Snippet.stripped_format coloured]

theorem Palette.stripped_header (coloured : Bool) (code : Option ErrorCode) (message : String) :
    stripped (header coloured (code.map ErrorCode.text) message) =
      stripped (header false (code.map ErrorCode.text) message) := by
  cases code with
  | none => rfl
  | some code =>
    have hCode : Free code.text := by cases code <;> decide
    have hSome : code.text ≠ "" := by cases code <;> decide
    have hHeader (coloured : Bool) : stripped (header coloured (some code.text) message) =
        code.text ++ stripped (": " ++ message) := by
      rw [header, if_neg hSome, errorCode, String.append_assoc,
        stripped_paint_append _ _ (.inr hCode), stripped_of_free hCode]
    exact (hHeader coloured).trans (hHeader false).symm

theorem RenderError.stripped_compact (coloured : Bool) (e : RenderError) :
    stripped (e.compact coloured) = stripped (e.compact false) := by
  simp only [compact, stripped_intercalate_newline, List.map_cons, stripped_header coloured,
    stripped_locationLine coloured]

theorem TemplateError.stripped_message (coloured : Bool) (error : TemplateError) :
    stripped (error.message coloured) = stripped (error.message false) := by
  cases error with
  | bare words code => rfl
  | compile error => exact error.stripped_message coloured
  | render error => exact error.stripped_message coloured

theorem TemplateError.stripped_compact (coloured : Bool) (error : TemplateError) :
    stripped (error.compact coloured) = stripped (error.compact false) := by
  cases error with
  | bare words code => cases code <;> rfl
  | compile error => rfl
  | render error => exact error.stripped_compact coloured

def Place.texts (place : Place) : List String := place.source.toList ++ place.templateName.toList

/-- The texts that an error is made of: its words, the names in it and the source. -/
def TemplateError.texts : TemplateError → List String
  | bare words _ => [words]
  | compile error => error.cause.words :: error.place.texts
  | render error =>
    error.cause.words :: (error.helper.toList ++ error.inclusion.toList ++ error.place.texts)

theorem Place.free_snippet {place : Place} (h : ∀ text ∈ place.texts, Free text) {snippet : Snippet}
    (hSnippet : place.snippet? = some snippet) : Free (snippet.format false) := by
  obtain ⟨source, offset, name⟩ := place
  cases source with
  | none => cases hSnippet
  | some source =>
    cases offset with
    | none => cases hSnippet
    | some offset =>
      have hSource : Free source := h source List.mem_cons_self
      exact Snippet.free_format (Snippet.free_line_of_atOffset hSource hSnippet)

theorem Place.free_shownName {place : Place} (h : ∀ text ∈ place.texts, Free text) :
    Free place.shownName := by
  unfold shownName
  split
  · decide
  · rename_i name hName
    split
    · decide
    · exact h name (List.mem_append_right _ (by simp [hName]))

theorem CompileError.free_headline {e : CompileError} (hWords : Free e.cause.words)
    (h : ∀ text ∈ e.place.texts, Free text) : Free e.headline := by
  refine free_append (free_append hWords (by decide)) ?_
  unfold location
  split
  · exact free_append (free_append (free_append (free_append (Place.free_shownName h) (by decide))
      (free_toString_nat _)) (by decide)) (free_toString_nat _)
  · exact Place.free_shownName h

theorem CompileError.free_message {e : CompileError} (hWords : Free e.cause.words)
    (h : ∀ text ∈ e.place.texts, Free text) : Free (e.message false) := by
  unfold message
  split
  · rename_i snippet hSnippet
    exact free_append (free_append (free_headline hWords h) (by decide))
      (Place.free_snippet h hSnippet)
  · exact free_headline hWords h

theorem ErrorCode.free_text (code : ErrorCode) : Free code.text := by
  cases code <;> decide

theorem CompileError.free_compact {e : CompileError} (hWords : Free e.cause.words)
    (h : ∀ text ∈ e.place.texts, Free text) : Free e.compact := by
  unfold compact
  split
  · exact free_append (free_append (ErrorCode.free_text _) (by decide)) (free_headline hWords h)
  · exact free_headline hWords h

theorem RenderError.free_locationLine {e : RenderError} (h : ∀ text ∈ e.place.texts, Free text) :
    ∀ line ∈ e.locationLine false, Free line := by
  intro line hLine
  obtain ⟨location, hLocation, rfl⟩ := List.mem_map.1 hLine
  refine free_append (by decide) ?_
  rw [Option.mem_toList, location?] at hLocation
  split at hLocation
  · cases hLocation
    exact free_append (free_append (Place.free_shownName h) (by decide)) (free_toString_nat _)
  · obtain ⟨hName, -⟩ := Option.filter_eq_some_iff.1 hLocation
    exact h location (List.mem_append_right _ (by simp [hName]))

theorem RenderError.free_message {e : RenderError}
    (h : ∀ text ∈ (TemplateError.render e).texts, Free text) : Free (e.message false) := by
  obtain ⟨hWords, h⟩ := List.forall_mem_cons.1 h
  obtain ⟨hNames, hPlace⟩ := List.forall_mem_append.1 h
  obtain ⟨hHelper, hInclusion⟩ := List.forall_mem_append.1 hNames
  have hNamed {label : String} (hLabel : Free label) {name : Option String}
      (hName : ∀ text ∈ name.toList, Free text) :
      ∀ line ∈ (name.filter (· ≠ "")).toList.map fun name => "  " ++ label ++ ": " ++ name,
        Free line := by
    intro line hLine
    obtain ⟨text, hText, rfl⟩ := List.mem_map.1 hLine
    obtain ⟨hSome, -⟩ := Option.filter_eq_some_iff.1 (Option.mem_toList.1 hText)
    refine free_append (free_append (free_append (by decide) hLabel) (by decide)) ?_
    exact hName text (Option.mem_toList.2 hSome)
  refine free_intercalate (by decide) fun line hLine => ?_
  simp only [List.mem_append, List.mem_cons] at hLine
  rcases hLine with (((rfl | hLine) | hLine) | hLine) | hLine
  · exact free_append (by decide) hWords
  · exact hNamed (by decide) hHelper line hLine
  · exact hNamed (by decide) hInclusion line hLine
  · exact free_locationLine hPlace line hLine
  · obtain ⟨snippet, hSnippet, rfl⟩ := List.mem_map.1 hLine
    exact Place.free_snippet hPlace (Option.mem_toList.1 hSnippet)

theorem RenderError.free_compact {e : RenderError}
    (h : ∀ text ∈ (TemplateError.render e).texts, Free text) : Free (e.compact false) := by
  obtain ⟨hWords, h⟩ := List.forall_mem_cons.1 h
  obtain ⟨-, hPlace⟩ := List.forall_mem_append.1 h
  refine free_intercalate (by decide) fun line hLine => ?_
  rcases List.mem_cons.1 hLine with rfl | hLine
  · unfold header
    split
    · exact hWords
    · rename_i code hCode
      obtain ⟨code, -, rfl⟩ := Option.map_eq_some_iff.1 hCode
      split
      · exact hWords
      · exact free_append (free_append (ErrorCode.free_text code) (by decide)) hWords
  · exact free_locationLine hPlace line hLine

namespace TemplateError

theorem free_message {error : TemplateError} (h : ∀ text ∈ error.texts, Free text) :
    Free (error.message false) := by
  cases error with
  | bare words code => exact h words List.mem_cons_self
  | compile error =>
    obtain ⟨hWords, hPlace⟩ := List.forall_mem_cons.1 h
    exact CompileError.free_message hWords hPlace
  | render error => exact RenderError.free_message h

theorem free_compact {error : TemplateError} (h : ∀ text ∈ error.texts, Free text) :
    Free (error.compact false) := by
  cases error with
  | bare words code =>
    have hWords : Free words := h words List.mem_cons_self
    cases code with
    | none => exact hWords
    | some code =>
      rw [compact]
      split
      · exact hWords
      · exact free_append (free_append (ErrorCode.free_text code) (by decide)) hWords
  | compile error =>
    obtain ⟨hWords, hPlace⟩ := List.forall_mem_cons.1 h
    exact CompileError.free_compact hWords hPlace
  | render error => exact RenderError.free_compact h

/-- A diagnostic says the same with and without colours, in its long and in its short form: once
escape sequences are removed from both there is no difference, whatever the words, the names and the
source hold. If these hold no escapes, then removing the colours gives the plain text. -/
theorem colours_say_nothing (error : TemplateError) :
    stripped (error.message true) = stripped (error.message false) ∧
      stripped (error.compact true) = stripped (error.compact false) ∧
      ((∀ text ∈ error.texts, '\x1b' ∉ text.toList) →
        stripped (error.message true) = error.message false ∧
          stripped (error.compact true) = error.compact false) := by
  have hMessage := error.stripped_message true
  have hCompact := error.stripped_compact true
  refine ⟨hMessage, hCompact, fun h => ⟨?_, ?_⟩⟩
  · rw [hMessage, stripped_of_free (free_message h)]
  · rw [hCompact, stripped_of_free (free_compact h)]

/-- An unknown helper on the second line of a partial. -/
theorem colours_say_nothing_row :
    let error : TemplateError := .render (.ofCause (.unknownHelper "nope")
      ⟨some "a\n \x7b\x7bnope x\x7d\x7d", some 3, some "row"⟩)
    (∀ text ∈ error.texts, '\x1b' ∉ text.toList) ∧
      error.message true ≠ error.message false ∧
      stripped (error.message true) = error.message false ∧
      stripped (error.compact true) = "C-RUN-002: Unknown helper: nope\n  Location: row:2" := by
  intro error
  have hFree : ∀ text ∈ error.texts, '\x1b' ∉ text.toList := by decide
  obtain ⟨-, -, hPlain⟩ := colours_say_nothing error
  obtain ⟨hMessage, hCompact⟩ := hPlain hFree
  have hPainted : error.message true ≠ error.message false := by decide +kernel
  have hText : error.compact false = "C-RUN-002: Unknown helper: nope\n  Location: row:2" := by
    decide +kernel
  exact ⟨hFree, hPainted, hMessage, hCompact.trans hText⟩

end TemplateError

end Stencil
