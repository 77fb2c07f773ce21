import Stencil.Proofs.Cycles
import Stencil.Proofs.Location

/-!
What errors say about where they arose. An error that the engine reports at a node carries the
source and the offset of the node, and its message shows the line there. An error about a cycle of
partials is the only one that does not: it carries the name of the template and nothing else.
-/

namespace Stencil

/-! ### Messages that show a place -/

/-- The error carries the source and the offset, and its message ends with the number of the line
there and a snippet about it. -/
structure RenderError.SaysWhere (error : RenderError) (source : String) (offset : Nat) : Prop where
  hasSource : error.place.source = some source
  hasOffset : error.place.offset = some (offset : Int)
  shown : ∃ snippet, error.place.snippet? = some snippet ∧
    snippet.errorLine = (Position.ofOffset source offset).line ∧
    ∀ coloured, ∃ words, error.message coloured = words ++ "\n" ++ ("  Location: " ++
      Palette.place coloured (error.place.shownName ++ ":" ++
        toString (Position.ofOffset source offset).line)) ++ "\n" ++ snippet.format coloured

namespace RenderError

variable {error : RenderError} {source : String} {offset : Nat}

/-- The last line of a text stands behind everything else. -/
theorem intercalate_concat {lines : List String} (h : lines ≠ []) (last : String) :
    "\n".intercalate (lines ++ [last]) = "\n".intercalate lines ++ "\n" ++ last := by
  rw [String.intercalate_append_of_ne_nil h (List.cons_ne_nil _ _), String.intercalate_singleton]

theorem saysWhere_of_place (hSource : error.place.source = some source)
    (hOffset : error.place.offset = some (offset : Int)) (hSome : source ≠ "") :
    error.SaysWhere source offset := by
  have hSnippet : error.place.snippet? = some (.around source (Position.ofOffset source offset).line
      2 (some (Position.ofOffset source offset).column)) := by
    rw [Place.snippet?, hSource, hOffset]
    exact if_neg hSome
  refine ⟨hSource, hOffset, _, hSnippet, rfl, fun coloured => ?_⟩
  have hLocation : error.location? =
      some (error.place.shownName ++ ":" ++ toString (Position.ofOffset source offset).line) := by
    rw [location?, Place.position?, hSource, hOffset]
  simp only [message, locationLine, hLocation, hSnippet, Option.toList_some, List.map_cons,
    List.map_nil]
  rw [intercalate_concat (by simp), intercalate_concat (by simp)]
  exact ⟨_, rfl⟩

end RenderError

namespace Render

variable {setup : Setup} {site : Site}

/-! ### What the engine reports -/

/-- The engine itself reports the error at the node: for a fault that something done there raises,
or because the node is refused. -/
inductive Site.Reports (setup : Setup) (site : Site) : RenderError → Prop
  | fault {deed : Deed} {state : State} {fault : Fault} (hDone : site.Performs setup deed state)
      (hRaises : site.Raises setup deed state (.fault fault)) (hWords : fault.raised? = none) :
      Reports setup site (.ofCause (deed.cause fault) site.place)
  | refusal {error : RenderError} (h : site.Refuses setup (.render error)) :
      Reports setup site error

/-- A helper that is called at the node may raise the error of its own accord. -/
def Site.LetsRaise (setup : Setup) (site : Site) (error : RenderError) : Prop :=
  ∃ helper name given children state, site.Performs setup (.call helper name given children) state ∧
    (helper.act given).MayRaise (.error (.render error))

theorem Site.Explains.reports_or {error : RenderError} (h : site.Explains setup (.render error)) :
    site.Reports setup error ∨ site.LetsRaise setup error := by
  cases h with
  | report hDone hRaises hWords => exact .inl (.fault hDone hRaises hWords)
  | own hDone hMay => exact .inr ⟨_, _, _, _, _, hDone, hMay⟩
  | refusal hRefused => exact .inl (.refusal hRefused)

/-- What is reported is either about a cycle, and then only the name of the template is known, or it
carries the place of the node. -/
theorem Site.Reports.place {error : RenderError} (h : site.Reports setup error) :
    IsCycle error ∧ error.place = { templateName := site.frame.templateName } ∨
      ¬ IsCycle error ∧ error.place = site.place := by
  cases h with
  | @fault deed => cases deed <;> exact .inr ⟨nofun, rfl⟩
  | refusal hRefused =>
    cases hRefused with
    | cycle => exact .inl ⟨rfl, rfl⟩
    | _ => exact .inr ⟨nofun, rfl⟩

/-- Everything that is reported in a render of the template, at whatever depth, says where: in the
source that is rendered there, at the token with which the node begins. Only an error about a cycle
carries neither source nor offset. -/
def AllSayWhere (setup : Setup) (template : Template) (task : Task) : Prop :=
  ∀ path site error, Leads setup task path site → site.Reports setup error →
    ∃ source token,
      (match path.getLast? with
        | none => source = template.source ∧ site.frame.templateName = template.name
        | some name => setup.partials.find? name = some source ∧
            site.frame.templateName = some name) ∧
      token ∈ tokenize source ∧ token.Begins site.node ∧
      error.place.templateName = site.frame.templateName ∧
      (IsCycle error → error.place.source = none ∧ error.place.offset = none) ∧
      (¬ IsCycle error → error.SaysWhere source token.offset)

/-- The error arises at a node that the render leads to, and it is the engine that reports it, or a
helper that is called there raises it. -/
def ArisesFrom (setup : Setup) (task : Task) (error : RenderError) : Prop :=
  ∃ path site, Leads setup task path site ∧ site.Originates setup (.render error) ∧
    (site.Reports setup error ∨ site.LetsRaise setup error)

theorem exists_arising {task : Task} {error : RenderError}
    (h : (task.outcome setup).1 = .error (.error (.render error))) :
    ArisesFrom setup task error := by
  obtain ⟨path, site, hLeads, hOrigin⟩ := exists_origin task h
  exact ⟨path, site, hLeads, hOrigin, hOrigin.explains.reports_or⟩

end Render

namespace Engine

open Render

theorem allSayWhere {engine : Engine} (hFaithful : engine.Faithful) {template : Template}
    (hTemplate : template.IsCompiled) (context : Value) (named : List (String × Value)) :
    AllSayWhere engine.setup template (engine.task template context named) := by
  intro path site error hLeads hReports
  obtain ⟨source, token, -, hSource, hWhere, hToken, hBegins⟩ :=
    hLeads.exists_token hFaithful hTemplate
  have hSome : source ≠ "" := by
    rintro rfl
    exact absurd hToken (by simp [tokenize, Lexeme.ofChars, Lexeme.ofCharsIn, Lexeme.tokensFrom])
  refine ⟨source, token, hWhere, hToken, hBegins, ?_⟩
  rcases hReports.place with ⟨hCycle, hPlace⟩ | ⟨hCycle, hPlace⟩
  · rw [hPlace]
    exact ⟨rfl, fun _ => ⟨rfl, rfl⟩, fun hOther => absurd hCycle hOther⟩
  · refine ⟨hPlace ▸ rfl, fun hOther => absurd hOther hCycle, fun _ => ?_⟩
    refine RenderError.saysWhere_of_place (hPlace ▸ hSource) ?_ hSome
    rw [hPlace, hBegins.1]
    rfl

/-- Whatever the engine reports in a render, however deep in blocks and partials, carries the source
and the offset of the node that was being rendered, and shows them in its message, unless it is
about a cycle of partials. An error that ends a render is one of these, or a helper made it up. -/
theorem reports_say_where (machine : Machine) (options : Options) (operations : List Operation) :
    let engine := (new machine options).performAll operations
    (∀ (template : Template) (context : Value) (named : List (String × Value)),
        template.IsCompiled →
        AllSayWhere engine.setup template (engine.task template context named) ∧
          ∀ error, (engine.call template context named).1 = .error (.error (.render error)) →
            ArisesFrom engine.setup (engine.task template context named) error) ∧
      ∀ (source : String) (context : Value) (overrides : Overrides) (error : RenderError),
        (engine.render source context overrides).1 = .error (.error (.render error)) →
        ∃ template after, engine.compile source none overrides = (.ok template, after) ∧
          template.source = source ∧ template.name = none ∧
          AllSayWhere engine.setup template (after.task template context []) ∧
          ArisesFrom engine.setup (after.task template context []) error := by
  intro engine
  have hFaithful : engine.Faithful := faithful_performAll machine options operations
  refine ⟨fun template context named hTemplate =>
    ⟨allSayWhere hFaithful hTemplate context named, fun error h => exists_arising h⟩, ?_⟩
  intro source context overrides error h
  obtain ⟨template, after, hCompile, ⟨hTemplate, hSource, hName, hAfter⟩, hSetup, hCall⟩ :=
    exists_call_of_render hFaithful h
  have hAll := allSayWhere hAfter hTemplate context []
  have hArises : ArisesFrom after.setup (after.task template context []) error :=
    exists_arising hCall
  rw [hSetup] at hAll hArises
  exact ⟨template, after, hCompile, hSource, hName, hAll, hArises⟩

/-- A partial inside a block asks for a helper that is not known. -/
theorem reports_say_where_inside_row :
    let row := "ab" ++ Node.tag "nope x"
    let engine := (new .small {}).performAll [.registerPartial "row" row]
    let source := Node.tag "#if x" ++ Node.tag "> row" ++ Node.tag "/if"
    let context : Value := .map [(.text "x", .text "y")]
    let error := RenderError.ofCause (.unknownHelper "nope") ⟨some row, some 2, some "row"⟩
    (engine.render source context { strict := some true }).1 = .error (.error (.render error)) ∧
      ¬ IsCycle error ∧ error.SaysWhere row 2 := by
  intro row engine source context error
  have hResult : (engine.render source context { strict := some true }).1 =
      .error (.error (.render error)) := by decide +kernel
  have hCycle : ¬ IsCycle error := nofun
  refine ⟨hResult, hCycle, ?_⟩
  obtain ⟨-, hRender⟩ := reports_say_where .small {} [.registerPartial "row" row]
  obtain ⟨template, after, -, -, -, hAll, path, site, hLeads, -, hReports | hOwn⟩ :=
    hRender source context { strict := some true } error hResult
  · obtain ⟨inner, token, -, -, -, -, -, hWhere⟩ := hAll path site error hLeads hReports
    have hSays := hWhere hCycle
    have hInner : some row = some inner := hSays.hasSource
    have hOffset : some (2 : Int) = some (token.offset : Int) := hSays.hasOffset
    cases Option.some.inj hInner
    have hTwo : token.offset = 2 := by
      have hSame := Option.some.inj hOffset
      omega
    rwa [hTwo] at hSays
  · obtain ⟨helper, name, given, children, state, hDone, hMay⟩ := hOwn
    have hBuiltin : helper.IsBuiltin := every_new .small {} _ _ hDone.found
    exact absurd ⟨given, hMay⟩ (hBuiltin.not_mayRaise _)

/-- A partial that includes itself is refused with an error that has neither a source nor an offset,
and a message without a line. No helper has made it up. -/
theorem cycle_says_nowhere :
    let engine := (new .small {}).performAll [.registerPartial "p" ("x" ++ Node.tag "> p")]
    let error := RenderError.ofCause (.partialCycle "p" ["p"]) { templateName := some "p" }
    (engine.render (Node.tag "> p") .null {}).1 = .error (.error (.render error)) ∧
      ¬ engine.setup.MayRaise (.error (.render error)) ∧
      error.place.source = none ∧ error.place.offset = none ∧
      error.message false =
        "Render Error: partial cycle detected: p (p -> p)\n  Partial: p\n  Location: p" := by
  intro engine error
  refine ⟨by decide +kernel, ?_, rfl, rfl, by decide +kernel⟩
  rintro ⟨name, helper, hFound, hMay⟩
  have hBuiltin : helper.IsBuiltin := every_new .small {} name helper hFound
  exact hBuiltin.not_mayRaise _ hMay

end Engine

end Stencil
