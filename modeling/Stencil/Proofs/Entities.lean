import Stencil.Proofs.Building
import Stencil.Proofs.Inlining
import Stencil.Proofs.Printed

/-!
Escaped text. A text is safe if it holds no character that ends text in markup, and if every
ampersand in it begins an entity. Escaping makes every text safe and loses nothing of it: reading
the entities gives the text back, and every safe text is what some text is escaped to. So no two
texts are shown alike, whether they look like entities or not.
-/

namespace Stencil

namespace Text.Html

/-! ### Entities -/

/-- The characters that mean something in markup, each with the entity that stands for it. -/
def entities : List (Char × String) :=
  [('&', "&amp;"), ('<', "&lt;"), ('>', "&gt;"), ('"', "&quot;"), ('\'', "&#39;")]

/-- The character means nothing in markup. -/
def Ordinary (c : Char) : Prop := c ∉ entities.map Prod.fst

theorem ordinary_iff {c : Char} :
    Ordinary c ↔ c ≠ '&' ∧ c ≠ '<' ∧ c ≠ '>' ∧ c ≠ '"' ∧ c ≠ '\'' := by
  simp [Ordinary, entities]

/-- What holds of all five entities holds of each. -/
theorem entities_cases {P : Char → String → Prop} {c : Char} {entity : String}
    (h : (c, entity) ∈ entities) (hAmpersand : P '&' "&amp;") (hLess : P '<' "&lt;")
    (hGreater : P '>' "&gt;") (hDouble : P '"' "&quot;") (hSingle : P '\'' "&#39;") :
    P c entity := by
  simp only [entities, List.mem_cons, Prod.mk.injEq, List.not_mem_nil, or_false] at h
  obtain ⟨rfl, rfl⟩ | ⟨rfl, rfl⟩ | ⟨rfl, rfl⟩ | ⟨rfl, rfl⟩ | ⟨rfl, rfl⟩ := h
  · exact hAmpersand
  · exact hLess
  · exact hGreater
  · exact hDouble
  · exact hSingle

theorem encodeChar_of_mem {c : Char} {entity : String} (h : (c, entity) ∈ entities) :
    encodeChar c = entity.toList := by
  apply entities_cases h
  all_goals rfl

theorem encodeChar_of_ordinary {c : Char} (h : Ordinary c) : encodeChar c = [c] := by
  simp [encodeChar, ordinary_iff.1 h]

theorem decodeChars_entity {c : Char} {entity : String} (h : (c, entity) ∈ entities)
    (cs : List Char) : decodeChars (entity.toList ++ cs) = c :: decodeChars cs := by
  rw [← encodeChar_of_mem h, decodeChars_encodeChar]

/-- An entity is an ampersand with ordinary characters behind it. -/
theorem exists_name {c : Char} {entity : String} (h : (c, entity) ∈ entities) :
    ∃ name, entity.toList = '&' :: name ∧ ∀ d ∈ name, Ordinary d := by
  have hName (name : List Char) (hAll : ∀ d ∈ name, Ordinary d) :
      ∃ found, '&' :: name = '&' :: found ∧ ∀ d ∈ found, Ordinary d := ⟨name, rfl, hAll⟩
  apply entities_cases h
  · exact hName "amp;".toList (by simp [ordinary_iff])
  · exact hName "lt;".toList (by simp [ordinary_iff])
  · exact hName "gt;".toList (by simp [ordinary_iff])
  · exact hName "quot;".toList (by simp [ordinary_iff])
  · exact hName "#39;".toList (by simp [ordinary_iff])

/-! ### Safe text -/

/-- No character of the text ends text in markup, and every ampersand begins an entity. -/
structure Safe (cs : List Char) : Prop where
  marks : ∀ c ∈ cs, c ≠ '<' ∧ c ≠ '>' ∧ c ≠ '"' ∧ c ≠ '\''
  ampersands : ∀ before after, cs = before ++ '&' :: after →
    ∃ c entity, (c, entity) ∈ entities ∧ entity.toList <+: '&' :: after

namespace Safe

variable {cs front : List Char} {c : Char}

theorem nil : Safe [] := ⟨nofun, fun _ _ h => nomatch List.append_eq_nil_iff.1 h.symm⟩

theorem of_append (h : Safe (front ++ cs)) : Safe cs where
  marks c hc := h.marks c (List.mem_append_right front hc)
  ampersands before after hSame :=
    h.ampersands (front ++ before) after (by rw [hSame, List.append_assoc])

theorem ordinary (hc : Ordinary c) (h : Safe cs) : Safe (c :: cs) := by
  obtain ⟨hAmpersand, hMarks⟩ := ordinary_iff.1 hc
  refine ⟨List.forall_mem_cons.2 ⟨hMarks, h.marks⟩, fun before after hSame => ?_⟩
  cases before with
  | nil =>
    cases hSame
    exact absurd rfl hAmpersand
  | cons b before =>
    cases hSame
    exact h.ampersands before after rfl

theorem name (hName : ∀ c ∈ front, Ordinary c) (h : Safe cs) : Safe (front ++ cs) := by
  induction front with
  | nil => exact h
  | cons c front ih =>
    obtain ⟨hFirst, hLater⟩ := List.forall_mem_cons.1 hName
    exact (ih hLater).ordinary hFirst

theorem entity {entity : String} (hEntity : (c, entity) ∈ entities) (h : Safe cs) :
    Safe (entity.toList ++ cs) := by
  obtain ⟨name, hChars, hName⟩ := exists_name hEntity
  have hTail : Safe (name ++ cs) := h.name hName
  rw [hChars, List.cons_append]
  refine ⟨List.forall_mem_cons.2 ⟨by decide, hTail.marks⟩, fun before after hSame => ?_⟩
  cases before with
  | nil =>
    cases hSame
    exact ⟨c, entity, hEntity, hChars ▸ List.prefix_append ('&' :: name) cs⟩
  | cons b before => exact hTail.ampersands before after (List.cons.inj hSame).2

theorem encodeChar (c : Char) (h : Safe cs) : Safe (encodeChar c ++ cs) := by
  by_cases hc : Ordinary c
  · rw [encodeChar_of_ordinary hc]
    exact h.ordinary hc
  · obtain ⟨⟨c, text⟩, hEntity, rfl⟩ := List.mem_map.1 (not_not.1 hc)
    rw [encodeChar_of_mem hEntity]
    exact h.entity hEntity

theorem flatMap (cs : List Char) : Safe (cs.flatMap Html.encodeChar) := by
  induction cs with
  | nil => exact nil
  | cons c cs ih =>
    rw [List.flatMap_cons]
    exact ih.encodeChar c

/-- Escaping writes again what was read. -/
theorem flatMap_decodeChars {cs : List Char} (h : Safe cs) :
    (decodeChars cs).flatMap Html.encodeChar = cs := by
  -- An entity is read in one go, so the induction is on the length of what is left.
  match cs with
  | [] => rfl
  | c :: later =>
    by_cases hc : c = '&'
    · subst hc
      obtain ⟨c, entity, hEntity, rest, hSame⟩ := h.ampersands [] later rfl
      rw [← hSame] at h ⊢
      have hRest : rest.length < later.length + 1 := by
        obtain ⟨name, hChars, -⟩ := exists_name hEntity
        have hLength := congrArg List.length hSame
        rw [hChars] at hLength
        simp at hLength
        omega
      rw [decodeChars_entity hEntity, List.flatMap_cons, encodeChar_of_mem hEntity,
        flatMap_decodeChars h.of_append]
    · have hOrdinary : Ordinary c := ordinary_iff.2 ⟨hc, h.marks c List.mem_cons_self⟩
      have hLater : Safe later := of_append (show Safe ([c] ++ later) from h)
      rw [decodeChars_cons hc, List.flatMap_cons, encodeChar_of_ordinary hOrdinary,
        flatMap_decodeChars hLater, List.singleton_append]
termination_by cs.length

end Safe

/-! ### Escaping -/

theorem safe_escape (s : String) : Safe (escape s).toList := by
  rw [escape, String.toList_ofList]
  exact Safe.flatMap s.toList

/-- The safe texts are those that texts are escaped to. -/
theorem safe_iff {s : String} : Safe s.toList ↔ escape (unescape s) = s := by
  constructor
  · intro h
    rw [escape, unescape, String.toList_ofList, h.flatMap_decodeChars, String.ofList_toList]
  · intro h
    rw [← h]
    exact safe_escape (unescape s)

theorem escape_inj {s t : String} : escape s = escape t ↔ s = t := by
  constructor
  · intro h
    rw [← unescape_escape s, h, unescape_escape]
  · exact congrArg escape

theorem flatMap_encodeChar_of_ordinary {cs : List Char} (h : ∀ c ∈ cs, Ordinary c) :
    cs.flatMap encodeChar = cs := by
  induction cs with
  | nil => rfl
  | cons c cs ih =>
    obtain ⟨hFirst, hLater⟩ := List.forall_mem_cons.1 h
    rw [List.flatMap_cons, encodeChar_of_ordinary hFirst, ih hLater, List.singleton_append]

theorem escape_of_ordinary {s : String} (h : ∀ c ∈ s.toList, Ordinary c) : escape s = s := by
  rw [escape, flatMap_encodeChar_of_ordinary h, String.ofList_toList]

/-- The ampersand of an entity is escaped like any other. -/
theorem escape_entity {c : Char} {name : String} (h : (c, "&" ++ name) ∈ entities) :
    escape ("&" ++ name) = "&amp;" ++ name := by
  obtain ⟨chars, hChars, hName⟩ := exists_name h
  rw [String.toList_append] at hChars
  have hTail : name.toList = chars := (List.cons.inj hChars).2
  have hOrdinary : ∀ d ∈ name.toList, Ordinary d := hTail ▸ hName
  have hAmpersand : escape "&" = "&amp;" := by decide
  rw [escape_append, escape_of_ordinary hOrdinary, hAmpersand]

end Text.Html

open Text

/-! ### Sources with one expression -/

namespace Render

variable {setup : Setup} {frame : Frame}

/-- The text of an expression before it is escaped, in a render that has come to the frame. -/
def shown (setup : Setup) (frame : Frame) (offset : Nat) (path : String) (arguments : List String)
    (filters : List Filter) (context : Value) (metadata : Metadata) : Except Failure String :=
  ((renderOutput setup { frame with noEscape := true } offset path arguments filters context
    metadata).run { history := {}, published := some frame }).1

section Expression

variable (offset : Nat) (path : String) (arguments : List String) (filters : List Filter)
  (context : Value) (metadata : Metadata)

/-- Nothing but the text that comes out depends on whether it is escaped. -/
theorem renderOutput_escaped (hEscapes : frame.noEscape = false) :
    renderOutput setup frame offset path arguments filters context metadata =
      Html.escape <$> renderOutput setup { frame with noEscape := true } offset path arguments
        filters context metadata := by
  have hFrames : Beside (fun _ => False) frame { frame with noEscape := true } :=
    ⟨.inl fun _ => rfl, .inl rfl⟩
  have hSuits : Suits setup (fun _ => False) Eq := .of_look steady_eq (.inl (agree_self published))
  have hAgree : Agree Eq (fun escaped text => escaped = Html.escape text)
      (renderOutput setup frame offset path arguments filters context metadata)
      (renderOutput setup { frame with noEscape := true } offset path arguments filters context
        metadata) := by
    apply AgreeUnless.renderOutput hFrames hSuits
    · rfl
    · intro text _
      rw [hEscapes]
      rfl
  have hMapped := hAgree.map (f := id) (g := Html.escape) (Q := Eq) fun _ _ hSame => hSame
  rw [id_map] at hMapped
  exact eq_of_agree hMapped

/-- The history plays no part in an expression. -/
theorem run_renderOutput_congr {state state' : State} (h : state.published = state'.published) :
    ((renderOutput setup frame offset path arguments filters context metadata).run state).1 =
      ((renderOutput setup frame offset path arguments filters context metadata).run state').1 := by
  let S (state state' : State) : Prop := state.published = state'.published
  have hSuits : Suits setup (fun _ => False) S :=
    .of_look ⟨fun _ h => h, fun _ h => h⟩ (.inl fun _ _ hSame => .inr ⟨.ok hSame, hSame⟩)
  have hAgree : Agree S Eq
      (renderOutput setup frame offset path arguments filters context metadata)
      (renderOutput setup frame offset path arguments filters context metadata) := by
    apply AgreeUnless.renderOutput (Beside.refl _ frame) hSuits
    · rfl
    · exact fun text _ => rfl
  exact (hAgree.of_start h).1.eq

theorem run_renderOutput (hEscapes : frame.noEscape = false) {state : State}
    (hPublished : state.published = some frame) :
    ((renderOutput setup frame offset path arguments filters context metadata).run state).1 =
      (shown setup frame offset path arguments filters context metadata).map Html.escape := by
  rw [renderOutput_escaped _ _ _ _ _ _ hEscapes, run_map]
  apply congrArg (Except.map Html.escape)
  apply run_renderOutput_congr
  exact hPublished

end Expression

/-- Text is rendered as it is printed. -/
theorem renderNodes_text (enter : Entry) (frame : Frame) {nodes : List Node}
    (h : ∀ node ∈ nodes, node.isText = true) (context : Value) (metadata : Metadata) :
    renderNodes setup enter frame nodes context metadata = pure (Node.printAll nodes) := by
  induction nodes with
  | nil => rw [renderNodes, Node.printAll]
  | cons node nodes ih =>
    obtain ⟨hText, hLater⟩ := List.forall_mem_cons.1 h
    cases node with
    | text offset content =>
      rw [renderNodes, renderNode, pure_bind, ih hLater, pure_bind, Node.printAll, Node.print]
    | output | block | inclusion => cases hText

/-- An expression between texts is rendered to its text between them. -/
theorem renderNodes_expression (enter : Entry) (frame : Frame) {front back : List Node}
    (hFront : ∀ node ∈ front, node.isText = true) (hBack : ∀ node ∈ back, node.isText = true)
    (offset : Nat) (path : String) (arguments : List String) (filters : List Filter)
    (context : Value) (metadata : Metadata) :
    renderNodes setup enter frame (front ++ .output offset path arguments filters :: back) context
        metadata =
      (fun text => Node.printAll front ++ (text ++ Node.printAll back)) <$>
        renderOutput setup frame offset path arguments filters context metadata := by
  rw [renderNodes_append, renderNodes_text enter frame hFront, pure_bind, renderNodes, renderNode,
    renderNodes_text enter frame hBack, map_eq_pure_bind]
  simp only [bind_assoc, pure_bind]

end Render

namespace Engine

/-- The frame in which a source is rendered. -/
def frameOf (engine : Engine) (source : String) (name : Option String) (overrides : Overrides) :
    Frame where
  templateName := name
  source := some source
  strict := (engine.setup.options.merge overrides).strict
  noEscape := (engine.setup.options.merge overrides).noEscape

/-- A source with one expression between texts is rendered to the escaped text of the expression
between them, and fails as the expression does. -/
theorem outcome_expression {engine : Engine} (hFaithful : engine.Faithful) {source path : String}
    {name : Option String} {offset : Nat} {arguments : List String} {filters : List Filter}
    {front back : List Node}
    (hNodes : Template.Reads source (front ++ .output offset path arguments filters :: back))
    (hFront : ∀ node ∈ front, node.isText = true) (hBack : ∀ node ∈ back, node.isText = true)
    {overrides : Overrides}
    (hEscapes : (engine.frameOf source name overrides).noEscape = false) (context : Value)
    (named : List (String × Value)) :
    engine.outcome source name overrides context named =
      (Render.shown engine.setup (engine.frameOf source name overrides) offset path arguments
        filters (Render.topContext context named) []).map
        fun text => Node.printAll front ++ (Html.escape text ++ Node.printAll back) := by
  -- There are no blocks that could lie too deep.
  have hDeep : ¬Template.TooDeep (engine.setup.machine.nesting []) source := by
    obtain ⟨limit, hBuild⟩ := hNodes
    intro hDeep
    rw [Template.TooDeep, Tree.build_of_no_blocks hBuild] at hDeep
    · cases hDeep
    · intro _ _ _ _ hMem
      rcases List.mem_append.1 hMem with hMem | hMem
      · cases hFront _ hMem
      · rcases List.mem_cons.1 hMem with hSame | hMem
        · cases hSame
        · cases hBack _ hMem
  obtain ⟨template, after, hCompile, hSpec, -⟩ :=
    History.compile_of_reads hFaithful hNodes hDeep (engine.setup.options.merge overrides) name
  obtain ⟨hTemplate, hSource, hName, hOptions⟩ := Template.anonymous_eq_iff.1 hSpec
  have hFrame : Render.topFrame template = engine.frameOf source name overrides := by
    rw [Render.topFrame, hSource, hName, hOptions, frameOf]
  rw [outcome, compile_of_ok hCompile]
  -- What compiling leaves in the history plays no part in what follows.
  show ((Render.render engine.setup template context named).run { history := after }).1 = _
  rw [Render.render, hFrame, hTemplate, Render.run_publishing,
    Render.renderNodes_expression _ _ hFront hBack, Render.run_map]
  show Except.map _ ((Render.renderOutput _ _ _ _ _ _ _ _).run _).1 = _
  rw [Render.run_renderOutput _ _ _ _ _ _ hEscapes rfl]
  cases Render.shown engine.setup _ _ _ _ _ _ _ with
  | ok text => rfl
  | error failure => rfl

end Engine

theorem map_eq_map_iff {ε α β : Type} {f : α → β} (hf : Function.Injective f)
    {result result' : Except ε α} : result.map f = result'.map f ↔ result = result' := by
  cases result with
  | ok a =>
    cases result' with
    | ok b => simp [Except.map, hf.eq_iff]
    | error e => simp [Except.map]
  | error e =>
    cases result' with
    | ok b => simp [Except.map]
    | error e' => simp [Except.map]

/-- An escaped text is safe, and reading its entities gives the text back; so no two texts are
escaped alike, and every safe text is an escaped one. What looks like an entity is escaped too. A
source with one expression between texts is rendered to the escaped text of the expression, so that
two of its renders are alike exactly if the expression has the same text in both. -/
theorem escape_safe_lossless :
    (∀ text, Html.Safe (Html.escape text).toList ∧ Html.unescape (Html.escape text) = text) ∧
      (∀ text text', text ≠ text' → Html.escape text ≠ Html.escape text') ∧
      (∀ text, Html.Safe text.toList → Html.escape (Html.unescape text) = text) ∧
      (∀ c name, (c, "&" ++ name) ∈ Html.entities → ∀ before after,
        Html.escape (before ++ ("&" ++ name) ++ after) =
          Html.escape before ++ ("&amp;" ++ name) ++ Html.escape after) ∧
      ∀ (machine : Machine) (options : Options) (operations : List Engine.Operation)
        (source : String) (name : Option String) (front back : List Node) (offset : Nat) (path : String)
        (arguments : List String) (filters : List Filter) (overrides : Overrides),
        let engine := (Engine.new machine options).performAll operations
        let shown (context : Value) (named : List (String × Value)) :=
          Render.shown engine.setup (engine.frameOf source name overrides) offset path arguments
            filters (Render.topContext context named) []
        Template.Reads source (front ++ .output offset path arguments filters :: back) →
        (∀ node ∈ front ++ back, node.isText = true) →
        (engine.frameOf source name overrides).noEscape = false →
        ∀ context named,
          engine.outcome source name overrides context named =
              ((shown context named).map fun text =>
                Node.printAll front ++ (Html.escape text ++ Node.printAll back)) ∧
            ∀ context' named', engine.outcome source name overrides context named =
                engine.outcome source name overrides context' named' ↔
              shown context named = shown context' named' := by
  have hInjective (text text' : String) (hNe : text ≠ text') :
      Html.escape text ≠ Html.escape text' := fun hSame => hNe (Html.escape_inj.1 hSame)
  refine ⟨fun text => ⟨Html.safe_escape text, Html.unescape_escape text⟩, hInjective,
    fun text => Html.safe_iff.1, fun c name hEntity before after => ?_, ?_⟩
  · rw [Html.escape_append, Html.escape_append, Html.escape_entity hEntity]
  · intro machine options operations source name front back offset path arguments filters overrides engine
      shown hNodes hTexts hEscapes context named
    obtain ⟨hFront, hBack⟩ := List.forall_mem_append.1 hTexts
    have hFaithful : engine.Faithful := Engine.faithful_performAll machine options operations
    have hOutcome (context : Value) (named : List (String × Value)) :=
      Engine.outcome_expression hFaithful hNodes hFront hBack hEscapes context named
    refine ⟨hOutcome context named, fun context' named' => ?_⟩
    rw [hOutcome context named, hOutcome context' named']
    apply map_eq_map_iff
    intro text text' hSame
    have hEscaped : Html.escape text = Html.escape text' :=
      (String.append_left_inj _).1 ((String.append_right_inj _).1 hSame)
    exact Html.escape_inj.1 hEscaped

/-- Names in lower case: one with a bracket, and one that looks like it when it is escaped. -/
theorem escape_safe_lossless_bold :
    let source := "<b>" ++ Node.tag "name | lowercase" ++ "</b>"
    let engine := (Engine.new .small {}).performAll []
    let context (name : String) : Value := .map [(.text "name", .text name)]
    (Html.Safe (Html.escape "a&lt;b").toList ∧
        Html.escape (Html.unescape (Html.escape "a&lt;b")) = Html.escape "a&lt;b" ∧
        Html.escape "a<b" ≠ Html.escape "a&lt;b") ∧
      ('<', "&" ++ "lt;") ∈ Html.entities ∧
      Html.escape ("a" ++ ("&" ++ "lt;") ++ "b") = "a&amp;lt;b" ∧
      Template.Reads source ([.text 0 "<b>"] ++
        .output 3 "name" [] [⟨3, "lowercase", []⟩] :: [.text 23 "</b>"]) ∧
      engine.outcome source none {} (context "A<B") [] = .ok "<b>a&lt;b</b>" ∧
      engine.outcome source none {} (context "A<B") [] ≠
        engine.outcome source none {} (context "A&LT;B") [] := by
  intro source engine context
  have hTokens : tokenize source = [⟨.text, "<b>", 0⟩,
      ⟨.output "name | lowercase", Node.tag "name | lowercase", 3⟩, ⟨.text, "</b>", 23⟩] := by
    decide +kernel
  have hNodes : Template.Reads source ([.text 0 "<b>"] ++
      .output 3 "name" [] [⟨3, "lowercase", []⟩] :: [.text 23 "</b>"]) := by
    refine ⟨0, ?_⟩
    rw [hTokens, Tree.build_leaf rfl, Tree.build_leaf rfl, Tree.build_leaf rfl, Tree.build_nil]
    rfl
  have hTexts : ∀ node ∈ ([.text 0 "<b>"] ++ [.text 23 "</b>"] : List Node),
      node.isText = true := by simp [Node.isText]
  have hEntity : ('<', "&" ++ "lt;") ∈ Html.entities := by decide
  obtain ⟨hText, hInjective, hSafe, hEntities, hRender⟩ := escape_safe_lossless
  obtain ⟨hOutcome, hAlike⟩ := hRender .small {} [] source none [.text 0 "<b>"]
    [.text 23 "</b>"] 3 "name" [] [⟨3, "lowercase", []⟩] {} hNodes hTexts rfl (context "A<B") []
  have hShown : Render.shown engine.setup (engine.frameOf source none {}) 3 "name" []
      [⟨3, "lowercase", []⟩] (Render.topContext (context "A<B") []) [] = .ok "a<b" := by
    decide +kernel
  have hOther : Render.shown engine.setup (engine.frameOf source none {}) 3 "name" []
      [⟨3, "lowercase", []⟩] (Render.topContext (context "A&LT;B") []) [] = .ok "a&lt;b" := by
    decide +kernel
  have hEscaped : Html.Safe (Html.escape "a&lt;b").toList := (hText "a&lt;b").1
  refine ⟨⟨hEscaped, hSafe _ hEscaped, hInjective _ _ (by decide)⟩, hEntity, ?_, hNodes, ?_, ?_⟩
  · rw [hEntities '<' "lt;" hEntity]
    decide
  · refine hOutcome.trans ((congrArg (Except.map _) hShown).trans ?_)
    decide +kernel
  · intro hSame
    have hTexts := hShown.symm.trans (((hAlike (context "A&LT;B") []).1 hSame).trans hOther)
    exact absurd (Except.ok.inj hTexts) (by decide)

end Stencil
