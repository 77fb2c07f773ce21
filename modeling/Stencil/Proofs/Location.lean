import Stencil.Proofs.Located
import Stencil.Proofs.Pairing
import Stencil.Proofs.Transparency
import Stencil.Template.Print

/-!
Errors point into the right source. The place of an error that a render reports is that of the node
at which it arises, in the source of the innermost partial there, or of the template if no partial
is active.
-/

namespace Stencil

/-! ### Nodes and tokens -/

/-- The node stands where the token does, and the token begins what the node is. -/
def Token.Begins (token : Token) (node : Node) : Prop :=
  token.offset = node.offset ∧
    match node with
    | .text .. => token.kind = .text
    | .output .. => ∃ expression, token.kind = .output expression
    | .block _ name _ _ => ∃ arguments, token.kind = .opening name arguments
    | .inclusion _ name _ => ∃ context, token.kind = .inclusion name context

theorem Token.Begins.label {token : Token} {node : Node} (h : token.Begins node)
    (hText : ∀ offset content, node ≠ .text offset content) :
    token.kind.label ∈ ["VARIABLE", "BLOCK_START", "PARTIAL"] := by
  obtain ⟨-, hKind⟩ := h
  cases node with
  | text offset content => exact absurd rfl (hText offset content)
  | output =>
    obtain ⟨expression, hKind⟩ := hKind
    simp [hKind, Kind.label]
  | block =>
    obtain ⟨arguments, hKind⟩ := hKind
    simp [hKind, Kind.label]
  | inclusion =>
    obtain ⟨context, hKind⟩ := hKind
    simp [hKind, Kind.label]

theorem Token.Becomes.begins {token : Token} {node : Node} (h : token.Becomes node) :
    token.Begins node := by
  cases node with
  | text => exact ⟨h.2.1, h.1⟩
  | output =>
    obtain ⟨expression, hKind, hOffset, -⟩ := h
    exact ⟨hOffset, expression, hKind⟩
  | block =>
    obtain ⟨written, hKind, hOffset, -⟩ := h
    exact ⟨hOffset, written, hKind⟩
  | inclusion =>
    obtain ⟨written, hKind, hOffset, -⟩ := h
    exact ⟨hOffset, written, hKind⟩

/-- Every node begins with one of the tokens that become the nodes. -/
theorem Tree.Become.exists_token {tokens : List Token} {nodes : List Node}
    (h : Become tokens nodes) {node : Node} (hNode : node ∈ nodes) :
    ∃ token ∈ tokens, token.Begins node := by
  obtain ⟨place, hPlace, rfl⟩ := List.getElem_of_mem hNode
  have hLength : place < (tokens.filter (!·.isClosing)).length := by
    rw [List.Forall₂.length_eq h]
    exact hPlace
  exact ⟨_, (List.mem_filter.1 (List.getElem_mem hLength)).1, (h.get hLength hPlace).begins⟩

theorem Template.Reads.exists_token {source : String} {nodes : List Node}
    (h : Template.Reads source nodes) {node : Node} (hNode : node ∈ Node.preorderAll nodes) :
    ∃ token ∈ tokenize source, token.Begins node := by
  obtain ⟨limit, hBuild⟩ := h
  exact (Tree.builds_of_build hBuild).become.exists_token hNode

/-! ### Where errors point -/

namespace Render

/-- An error with an offset points at the node at which it arises, if no helper makes it up. -/
theorem Site.Explains.place {setup : Setup} {site : Site} {error : RenderError}
    (h : site.Explains setup (.render error))
    (hOwn : setup.Every fun helper => ¬ helper.MayRaise (.error (.render error)))
    (hOffset : error.place.offset ≠ none) : error.place = site.place := by
  generalize hSame : TemplateError.render error = reason at h
  cases h with
  | report hDone hRaises =>
    cases hSame
    rfl
  | own hDone hMay =>
    subst hSame
    exact absurd ⟨_, hMay⟩ (hOwn _ _ hDone.found)
  | refusal hRefused =>
    cases hRefused with
    | uncompiled => cases hSame
    | cycle =>
      cases hSame
      exact absurd rfl hOffset
    | _ =>
      cases hSame
      rfl

/-- What an error with a place tells, in the render of a template. It arises at a node that the
render leads to by way of some partials, and all that is rendered inside that node gives a text, or
a fault that nobody has reported before the error does. The source and the name are those of the last
partial on the way, or of the template if there is none, and the offset is that of the token in the
source with which the node begins. -/
def PinsDown (setup : Setup) (template : Template) (task : Task) (error : RenderError) : Prop :=
  ∀ source offset, error.place.source = some source → error.place.offset = some offset →
    ∃ path site token, Leads setup task path site ∧ site.frame.stack = path ∧
      (site.outcome setup).1 = .error (.error (.render error)) ∧
      (∀ entered inner, site.Starts setup entered inner →
        (∃ text, (inner.outcome setup).1 = .ok text) ∨
          ∃ fault, (inner.outcome setup).1 = .error (.fault fault) ∧
            error.underlying = some fault) ∧
      (match path.getLast? with
        | none => source = template.source ∧ error.place.templateName = template.name
        | some name => setup.partials.find? name = some source ∧
            error.place.templateName = some name) ∧
      token ∈ tokenize source ∧ token.Begins site.node ∧
      token.kind.label ∈ ["VARIABLE", "BLOCK_START", "PARTIAL"] ∧ offset = token.offset

/-- A node that a render leads to begins with a token of the source that is rendered there: that of
the last partial on the way, or of the template if there is none. -/
theorem Leads.exists_token {engine : Engine} (hFaithful : engine.Faithful) {template : Template}
    (hTemplate : template.IsCompiled) {context : Value} {named : List (String × Value)}
    {path : List String} {site : Site}
    (hLeads : Leads engine.setup (engine.task template context named) path site) :
    ∃ source token, site.frame.stack = path ∧ site.frame.source = some source ∧
      (match path.getLast? with
        | none => source = template.source ∧ site.frame.templateName = template.name
        | some name => engine.setup.partials.find? name = some source ∧
            site.frame.templateName = some name) ∧
      token ∈ tokenize source ∧ token.Begins site.node := by
  obtain ⟨within, hLocated, hNode⟩ := hLeads.located .template (fun _ hNode => hNode) hFaithful
  have hStack := hLocated.stack
  have hInnermost := hLocated.innermost
  rw [List.nil_append] at hStack hInnermost
  cases hLast : path.getLast? with
  | none =>
    rw [hLast] at hInnermost
    obtain ⟨hFrame, rfl⟩ := hInnermost
    obtain ⟨token, hToken, hBegins⟩ := hTemplate.exists_token hNode
    rw [hFrame] at hStack ⊢
    exact ⟨template.source, token, hStack, rfl, ⟨rfl, rfl⟩, hToken, hBegins⟩
  | some name =>
    rw [hLast] at hInnermost
    obtain ⟨source, hFound, hName, hSource, hNodes⟩ := hInnermost
    obtain ⟨token, hToken, hBegins⟩ := hNodes.exists_token hNode
    exact ⟨source, token, hStack, hSource, ⟨hFound, hName⟩, hToken, hBegins⟩

end Render

namespace Engine

open Render

theorem pinsDown_of_call {engine : Engine} (hFaithful : engine.Faithful)
    (hHelpers : engine.setup.Every fun helper =>
      helper.CatchesNothing ∧ ∀ error, ¬ helper.MayRaise (.error error))
    {template : Template} (hTemplate : template.IsCompiled) {context : Value}
    {named : List (String × Value)} {error : RenderError}
    (h : (engine.call template context named).1 = .error (.error (.render error))) :
    PinsDown engine.setup template (engine.task template context named) error := by
  intro source offset hSource hOffset
  obtain ⟨path, site, hLeads, hOrigin⟩ := exists_origin (engine.task template context named) h
  have hPlace : error.place = site.place := by
    refine hOrigin.explains.place (hHelpers.mono fun _ hHelper => hHelper.2 _) ?_
    rw [hOffset]
    nofun
  have hCatch : engine.setup.Every Helper.CatchesNothing := hHelpers.mono fun _ hHelper => hHelper.1
  obtain ⟨inner, token, hStack, hInner, hWhere, hToken, hBegins⟩ :=
    hLeads.exists_token hFaithful hTemplate
  rw [hPlace] at hSource hOffset ⊢
  obtain rfl : inner = source := Option.some.inj (hInner.symm.trans hSource)
  have hText : ∀ offset content, site.node ≠ .text offset content := by
    intro start content hSame
    have hFails := hOrigin.fails
    rw [Site.outcome_text hSame] at hFails
    cases hFails
  refine ⟨path, site, token, hLeads, hStack, hOrigin.fails,
    fun entered inner hStarts => hOrigin.inside_cases hCatch hStarts, hWhere, hToken, hBegins,
    hBegins.label hText, ?_⟩
  rw [hBegins.1]
  exact (Option.some.inj hOffset).symm

end Engine

end Stencil
