import Stencil.Proofs.Ending
import Stencil.Proofs.Keeping
import Stencil.Proofs.Located
import Stencil.Proofs.Transparency
import Stencil.Template.Print
import Mathlib.Data.List.Perm.Subperm

/-!
Partials that include one another. In every frame of a render the stack names registered partials,
and none of them twice, so there is always room for the partials that are left. A partial is refused
only if it is on the stack, and if the references among the partials lead round nowhere, no partial
ever is.
-/

namespace Stencil

/-! ### Frames -/

/-- What every frame of the render of a template is like. -/
structure Frame.Sound (setup : Setup) (template : Template) (frame : Frame) : Prop where
  nodup : frame.stack.Nodup
  registered : ∀ name ∈ frame.stack, (setup.partials.find? name).isSome
  /-- The last name on the stack says what is being rendered, or it is the template itself. -/
  innermost : match frame.stack.getLast? with
    | none => frame.source = some template.source ∧ frame.templateName = template.name
    | some name => frame.source = setup.partials.find? name ∧ frame.templateName = some name
  strict : frame.strict = template.options.strict
  noEscape : frame.noEscape = template.options.noEscape

namespace Frame.Sound

variable {setup : Setup} {template : Template} {frame inner : Frame}

theorem topFrame (setup : Setup) (template : Template) :
    (Render.topFrame template).Sound setup template where
  nodup := List.nodup_nil
  registered _ h := nomatch h
  innermost := ⟨rfl, rfl⟩
  strict := rfl
  noEscape := rfl

theorem enter {name source : String} (h : frame.Sound setup template)
    (hFound : setup.partials.find? name = some source)
    (hEnter : frame.enter name source = .ok inner) : inner.Sound setup template := by
  have hNodup : inner.stack.Nodup := nodup_of_enter hEnter h.nodup
  rw [eq_of_enter hEnter] at hNodup ⊢
  refine ⟨hNodup, ?_, ?_, h.strict, h.noEscape⟩
  · intro other hOther
    rcases List.mem_append.1 hOther with hOther | hOther
    · exact h.registered other hOther
    · rw [List.mem_singleton.1 hOther, hFound]
      rfl
  · rw [List.getLast?_concat]
    exact ⟨hFound.symm, rfl⟩

/-- No more partials are active than are registered. -/
theorem length_le (h : frame.Sound setup template) :
    frame.stack.length ≤ setup.partials.size := by
  have hNames : frame.stack ⊆ setup.partials.names := by
    intro name hName
    obtain ⟨source, hFound⟩ := Option.isSome_iff_exists.1 (h.registered name hName)
    exact Table.mem_names_of_find? hFound
  calc
    frame.stack.length ≤ setup.partials.names.length :=
      (List.Nodup.subperm h.nodup hNames).length_le
    _ = setup.partials.size := List.length_map _

end Frame.Sound

namespace Render

variable {setup : Setup} {template : Template}

theorem Site.Starts.sound {site : Site} {entered : List String} {task : Task}
    (hStarts : site.Starts setup entered task) (h : site.frame.Sound setup template) :
    task.frame.Sound setup template := by
  cases hStarts with
  | body => exact h
  | inclusion hNode hRoom hFound hContext hEnter => exact h.enter hFound hEnter

/-- Every frame on the way of a render is sound. -/
theorem Leads.sound {task : Task} {path : List String} {site : Site}
    (hLeads : Leads setup task path site) (h : task.frame.Sound setup template) :
    site.frame.Sound setup template := by
  induction hLeads with
  | visit hVisits => exact hVisits.frame ▸ h
  | inside hVisits hStarts hLeads ih =>
    rw [← hVisits.frame] at h
    exact ih (hStarts.sound h)

theorem Task.Visits.room_le {task : Task} {site : Site} (hVisits : task.Visits setup site)
    (h : setup.room task.frame ≤ task.room) : setup.room site.frame ≤ site.room := by
  rwa [hVisits.frame, hVisits.room]

theorem Site.Starts.room_le {site : Site} {entered : List String} {task : Task}
    (hStarts : site.Starts setup entered task) (h : setup.room site.frame ≤ site.room) :
    setup.room task.frame ≤ task.room := by
  cases hStarts with
  | body => exact h
  | inclusion hNode hRoom hFound hContext hEnter =>
    have hLess := Setup.room_lt_of_enter hEnter hFound
    dsimp only
    omega

/-- There is room for every partial that is not being rendered. -/
theorem Leads.room_le {task : Task} {path : List String} {site : Site}
    (hLeads : Leads setup task path site) (h : setup.room task.frame ≤ task.room) :
    setup.room site.frame ≤ site.room := by
  induction hLeads with
  | visit hVisits => exact hVisits.room_le h
  | inside hVisits hStarts hLeads ih => exact ih (hStarts.room_le (hVisits.room_le h))

/-- The stack of a frame is the path that led there. -/
theorem Leads.stack {task : Task} {path : List String} {site : Site}
    (hLeads : Leads setup task path site) : site.frame.stack = task.frame.stack ++ path := by
  induction hLeads with
  | visit hVisits => rw [hVisits.frame, List.append_nil]
  | @inside task inner site last entered path hVisits hStarts hLeads ih =>
    rw [ih, ← hVisits.frame, ← List.append_assoc]
    cases hStarts with
    | body => rw [List.append_nil]
    | inclusion hNode hRoom hFound hContext hEnter => rw [Frame.eq_of_enter hEnter]

/-! ### Refused partials -/

/-- The error says that a partial includes itself. -/
def IsCycle (error : RenderError) : Prop := error.code = some .partialCycle

/-- The node includes a partial that is being rendered already, and the error says so. -/
def Site.Reenters (site : Site) (error : RenderError) : Prop :=
  ∃ offset name expression, site.node = .inclusion offset name expression ∧
    name ∈ site.frame.stack ∧
    error = .ofCause (.partialCycle name site.frame.stack)
      { templateName := site.frame.templateName }

/-- An error about a cycle arises only where a partial is on the stack already, unless a helper
makes it up. -/
theorem Site.Originates.reenters {site : Site} {error : RenderError}
    (h : site.Originates setup (.render error)) (hCycle : IsCycle error)
    (hRoom : setup.room site.frame ≤ site.room) :
    setup.MayRaise (.error (.render error)) ∨ site.Reenters error := by
  have hExplains := h.explains
  generalize hSame : TemplateError.render error = reason at hExplains
  cases hExplains with
  | @report deed state fault hDone hRaises =>
    cases hSame
    cases deed <;> cases hCycle
  | own hDone hMay =>
    subst hSame
    exact .inl ⟨_, _, hDone.found, _, hMay⟩
  | refusal hRefused =>
    right
    cases hRefused with
    | uncompiled => cases hSame
    | @cycle offset name expression hNode =>
      cases hSame
      refine ⟨offset, name, expression, hNode, ?_, rfl⟩
      have hFails := h.fails
      have hIncluded : site.Included setup name expression (site.outcome setup) :=
        Site.included hNode
      generalize hOutcome : site.outcome setup = outcome at hFails hIncluded
      cases hIncluded with
      | unknown | skipped | uncompared | uncompiled | closed => cases hFails
      | @unresolved source path fault hFound hPath hFault =>
        rcases reported_fault_cases fault site.place (.unresolved path) with
          ⟨_, -, hReported⟩ | ⟨-, hReported⟩
        all_goals
          rw [hReported] at hFails
          cases hFails
      | @refused source inner error hFound hContext hEnter =>
        by_contra hNew
        rw [Frame.enter_of_not_mem source hNew] at hEnter
        cases hEnter
      | bounded hFound hContext hEnter hCompile hNone =>
        -- There is room for every partial that is not on the stack.
        have hLess := Setup.room_lt_of_enter hEnter hFound
        omega
      | rendered hFound hContext hEnter hCompile hSucc hOpens hInner =>
        have hStarts := Site.Starts.inclusion hNode hSucc hFound hContext hEnter hCompile hOpens
        exact absurd ((congrArg Prod.fst hInner).trans hFails) (h.first _ _ hStarts)
    | _ =>
      cases hSame
      cases hCycle

end Render

/-! ### References -/

namespace Setup

variable {setup : Setup}

/-- The source of the first partial includes the second one. -/
def Refers (setup : Setup) (outer inner : String) : Prop :=
  ∃ source nodes offset expression, setup.partials.find? outer = some source ∧
    Template.Reads source nodes ∧
    .inclusion offset inner expression ∈ Node.preorderAll nodes

/-- No partial leads back to itself, whether it is ever rendered or not. -/
def Acyclic (setup : Setup) : Prop := ∀ name, ¬ Relation.TransGen setup.Refers name name

end Setup

namespace Render

variable {setup : Setup} {template : Template}

/-- The partials on the path lead to whatever is included where the walk is. -/
theorem Located.refers {root nodes : List Node} {top frame : Frame} {path : List String}
    (h : Located setup root top path frame nodes) {outer : String} (hOuter : outer ∈ path)
    {offset : Nat} {name : String} {expression : Option String}
    (hNode : .inclusion offset name expression ∈ Node.preorderAll nodes) :
    Relation.TransGen setup.Refers outer name := by
  induction h generalizing offset name expression with
  | template => cases hOuter
  | @inclusion path frame inner nodes within last source hLocated hName hEnter hNodes ih =>
    have hLast : setup.Refers last name :=
      ⟨source, within, offset, expression, hName.2, hNodes, hNode⟩
    rcases List.mem_append.1 hOuter with hOuter | hOuter
    · obtain ⟨⟨before, given, hBefore⟩, -⟩ := hName
      exact (ih hOuter hBefore).tail hLast
    · cases List.mem_singleton.1 hOuter
      exact .single hLast

/-- A partial that is entered again leads back to itself. -/
theorem Site.Reenters.not_acyclic {site : Site} {error : RenderError} (h : site.Reenters error)
    {root nodes : List Node} {path : List String}
    (hLocated : Located setup root (topFrame template) path site.frame nodes)
    (hNode : site.node ∈ Node.preorderAll nodes) : ¬ setup.Acyclic := by
  obtain ⟨offset, name, expression, hSame, hActive, -⟩ := h
  rw [hSame] at hNode
  rw [hLocated.stack] at hActive
  exact fun hAcyclic => hAcyclic name (hLocated.refers hActive hNode)

end Render

/-! ### Whole renders -/

namespace Engine

open Render

/-- Every render ends, however the partials that are registered include one another: what partials
are rendered to is well defined without a bound, a render comes to that, and it gives a text, an
error, or a fault that a node on the way raises and nobody reports. At every node on the way a sound
frame is published, with the path that leads there on its stack. If a cycle is reported, then because
a partial on the stack is included again, which does not happen if the references among the partials
lead round nowhere. -/
theorem renders_end (machine : Machine) (options : Options) (operations : List Operation) :
    let engine := (new machine options).performAll operations
    let setup := engine.setup
    (∃! enter, Unbounded setup enter) ∧
      (∀ (source : String) (context : Value) (overrides : Overrides),
        (engine.render source context overrides).1 =
          engine.outcome source none overrides context []) ∧
      ∀ (template : Template) (context : Value) (named : List (String × Value)),
        let task := engine.task template context named
        let result := (engine.call template context named).1
        (∀ enter, Unbounded setup enter → engine.call template context named =
          engine.run (publishing task.frame
            (renderNodes setup enter task.frame task.nodes task.context task.metadata))) ∧
        ((∃ text, result = .ok text) ∨ (∃ error, result = .error (.error error)) ∨
          ∃ fault path site, result = .error (.fault fault) ∧ Exposes setup task path site ∧
            site.Escapes setup fault) ∧
        (∀ path site, Leads setup task path site →
          site.frame.Sound setup template ∧ site.frame.stack = path ∧
            path.length ≤ setup.partials.size ∧ site.state.published = some site.frame ∧
            ∀ error, site.Originates setup (.render error) → IsCycle error →
              setup.MayRaise (.error (.render error)) ∨
                site.Reenters error ∧ ¬ setup.Acyclic) ∧
        ∀ error, result = .error (.error (.render error)) → IsCycle error →
          setup.MayRaise (.error (.render error)) ∨
            (∃ path site, Leads setup task path site ∧ site.Reenters error) ∧
              ¬ setup.Acyclic := by
  intro engine setup
  have hFaithful : engine.Faithful := faithful_performAll machine options operations
  refine ⟨existsUnique_unbounded setup, engine.render_eq_outcome, ?_⟩
  intro template context named task result
  have hSites : ∀ path site, Leads setup task path site →
      site.frame.Sound setup template ∧ site.frame.stack = path ∧
        path.length ≤ setup.partials.size ∧ site.state.published = some site.frame ∧
        ∀ error, site.Originates setup (.render error) → IsCycle error →
          setup.MayRaise (.error (.render error)) ∨ site.Reenters error ∧ ¬ setup.Acyclic := by
    intro path site hLeads
    have hSound := hLeads.sound (.topFrame setup template)
    have hStack : site.frame.stack = path := hLeads.stack
    have hKept := hLeads.kept (J := fun _ => True) (fun _ _ _ _ _ _ _ _ _ _ => trivial)
      ⟨trivial, rfl⟩
    refine ⟨hSound, hStack, hStack ▸ hSound.length_le, hKept.published, ?_⟩
    intro error hOrigin hCycle
    refine (hOrigin.reenters hCycle (hLeads.room_le (Setup.room_le_size _))).imp id fun hAgain => ?_
    obtain ⟨within, hLocated, hNode⟩ := hLeads.located .template (fun _ hNode => hNode) hFaithful
    exact ⟨hAgain, hAgain.not_acyclic hLocated hNode⟩
  refine ⟨?_, ?_, hSites, ?_⟩
  · intro enter hEnter
    rw [call, hEnter.render_eq]
    rfl
  · rcases hResult : result with (fault | error) | text
    · obtain ⟨path, site, hExposes, hEscapes⟩ := exists_exposed task hResult
      exact .inr (.inr ⟨fault, path, site, rfl, hExposes, hEscapes⟩)
    · exact .inr (.inl ⟨error, rfl⟩)
    · exact .inl ⟨text, rfl⟩
  · intro error hResult hCycle
    obtain ⟨path, site, hLeads, hOrigin⟩ := exists_origin task hResult
    refine ((hSites path site hLeads).2.2.2.2 error hOrigin hCycle).imp id ?_
    exact fun ⟨hAgain, hAcyclic⟩ => ⟨⟨path, site, hLeads, hAgain⟩, hAcyclic⟩

/-- Two partials include each other, one of them inside a block. -/
theorem renders_end_around :
    let first := Node.tag "#if x" ++ Node.tag "> second" ++ Node.tag "/if"
    let engine := (new .small {}).performAll
      [.registerPartial "first" first, .registerPartial "second" (Node.tag "> first")]
    let template : Template := ⟨0, 0, [.inclusion 0 "first" none], "", none, {}⟩
    let context : Value := .map [(.text "x", .text "y")]
    let error := RenderError.ofCause (.partialCycle "first" ["first", "second"])
      { templateName := some "second" }
    (engine.call template context []).1 = .error (.error (.render error)) ∧
      (∃ path site, Leads engine.setup (engine.task template context []) path site ∧
        site.frame.Sound engine.setup template ∧ site.Reenters error) ∧
      ¬ engine.setup.Acyclic := by
  intro first engine template context error
  have hResult : (engine.call template context []).1 = .error (.error (.render error)) := by
    decide +kernel
  have hHelpers : ¬ engine.setup.MayRaise (.error (.render error)) := fun ⟨name, helper, h, hMay⟩ =>
    (every_new .small {} name helper h).not_mayRaise _ hMay
  obtain ⟨-, -, hSites, hOnly⟩ := (renders_end .small {}
    [.registerPartial "first" first, .registerPartial "second" (Node.tag "> first")]).2.2
    template context []
  obtain ⟨⟨path, site, hLeads, hAgain⟩, hAcyclic⟩ :=
    (hOnly error hResult rfl).resolve_left hHelpers
  exact ⟨hResult, ⟨path, site, hLeads, (hSites path site hLeads).1, hAgain⟩, hAcyclic⟩

end Engine

end Stencil
