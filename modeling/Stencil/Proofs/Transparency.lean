import Mathlib.Control.Monad.Basic
import Stencil.Template.Print
import Stencil.Proofs.Refusals

/-!
What can be noticed of the cache. Every operation keeps the cache faithful, and so an engine
compiles and renders like a new one in which the same helpers and partials are registered, unless
the new one refuses to compile something because its blocks lie too deep for what is left of the
machine. What is in the cache is not compiled again, and so it is not refused.
-/

namespace Stencil

/-- The template has the nodes of its source, as all templates have that an engine compiles. -/
def Template.IsCompiled (template : Template) : Prop :=
  Template.Reads template.source template.nodes

namespace Engine

/-- A new engine with the same default options, in which the same helpers and partials are
registered. -/
def renew (engine : Engine) : Engine := { setup := engine.setup }

/-- What comes of compiling a source and then rendering the template. -/
def outcome (engine : Engine) (source : String) (name : Option String) (overrides : Overrides)
    (context : Value) (named : List (String × Value)) : Except Failure String :=
  match engine.compile source name overrides with
  | (.error error, _) => .error error
  | (.ok template, after) => (after.call template context named).1

theorem faithful_renew (engine : Engine) : engine.renew.Faithful := Cache.Faithful.empty

/-! ### What engines answer -/

/-- The failure that something ends with. Failures can be told apart, though templates cannot. -/
def failure? {α : Type} : Except Failure α → Option Failure
  | .ok _ => none
  | .error failure => some failure

theorem eq_error_of_failure? {α : Type} {result : Except Failure α} {failure : Failure}
    (h : failure? result = some failure) : result = .error failure := by
  cases result with
  | ok a => cases h
  | error other => exact congrArg Except.error (Option.some.inj h)

theorem compile_of_ok {engine : Engine} {source : String} {name : Option String}
    {overrides : Overrides} {template : Template} {after : History}
    (h : engine.history.compile (engine.setup.machine.nesting [])
      (engine.setup.options.merge overrides) source name =
      .ok (template, after)) :
    engine.compile source name overrides = (.ok template, { engine with history := after }) := by
  unfold compile run
  rw [Render.run_compile_of_ok { history := engine.history } h]

theorem compile_of_error {engine : Engine} {source : String} {name : Option String}
    {overrides : Overrides} {error : CompileError}
    (h : engine.history.compile (engine.setup.machine.nesting [])
      (engine.setup.options.merge overrides) source name =
      .error error) :
    engine.compile source name overrides = (.error (.error (.compile error)), engine) := by
  unfold compile run
  rw [Render.run_compile_of_error { history := engine.history } h]

/-- Compiling a source and rendering the template is one run, since no frame is published in
between. -/
theorem outcome_eq_run (engine : Engine) (source : String) (name : Option String)
    (overrides : Overrides) (context : Value) (named : List (String × Value)) :
    engine.outcome source name overrides context named =
      (engine.run do
        let template ←
          Render.compile engine.setup.machine (engine.setup.options.merge overrides) source name
        Render.render engine.setup template context named).1 := by
  unfold outcome run
  cases hc : engine.history.compile (engine.setup.machine.nesting [])
      (engine.setup.options.merge overrides) source name with
  | ok compiled =>
    obtain ⟨template, after⟩ := compiled
    have hRun := Render.run_compile_of_ok { history := engine.history } hc
    rw [compile_of_ok hc, Render.run_bind_of_ok hRun]
    rfl
  | error error =>
    have hRun := Render.run_compile_of_error { history := engine.history } hc
    rw [compile_of_error hc, Render.run_bind_of_error hRun]

theorem render_eq_outcome (engine : Engine) (source : String) (context : Value)
    (overrides : Overrides) :
    (engine.render source context overrides).1 =
      engine.outcome source none overrides context [] :=
  (engine.outcome_eq_run source none overrides context []).symm

theorem isCompiled_of_compile {engine after : Engine} (hFaithful : engine.Faithful)
    {source : String} {name : Option String} {overrides : Overrides} {template : Template}
    (h : engine.compile source name overrides = (.ok template, after)) :
    template.IsCompiled ∧ template.source = source ∧ template.name = name ∧ after.Faithful := by
  cases hc : engine.history.compile (engine.setup.machine.nesting [])
      (engine.setup.options.merge overrides) source name with
  | error error =>
    rw [compile_of_error hc] at h
    cases h
  | ok compiled =>
    rw [compile_of_ok hc] at h
    cases h
    obtain ⟨nodes, hNodes, hSpec, hAfter⟩ := History.spec_of_compile_ok hFaithful hc
    obtain ⟨hSame, hSource, hName, -⟩ := Template.anonymous_eq_iff.1 hSpec
    refine ⟨?_, hSource, hName, hAfter⟩
    rw [Template.IsCompiled, hSource, hSame]
    exact hNodes

/-- If a render fails with an error of its own, then its source is compiled, and rendering the
template fails. -/
theorem exists_call_of_render {engine : Engine} (hFaithful : engine.Faithful) {source : String}
    {context : Value} {overrides : Overrides} {error : RenderError}
    (h : (engine.render source context overrides).1 = .error (.error (.render error))) :
    ∃ template after, engine.compile source none overrides = (.ok template, after) ∧
      (template.IsCompiled ∧ template.source = source ∧ template.name = none ∧ after.Faithful) ∧
      after.setup = engine.setup ∧
      (after.call template context []).1 = .error (.error (.render error)) := by
  rw [render_eq_outcome, outcome] at h
  cases hc : engine.history.compile (engine.setup.machine.nesting [])
      (engine.setup.options.merge overrides) source none with
  | error failure =>
    rw [compile_of_error hc] at h
    cases h
  | ok compiled =>
    have hCompile := compile_of_ok hc
    rw [hCompile] at h
    exact ⟨_, _, hCompile, isCompiled_of_compile hFaithful hCompile, rfl, h⟩

/-! ### What is refused for its depth -/

/-- Compiling the source and rendering the template comes to something that is refused because its
blocks lie too deep for what is left of the machine: the source, or a partial. -/
def Overflows (engine : Engine) (source : String) (name : Option String) (overrides : Overrides)
    (context : Value) (named : List (String × Value)) : Prop :=
  Template.TooDeep (engine.setup.machine.nesting []) source ∨
    ∃ template after, engine.compile source name overrides = (.ok template, after) ∧
      (after.task template context named).Overflows engine.setup

/-- Nothing is refused for its depth if nothing lies too deep. -/
theorem not_overflows {engine : Engine} (h : engine.setup.Ample) {source : String}
    (hDeep : ¬Template.TooDeep (engine.setup.machine.nesting []) source) (name : Option String)
    (overrides : Overrides) (context : Value) (named : List (String × Value)) :
    ¬engine.Overflows source name overrides context named := by
  rintro (hTop | ⟨template, after, -, hOver⟩)
  · exact hDeep hTop
  · exact Render.Task.not_overflows h _ hOver

/-- A new engine is beneath every other one. -/
theorem beneath_renew {engine : Engine} (h : engine.Faithful) :
    Render.Beneath { history := engine.renew.history } { history := engine.history } :=
  ⟨⟨Cache.Faithful.empty, h, .empty _⟩, rfl, rfl⟩

variable {engine : Engine} {source : String} {name : Option String} {overrides : Overrides}

/-- Templates of one source are rendered to the same, from states of which the first one is beneath
the second one. -/
theorem concur_render {setup : Setup} {options options' : Options} {context : Value}
    {named : List (String × Value)} {template template' : Template} {state state' : Render.State}
    (hSame : Render.SameSource options options' source name template template')
    (hStrict : options.strict = options'.strict) (hEscape : options.noEscape = options'.noEscape)
    (hs : Render.Beneath state state')
    (hClean : ¬Render.Task.Overflows setup ⟨setup.partials.size, Render.topFrame template,
      template.nodes, Render.topContext context named, [],
      { state with published := some (Render.topFrame template) }⟩) :
    Render.Concur Eq ((Render.render setup template context named).run state)
      ((Render.render setup template' context named).run state') := by
  obtain ⟨nodes, -, hSpec, hSpec'⟩ := hSame
  obtain ⟨hNodes, hSource, hName, rfl⟩ := Template.anonymous_eq_iff.1 hSpec
  obtain ⟨hNodes', hSource', hName', rfl⟩ := Template.anonymous_eq_iff.1 hSpec'
  have hFrame : Render.topFrame template' = Render.topFrame template := by
    unfold Render.topFrame
    rw [hName, hName', hSource, hSource', hStrict, hEscape]
  have hInner : Render.Beneath { state with published := some (Render.topFrame template) }
      { state' with published := some (Render.topFrame template) } := ⟨hs.below, hs.around, rfl⟩
  have hTask := Render.Task.concur setup.suffices_self _ hInner hClean
  unfold Render.render
  rw [hFrame, hNodes', ← hNodes]
  exact .publishing hs hTask

theorem compile_eq (h : engine.Faithful)
    (hDeep : ¬Template.TooDeep (engine.setup.machine.nesting []) source) :
    (engine.compile source name overrides).1.map Template.anonymous =
      (engine.renew.compile source name overrides).1.map Template.anonymous := by
  let options := engine.setup.options.merge overrides
  have hCompile := Render.concur_compile engine.setup.machine engine.setup.machine options options
    source name (beneath_renew h) id id fun _ _ => hDeep
  exact (hCompile.result.map_eq fun _ _ ⟨nodes, _, hSpec, hSpec'⟩ => hSpec.trans hSpec'.symm).symm

/-- A new engine that is asked not to use its cache comes to the same as one that may do so, unless
it refuses something for its depth. -/
theorem outcome_eq_of_not_overflows (h : engine.Faithful) {context : Value}
    {named : List (String × Value)} (cache : Option Bool)
    (hClean : ¬engine.renew.Overflows source name { overrides with cache := some false } context
      named) :
    engine.outcome source name { overrides with cache } context named =
      engine.renew.outcome source name { overrides with cache := some false } context named := by
  let options := engine.setup.options.merge { overrides with cache := some false }
  let options' := engine.setup.options.merge { overrides with cache }
  have hOff : options.cache = true → options'.cache = true := fun hOn => nomatch hOn
  have hCompile := Render.concur_compile engine.setup.machine engine.setup.machine options options'
    source name (beneath_renew h) hOff id fun _ _ hDeep => hClean (.inl hDeep)
  rw [outcome_eq_run, outcome_eq_run]
  refine (Render.SameResult.eq (Render.Concur.bind hCompile ?_).result).symm
  intro template template' after after' hSame hRun hAfter
  obtain ⟨history, hCompiled, rfl⟩ := Render.exists_of_run_compile hRun
  refine concur_render hSame rfl rfl hAfter fun hOver => hClean (.inr ?_)
  exact ⟨template, _, compile_of_ok hCompiled, hOver⟩

/-- A new engine in which the same is registered answers like an engine that has done any number of
things before: its templates are the same but for the numbers that tell them apart, and renders give
the same text or the same error, whether a call uses the cache or not. This is so unless something
is refused, by the new engine without the use of its cache, because its blocks lie too deep for what
is left of the machine. -/
theorem answers_eq_renew (machine : Machine) (options : Options) (operations : List Operation)
    (source : String) (name : Option String) (overrides : Overrides) (cache : Option Bool)
    (context : Value) (named : List (String × Value)) :
    let engine := (new machine options).performAll operations
    let uncached : Overrides := { overrides with cache := some false }
    (¬Template.TooDeep (engine.setup.machine.nesting []) source →
        (engine.compile source name overrides).1.map Template.anonymous =
          (engine.renew.compile source name overrides).1.map Template.anonymous) ∧
      (¬engine.renew.Overflows source name uncached context named →
        engine.outcome source name { overrides with cache } context named =
          engine.renew.outcome source name overrides context named) ∧
      (¬engine.renew.Overflows source none uncached context [] →
        (engine.render source context { overrides with cache }).1 =
          (engine.renew.render source context overrides).1) := by
  intro engine uncached
  have h : engine.Faithful := faithful_performAll machine options operations
  have hOutcome : ∀ (name : Option String) (named : List (String × Value)),
      ¬engine.renew.Overflows source name uncached context named →
      engine.outcome source name { overrides with cache } context named =
        engine.renew.outcome source name overrides context named := fun name named hClean =>
    (outcome_eq_of_not_overflows h cache hClean).trans
      (outcome_eq_of_not_overflows (faithful_renew engine) overrides.cache hClean).symm
  refine ⟨compile_eq h, hOutcome name named, fun hClean => ?_⟩
  rw [render_eq_outcome, render_eq_outcome]
  exact hOutcome none [] hClean

/-- The partial is in the cache when the template is rendered that includes it. -/
theorem answers_eq_renew_row :
    let row := Node.tag "#if name" ++ "<" ++ Node.tag "name" ++ ">" ++ Node.tag "/if"
    let engine := (new .small {}).performAll [.registerPartial "row" row, .compile row none {}]
    let source := Node.tag "#if name" ++ Node.tag "> row" ++ Node.tag "/if"
    let context : Value := .map [(.text "name", .text "a")]
    ¬Template.TooDeep (engine.setup.machine.nesting []) source ∧
      ¬engine.renew.Overflows source none { cache := some false } context [] ∧
      (engine.compile source none {}).1.map Template.anonymous =
        (engine.renew.compile source none {}).1.map Template.anonymous ∧
      engine.outcome source none {} context [] = engine.renew.outcome source none {} context [] ∧
      (engine.render source context {}).1 = (engine.renew.render source context {}).1 := by
  intro row engine source context
  have hDeep : ¬Template.TooDeep 8 source := by decide +kernel
  have hRow : ¬Template.TooDeep 8 row := by decide +kernel
  have hAmple : engine.setup.Ample := by
    intro name found hFound around
    have hInsert : engine.setup.partials.find? name = if name = "row" then some row else none :=
      Table.find?_insert ..
    rw [hInsert] at hFound
    split at hFound
    · cases hFound
      exact hRow
    · cases hFound
  have hClean : ¬engine.renew.Overflows source none { cache := some false } context [] :=
    not_overflows (show engine.renew.setup.Ample from hAmple) hDeep _ _ _ _
  obtain ⟨hCompile, hOutcome, hRender⟩ := answers_eq_renew .small {}
    [.registerPartial "row" row, .compile row none {}] source none {} none context []
  exact ⟨hDeep, hClean, hCompile hDeep, hOutcome hClean, hRender hClean⟩

/-- On a machine where no block may lie in a partial inside of a block, a partial with a block is
refused there, unless it has been compiled outside before. -/
theorem answers_ne_renew :
    let machine : Machine := { nesting := fun around => 1 - around.length, memory := twoTo 16 }
    let inner := Node.tag "#if a" ++ Node.tag "/if"
    let engine := (new machine {}).performAll [.registerPartial "p" inner, .compile inner none {}]
    let source := Node.tag "#if t" ++ Node.tag "> p" ++ Node.tag "/if"
    let context : Value := .map [(.text "t", .bool true)]
    (engine.render source context {}).1 = .ok "" ∧
      (engine.renew.render source context {}).1 = .error (.error (.compile
        (.ofCause (.tooDeep "if") ⟨some inner, some 0, some "p"⟩))) := by
  intro machine inner engine source context
  exact ⟨by decide +kernel, by decide +kernel⟩

end Engine

end Stencil
