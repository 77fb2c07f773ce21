import Stencil.Proofs.Deeds

/-!
What comes of a node that includes a partial. The partial may not be registered, its context may not
be there, it may be in the middle of being rendered, or it may not compile; there may be no stack left
to compare keys or to open it; otherwise it is rendered in a frame of its own.
-/

namespace Stencil.Render.Site

variable {setup : Setup} {site : Site} {offset : Nat} {name : String} {expression : Option String}

/-- The outcomes of a node that includes the partial with the name. -/
inductive Included (setup : Setup) (site : Site) (name : String) (expression : Option String) :
    Except Failure String × State → Prop
  | unknown (hFound : setup.partials.find? name = none) (hStrict : site.frame.strict = true) :
      Included setup site name expression
        (.error (.error (.render (.ofCause (.unknownPartial name) site.place))), site.state)
  | skipped (hFound : setup.partials.find? name = none) (hStrict : site.frame.strict = false) :
      Included setup site name expression (.ok "", site.state)
  | unresolved {source path : String} {fault : Fault}
      (hFound : setup.partials.find? name = some source) (hPath : expression = some path)
      (hFault : site.resolve path = .error fault) :
      Included setup site name expression
        (.error (reported site.place (.unresolved path) (.fault fault)), site.state)
  | uncompared {source path : String} {value : Value} {fault : Fault}
      (hFound : setup.partials.find? name = some source) (hPath : expression = some path)
      (hValue : site.resolve path = .ok value)
      (hKeys : Render.innerContext? (site.compares setup) site.context value = .error fault) :
      Included setup site name expression (.error (.fault fault), site.state)
  | refused {source : String} {inner : Value} {error : RenderError}
      (hFound : setup.partials.find? name = some source)
      (hContext : site.innerContext? setup expression = .ok inner)
      (hEnter : site.frame.enter name source = .error error) :
      Included setup site name expression (.error (.error (.render error)), site.state)
  | uncompiled {source : String} {inner : Value} {frame : Frame} {error : CompileError}
      (hFound : setup.partials.find? name = some source)
      (hContext : site.innerContext? setup expression = .ok inner)
      (hEnter : site.frame.enter name source = .ok frame)
      (hCompile : site.state.history.compile (site.limit setup) (site.innerOptions setup) source
        (some name) = .error error) :
      Included setup site name expression (.error (.error (.compile error)), site.state)
  | /-- The bound is reached before the partial is rendered. -/
    bounded {source : String} {inner : Value} {frame : Frame} {template : Template}
      {after : History} (hFound : setup.partials.find? name = some source)
      (hContext : site.innerContext? setup expression = .ok inner)
      (hEnter : site.frame.enter name source = .ok frame)
      (hCompile : site.state.history.compile (site.limit setup) (site.innerOptions setup) source
        (some name) = .ok (template, after)) (hRoom : site.room = 0) :
      Included setup site name expression
        (.error (.error (.render (.ofCause (.partialCycle name site.frame.stack)
          { templateName := site.frame.templateName }))), { site.state with history := after })
  | closed {room : Nat} {source : String} {inner : Value} {frame : Frame} {template : Template}
      {after : History} (hFound : setup.partials.find? name = some source)
      (hContext : site.innerContext? setup expression = .ok inner)
      (hEnter : site.frame.enter name source = .ok frame)
      (hCompile : site.state.history.compile (site.limit setup) (site.innerOptions setup) source
        (some name) = .ok (template, after)) (hRoom : site.room = room + 1)
      (hOpens : setup.machine.opens (.inclusion name :: site.state.around) = false) :
      Included setup site name expression
        (.error (.fault .stackUsedUp), { site.state with history := after })
  | rendered {room : Nat} {source : String} {inner : Value} {frame : Frame} {template : Template}
      {after : History} (hFound : setup.partials.find? name = some source)
      (hContext : site.innerContext? setup expression = .ok inner)
      (hEnter : site.frame.enter name source = .ok frame)
      (hCompile : site.state.history.compile (site.limit setup) (site.innerOptions setup) source
        (some name) = .ok (template, after)) (hRoom : site.room = room + 1)
      (hOpens : setup.machine.opens (.inclusion name :: site.state.around) = true)
      {result : Except Failure String} {last : State}
      (hInner : Task.outcome setup ⟨room, frame, template.nodes, inner, site.metadata,
        State.inside (.inclusion name) ⟨after, some frame, site.state.around⟩⟩ = (result, last)) :
      Included setup site name expression
        (result, { last with published := site.state.published, around := site.state.around })

/-- Only a context expression leaves a partial without a context: it cannot be looked up, or the keys
cannot be compared. -/
theorem exists_path_of_innerContext? {fault : Fault}
    (hContext : site.innerContext? setup expression = .error fault) :
    ∃ path, expression = some path ∧ (site.resolve path = .error fault ∨
      ∃ value, site.resolve path = .ok value ∧
        Render.innerContext? (site.compares setup) site.context value = .error fault) := by
  cases expression with
  | none => cases hContext
  | some path =>
    refine ⟨path, rfl, ?_⟩
    rw [innerContext?] at hContext
    cases hResolve : site.resolve path with
    | ok value =>
      rw [hResolve] at hContext
      exact .inr ⟨value, rfl, hContext⟩
    | error other =>
      rw [hResolve] at hContext
      cases hContext
      exact .inl rfl

theorem included_of_found {source : String} {inner : Value}
    (hFound : setup.partials.find? name = some source)
    (hContext : site.innerContext? setup expression = .ok inner) :
    site.Included setup name expression
      ((enterPartial setup site.room site.frame name source inner site.metadata).run
        site.state) := by
  unfold enterPartial
  cases hEnter : site.frame.enter name source with
  | error error => exact .refused hFound hContext hEnter
  | ok frame =>
    dsimp only
    cases hCompile : site.state.history.compile (site.limit setup) (site.innerOptions setup)
        source (some name) with
    | error error =>
      have hRun := run_compile_of_error site.state hCompile
      rw [innerOptions] at hRun
      rw [run_bind_of_error hRun]
      exact .uncompiled hFound hContext hEnter hCompile
    | ok compiled =>
      obtain ⟨template, after⟩ := compiled
      have hRun := run_compile_of_ok site.state hCompile
      rw [innerOptions] at hRun
      rw [run_bind_of_ok hRun]
      cases hRoom : site.room with
      | zero => exact .bounded hFound hContext hEnter hCompile hRoom
      | succ room =>
        let opened : State := { site.state with history := after }
        cases hOpens : setup.machine.opens (.inclusion name :: opened.around) with
        | false =>
          dsimp only
          rw [run_entered_of_not_opens hOpens]
          exact .closed hFound hContext hEnter hCompile hRoom hOpens
        | true =>
          dsimp only
          rw [run_entered_of_opens hOpens]
          exact .rendered hFound hContext hEnter hCompile hRoom hOpens rfl

/-- Nothing else comes of a node that includes a partial. -/
theorem included (hNode : site.node = .inclusion offset name expression) :
    site.Included setup name expression (site.outcome setup) := by
  cases hFound : setup.partials.find? name with
  | none =>
    unfold outcome
    rw [hNode]
    unfold renderNode partial?
    rw [hFound]
    cases hStrict : site.frame.strict with
    | true =>
      have hPlace : site.frame.place offset = site.place := by rw [place, hNode]; rfl
      have hUnknown : site.Included setup name expression _ := .unknown hFound hStrict
      rw [← hPlace] at hUnknown
      exact hUnknown
    | false => exact .skipped hFound hStrict
  | some source =>
    cases hContext : site.innerContext? setup expression with
    | ok inner =>
      rw [outcome_inclusion hNode hFound hContext]
      exact included_of_found hFound hContext
    | error fault =>
      obtain ⟨path, rfl, hFault | ⟨value, hValue, hKeys⟩⟩ := exists_path_of_innerContext? hContext
      · rw [outcome_inclusion_of_error hNode hFound hFault]
        exact .unresolved hFound rfl hFault
      · rw [outcome_inclusion_of_keys hNode hFound hValue hKeys]
        exact .uncompared hFound rfl hValue hKeys

end Stencil.Render.Site
