import Stencil.Proofs.Roomier

/-!
Partials written out. A tree of nodes that renders to a text still does so when nodes that include
partials are replaced by the nodes of these partials. What is lost is only that the partials are on
the stack. This matters to helpers that look at the frame, and where a partial is refused, which is
an error.
-/

namespace Stencil

namespace Render

variable {α β : Type} {setup : Setup} {machine : Machine}

/-- The second nodes are the first ones, in which some nodes that include a partial as it is, at any
depth, are replaced by the nodes of that partial. -/
inductive Inlined (setup : Setup) : List Node → List Node → Prop
  | nil : Inlined setup [] []
  | keep {node : Node} {nodes nodes' : List Node} (h : Inlined setup nodes nodes') :
      Inlined setup (node :: nodes) (node :: nodes')
  | block {offset : Nat} {name : String} {arguments : List String}
      {children children' nodes nodes' : List Node} (hInside : Inlined setup children children')
      (h : Inlined setup nodes nodes') :
      Inlined setup (.block offset name arguments children :: nodes)
        (.block offset name arguments children' :: nodes')
  | inclusion {offset : Nat} {name source : String} {within nodes nodes' : List Node}
      (hFound : setup.partials.find? name = some source)
      (hNodes : Template.Reads source within)
      (h : Inlined setup nodes nodes') :
      Inlined setup (.inclusion offset name none :: nodes) (within ++ nodes')

theorem Inlined.single {offset : Nat} {name source : String} {within : List Node}
    (hFound : setup.partials.find? name = some source)
    (hNodes : Template.Reads source within) :
    Inlined setup [.inclusion offset name none] within := by
  rw [← List.append_nil within]
  exact .inclusion hFound hNodes .nil

/-! ### A partial and its nodes -/

theorem renderNodes_append (enter : Entry) (frame : Frame) (nodes later : List Node)
    (context : Value) (metadata : Metadata) :
    renderNodes setup enter frame (nodes ++ later) context metadata =
      renderNodes setup enter frame nodes context metadata >>= fun text =>
        renderNodes setup enter frame later context metadata >>= fun rest =>
          pure (text ++ rest) := by
  induction nodes with
  | nil => simp only [List.nil_append, renderNodes, pure_bind, String.empty_append, bind_pure]
  | cons node nodes ih =>
    rw [List.cons_append, renderNodes, ih, renderNodes]
    simp only [bind_assoc, pure_bind, String.append_assoc]

/-- A source is compiled on the first side only. -/
theorem agree_compile_left {R : α → β → Prop} {source : String} {nodes : List Node}
    (hNodes : Template.Reads source nodes) (options : Options) (name : Option String)
    {f : Template → Step α} {y : Step β}
    (hf : ∀ template, template.nodes = nodes → AgreeUnless AnyFailure Unseen R (f template) y) :
    AgreeUnless AnyFailure Unseen R (compile machine options source name >>= f) y := by
  intro state state' hs
  cases hc : state.history.compile (machine.nesting state.around) options source name with
  | error error =>
    rw [run_bind_of_error (run_compile_of_error state hc)]
    exact .inl ⟨_, rfl, trivial⟩
  | ok compiled =>
    obtain ⟨template, after⟩ := compiled
    obtain ⟨others, hOthers, hSpec, hAfter⟩ := History.spec_of_compile_ok hs.faithful hc
    cases hNodes.unique hOthers
    rw [run_bind_of_ok (run_compile_of_ok state hc)]
    exact hf template (Template.anonymous_eq_iff.1 hSpec).1 _ _ ⟨hAfter, hs.faithful', hs.around⟩

/-- A partial is opened, and its frame published, on the first side only. The second side closes what
it opens. -/
theorem agree_opened_left {R : α → β → Prop} {frame : Frame} {surrounding : Surrounding}
    {x : Step α} {y : Step β} (h : AgreeUnless AnyFailure Unseen R x y)
    (hCloses : ∀ around, Keeps (In around) y) :
    AgreeUnless AnyFailure Unseen R (publishing frame (inside machine surrounding x)) y := by
  intro state state' hs
  cases hOpens : machine.opens (surrounding :: state.around) with
  | false =>
    rw [run_entered_of_not_opens hOpens]
    exact .inl ⟨_, rfl, trivial⟩
  | true =>
    let opened : State := State.inside surrounding ⟨state.history, some frame, state.around⟩
    have hOpened : Unseen opened state' :=
      ⟨hs.faithful, hs.faithful', hs.around.cons surrounding⟩
    have hClosed : (y.run state').2.around = state'.around := hCloses _ state' rfl
    rw [run_entered_of_opens hOpens]
    refine (h opened state' hOpened).imp id fun ⟨hr, ht⟩ => ⟨hr, ht.faithful, ht.faithful', ?_⟩
    rw [hClosed]
    exact hs.around

section

variable {depth depth' : Nat} {frame frame' : Frame}
  (hCompiles : CompilesOn setup machine AnyFailure) (hSuits : Suits setup AnyFailure Unseen)
  (hMatched : Matched AnyFailure Unseen setup.machine machine)
include hCompiles hSuits hMatched

/-- A partial that is rendered to a text leaves its place to its nodes. -/
theorem agree_enterPartial_nodes (h : Roomier AnyFailure frame frame') (hDepth : depth ≤ depth')
    {name source : String} {nodes : List Node} (hNodes : Template.Reads source nodes)
    (context : Value) (metadata : Metadata) :
    AgreeUnless AnyFailure Unseen Eq (enterPartial setup depth frame name source context metadata)
      (renderNodes (setup.on machine) (enterPartial (setup.on machine) depth') frame' nodes context
        metadata) := by
  cases hEnter : frame.enter name source with
  | error error =>
    rw [enterPartial_of_refused hEnter]
    exact .excused trivial _
  | ok inner =>
    cases depth with
    | zero =>
      rw [enterPartial_zero_of_entered hEnter]
      exact agree_compile_left hNodes _ _ fun _ _ => .excused trivial _
    | succ depth =>
      rw [enterPartial_succ, enterOnce_of_entered hEnter]
      refine agree_compile_left hNodes _ _ fun template hSame => agree_opened_left ?_ fun around =>
        keeps_in_renderNodes around _ _ _ _ _
      have hInner := h.inside (fun _ => trivial) hEnter
      rw [hSame]
      exact agree_renderNodes_roomier hCompiles hSuits hMatched (fun _ _ => trivial) hInner
        (Nat.le_of_succ_le hDepth) nodes context metadata

/-- Nodes that are rendered to a text are rendered to the same text with partials written out, on a
machine that compiles every partial wherever it is included. -/
theorem Inlined.agree {nodes nodes' : List Node} (hInlined : Inlined setup nodes nodes')
    (depth : Nat) (frame : Frame) (context : Value) (metadata : Metadata) :
    AgreeUnless AnyFailure Unseen Eq
      (renderNodes setup (enterPartial setup depth) frame nodes context metadata)
      (renderNodes (setup.on machine) (enterPartial (setup.on machine) depth) frame nodes' context
        metadata) := by
  have hSame : Roomier AnyFailure frame frame := .refl _ _
  have hAppend {x x' y y' : Step String} (hx : AgreeUnless AnyFailure Unseen Eq x x')
      (hy : AgreeUnless AnyFailure Unseen Eq y y') :
      AgreeUnless AnyFailure Unseen Eq (x >>= fun text => y >>= fun later => pure (text ++ later))
        (x' >>= fun text => y' >>= fun later => pure (text ++ later)) :=
    hx.bind_eq fun text => hy.bind_eq fun later => .pure rfl
  induction hInlined generalizing context metadata with
  | nil =>
    rw [renderNodes]
    exact .pure rfl
  | @keep node nodes nodes' hLater ih =>
    have hNodes := agree_roomier hCompiles hSuits hMatched (fun _ _ => trivial) hSame
      (Nat.le_refl depth)
    have hNode := hNodes.renderNode node (fun _ _ => trivial) context metadata
    rw [renderNodes, renderNodes]
    exact hAppend hNode (ih _ _)
  | block hInside hLater ihInside ih =>
    rw [renderNodes, renderNodes]
    exact hAppend (.renderBlock_eq hSame.beside hSuits hMatched _ _ _ ihInside _ _) (ih _ _)
  | @inclusion offset name source within nodes nodes' hFound hNodes hLater ih =>
    have hPartial : renderNode setup (enterPartial setup depth) frame (.inclusion offset name none)
        context metadata = enterPartial setup depth frame name source context metadata := by
      rw [renderNode, partial?, hFound, pure_bind]
      exact pure_bind _ _
    -- Written out, the nodes are rendered in the frame around the partial, which is roomier.
    rw [renderNodes, renderNodes_append, hPartial]
    exact hAppend (agree_enterPartial_nodes hCompiles hSuits hMatched hSame (Nat.le_refl _) hNodes
      context metadata) (ih _ _)

end

/-! ### Outcomes -/

/-- Where the first part gives a text, the second one gives the same. -/
theorem AgreeUnless.ok {E : Failure → Prop} {S : State → State → Prop} {x y : Step α}
    (h : AgreeUnless E S Eq x y) {state state' : State} (hs : S state state') {a : α}
    (hx : (x.run state).1 = .ok a) : (y.run state').1 = .ok a := by
  rcases h state state' hs with ⟨failure, hFails, -⟩ | ⟨hr, -⟩
  · rw [hx] at hFails
    cases hFails
  · rw [← hr.eq, hx]

/-- A render that leads to no partial that is refused for its depth comes to the same on every machine
that yields as much. -/
theorem Task.outcome_eq_on (hMachine : machine.Suffices setup) (task : Task)
    (hState : task.state.Faithful) (hClean : ¬task.Overflows setup) :
    (task.outcome setup).1 = (task.outcome (setup.on machine)).1 :=
  (Task.concur hMachine task (Beneath.refl hState) hClean).result.eq

/-- Where there is a text, there is the same text with partials written out. -/
theorem Task.outcome_inlined (hSuits : Suits setup AnyFailure Unseen) {task : Task}
    {nodes : List Node} (hState : task.state.Faithful) (hInlined : Inlined setup task.nodes nodes)
    (hClean : ¬Task.Overflows setup { task with nodes }) {text : String}
    (h : (task.outcome setup).1 = .ok text) :
    (Task.outcome setup { task with nodes }).1 = .ok text := by
  obtain ⟨machine, hMachine, hAmple⟩ := setup.exists_ample
  have hMatched : Matched AnyFailure Unseen setup.machine machine :=
    matched_unseen hMachine.opens hMachine.compares fun _ _ => trivial
  rw [Task.outcome_eq_on hMachine { task with nodes } hState hClean]
  exact (hInlined.agree (compilesOn_anyFailure hAmple) hSuits hMatched _ _ _ _).ok hState.unseen h

/-- A partial that is entered, opened and not refused is rendered as its nodes are in a frame of their
own. -/
theorem run_enterPartial_of_entered {frame inner : Frame} {name source : String}
    {nodes : List Node} {state : State} (hEnter : frame.enter name source = .ok inner)
    (hNodes : Template.Reads source nodes) (hState : state.Faithful)
    (hRefused : ∀ error, state.history.compile (setup.machine.nesting state.around)
      (setup.options.merge { strict := frame.strict, noEscape := frame.noEscape }) source
      (some name) = .error error → ¬Template.TooDeep (setup.machine.nesting state.around) source)
    (hOpens : setup.machine.opens (.inclusion name :: state.around) = true)
    {depth : Nat} {context : Value} {metadata : Metadata}
    (hClean : ¬Task.Overflows setup ⟨depth, inner, nodes, context, metadata,
      State.inside (.inclusion name) ⟨state.history, some inner, state.around⟩⟩) :
    ((enterPartial setup (depth + 1) frame name source context metadata).run state).1 =
      (Task.outcome setup ⟨depth, inner, nodes, context, metadata,
        State.inside (.inclusion name) ⟨state.history, some inner, state.around⟩⟩).1 := by
  obtain ⟨template, after, hCompile, hSpec, -⟩ :=
    History.compile_of_not_refused hState hNodes hRefused
  have hBelow : Beneath ⟨state.history, some inner, state.around⟩
      ⟨after, some inner, state.around⟩ := ⟨.of_compile hState hCompile, rfl, rfl⟩
  have hTask := Task.concur setup.suffices_self _
    (steady_beneath.opened (.inclusion name) hBelow) hClean
  let compiled : State := { state with history := after }
  have hRoomFor : setup.machine.opens (.inclusion name :: compiled.around) = true := hOpens
  rw [enterPartial_succ, enterOnce_of_entered hEnter,
    run_bind_of_ok (run_compile_of_ok state hCompile), run_entered_of_opens hRoomFor,
    (Template.anonymous_eq_iff.1 hSpec).1]
  exact hTask.result.eq.symm

/-- If there is no stack to open a partial, that is what comes of it. -/
theorem run_enterPartial_of_closed {frame inner : Frame} {name source : String}
    {nodes : List Node} {state : State} (hEnter : frame.enter name source = .ok inner)
    (hNodes : Template.Reads source nodes) (hState : state.Faithful)
    (hRefused : ∀ error, state.history.compile (setup.machine.nesting state.around)
      (setup.options.merge { strict := frame.strict, noEscape := frame.noEscape }) source
      (some name) = .error error → ¬Template.TooDeep (setup.machine.nesting state.around) source)
    (hOpens : setup.machine.opens (.inclusion name :: state.around) = false)
    (depth : Nat) (context : Value) (metadata : Metadata) :
    ((enterPartial setup (depth + 1) frame name source context metadata).run state).1 =
      .error (.fault .stackUsedUp) := by
  obtain ⟨template, after, hCompile, -⟩ := History.compile_of_not_refused hState hNodes hRefused
  let compiled : State := { state with history := after }
  have hNoRoom : setup.machine.opens (.inclusion name :: compiled.around) = false := hOpens
  rw [enterPartial_succ, enterOnce_of_entered hEnter,
    run_bind_of_ok (run_compile_of_ok state hCompile), run_entered_of_not_opens hNoRoom]

/-- Where there is no room for one more partial, a cycle is reported. -/
theorem run_enterPartial_of_no_room {frame inner : Frame} {name source : String} {nodes : List Node}
    {state : State} (hEnter : frame.enter name source = .ok inner)
    (hNodes : Template.Reads source nodes) (hState : state.Faithful)
    (hDeep : ¬Template.TooDeep (setup.machine.nesting state.around) source) (context : Value)
    (metadata : Metadata) :
    ((enterPartial setup 0 frame name source context metadata).run state).1 =
      .error (.error (.render (.ofCause (.partialCycle name frame.stack)
        { templateName := frame.templateName }))) := by
  let options := setup.options.merge { strict := frame.strict, noEscape := frame.noEscape }
  obtain ⟨template, after, hCompile, -⟩ :=
    History.compile_of_reads hState hNodes hDeep options (some name)
  have hRun : (compile setup.machine options source name).run state =
      (.ok template, { state with history := after }) := run_compile_of_ok state hCompile
  rw [enterPartial_zero_of_entered hEnter]
  exact congrArg Prod.fst (run_bind_of_ok hRun)

/-- If nodes are rendered to a text in a frame, then so they are inside of a partial on an ample
machine, unless a cycle is reported or there is no stack left. -/
theorem outcome_inside_of_text (hMachine : machine.Suffices setup)
    (hAmple : (setup.on machine).Ample)
    (hHelpers : setup.Every fun helper => helper.Blind ∧ helper.CatchesNothing)
    {frame inner : Frame} {name source : String} {nodes : List Node} {state : State}
    (hEnter : frame.enter name source = .ok inner) (hState : state.Faithful) {depth : Nat}
    {context : Value} {metadata : Metadata} {text : String}
    (h : (Task.outcome setup ⟨depth + 1, frame, nodes, context, metadata, state⟩).1 = .ok text) :
    let result := (Task.outcome (setup.on machine) ⟨depth, inner, nodes, context, metadata,
      State.inside (.inclusion name) ⟨state.history, some inner, state.around⟩⟩).1
    result = .ok text ∨ ∃ failure, result = .error failure ∧ TellsCycleOrUsedUp failure := by
  have hAny : Suits setup AnyFailure Unseen :=
    suits_anyFailure (hHelpers.mono fun _ h => ⟨h.1, h.2.passesOn _⟩)
  have hSuits : Suits (setup.on machine) TellsCycleOrUsedUp Unseen :=
    suits_tellsCycleOrUsedUp hHelpers
  -- In between, there is the frame of the partial in which the partial is not on the stack.
  let between : Frame := { frame with templateName := some name, source := some source }
  have hMoved : Roomier AnyFailure frame between :=
    .renamed (fun _ => trivial) frame (some name) (some source)
  have hUnstacked : Roomier TellsCycleOrUsedUp inner between := .unstacked TellsCycleOrUsedUp hEnter
  have hMatched : Matched AnyFailure Unseen setup.machine machine :=
    matched_unseen hMachine.opens hMachine.compares fun _ _ => trivial
  have hSelf : Matched TellsCycleOrUsedUp Unseen (setup.on machine).machine machine :=
    matched_unseen rfl rfl fun _ hUsedUp => .inr hUsedUp
  have hBetween : (Task.outcome (setup.on machine) ⟨depth + 1, between, nodes, context, metadata,
      state⟩).1 = .ok text :=
    (agree_renderNodes_roomier (compilesOn_anyFailure hAmple) hAny hMatched (fun _ _ => trivial)
      hMoved (Nat.le_refl _) _ _ _).ok hState.unseen h
  have hStates : Unseen (State.inside (.inclusion name)
      ⟨state.history, some inner, state.around⟩) state := ⟨hState, hState, .cons _ (.refl _)⟩
  rcases agree_renderNodes_roomier (compilesOn_of_ample hAmple hAmple TellsCycleOrUsedUp) hSuits
    hSelf (fun error hCycle => .inl ⟨error, rfl, hCycle⟩) hUnstacked (Nat.le_succ depth) nodes
    context metadata _ _ hStates with ⟨failure, hFails, hTells⟩ | ⟨hSame, -⟩
  · exact .inr ⟨failure, hFails, hTells⟩
  · exact .inl (hSame.eq.trans hBetween)

/-- If the nodes of a partial are rendered to a text where the partial is included, then so is the
partial on an ample machine, unless a cycle is reported or there is no stack left. -/
theorem run_enterPartial_of_nodes (hMachine : machine.Suffices setup)
    (hAmple : (setup.on machine).Ample)
    (hHelpers : setup.Every fun helper => helper.Blind ∧ helper.CatchesNothing) {frame : Frame}
    {name source : String} {nodes : List Node} {state : State}
    (hFound : setup.partials.find? name = some source) (hNodes : Template.Reads source nodes)
    (hState : state.Faithful) {depth : Nat} {context : Value} {metadata : Metadata} {text : String}
    (h : (Task.outcome setup ⟨depth, frame, nodes, context, metadata, state⟩).1 = .ok text) :
    let result :=
      ((enterPartial (setup.on machine) depth frame name source context metadata).run state).1
    result = .ok text ∨ ∃ failure, result = .error failure ∧ TellsCycleOrUsedUp failure := by
  intro result
  have hDeep : ¬Template.TooDeep (machine.nesting state.around) source :=
    hAmple name source hFound state.around
  cases hEnter : frame.enter name source with
  | error error =>
    refine .inr ⟨.error (.render error), ?_, .inl ⟨error, rfl, isCycle_of_refused hEnter⟩⟩
    exact congrArg (fun step => (step.run state).1) (enterPartial_of_refused hEnter depth context
      metadata)
  | ok inner =>
    cases depth with
    | zero =>
      have hCycle : IsCycle (.ofCause (.partialCycle name frame.stack)
          { templateName := frame.templateName }) := rfl
      have hBounded := @run_enterPartial_of_no_room (setup.on machine) _ _ _ _ _ _ hEnter hNodes
        hState hDeep context metadata
      exact .inr ⟨_, hBounded, .inl ⟨_, rfl, hCycle⟩⟩
    | succ depth =>
      cases hOpens : (setup.on machine).machine.opens (.inclusion name :: state.around) with
      | false =>
        exact .inr ⟨_, run_enterPartial_of_closed hEnter hNodes hState (fun _ _ => hDeep) hOpens
          depth context metadata, .inr (.fault (.inl rfl))⟩
      | true =>
        have hWithin := @run_enterPartial_of_entered (setup.on machine) _ _ _ _ _ _ hEnter hNodes
          hState (fun _ _ => hDeep) hOpens depth context metadata (Task.not_overflows hAmple _)
        rcases outcome_inside_of_text hMachine hAmple hHelpers hEnter hState h with
          hText | ⟨failure, hFails, hTells⟩
        · exact .inl (hWithin.trans hText)
        · exact .inr ⟨failure, hWithin.trans hFails, hTells⟩

namespace Site

/-- Some nodes, rendered in another context instead of the node at the site. -/
def withNodes (site : Site) (nodes : List Node) (context : Value) : Task :=
  ⟨site.room, site.frame, nodes, context, site.metadata, site.state⟩

/-- The node at the site, with nothing behind it. -/
def alone (site : Site) : Task := site.withNodes [site.node] site.context

/-- Some nodes in the frame of a partial that is entered at the site. -/
def within (site : Site) (room : Nat) (frame : Frame) (name : String) (nodes : List Node)
    (context : Value) : Task :=
  ⟨room, frame, nodes, context, site.metadata,
    State.inside (.inclusion name) ⟨site.state.history, some frame, site.state.around⟩⟩

theorem outcome_alone (site : Site) : (site.alone.outcome setup).1 = (site.outcome setup).1 := by
  rw [alone, withNodes, Task.outcome_cons]
  rcases hSite : site.outcome setup with ⟨failure | text, after⟩
  · rw [run_bind_of_error hSite]
  · rw [run_bind_of_ok hSite, renderNodes]
    exact congrArg Except.ok String.append_empty

/-- The node includes a partial, and is rendered as the nodes of the partial are in a context: as
they are in the frame of the partial, if it can be opened, and as they are instead of the node if
there is a text. This is so unless a partial is refused because its blocks lie too deep for what is
left of the machine. -/
structure RendersAs (setup : Setup) (site : Site) (name source : String) (nodes : List Node)
    (context : Value) : Prop where
  refused : ∀ error, site.frame.enter name source = .error error →
    (site.outcome setup).1 = .error (.error (.render error))
  closed : ∀ room frame, site.room = room + 1 → site.frame.enter name source = .ok frame →
    setup.machine.opens (.inclusion name :: site.state.around) = false →
    ¬site.Overflows setup → (site.outcome setup).1 = .error (.fault .stackUsedUp)
  entered : ∀ room frame, site.room = room + 1 → site.frame.enter name source = .ok frame →
    setup.machine.opens (.inclusion name :: site.state.around) = true →
    ¬site.Overflows setup → ¬(site.within room frame name nodes context).Overflows setup →
    (site.outcome setup).1 = ((site.within room frame name nodes context).outcome setup).1
  text : (setup.Every fun helper => helper.Blind ∧ helper.FailsWithBody) →
    ¬(site.withNodes nodes context).Overflows setup → ∀ text,
    (site.outcome setup).1 = .ok text → ((site.withNodes nodes context).outcome setup).1 = .ok text
  textOrCycle : (setup.Every fun helper => helper.Blind ∧ helper.CatchesNothing) →
    ¬site.alone.Overflows setup → ∀ text,
    ((site.withNodes nodes context).outcome setup).1 = .ok text →
    (site.outcome setup).1 = .ok text ∨
      ∃ failure, (site.outcome setup).1 = .error failure ∧ TellsCycleOrUsedUp failure

variable {site : Site} {offset : Nat} {name : String}

/-- A node that includes a partial is rendered as its nodes are, in the context that it is given. -/
theorem rendersAs {source : String} {nodes : List Node} {expression : Option String}
    {context : Value} (hState : site.state.Faithful)
    (hNode : site.node = .inclusion offset name expression)
    (hContext : site.innerContext? setup expression = .ok context)
    (hFound : setup.partials.find? name = some source) (hNodes : Template.Reads source nodes) :
    site.RendersAs setup name source nodes context := by
  have hOutcome := outcome_inclusion hNode hFound hContext
  have hRefusedDeep {frame : Frame} (hEnter : site.frame.enter name source = .ok frame)
      (hClean : ¬site.Overflows setup) (error : CompileError)
      (hCompile : site.state.history.compile (site.limit setup) (site.innerOptions setup) source
        (some name) = .error error) : ¬Template.TooDeep (site.limit setup) source :=
    fun hDeep => hClean ⟨hNode, hFound, hContext, hEnter, hCompile, hDeep⟩
  obtain ⟨machine, hMachine, hAmple⟩ := setup.exists_ample
  constructor
  · intro error hEnter
    rw [hOutcome, enterPartial_of_refused hEnter]
    rfl
  · intro room frame hRoom hEnter hOpens hClean
    rw [hOutcome, hRoom]
    exact run_enterPartial_of_closed hEnter hNodes hState (hRefusedDeep hEnter hClean) hOpens _ _ _
  · intro room frame hRoom hEnter hOpens hRefused hClean
    rw [hOutcome, hRoom]
    exact run_enterPartial_of_entered hEnter hNodes hState (hRefusedDeep hEnter hRefused) hOpens
      hClean
  · intro hHelpers hClean text h
    have hMatched : Matched AnyFailure Unseen setup.machine machine :=
      matched_unseen hMachine.opens hMachine.compares fun _ _ => trivial
    rw [hOutcome] at h
    rw [Task.outcome_eq_on hMachine _ hState hClean]
    exact (agree_enterPartial_nodes (compilesOn_anyFailure hAmple) (suits_anyFailure hHelpers)
      hMatched (.refl _ _) (Nat.le_refl _) hNodes _ _).ok hState.unseen h
  · intro hHelpers hClean text h
    have hSame : Site.innerContext? (setup.on machine) site expression = .ok context := by
      have hCompares : site.compares (setup.on machine) = site.compares setup :=
        congrFun hMachine.compares site.state.around
      rw [← hContext]
      unfold innerContext?
      rw [hCompares]
    have hOther := @outcome_inclusion (setup.on machine) site _ _ _ _ _ hNode hFound hSame
    rw [← outcome_alone, Task.outcome_eq_on hMachine _ hState hClean, outcome_alone, hOther]
    exact run_enterPartial_of_nodes hMachine hAmple hHelpers hFound hNodes hState h

/-- A value without entries is no context for a partial. -/
theorem outcome_of_entries_eq_none {path : String} {value : Value}
    (hNode : site.node = .inclusion offset name (some path))
    (hValue : site.resolve path = .ok value) (hNone : value.entries? = none) :
    site.outcome setup =
      Site.outcome setup { site with node := .inclusion offset name none } := by
  cases hFound : setup.partials.find? name with
  | some source =>
    have hContext : site.innerContext? setup (some path) = .ok site.context := by
      have hKeys : Render.innerContext? (site.compares setup) site.context value =
          .ok site.context := by
        unfold Render.innerContext? innerContext
        rw [hNone]
        rfl
      rw [innerContext?, hValue]
      exact hKeys
    have hWithout : innerContext? setup { site with node := .inclusion offset name none } none =
        .ok site.context := rfl
    rw [outcome_inclusion hNode hFound hContext]
    exact (outcome_inclusion rfl hFound hWithout).symm
  | none =>
    unfold outcome
    rw [hNode]
    unfold renderNode partial?
    rw [hFound]
    cases site.frame.strict <;> rfl

end Site

end Render

namespace Engine

open Render

/-- Partials may be written out. If no helper looks at the frame, and every helper fails with the
body of its block, then whatever is rendered to a text is rendered to the same text with nodes in
place of partials that include them as they are. A partial with a map for its context is rendered as
its nodes are in a context with the entries of that map laid over the entries around it, and what is
no map makes no difference. All this is so unless a partial is refused because its blocks lie too
deep for what is left of the machine at its place. A partial also needs stack for itself, and its map
stack for keys to be compared, which its nodes do not need in its place. -/
theorem partials_inline (machine : Machine) (options : Options) (operations : List Operation) :
    let engine := (new machine options).performAll operations
    let setup := engine.setup
    ((setup.Every fun helper => helper.Blind ∧ helper.FailsWithBody) →
        (∀ (task : Task) (nodes : List Node) (text : String), task.state.Faithful →
          Inlined setup task.nodes nodes → ¬Task.Overflows setup { task with nodes } →
          (task.outcome setup).1 = .ok text →
          (Task.outcome setup { task with nodes }).1 = .ok text) ∧
        ∀ (template : Template) (nodes : List Node) (context : Value)
            (named : List (String × Value)) (text : String), Inlined setup template.nodes nodes →
          ¬(engine.task { template with nodes } context named).Overflows setup →
          (engine.call template context named).1 = .ok text →
          (engine.call { template with nodes } context named).1 = .ok text) ∧
      (∀ (site : Site) (offset : Nat) (name path : String) (value : Value),
        site.state.Faithful → site.node = .inclusion offset name (some path) →
        site.resolve path = .ok value →
        match value.entries? with
        | some entries => ∀ source nodes, setup.partials.find? name = some source →
            Template.Reads source nodes →
            let around := site.context.entries?.getD []
            (Value.keysTooDeep (site.compares setup) around entries = false →
                site.RendersAs setup name source nodes (.map (Value.merge around entries))) ∧
              (Value.keysTooDeep (site.compares setup) around entries = true →
                (site.outcome setup).1 = .error (.fault .keysTooDeep))
        | none => site.outcome setup =
            Site.outcome setup { site with node := .inclusion offset name none }) ∧
      (∀ (key : String) (entries later : List (Value × Value)),
        Value.find? (.text key) (Value.merge entries later) =
          (Value.find? (.text key) later.reverse).or (Value.find? (.text key) entries)) ∧
      ∀ (template : Template) (context : Value) (named : List (String × Value)) (path : List String)
          (site : Site), Leads setup (engine.task template context named) path site →
        site.state.Faithful ∧ setup.room site.frame ≤ site.room := by
  intro engine setup
  have hFaithful : engine.Faithful := faithful_performAll machine options operations
  refine ⟨fun hHelpers => ⟨?_, ?_⟩, ?_, Value.find?_merge, ?_⟩
  · intro task nodes text hState hInlined hClean h
    exact task.outcome_inlined (suits_anyFailure hHelpers) hState hInlined hClean h
  · intro template nodes context named text hInlined hClean h
    exact (engine.task template context named).outcome_inlined (suits_anyFailure hHelpers) hFaithful
      hInlined hClean h
  · intro site offset name path value hState hNode hValue
    cases hEntries : value.entries? with
    | none => exact Site.outcome_of_entries_eq_none hNode hValue hEntries
    | some entries =>
      intro source nodes hFound hNodes around
      have hInner (hDeep : Bool) (h : Value.keysTooDeep (site.compares setup) around entries = hDeep) :
          Render.innerContext? (site.compares setup) site.context value =
            if hDeep then .error .keysTooDeep else .ok (.map (Value.merge around entries)) := by
        unfold Render.innerContext? innerContext
        rw [hEntries, ← h]
        rfl
      refine ⟨fun hFits => ?_, fun hDeep => ?_⟩
      · refine Site.rendersAs hState hNode ?_ hFound hNodes
        rw [Site.innerContext?, hValue]
        exact hInner false hFits
      · rw [Site.outcome_inclusion_of_keys hNode hFound hValue (hInner true hDeep)]
  · intro template context named path site hLeads
    exact ⟨(hLeads.kept keptByCompiling_faithful ⟨hFaithful, rfl⟩).history,
      hLeads.room_le (Setup.room_le_size _)⟩

/-- A partial inside a block, and the same partial with a map and with a text for its context. -/
theorem partials_inline_row :
    let row := "<" ++ Node.tag "name" ++ ">"
    let engine := (new .small {}).performAll [.registerPartial "row" row]
    let nodes := (Template.compile 8 row none).toOption.getD []
    let template : Template :=
      ⟨0, 0, [.block 0 "if" ["name"] [.inclusion 0 "row" none]], "", none, {}⟩
    let inner : List (Value × Value) := [(.text "name", .text "b")]
    let around : List (Value × Value) := [(.text "name", .text "a"), (.text "inner", .map inner)]
    let frame := topFrame template
    let site (path : String) : Site :=
      ⟨1, frame, .inclusion 0 "row" (some path), .map around, [], ⟨engine.history, some frame, []⟩⟩
    let given := (site "inner").withNodes nodes (.map (Value.merge around inner))
    (engine.call template (.map around) []).1 = .ok "<a>" ∧
      (engine.call { template with nodes := [.block 0 "if" ["name"] nodes] } (.map around) []).1 =
        .ok "<a>" ∧
      ((site "inner").outcome engine.setup).1 = .ok "<b>" ∧
      (given.outcome engine.setup).1 = .ok "<b>" ∧
      (site "name").outcome engine.setup =
        Site.outcome engine.setup { site "name" with node := .inclusion 0 "row" none } := by
  intro row engine nodes template inner around frame site given
  have hHelpers : engine.setup.Every fun helper => helper.Blind ∧ helper.FailsWithBody :=
    Setup.Every.mono (every_new .small {}) fun helper h => ⟨h.blind, h.catchesNothing.passesOn _⟩
  have hFound : engine.setup.partials.find? "row" = some row := by decide +kernel
  have hNodes : Template.Reads row nodes :=
    Template.reads_of_compile (Template.compile_of_isOk (by decide +kernel))
  have hRow : ¬Template.TooDeep 8 row := by decide +kernel
  have hAmple : engine.setup.Ample := by
    intro name found hFound around
    have hInsert : engine.setup.partials.find? name = if name = "row" then some row else none :=
      Table.find?_insert ..
    rw [hInsert] at hFound
    split at hFound
    · cases hFound
      exact hRow
    · cases hFound
  have hInlined : Inlined engine.setup template.nodes [.block 0 "if" ["name"] nodes] :=
    .block (.single hFound hNodes) .nil
  have hCall : (engine.call template (.map around) []).1 = .ok "<a>" := by decide +kernel
  have hGiven : ((site "inner").outcome engine.setup).1 = .ok "<b>" := by decide +kernel
  have hState (path : String) : (site path).state.Faithful :=
    faithful_performAll .small {} [.registerPartial "row" row]
  obtain ⟨hTexts, hSites, -, -⟩ := partials_inline .small {} [.registerPartial "row" row]
  have hInner : (site "inner").resolve "inner" = .ok (.map inner) := rfl
  have hName : (site "name").resolve "name" = .ok (.text "a") := rfl
  exact ⟨hCall, (hTexts hHelpers).2 template _ (.map around) [] "<a>" hInlined
      (Task.not_overflows hAmple _) hCall, hGiven,
    ((hSites (site "inner") 0 "row" "inner" _ (hState _) rfl hInner row nodes hFound hNodes).1
      rfl).text hHelpers (Task.not_overflows hAmple _) _ hGiven,
    hSites (site "name") 0 "row" "name" _ (hState _) rfl hName⟩

/-- It is not enough that helpers do not look at the frame: one that makes a text of what its body
raises tells whether the partial around it may be entered again. And the nodes of a partial may be
rendered where the partial itself, with a map for its context, reports a cycle. A partial that is
written out is not compiled, so it is compiled where it comes next, which may be too deep. -/
theorem partials_not_inline :
    let attempt : Helper := ⟨.block, fun _ => .body .null [] fun outcome =>
      .done (.text (match outcome with
        | .ok text => text
        | .error _ => "!"))⟩
    let tried := "x" ++ Node.tag "#attempt" ++ Node.tag "> a" ++ Node.tag "/attempt"
    let catching := (new .small {}).performAll
      [.registerHelper "attempt" attempt, .registerPartial "a" tried]
    let including : Template := ⟨0, 0, [.inclusion 0 "a" none], "", none, {}⟩
    let inlined := (Template.compile 8 tried none).toOption.getD []
    let nested := "x" ++ Node.tag "#if m" ++ Node.tag "> p c" ++ Node.tag "/if"
    let engine := (new .small {}).performAll [.registerPartial "p" nested]
    let template : Template := ⟨0, 0, [.inclusion 0 "p" (some "this")], "", none, {}⟩
    let nodes := (Template.compile 8 nested none).toOption.getD []
    let entries : List (Value × Value) :=
      [(.text "m", .bool true), (.text "c", .map [(.text "m", .bool false)])]
    let shallow : Machine := { nesting := fun around => 1 - around.length, memory := twoTo 16 }
    let block := Node.tag "#if a" ++ Node.tag "/if"
    let cramped := (new shallow {}).performAll [.registerPartial "p" block]
    let later : Node := .block 0 "if" ["t"] [.inclusion 0 "p" none]
    let twice : Template := ⟨0, 0, [.inclusion 0 "p" none, later], "", none, {}⟩
    let once := (Template.compile 8 block none).toOption.getD [] ++ [later]
    let context : Value := .map [(.text "t", .bool true)]
    (catching.setup.Every Helper.Blind ∧ Inlined catching.setup including.nodes inlined ∧
        (catching.call including .null []).1 = .ok "x!" ∧
        (catching.call { including with nodes := inlined } .null []).1 = .ok "xx!") ∧
      (engine.setup.Every Helper.Blind ∧ Template.Reads nested nodes ∧
        (engine.call template (.map entries) []).1 = .error (.error (.render
          (.ofCause (.partialCycle "p" ["p"]) { templateName := some "p" }))) ∧
        (engine.call { template with nodes } (.map (Value.merge entries entries)) []).1 =
          .ok "xx") ∧
      cramped.setup.Every Helper.Blind ∧ Inlined cramped.setup twice.nodes once ∧
        (cramped.call twice context []).1 = .ok "" ∧
        (cramped.call { twice with nodes := once } context []).1 = .error (.error (.compile
          (.ofCause (.tooDeep "if") ⟨some block, some 0, some "p"⟩))) := by
  intro attempt tried catching including inlined nested engine template nodes entries shallow block
    cramped later twice once context
  have hInlined : Template.Reads tried inlined :=
    Template.reads_of_compile (Template.compile_of_isOk (by decide +kernel))
  have hNodes : Template.Reads nested nodes :=
    Template.reads_of_compile (Template.compile_of_isOk (by decide +kernel))
  have hBlock : Template.Reads block ((Template.compile 8 block none).toOption.getD []) :=
    Template.reads_of_compile (Template.compile_of_isOk (by decide +kernel))
  have hNew (machine : Machine) : (new machine {}).setup.Every Helper.Blind :=
    Setup.Every.mono (every_new machine {}) fun _ h => h.blind
  have hBlind : catching.setup.Every Helper.Blind := by
    intro name helper hFound
    have hInsert : catching.setup.helpers.find? name =
        if name = "attempt" then some attempt else engine.setup.helpers.find? name :=
      Table.find?_insert ..
    rw [hInsert] at hFound
    split at hFound
    · cases hFound
      exact fun _ => .body fun _ => .done _
    · exact hNew .small name helper hFound
  have hFound : catching.setup.partials.find? "a" = some tried := by decide +kernel
  have hFoundBlock : cramped.setup.partials.find? "p" = some block := by decide +kernel
  have hOnce : (catching.call including .null []).1 = .ok "x!" := by decide +kernel
  have hTwice : (catching.call { including with nodes := inlined } .null []).1 = .ok "xx!" := by
    decide +kernel
  have hCycle : (engine.call template (.map entries) []).1 = .error (.error (.render
      (.ofCause (.partialCycle "p" ["p"]) { templateName := some "p" }))) := by decide +kernel
  have hText : (engine.call { template with nodes } (.map (Value.merge entries entries)) []).1 =
      .ok "xx" := by decide +kernel
  have hCached : (cramped.call twice context []).1 = .ok "" := by decide +kernel
  have hRefused : (cramped.call { twice with nodes := once } context []).1 =
      .error (.error (.compile (.ofCause (.tooDeep "if") ⟨some block, some 0, some "p"⟩))) := by
    decide +kernel
  exact ⟨⟨hBlind, .single hFound hInlined, hOnce, hTwice⟩, ⟨hNew .small, hNodes, hCycle, hText⟩,
    hNew shallow, .inclusion hFoundBlock hBlock (.block (.keep .nil) .nil), hCached, hRefused⟩

end Engine

end Stencil
