import Stencil.Proofs.Failing

/-!
Where errors come from. A render that fails with an error leads to a node at which the error arises:
the node fails with it, and nothing that is rendered inside the node does. If no helper catches
anything, the error passes from there to the outside as it is. A fault that nobody reports passes
through partials, but through no block.
-/

namespace Stencil

namespace Render

variable {setup : Setup}

/-! ### From a render to its nodes -/

/-- A node of the list is rendered, after all nodes before it have been. -/
inductive Task.Visits (setup : Setup) : Task → Site → Prop
  | head {room : Nat} {frame : Frame} {node : Node} {nodes : List Node} {context : Value}
      {metadata : Metadata} {state : State} :
      Visits setup ⟨room, frame, node :: nodes, context, metadata, state⟩
        ⟨room, frame, node, context, metadata, state⟩
  | tail {room : Nat} {frame : Frame} {node : Node} {nodes : List Node} {context : Value}
      {metadata : Metadata} {state middle : State} {text : String} {site : Site}
      (hFirst : Site.outcome setup ⟨room, frame, node, context, metadata, state⟩ =
        (.ok text, middle))
      (h : Visits setup ⟨room, frame, nodes, context, metadata, middle⟩ site) :
      Visits setup ⟨room, frame, node :: nodes, context, metadata, state⟩ site

/-- The render leads to the node, by way of the partials on the path. -/
inductive Leads (setup : Setup) : Task → List String → Site → Prop
  | visit {task : Task} {site : Site} (h : task.Visits setup site) : Leads setup task [] site
  | inside {task inner : Task} {site last : Site} {entered path : List String}
      (hVisits : task.Visits setup site) (hStarts : site.Starts setup entered inner)
      (h : Leads setup inner path last) : Leads setup task (entered ++ path) last

theorem Task.outcome_cons {room : Nat} {frame : Frame} {node : Node} {nodes : List Node}
    {context : Value} {metadata : Metadata} {state : State} :
    Task.outcome setup ⟨room, frame, node :: nodes, context, metadata, state⟩ =
      (renderNode setup (enterPartial setup room) frame node context metadata >>= fun text =>
        renderNodes setup (enterPartial setup room) frame nodes context metadata >>= fun later =>
          pure (text ++ later)).run state := by
  rw [outcome, renderNodes]

/-- A list of nodes fails because one of them does. -/
theorem Task.exists_failing {task : Task} {failure : Failure} {after : State}
    (h : task.outcome setup = (.error failure, after)) :
    ∃ site, task.Visits setup site ∧ site.outcome setup = (.error failure, after) := by
  obtain ⟨room, frame, nodes, context, metadata, state⟩ := task
  induction nodes generalizing state with
  | nil =>
    unfold outcome renderNodes at h
    cases h
  | cons node nodes ih =>
    rw [outcome_cons] at h
    rcases run_bind_eq_error.1 h with h | ⟨text, middle, hFirst, h⟩
    · exact ⟨_, .head, h⟩
    · rcases run_bind_eq_error.1 h with h | ⟨later, last, -, h⟩
      · obtain ⟨site, hVisits, hFails⟩ := ih middle h
        exact ⟨site, .tail hFirst hVisits, hFails⟩
      · cases h

namespace Task.Visits

variable {task : Task} {site : Site}

theorem outcome (hVisits : task.Visits setup site) {failure : Failure} {after : State}
    (h : site.outcome setup = (.error failure, after)) :
    task.outcome setup = (.error failure, after) := by
  induction hVisits with
  | head =>
    rw [outcome_cons]
    exact run_bind_of_error h
  | tail hFirst hVisits ih =>
    rw [outcome_cons]
    exact (run_bind_of_ok hFirst).trans (run_bind_of_error (ih h))

theorem mem (hVisits : task.Visits setup site) : site.node ∈ task.nodes := by
  induction hVisits with
  | head => exact List.mem_cons_self
  | tail hFirst hVisits ih => exact List.mem_cons_of_mem _ ih

theorem room (hVisits : task.Visits setup site) : site.room = task.room := by
  induction hVisits with
  | head => rfl
  | tail hFirst hVisits ih => exact ih

theorem frame (hVisits : task.Visits setup site) : site.frame = task.frame := by
  induction hVisits with
  | head => rfl
  | tail hFirst hVisits ih => exact ih

end Task.Visits

/-- What is rendered inside a node is smaller, or fewer partials can be entered there. -/
theorem Site.Starts.smaller {task inner : Task} {site : Site} {entered : List String}
    (hVisits : task.Visits setup site) (hStarts : site.Starts setup entered inner) :
    inner.room < task.room ∨
      inner.room = task.room ∧ sizeOf inner.nodes < sizeOf task.nodes := by
  cases hStarts with
  | @body offset name arguments children helper values context more last hNode =>
    refine .inr ⟨hVisits.room, ?_⟩
    have hIn := List.sizeOf_lt_of_mem hVisits.mem
    have hChildren : sizeOf children < sizeOf site.node := by
      rw [hNode]
      simp only [Node.block.sizeOf_spec]
      omega
    exact Nat.lt_trans hChildren hIn
  | inclusion hNode hRoom =>
    refine .inl ?_
    have hSame := hVisits.room
    simp only
    omega

/-! ### Asking for bodies -/

/-- If an action fails, then because of a body that it asks for or of its own accord. -/
theorem carryOut_eq_error {α : Type} {body : Value → Metadata → Step String} {action : Action α}
    {state after : State} {failure : Failure}
    (h : (carryOut body action).run state = (.error failure, after)) :
    (∃ inner more last later, Asks body action state inner more last ∧
      (body inner more).run last = (.error failure, later)) ∨ action.MayRaise failure := by
  induction action generalizing state with
  | done a => cases h
  | fail other =>
    cases h
    exact .inr .fail
  | body context metadata next ih =>
    rw [run_carryOut_body] at h
    rcases hBody : (body context metadata).run state with ⟨outcome, middle⟩
    rw [hBody] at h
    by_cases hSame : outcome = .error failure
    · subst hSame
      exact .inl ⟨context, metadata, state, middle, .now, hBody⟩
    · rcases ih outcome h with ⟨inner, more, last, later, hAsks, hLast⟩ | hMay
      · exact .inl ⟨inner, more, last, later, .later hBody hAsks, hLast⟩
      · exact .inr (.body outcome hSame hMay)
  | frame next ih =>
    rcases ih state.published h with ⟨inner, more, last, later, hAsks, hLast⟩ | hMay
    · exact .inl ⟨inner, more, last, later, .frame hAsks, hLast⟩
    · exact .inr (.frame _ hMay)

/-- An action that catches nothing fails as the first body does that cannot be rendered. -/
theorem Asks.outcome {α : Type} {body : Value → Metadata → Step String} {action : Action α}
    {state last later : State} {inner : Value} {more : Metadata} {failure : Failure}
    (hAsks : Asks body action state inner more last) (hCatch : action.CatchesNothing)
    (h : (body inner more).run last = (.error failure, later)) :
    ∃ after, (carryOut body action).run state = (.error failure, after) := by
  induction hAsks with
  | @now context metadata next state =>
    cases hCatch with
    | body hText hFailure =>
      rw [run_carryOut_body, h, hFailure]
      exact ⟨later, rfl⟩
  | @later context inner metadata more next outcome state middle last hBody hAsks ih =>
    cases hCatch with
    | body hText hFailure =>
      rw [run_carryOut_body, hBody]
      cases outcome with
      | error other =>
        rw [hFailure] at hAsks
        cases hAsks
      | ok text =>
        exact ih (hText text) h
  | frame hAsks ih =>
    cases hCatch with
    | frame hNext => exact ih (hNext _) h

/-! ### Where errors arise -/

namespace Site

/-- Why the error arises at the node: it reports a fault that is raised there, it is what a helper
raises there of its own accord, or the node is refused with it. -/
inductive Explains (setup : Setup) (site : Site) : TemplateError → Prop
  | report {deed : Deed} {state : State} {fault : Fault} (hDone : site.Performs setup deed state)
      (hRaises : site.Raises setup deed state (.fault fault)) (hWords : fault.raised? = none) :
      Explains setup site (.render (.ofCause (deed.cause fault) site.place))
  | own {helper : Helper} {name : String} {given : List Value} {children : Option (List Node)}
      {state : State} {error : TemplateError}
      (hDone : site.Performs setup (.call helper name given children) state)
      (hMay : (helper.act given).MayRaise (.error error)) : Explains setup site error
  | refusal {error : TemplateError} (h : site.Refuses setup error) : Explains setup site error

/-- The node fails with the error, and nothing that is rendered inside it does. -/
structure Originates (setup : Setup) (site : Site) (error : TemplateError) : Prop where
  fails : (site.outcome setup).1 = .error (.error error)
  first : ∀ entered inner, site.Starts setup entered inner →
    (inner.outcome setup).1 ≠ .error (.error error)

variable {site : Site}

/-- What a body comes to for which there is stack enough. -/
theorem run_body_of_opens {name : String} {children : List Node} {inner : Value} {more : Metadata}
    {last : State} (h : setup.machine.opens (.body name :: last.around) = true) :
    let task : Task := ⟨site.room, site.frame, children, inner, more ++ site.metadata,
      last.inside (.body name)⟩
    (site.body setup name (some children) inner more).run last =
      ((task.outcome setup).1, { (task.outcome setup).2 with around := last.around }) :=
  run_inside_of_opens h _

theorem run_body_of_not_opens {name : String} {children : List Node} {inner : Value}
    {more : Metadata} {last : State}
    (h : setup.machine.opens (.body name :: last.around) = false) :
    (site.body setup name (some children) inner more).run last =
      (.error (.fault .stackUsedUp), last) :=
  run_inside_of_not_opens h _

/-- A helper is called where it was found, and if it is given a block, then that of the node. If a
body fails that it asks for, then there is no stack left, or what is rendered there fails. -/
theorem Performs.starts {helper : Helper} {name : String} {given : List Value}
    {children : List Node} {state last : State} {inner : Value} {more : Metadata}
    {failure : Failure}
    (hDone : site.Performs setup (.call helper name given (some children)) state)
    (hAsks : Asks (site.body setup name (some children)) (helper.act given) state inner more last)
    (hBody : ((site.body setup name (some children) inner more).run last).1 = .error failure) :
    failure = .fault .stackUsedUp ∨
      ∃ task, site.Starts setup [] task ∧ (task.outcome setup).1 = .error failure := by
  cases hOpens : setup.machine.opens (.body name :: last.around) with
  | false =>
    rw [run_body_of_not_opens hOpens] at hBody
    cases hBody
    exact .inl rfl
  | true =>
    rw [run_body_of_opens hOpens] at hBody
    cases hDone with
    | block hNode hFound hKind hValues =>
      exact .inr ⟨_, .body hNode hFound hKind hValues hAsks hOpens, hBody⟩

theorem Performs.found {helper : Helper} {name : String} {given : List Value}
    {children : Option (List Node)} {state : State}
    (hDone : site.Performs setup (.call helper name given children) state) :
    setup.helpers.find? name = some helper := by
  cases hDone with
  | alone hNode hFound => exact hFound
  | block hNode hFound => exact hFound
  | filter hNode hFirst hBefore hFound => exact hFound

/-- What is raised at a node where an error arises is explained by the deed that raises it. -/
theorem Originates.explains_of_raises {deed : Deed} {state : State} {raised : Failure}
    {error : TemplateError} (h : site.Originates setup error)
    (hDone : site.Performs setup deed state) (hRaises : site.Raises setup deed state raised)
    (hSame : .error error = reported site.place deed.cause raised) :
    site.Explains setup error := by
  cases raised with
  | fault fault =>
    rcases reported_fault_cases fault site.place deed.cause with
      ⟨other, -, hReported⟩ | ⟨hWords, hReported⟩
    · rw [hReported] at hSame
      cases hSame
    · rw [hReported] at hSame
      cases hSame
      exact .report hDone hRaises hWords
  | error other =>
    cases hSame
    cases hRaises with
    | @call helper name given children _ after _ hRaised =>
      rcases carryOut_eq_error hRaised with ⟨inner, more, last, later, hAsks, hBody⟩ | hMay
      · cases children with
        | none => cases hBody
        | some children =>
          rcases hDone.starts hAsks (congrArg Prod.fst hBody) with hStack | ⟨task, hStarts, hTask⟩
          · cases hStack
          · exact absurd hTask (h.first _ _ hStarts)
      · exact .own hDone hMay

/-- An error that arises at a node is explained there. -/
theorem Originates.explains {error : TemplateError} (h : site.Originates setup error) :
    site.Explains setup error := by
  have hFails : site.Fails setup (.error error) :=
    fails_of_outcome (Prod.ext h.fails rfl : site.outcome setup = (_, (site.outcome setup).2))
  generalize hSame : Failure.error error = failure at hFails
  cases hFails with
  | deed hDone hRaises => exact h.explains_of_raises hDone hRaises hSame
  | leak => cases hSame
  | refusal hRefused =>
    cases hSame
    exact .refusal hRefused
  | inside hStarts hInner =>
    subst hSame
    exact absurd hInner (h.first _ _ hStarts)

end Site

/-- An error of a render arises at a node that the render leads to. -/
theorem exists_origin (task : Task) {error : TemplateError}
    (h : (task.outcome setup).1 = .error (.error error)) :
    ∃ path site, Leads setup task path site ∧ site.Originates setup error := by
  have hTask : task.outcome setup = (.error (.error error), (task.outcome setup).2) :=
    Prod.ext h rfl
  obtain ⟨site, hVisits, hSite⟩ := task.exists_failing hTask
  -- If something inside the node fails like this, go there: bodies of blocks are smaller than the
  -- list that the block is in, and inside a partial there is less room.
  by_cases hInner : ∃ entered inner, site.Starts setup entered inner ∧
      (inner.outcome setup).1 = .error (.error error)
  · obtain ⟨entered, inner, hStarts, hFails⟩ := hInner
    have hSmaller := hStarts.smaller hVisits
    obtain ⟨path, last, hLeads, hLast⟩ := exists_origin inner hFails
    exact ⟨entered ++ path, last, .inside hVisits hStarts hLeads, hLast⟩
  · have hNone : ∀ entered inner, site.Starts setup entered inner →
        (inner.outcome setup).1 ≠ .error (.error error) :=
      fun entered inner hStarts hFails => hInner ⟨entered, inner, hStarts, hFails⟩
    exact ⟨[], site, .visit hVisits, congrArg Prod.fst hSite, hNone⟩
termination_by (task.room, sizeOf task.nodes)
decreasing_by
  rcases hSmaller with hRoom | ⟨hRoom, hNodes⟩
  · exact .left _ _ hRoom
  · rw [hRoom]
    exact .right _ hNodes

/-! ### From a node to the outside -/

/-- A node that includes a partial fails as the nodes of the partial do. -/
theorem Site.Starts.outcome_inclusion {site : Site} {inner : Task} {name : String}
    {failure : Failure} (hStarts : site.Starts setup [name] inner)
    (h : (inner.outcome setup).1 = .error failure) : (site.outcome setup).1 = .error failure := by
  cases hStarts with
  | @inclusion offset room name source expression context frame template after hNode hRoom hFound
      hContext hEnter hCompile hOpens =>
    rw [Site.outcome_inclusion hNode hFound hContext, hRoom]
    unfold enterPartial
    rw [hEnter]
    have hRun := run_compile_of_ok site.state hCompile
    refine (congrArg Prod.fst (run_bind_of_ok hRun)).trans ?_
    let opened : State := { site.state with history := after }
    have hRoomFor : setup.machine.opens (.inclusion name :: opened.around) = true := hOpens
    dsimp only
    rw [run_entered_of_opens hRoomFor]
    exact h

/-- If no helper catches anything, a node fails with the first failure of what is rendered inside it,
or with the report of that. -/
theorem Site.Starts.outcome_cases {site : Site} {inner : Task} {entered : List String}
    {failure : Failure} (hStarts : site.Starts setup entered inner)
    (hCatch : setup.Every Helper.CatchesNothing) (h : (inner.outcome setup).1 = .error failure) :
    (site.outcome setup).1 = .error failure ∨
      ∃ name, (site.outcome setup).1 =
        .error (reported site.place (.helperFailed name) failure) := by
  cases hStarts with
  | @body offset name arguments children helper values context more last hNode hFound hKind hValues
      hAsks hOpens =>
    have hBody : (site.body setup name (some children) context more).run last =
        (.error failure, _) := Prod.ext ((congrArg Prod.fst (run_body_of_opens hOpens)).trans h) rfl
    obtain ⟨after, hRaised⟩ := hAsks.outcome (hCatch _ _ hFound _) hBody
    obtain ⟨later, hOutcome⟩ :=
      (Site.Performs.block hNode hFound hKind hValues).outcome (.call hRaised)
    exact .inr ⟨name, congrArg Prod.fst hOutcome⟩
  | inclusion hNode hRoom hFound hContext hEnter hCompile hOpens =>
    exact .inl ((Site.Starts.inclusion hNode hRoom hFound hContext hEnter hCompile
      hOpens).outcome_inclusion h)

/-- If no helper catches anything, errors pass from what is rendered inside a node. -/
theorem Site.Starts.outcome {site : Site} {inner : Task} {entered : List String}
    {error : TemplateError} (hStarts : site.Starts setup entered inner)
    (hCatch : setup.Every Helper.CatchesNothing)
    (h : (inner.outcome setup).1 = .error (.error error)) :
    (site.outcome setup).1 = .error (.error error) := by
  rcases hStarts.outcome_cases hCatch h with hSame | ⟨name, hReported⟩
  · exact hSame
  · exact hReported

theorem Leads.outcome {task : Task} {path : List String} {site : Site} {error : TemplateError}
    (hLeads : Leads setup task path site) (hCatch : setup.Every Helper.CatchesNothing)
    (h : (site.outcome setup).1 = .error (.error error)) :
    (task.outcome setup).1 = .error (.error error) := by
  induction hLeads with
  | visit hVisits => exact congrArg Prod.fst (hVisits.outcome (Prod.ext h rfl))
  | inside hVisits hStarts hLeads ih =>
    have hSite := hStarts.outcome hCatch (ih h)
    exact congrArg Prod.fst (hVisits.outcome (Prod.ext hSite rfl))

/-- If no helper catches anything, then all that is rendered inside a node gives a text where an
error arises at the node itself, unless the error reports a fault that nobody has reported inside. -/
theorem Site.Originates.inside_cases {site : Site} {error : RenderError}
    (h : site.Originates setup (.render error)) (hCatch : setup.Every Helper.CatchesNothing)
    {entered : List String} {inner : Task} (hStarts : site.Starts setup entered inner) :
    (∃ text, (inner.outcome setup).1 = .ok text) ∨
      ∃ fault, (inner.outcome setup).1 = .error (.fault fault) ∧ error.underlying = some fault := by
  cases hInner : (inner.outcome setup).1 with
  | ok text => exact .inl ⟨text, rfl⟩
  | error failure =>
    cases failure with
    | error other =>
      have hSame := (hStarts.outcome hCatch hInner).symm.trans h.fails
      cases hSame
      exact absurd hInner (h.first _ _ hStarts)
    | fault fault =>
      refine .inr ⟨fault, rfl, ?_⟩
      rcases hStarts.outcome_cases hCatch hInner with hSame | ⟨name, hReported⟩
      · rw [h.fails] at hSame
        cases hSame
      · rw [h.fails] at hReported
        rcases reported_fault_cases fault site.place (.helperFailed name) with
          ⟨raised, -, hSame⟩ | ⟨-, hSame⟩
        · rw [hSame] at hReported
          cases hReported
        · rw [hSame] at hReported
          cases hReported
          rfl

/-! ### Faults that nobody reports -/

/-- The fault comes out of the node as it is: the node raises it by itself, or something that is done
there raises a fault, and the words for that raise this one. -/
inductive Site.Escapes (setup : Setup) (site : Site) : Fault → Prop
  | leak {fault : Fault} (h : site.Leaks setup fault) : Escapes setup site fault
  | unspeakable {deed : Deed} {state : State} {fault raised : Fault}
      (hDone : site.Performs setup deed state)
      (hRaises : site.Raises setup deed state (.fault fault))
      (hRaised : fault.raised? = some raised) : Escapes setup site raised

/-- The render leads to the node by way of the partials on the path, and through no block. -/
inductive Exposes (setup : Setup) : Task → List String → Site → Prop
  | visit {task : Task} {site : Site} (h : task.Visits setup site) : Exposes setup task [] site
  | inside {task inner : Task} {site last : Site} {name : String} {path : List String}
      (hVisits : task.Visits setup site) (hStarts : site.Starts setup [name] inner)
      (h : Exposes setup inner path last) : Exposes setup task (name :: path) last

/-- What a node that leaks comes to. -/
theorem Site.Leaks.outcome {site : Site} {fault : Fault} (h : site.Leaks setup fault) :
    (site.outcome setup).1 = .error (.fault fault) := by
  cases h with
  | keys hNode hFound hValue hKeys => rw [outcome_inclusion_of_keys hNode hFound hValue hKeys]
  | @stack offset room name source expression inner frame template after hNode hRoom hFound hContext
      hEnter hCompile hOpens =>
    rw [Site.outcome_inclusion hNode hFound hContext, hRoom]
    unfold enterPartial
    rw [hEnter]
    have hRun := run_compile_of_ok site.state hCompile
    refine (congrArg Prod.fst (run_bind_of_ok hRun)).trans ?_
    let opened : State := { site.state with history := after }
    have hNone : setup.machine.opens (.inclusion name :: opened.around) = false := hOpens
    dsimp only
    rw [run_entered_of_not_opens hNone]

theorem Site.Escapes.outcome {site : Site} {fault : Fault} (h : site.Escapes setup fault) :
    (site.outcome setup).1 = .error (.fault fault) := by
  cases h with
  | leak hLeaks => exact hLeaks.outcome
  | unspeakable hDone hRaises hRaised =>
    obtain ⟨after, hOutcome⟩ := hDone.outcome hRaises
    rw [hOutcome, reported_of_raised?_some hRaised]

theorem Exposes.outcome {task : Task} {path : List String} {site : Site} {failure : Failure}
    (hExposes : Exposes setup task path site) (h : (site.outcome setup).1 = .error failure) :
    (task.outcome setup).1 = .error failure := by
  induction hExposes with
  | visit hVisits => exact congrArg Prod.fst (hVisits.outcome (Prod.ext h rfl))
  | inside hVisits hStarts hExposes ih =>
    have hSite := hStarts.outcome_inclusion (ih h)
    exact congrArg Prod.fst (hVisits.outcome (Prod.ext hSite rfl))

/-- A fault that comes out of a render as it is comes out of a node to which the render leads through
no block. -/
theorem exists_exposed (task : Task) {fault : Fault}
    (h : (task.outcome setup).1 = .error (.fault fault)) :
    ∃ path site, Exposes setup task path site ∧ site.Escapes setup fault := by
  have hTask : task.outcome setup = (.error (.fault fault), (task.outcome setup).2) :=
    Prod.ext h rfl
  obtain ⟨site, hVisits, hSite⟩ := task.exists_failing hTask
  have hFails : site.Fails setup (.fault fault) := Site.fails_of_outcome hSite
  generalize hSame : Failure.fault fault = failure at hFails
  cases hFails with
  | @deed deed state raised hDone hRaises =>
    -- Errors pass, and faults for which there are words become errors.
    cases raised with
    | error error => cases hSame
    | fault other =>
      rcases reported_fault_cases other site.place deed.cause with
        ⟨last, hRaised, hReported⟩ | ⟨-, hReported⟩
      · rw [hReported] at hSame
        cases hSame
        exact ⟨[], site, .visit hVisits, .unspeakable hDone hRaises hRaised⟩
      · rw [hReported] at hSame
        cases hSame
  | leak hLeaks =>
    cases hSame
    exact ⟨[], site, .visit hVisits, .leak hLeaks⟩
  | refusal => cases hSame
  | @inside name inner failure hStarts hInner =>
    subst hSame
    have hSmaller := hStarts.smaller hVisits
    obtain ⟨path, last, hExposes, hEscapes⟩ := exists_exposed inner hInner
    exact ⟨name :: path, last, .inside hVisits hStarts hExposes, hEscapes⟩
termination_by (task.room, sizeOf task.nodes)
decreasing_by
  rcases hSmaller with hRoom | ⟨hRoom, hNodes⟩
  · exact .left _ _ hRoom
  · rw [hRoom]
    exact .right _ hNodes

end Render

/-- The render of a template, as far as its nodes go. -/
def Engine.task (engine : Engine) (template : Template) (context : Value)
    (named : List (String × Value)) : Render.Task where
  room := engine.setup.partials.size
  frame := Render.topFrame template
  nodes := template.nodes
  context := Render.topContext context named
  metadata := []
  state := ⟨engine.history, some (Render.topFrame template), []⟩

end Stencil
