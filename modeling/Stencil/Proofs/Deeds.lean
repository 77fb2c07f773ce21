import Stencil.Proofs.Conduct
import Stencil.Proofs.Running

/-!
What is done at a node. Paths are looked up, helpers are called, and values are shown as text. Each
of these may raise a fault, which is reported at the node if there are words for it. What an
inclusion raises by itself is not reported.
-/

namespace Stencil

namespace Node

/-- The helper that a node calls first, with the paths of its arguments. -/
def call? : Node → Option (String × List String)
  | .output _ path arguments _ => if arguments.isEmpty then none else some (path, arguments)
  | .block _ name arguments _ => some (name, arguments)
  | .text .. | .inclusion .. => none

/-- The names of the filters behind an expression. -/
def filterNames : Node → List String
  | .output _ _ _ filters => filters.map Filter.name
  | _ => []

/-- The names under which a node asks for helpers. -/
def helperNames (node : Node) : List String := node.call?.toList.map Prod.fst ++ node.filterNames

theorem mem_helperNames_of_call? {node : Node} {name : String} {arguments : List String}
    (h : node.call? = some (name, arguments)) : name ∈ node.helperNames := by
  rw [helperNames, h]
  exact List.mem_cons_self

end Node

namespace Render

/-- A node that is to be rendered. So many more partials can be entered inside one another. -/
structure Site where
  room : Nat
  frame : Frame
  node : Node
  context : Value
  metadata : Metadata
  state : State

/-- A list of nodes that is to be rendered. -/
structure Task where
  room : Nat
  frame : Frame
  nodes : List Node
  context : Value
  metadata : Metadata
  state : State

/-- Something that is done at a node and may raise a fault. -/
inductive Deed where
  | lookUp (path : String)
  | /-- A helper is called by a name. The children are those of its block, if it is given one. -/
    call (helper : Helper) (name : String) (arguments : List Value) (children : Option (List Node))
  | textOf (value : Value)

/-- What a fault means that is raised by the deed. -/
def Deed.cause : Deed → Fault → RenderError.Cause
  | lookUp path => .unresolved path
  | call _ name _ _ => .helperFailed name
  | textOf value => .unprintable value.typeName

def Task.outcome (setup : Setup) (task : Task) : Except Failure String × State :=
  (renderNodes setup (enterPartial setup task.room) task.frame task.nodes task.context
    task.metadata).run task.state

/-- The action, carried out from a state, asks for the body in a context and with metadata when the
state is a later one. -/
inductive Asks {α : Type} (body : Value → Metadata → Step String) :
    Action α → State → Value → Metadata → State → Prop
  | now {context : Value} {metadata : Metadata} {next : Except Failure String → Action α}
      {state : State} : Asks body (.body context metadata next) state context metadata state
  | later {context inner : Value} {metadata more : Metadata}
      {next : Except Failure String → Action α} {outcome : Except Failure String}
      {state middle last : State} (hBody : (body context metadata).run state = (outcome, middle))
      (h : Asks body (next outcome) middle inner more last) :
      Asks body (.body context metadata next) state inner more last
  | frame {inner : Value} {more : Metadata} {next : Option Frame → Action α} {state last : State}
      (h : Asks body (next state.published) state inner more last) :
      Asks body (.frame next) state inner more last

namespace Site

variable (setup : Setup) (site : Site)

def place : Place := site.frame.place site.node.offset

def outcome : Except Failure String × State :=
  (renderNode setup (enterPartial setup site.room) site.frame site.node site.context
    site.metadata).run site.state

def resolve (path : String) : Except Fault Value := Path.resolve site.context path site.metadata

/-- The body that a helper is called with by a name: the children of its block, or none. -/
def body (name : String) : Option (List Node) → Value → Metadata → Step String
  | none => noBody
  | some children => fun inner more => inside setup.machine (.body name)
    (renderNodes setup (enterPartial setup site.room) site.frame children inner
      (more ++ site.metadata))

/-- The value of an expression at the site, before its filters. -/
def first (path : String) (arguments : List String) : Step (Option Value) :=
  head? setup site.frame site.node.offset path arguments site.context site.metadata

def filtered (filters : List Filter) (value : Value) : Step Value :=
  applyFilters setup site.frame site.node.offset filters value

/-- Done from the state, the deed raises the failure. -/
inductive Raises : Deed → State → Failure → Prop
  | lookUp {path : String} {state : State} {fault : Fault}
      (h : site.resolve path = .error fault) : Raises (.lookUp path) state (.fault fault)
  | call {helper : Helper} {name : String} {arguments : List Value} {children : Option (List Node)}
      {state after : State} {failure : Failure}
      (h : (carryOut (site.body setup name children) (helper.act arguments)).run state =
        (.error failure, after)) : Raises (.call helper name arguments children) state failure
  | textOf {value : Value} {state : State} {fault : Fault} (h : value.display = .error fault) :
      Raises (.textOf value) state (.fault fault)

/-- What the rendering of the node comes to do, and the state that it is done from. -/
inductive Performs : Deed → State → Prop
  | path {offset : Nat} {path : String} {filters : List Filter}
      (hNode : site.node = .output offset path [] filters) : Performs (.lookUp path) site.state
  | argument {name argument : String} {before after : List String} {helper : Helper}
      {values : List Value} (hNode : site.node.call? = some (name, before ++ argument :: after))
      (hFound : setup.helpers.find? name = some helper)
      (hBefore : before.mapM site.resolve = .ok values) : Performs (.lookUp argument) site.state
  | alone {name : String} {arguments : List String} {helper : Helper} {values : List Value}
      (hNode : site.node.call? = some (name, arguments))
      (hFound : setup.helpers.find? name = some helper) (hKind : helper.isBlock = false)
      (hValues : arguments.mapM site.resolve = .ok values) :
      Performs (.call helper name values none) site.state
  | block {offset : Nat} {name : String} {arguments : List String} {children : List Node}
      {helper : Helper} {values : List Value}
      (hNode : site.node = .block offset name arguments children)
      (hFound : setup.helpers.find? name = some helper) (hKind : helper.isBlock = true)
      (hValues : arguments.mapM site.resolve = .ok values) :
      Performs (.call helper name (values ++ [.blockOptions name site.context]) (some children))
        site.state
  | filter {offset : Nat} {path : String} {arguments : List String} {before after : List Filter}
      {filter : Filter} {first value : Value} {middle last : State} {helper : Helper}
      (hNode : site.node = .output offset path arguments (before ++ filter :: after))
      (hFirst : (site.first setup path arguments).run site.state = (.ok (some first), middle))
      (hBefore : (site.filtered setup before first).run middle = (.ok value, last))
      (hFound : setup.helpers.find? filter.name = some helper) (hKind : helper.isBlock = false) :
      Performs (.call helper filter.name (value :: filter.arguments.map Value.text) none) last
  | shown {offset : Nat} {path : String} {arguments : List String} {filters : List Filter}
      {first value : Value} {middle last : State}
      (hNode : site.node = .output offset path arguments filters)
      (hFirst : (site.first setup path arguments).run site.state = (.ok (some first), middle))
      (hFilters : (site.filtered setup filters first).run middle = (.ok value, last)) :
      Performs (.textOf value) last
  | blockShown {offset : Nat} {name : String} {arguments : List String} {children : List Node}
      {helper : Helper} {given : List Value} {inside : Option (List Node)} {value : Value}
      {last : State} (hNode : site.node = .block offset name arguments children)
      (hCall : Performs (.call helper name given inside) site.state)
      (hValue : (carryOut (site.body setup name inside) (helper.act given)).run site.state =
        (.ok value, last)) : Performs (.textOf value) last
  | context {offset : Nat} {name path source : String}
      (hNode : site.node = .inclusion offset name (some path))
      (hFound : setup.partials.find? name = some source) : Performs (.lookUp path) site.state

/-- The options with which a partial is compiled. -/
def innerOptions : Options :=
  setup.options.merge { strict := site.frame.strict, noEscape := site.frame.noEscape }

/-- How many blocks may lie inside one another in a partial that is compiled here. -/
def limit : Nat := setup.machine.nesting site.state.around

/-- Whether keys that lie so deep inside one another can be compared here. -/
def compares : Nat → Bool := setup.machine.compares site.state.around

/-- The error with which the node is refused, without anything being raised. -/
inductive Refuses : TemplateError → Prop
  | unknownHelper {name : String} (hName : name ∈ site.node.helperNames)
      (hFound : setup.helpers.find? name = none) (hStrict : site.frame.strict = true) :
      Refuses (.render (.ofCause (.unknownHelper name) site.place))
  | blockHelperInline {name : String} {helper : Helper} (hName : name ∈ site.node.helperNames)
      (hFound : setup.helpers.find? name = some helper) (hKind : helper.isBlock = true) :
      Refuses (.render (.ofCause (.blockHelperInline name) site.place))
  | unknownPartial {offset : Nat} {name : String} {expression : Option String}
      (hNode : site.node = .inclusion offset name expression)
      (hFound : setup.partials.find? name = none) (hStrict : site.frame.strict = true) :
      Refuses (.render (.ofCause (.unknownPartial name) site.place))
  | cycle {offset : Nat} {name : String} {expression : Option String}
      (hNode : site.node = .inclusion offset name expression) :
      Refuses (.render (.ofCause (.partialCycle name site.frame.stack)
        { templateName := site.frame.templateName }))
  | uncompiled {offset : Nat} {name source : String} {expression : Option String}
      {error : CompileError} (hNode : site.node = .inclusion offset name expression)
      (hFound : setup.partials.find? name = some source)
      (hCompile : site.state.history.compile (site.limit setup) (site.innerOptions setup) source
        (some name) = .error error) : Refuses (.compile error)

/-- The context that a partial is rendered in. -/
def innerContext? : Option String → Except Fault Value
  | none => .ok site.context
  | some path => site.resolve path >>= Render.innerContext? (site.compares setup) site.context

/-- The lists of nodes that are rendered for the node, and the partials that are entered for that:
the body of a block, as often as its helper asks for it, or the nodes of a partial. -/
inductive Starts : List String → Task → Prop
  | body {offset : Nat} {name : String} {arguments : List String} {children : List Node}
      {helper : Helper} {values : List Value} {inner : Value} {more : Metadata} {last : State}
      (hNode : site.node = .block offset name arguments children)
      (hFound : setup.helpers.find? name = some helper) (hKind : helper.isBlock = true)
      (hValues : arguments.mapM site.resolve = .ok values)
      (hAsks : Asks (site.body setup name (some children))
        (helper.act (values ++ [.blockOptions name site.context])) site.state inner more last)
      (hOpens : setup.machine.opens (.body name :: last.around) = true) :
      Starts [] ⟨site.room, site.frame, children, inner, more ++ site.metadata,
        last.inside (.body name)⟩
  | inclusion {offset room : Nat} {name source : String} {expression : Option String}
      {inner : Value} {frame : Frame} {template : Template} {after : History}
      (hNode : site.node = .inclusion offset name expression) (hRoom : site.room = room + 1)
      (hFound : setup.partials.find? name = some source)
      (hContext : site.innerContext? setup expression = .ok inner)
      (hEnter : site.frame.enter name source = .ok frame)
      (hCompile : site.state.history.compile (site.limit setup) (site.innerOptions setup) source
        (some name) = .ok (template, after))
      (hOpens : setup.machine.opens (.inclusion name :: site.state.around) = true) :
      Starts [name] ⟨room, frame, template.nodes, inner, site.metadata,
        State.inside (.inclusion name) ⟨after, some frame, site.state.around⟩⟩

/-- The fault that is raised by the node itself. Nobody reports it there. -/
inductive Leaks : Fault → Prop
  | keys {offset : Nat} {name source path : String} {value : Value} {fault : Fault}
      (hNode : site.node = .inclusion offset name (some path))
      (hFound : setup.partials.find? name = some source) (hValue : site.resolve path = .ok value)
      (hKeys : Render.innerContext? (site.compares setup) site.context value = .error fault) :
      Leaks fault
  | stack {offset room : Nat} {name source : String} {expression : Option String} {inner : Value}
      {frame : Frame} {template : Template} {after : History}
      (hNode : site.node = .inclusion offset name expression) (hRoom : site.room = room + 1)
      (hFound : setup.partials.find? name = some source)
      (hContext : site.innerContext? setup expression = .ok inner)
      (hEnter : site.frame.enter name source = .ok frame)
      (hCompile : site.state.history.compile (site.limit setup) (site.innerOptions setup) source
        (some name) = .ok (template, after))
      (hOpens : setup.machine.opens (.inclusion name :: site.state.around) = false) :
      Leaks .stackUsedUp

/-- How the node fails. -/
inductive Fails : Failure → Prop
  | deed {deed : Deed} {state : State} {raised : Failure} (hDone : site.Performs setup deed state)
      (hRaises : site.Raises setup deed state raised) :
      Fails (reported site.place deed.cause raised)
  | leak {fault : Fault} (h : site.Leaks setup fault) : Fails (.fault fault)
  | refusal {error : TemplateError} (h : site.Refuses setup error) : Fails (.error error)
  | inside {name : String} {task : Task} {failure : Failure}
      (hStarts : site.Starts setup [name] task) (h : (task.outcome setup).1 = .error failure) :
      Fails failure

variable {setup site}

/-! ### What is raised is reported -/

theorem run_lookUp_of_raises {path : String} {state : State} {raised : Failure}
    (h : site.Raises setup (.lookUp path) state raised) :
    (lookUp site.frame site.node.offset site.context site.metadata path).run state =
      (.error (reported site.place (Deed.lookUp path).cause raised), state) := by
  cases h with
  | lookUp h =>
    rw [run_lookUp]
    change Path.resolve site.context path site.metadata = _ at h
    rw [h]
    rfl

theorem run_textOf_of_raises {value : Value} {state : State} {raised : Failure}
    (h : site.Raises setup (.textOf value) state raised) :
    (textOf site.frame site.node.offset value).run state =
      (.error (reported site.place (Deed.textOf value).cause raised), state) := by
  cases h with
  | textOf h =>
    rw [run_textOf, h]
    rfl

theorem run_call_of_raises {helper : Helper} {name : String} {arguments : List Value}
    {children : Option (List Node)} {state : State} {raised : Failure}
    (h : site.Raises setup (.call helper name arguments children) state raised) :
    ∃ after, (call (site.body setup name children) site.frame site.node.offset helper name
        arguments).run state =
      (.error (reported site.place (Deed.call helper name arguments children).cause raised),
        after) := by
  cases h with
  | call h => exact ⟨_, run_guarding_eq_error.2 ⟨_, h, rfl⟩⟩

/-! ### The parts of a node -/

/-- What is done with the value of an expression. -/
def finish (setup : Setup) (site : Site) (filters : List Filter) : Option Value → Step String
  | none => pure ""
  | some value =>
    site.filtered setup filters value >>= fun value =>
      textOf site.frame site.node.offset value >>= fun text =>
        pure (if site.frame.noEscape then text else Text.Html.escape text)

theorem outcome_text {offset : Nat} {content : String} (hNode : site.node = .text offset content) :
    site.outcome setup = (.ok content, site.state) := by
  unfold outcome
  rw [hNode]
  unfold renderNode
  rfl

theorem outcome_output {offset : Nat} {path : String} {arguments : List String}
    {filters : List Filter} (hNode : site.node = .output offset path arguments filters) :
    site.outcome setup =
      (site.first setup path arguments >>= site.finish setup filters).run site.state := by
  unfold outcome first
  rw [hNode]
  unfold renderNode renderOutput
  refine congrArg (fun step : Step String => step.run site.state) ?_
  refine congrArg _ (funext fun found => ?_)
  cases found with
  | none => rfl
  | some value =>
    unfold finish filtered
    rw [hNode]
    rfl

theorem outcome_block {offset : Nat} {name : String} {arguments : List String}
    {children : List Node} {helper : Helper}
    (hNode : site.node = .block offset name arguments children)
    (hFound : setup.helpers.find? name = some helper) :
    site.outcome setup =
      (arguments.mapM (lookUp site.frame site.node.offset site.context site.metadata) >>=
        fun values =>
          (if helper.isBlock then
            call (site.body setup name (some children)) site.frame site.node.offset helper name
              (values ++ [.blockOptions name site.context])
          else call (site.body setup name none) site.frame site.node.offset helper name values) >>=
        textOf site.frame site.node.offset).run site.state := by
  unfold outcome
  rw [hNode]
  unfold renderNode helper?
  rw [hFound]
  dsimp only
  rw [pure_bind]
  cases hk : helper.isBlock with
  | true =>
    simp only [hk, if_true]
    rfl
  | false =>
    simp only [hk, Bool.false_eq_true, if_false]
    rfl

theorem outcome_inclusion {offset : Nat} {name source : String} {expression : Option String}
    {inner : Value} (hNode : site.node = .inclusion offset name expression)
    (hFound : setup.partials.find? name = some source)
    (hContext : site.innerContext? setup expression = .ok inner) :
    site.outcome setup =
      (enterPartial setup site.room site.frame name source inner site.metadata).run site.state := by
  unfold outcome
  rw [hNode]
  unfold renderNode partial?
  rw [hFound]
  cases expression with
  | none =>
    cases hContext
    rfl
  | some path =>
    have hRun := run_lookUp site.frame offset site.context site.metadata path site.state
    have hHere (value : Value) := run_contextHere setup.machine site.context value site.state
    change Path.resolve site.context path site.metadata >>= _ = _ at hContext
    cases hr : Path.resolve site.context path site.metadata with
    | error fault =>
      rw [hr] at hContext
      cases hContext
    | ok value =>
      rw [hr] at hContext hRun
      change Render.innerContext? (setup.machine.compares site.state.around) site.context value = _
        at hContext
      have hOk := hHere value
      rw [hContext] at hOk
      exact run_bind_of_ok ((run_bind_of_ok hRun).trans hOk)

/-- A partial whose context cannot be looked up is not rendered. -/
theorem outcome_inclusion_of_error {offset : Nat} {name source path : String} {fault : Fault}
    (hNode : site.node = .inclusion offset name (some path))
    (hFound : setup.partials.find? name = some source)
    (hFault : site.resolve path = .error fault) :
    site.outcome setup =
      (.error (reported site.place (.unresolved path) (.fault fault)), site.state) := by
  have hRaises : site.Raises setup (.lookUp path) site.state (.fault fault) := .lookUp hFault
  have hLook := run_lookUp_of_raises hRaises
  unfold outcome
  rw [hNode] at hLook ⊢
  unfold renderNode partial?
  rw [hFound]
  dsimp only
  rw [pure_bind]
  exact run_bind_of_error (run_bind_of_error hLook)

/-- A partial is not rendered either if the keys of its context cannot be compared. -/
theorem outcome_inclusion_of_keys {offset : Nat} {name source path : String} {value : Value}
    {fault : Fault} (hNode : site.node = .inclusion offset name (some path))
    (hFound : setup.partials.find? name = some source) (hValue : site.resolve path = .ok value)
    (hKeys : Render.innerContext? (site.compares setup) site.context value = .error fault) :
    site.outcome setup = (.error (.fault fault), site.state) := by
  have hLook := run_lookUp site.frame offset site.context site.metadata path site.state
  change Path.resolve site.context path site.metadata = _ at hValue
  rw [hValue] at hLook
  have hHere := run_contextHere setup.machine site.context value site.state
  change Render.innerContext? (setup.machine.compares site.state.around) site.context value = _
    at hKeys
  rw [hKeys] at hHere
  unfold outcome
  rw [hNode]
  unfold renderNode partial?
  rw [hFound]
  dsimp only
  rw [pure_bind]
  exact run_bind_of_error ((run_bind_of_ok hLook).trans hHere)

theorem first_nil (path : String) :
    site.first setup path [] =
      lookUp site.frame site.node.offset site.context site.metadata path >>= fun value =>
        pure (some value) := rfl

theorem first_of_found {path : String} {arguments : List String} {helper : Helper}
    (hSome : arguments.isEmpty = false) (hFound : setup.helpers.find? path = some helper) :
    site.first setup path arguments =
      arguments.mapM (lookUp site.frame site.node.offset site.context site.metadata) >>=
        fun values =>
          callInline site.frame site.node.offset helper path values >>= fun value =>
            pure (some value) := by
  unfold first head? helper?
  rw [hSome, hFound]
  rfl

theorem filtered_append (before after : List Filter) (value : Value) :
    site.filtered setup (before ++ after) value =
      site.filtered setup before value >>= site.filtered setup after := by
  induction before generalizing value with
  | nil => exact (pure_bind value _).symm
  | cons filter before ih =>
    unfold filtered at ih ⊢
    rw [List.cons_append, applyFilters, applyFilters, bind_assoc]
    refine congrArg _ (funext fun found => ?_)
    cases found with
    | none => exact ih value
    | some helper =>
      dsimp only
      rw [bind_assoc]
      exact congrArg _ (funext ih)

theorem filtered_of_found {filter : Filter} {filters : List Filter} {value : Value}
    {helper : Helper} (hFound : setup.helpers.find? filter.name = some helper) :
    site.filtered setup (filter :: filters) value =
      callInline site.frame site.node.offset helper filter.name
          (value :: filter.arguments.map Value.text) >>=
        site.filtered setup filters := by
  unfold filtered
  rw [applyFilters, helper?, hFound]
  rfl

theorem callInline_of_inline {helper : Helper} (hKind : helper.isBlock = false) (name : String)
    (arguments : List Value) :
    callInline site.frame site.node.offset helper name arguments =
      call (site.body setup name none) site.frame site.node.offset helper name arguments := by
  unfold callInline
  rw [hKind]
  rfl

/-- Something that is looked up for a helper is the first thing that the node may fail with. -/
theorem outcome_of_call? {name : String} {arguments : List String} {helper : Helper}
    (hNode : site.node.call? = some (name, arguments))
    (hFound : setup.helpers.find? name = some helper) :
    ∃ f : List Value → Step String, site.outcome setup =
      (arguments.mapM (lookUp site.frame site.node.offset site.context site.metadata) >>= f).run
        site.state ∧
      (helper.isBlock = false → ∃ g : Value → Step String, ∀ values, f values =
        call (site.body setup name none) site.frame site.node.offset helper name values >>= g) := by
  rcases h : site.node with
    _ | ⟨offset, path, others, filters⟩ | ⟨offset, other, others, children⟩ | _
  · rw [h] at hNode
    cases hNode
  · rw [h, Node.call?] at hNode
    split at hNode
    · cases hNode
    · rename_i hSome
      cases hNode
      rw [outcome_output h, first_of_found (by simpa using hSome) hFound, bind_assoc, ← h]
      refine ⟨_, rfl, fun hKind =>
        ⟨fun value => pure (some value) >>= site.finish setup filters, fun values => ?_⟩⟩
      rw [callInline_of_inline hKind, bind_assoc]
  · rw [h] at hNode
    cases hNode
    rw [outcome_block h hFound, ← h]
    refine ⟨_, rfl, fun hKind => ⟨textOf site.frame site.node.offset, fun values => ?_⟩⟩
    rw [hKind]
    rfl
  · rw [h] at hNode
    cases hNode

theorem outcome_of_blockCall {offset : Nat} {name other : String} {arguments : List String}
    {children : List Node} {helper : Helper} {given : List Value} {inside : Option (List Node)}
    {state : State} (hNode : site.node = .block offset name arguments children)
    (hCall : site.Performs setup (.call helper other given inside) state) :
    state = site.state ∧ site.outcome setup =
      (call (site.body setup other inside) site.frame site.node.offset helper other given >>=
        textOf site.frame site.node.offset).run site.state := by
  cases hCall with
  | alone hCall hFound hKind hValues =>
    rw [hNode] at hCall
    cases hCall
    rw [outcome_block hNode hFound, run_bind_of_ok (run_lookUpAll_of_ok hValues _), hKind]
    exact ⟨rfl, rfl⟩
  | block hBlock hFound hKind hValues =>
    rw [hNode] at hBlock
    cases hBlock
    rw [outcome_block hNode hFound, run_bind_of_ok (run_lookUpAll_of_ok hValues _), hKind]
    exact ⟨rfl, rfl⟩
  | filter hOutput =>
    rw [hNode] at hOutput
    cases hOutput

/-- What a deed raises is reported at its node, and this is how the node fails. -/
theorem Performs.outcome {deed : Deed} {state : State} {raised : Failure}
    (hDone : site.Performs setup deed state) (hRaises : site.Raises setup deed state raised) :
    ∃ after, site.outcome setup =
      (.error (reported site.place deed.cause raised), after) := by
  cases hDone with
  | path hNode =>
    have hLook := run_lookUp_of_raises hRaises
    rw [outcome_output hNode, first_nil, run_bind_of_error (run_bind_of_error hLook)]
    exact ⟨_, rfl⟩
  | @argument name argument before after helper values hNode hFound hBefore =>
    cases hRaises with
    | lookUp hFault =>
      obtain ⟨f, hOutcome, -⟩ := outcome_of_call? hNode hFound
      rw [hOutcome, run_bind_of_error (run_lookUpAll_of_error hBefore hFault after site.state)]
      exact ⟨_, rfl⟩
  | alone hNode hFound hKind hValues =>
    obtain ⟨after, hCall⟩ := run_call_of_raises hRaises
    obtain ⟨f, hOutcome, hRest⟩ := outcome_of_call? hNode hFound
    obtain ⟨g, hRest⟩ := hRest hKind
    rw [hOutcome, run_bind_of_ok (run_lookUpAll_of_ok hValues _), hRest, run_bind_of_error hCall]
    exact ⟨_, rfl⟩
  | block hNode hFound hKind hValues =>
    obtain ⟨after, hCall⟩ := run_call_of_raises hRaises
    rw [outcome_block hNode hFound, run_bind_of_ok (run_lookUpAll_of_ok hValues _), if_pos hKind,
      run_bind_of_error hCall]
    exact ⟨_, rfl⟩
  | filter hNode hFirst hBefore hFound hKind =>
    obtain ⟨after, hCall⟩ := run_call_of_raises hRaises
    rw [outcome_output hNode, run_bind_of_ok hFirst, finish, filtered_append, bind_assoc,
      run_bind_of_ok hBefore, filtered_of_found hFound, callInline_of_inline hKind, bind_assoc,
      run_bind_of_error hCall]
    exact ⟨_, rfl⟩
  | shown hNode hFirst hFilters =>
    have hText := run_textOf_of_raises hRaises
    rw [outcome_output hNode, run_bind_of_ok hFirst, finish, run_bind_of_ok hFilters,
      run_bind_of_error hText]
    exact ⟨_, rfl⟩
  | blockShown hNode hCall hValue =>
    have hText := run_textOf_of_raises hRaises
    rw [(outcome_of_blockCall hNode hCall).2, call, run_bind_of_ok (run_guarding_eq_ok.2 hValue),
      hText]
    exact ⟨_, rfl⟩
  | context hNode hFound =>
    cases hRaises with
    | lookUp hFault =>
      rw [outcome_inclusion_of_error hNode hFound hFault]
      exact ⟨_, rfl⟩

end Site

end Render

end Stencil
