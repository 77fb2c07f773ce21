import Stencil.Proofs.Caching

/-!
What is compiled in the course of a render. The list of compilations follows the walk over the
nodes: a partial is compiled before its nodes are rendered, and a body is as often rendered as the
helper of its block asks for it. The history after a render is the one before it after these
compilations, one after the other.
-/

namespace Stencil

/-- A source that was compiled, and whether this was done with the cache. -/
structure Compilation where
  source : String
  cached : Bool
  deriving DecidableEq, Repr

/-- The second history is the first one after the compilations, all of which succeed. -/
inductive History.Compiles : History → List Compilation → History → Prop
  | nil {history : History} : Compiles history [] history
  | cons {history middle after : History} {limit : Nat} {options : Options} {source : String}
      {name : Option String} {template : Template} {log : List Compilation}
      (hFirst : history.compile limit options source name = .ok (template, middle))
      (hLater : Compiles middle log after) :
      Compiles history (⟨source, options.cache⟩ :: log) after

namespace History.Compiles

variable {history middle after : History} {log log' : List Compilation}

theorem single {limit : Nat} {options : Options} {source : String} {name : Option String}
    {template : Template} (h : history.compile limit options source name = .ok (template, after)) :
    Compiles history [⟨source, options.cache⟩] after := .cons h .nil

theorem append (h : Compiles history log middle) (h' : Compiles middle log' after) :
    Compiles history (log ++ log') after := by
  induction h with
  | nil => exact h'
  | cons hFirst hLater ih => exact .cons hFirst (ih h')

end History.Compiles

namespace Render

/-- What is compiled, the earliest first, by something that is done from a state. -/
abbrev Log := State → List Compilation

/-- What is compiled for a partial that is entered. -/
abbrev EntryLog := Frame → String → String → Value → Metadata → Log

/-- What is compiled while an action is carried out: all that is compiled for the bodies that it
asks for. -/
def actionLog {α : Type} (body : Value → Metadata → Step String) (log : Value → Metadata → Log) :
    Action α → Log
  | .done _, _ | .fail _, _ => []
  | .body context metadata next, state =>
    let (outcome, after) := (body context metadata).run state
    log context metadata state ++ actionLog body log (next outcome) after
  | .frame next, state => actionLog body log (next state.published) state

/-- What is compiled inside of a block or a partial, if it can be opened. -/
def insideLog (machine : Machine) (surrounding : Surrounding) (log : Log) : Log := fun state =>
  if machine.opens (surrounding :: state.around) then log (state.inside surrounding) else []

section

variable (setup : Setup)

mutual

/-- What is compiled for a node, given what is compiled for the partials that are entered. -/
def nodeLog (room : Nat) (enter : EntryLog) (frame : Frame) : Node → Value → Metadata → Log
  | .text .., _, _, _ | .output .., _, _, _ => []
  | .block offset name arguments children, context, metadata, state =>
    let site : Site := ⟨room, frame, .block offset name arguments children, context, metadata, state⟩
    match setup.helpers.find? name, arguments.mapM site.resolve with
    | some helper, .ok values =>
      if helper.isBlock then
        actionLog (site.body setup name (some children))
          (fun inner more => insideLog setup.machine (.body name)
            (nodesLog room enter frame children inner (more ++ metadata)))
          (helper.act (values ++ [.blockOptions name context])) state
      else []
    | _, _ => []
  | .inclusion offset name expression, context, metadata, state =>
    let site : Site := ⟨room, frame, .inclusion offset name expression, context, metadata, state⟩
    match setup.partials.find? name, site.innerContext? setup expression with
    | some source, .ok inner => enter frame name source inner metadata state
    | _, _ => []

/-- What is compiled for a list of nodes. Behind a node that fails there is nothing more. -/
def nodesLog (room : Nat) (enter : EntryLog) (frame : Frame) :
    List Node → Value → Metadata → Log
  | [], _, _, _ => []
  | node :: nodes, context, metadata, state =>
    nodeLog room enter frame node context metadata state ++
      match Site.outcome setup ⟨room, frame, node, context, metadata, state⟩ with
      | (.error _, _) => []
      | (.ok _, after) => nodesLog room enter frame nodes context metadata after

end

/-- What is compiled for a partial, inside which so many more can be entered: its own source, and
then what its nodes ask for. -/
def entryLog : Nat → EntryLog
  | room, frame, name, source, context, metadata, state =>
    let options := setup.options.merge { strict := frame.strict, noEscape := frame.noEscape }
    match frame.enter name source with
    | .error _ => []
    | .ok inner =>
      match state.history.compile (setup.machine.nesting state.around) options source name with
      | .error _ => []
      | .ok (template, after) =>
        ⟨source, options.cache⟩ :: match room with
          | 0 => []
          | room + 1 =>
            insideLog setup.machine (.inclusion name)
              (nodesLog setup room (entryLog room) inner template.nodes context metadata)
              ⟨after, some inner, state.around⟩

end

/-- What is compiled in the course of a render. -/
def Task.compilations (setup : Setup) (task : Task) : List Compilation :=
  nodesLog setup task.room (entryLog setup task.room) task.frame task.nodes task.context
    task.metadata task.state

variable {setup : Setup} {α : Type}

/-- The log tells what a part of a render does to the history. -/
def Logs (x : Step α) (log : Log) : Prop :=
  ∀ state : State, state.history.Compiles (log state) (x.run state).2.history

theorem logs_carryOut {body : Value → Metadata → Step String} {log : Value → Metadata → Log}
    (hBody : ∀ context metadata, Logs (body context metadata) (log context metadata))
    (action : Action α) : Logs (carryOut body action) (actionLog body log action) := by
  intro state
  induction action generalizing state with
  | done a => exact .nil
  | fail failure => exact .nil
  | body context metadata next ih =>
    rw [run_carryOut_body, actionLog]
    exact (hBody context metadata state).append (ih _ _)
  | frame next ih => exact ih state.published state

theorem Logs.inside {x : Step α} {log : Log} (h : Logs x log) (machine : Machine)
    (surrounding : Surrounding) :
    Logs (Render.inside machine surrounding x) (insideLog machine surrounding log) := by
  intro state
  unfold insideLog
  cases hOpens : machine.opens (surrounding :: state.around) with
  | true =>
    rw [run_inside_of_opens hOpens]
    exact h (state.inside surrounding)
  | false =>
    rw [run_inside_of_not_opens hOpens]
    exact .nil

theorem Site.unchanged_of_unregistered {site : Site} {offset : Nat} {name : String}
    {expression : Option String} (hNode : site.node = .inclusion offset name expression)
    (hFound : setup.partials.find? name = none) :
    (site.outcome setup).2.history = site.state.history := by
  unfold outcome
  rw [hNode]
  unfold renderNode partial?
  rw [hFound]
  cases site.frame.strict with
  | true => rfl
  | false => rfl

theorem Site.unchanged_of_unresolved {site : Site} {offset : Nat} {name source : String}
    {expression : Option String} {fault : Fault}
    (hNode : site.node = .inclusion offset name expression)
    (hFound : setup.partials.find? name = some source)
    (hContext : site.innerContext? setup expression = .error fault) :
    (site.outcome setup).2.history = site.state.history := by
  obtain ⟨path, rfl, hFault | ⟨value, hValue, hKeys⟩⟩ := exists_path_of_innerContext? hContext
  · rw [outcome_inclusion_of_error hNode hFound hFault]
  · rw [outcome_inclusion_of_keys hNode hFound hValue hKeys]

theorem compiles_nil_of_eq {state after : State} (h : after.history = state.history) :
    state.history.Compiles [] after.history := by
  rw [h]
  exact .nil

/-- The log tells what is compiled for the partials that are entered in the frame. -/
def EntryLogs (setup : Setup) (room : Nat) (enter : EntryLog) (frame : Frame) : Prop :=
  ∀ name source context metadata,
    Logs (enterPartial setup room frame name source context metadata)
      (enter frame name source context metadata)

variable {room : Nat} {enter : EntryLog} {frame : Frame}

/-- Only a helper that is given a body can have something compiled. -/
theorem logs_block {children : List Node}
    (hBody : ∀ context metadata,
      Logs (renderNodes setup (enterPartial setup room) frame children context metadata)
        (nodesLog setup room enter frame children context metadata))
    (offset : Nat) (name : String) (arguments : List String) (context : Value)
    (metadata : Metadata) :
    Logs (renderNode setup (enterPartial setup room) frame (.block offset name arguments children)
        context metadata)
      (nodeLog setup room enter frame (.block offset name arguments children) context
        metadata) := by
  intro state
  let site : Site := ⟨room, frame, .block offset name arguments children, context, metadata, state⟩
  have hNode : site.node = .block offset name arguments children := rfl
  change state.history.Compiles _ (site.outcome setup).2.history
  rw [nodeLog]
  cases hFound : setup.helpers.find? name with
  | none => exact compiles_nil_of_eq (Site.unchanged_of_unknown hNode hFound)
  | some helper =>
    rw [Site.outcome_block hNode hFound]
    rcases resolveAll_cases context metadata arguments with
      ⟨values, hValues⟩ | ⟨before, path, after, values, fault, rfl, hBefore, hFault⟩
    · have hSame : arguments.mapM site.resolve = .ok values := hValues
      rw [run_bind_of_ok (run_lookUpAll_of_ok hValues _), hSame]
      dsimp only
      refine holds_bind (I := fun after => state.history.Compiles _ after.history) ?_
        fun value => keeps_textOf _ _ _ value
      cases hKind : helper.isBlock with
      | true =>
        rw [if_pos rfl, if_pos rfl, run_call]
        exact logs_carryOut (fun inner more => .inside (hBody inner (more ++ metadata)) _ _) _ state
      | false =>
        rw [if_neg Bool.false_ne_true, if_neg Bool.false_ne_true, run_call]
        exact compiles_nil_of_eq (carryOut_unchanged fun _ _ _ _ => rfl)
    · have hError : (before ++ path :: after).mapM site.resolve = .error fault := by
        have hSame : before.mapM site.resolve = .ok values := hBefore
        have hFirst : site.resolve path = .error fault := hFault
        rw [List.mapM_append, hSame, List.mapM_cons, hFirst]
        rfl
      rw [run_bind_of_error (run_lookUpAll_of_error hBefore hFault after _), hError]
      exact .nil

theorem logs_inclusion (hEnter : EntryLogs setup room enter frame) (offset : Nat) (name : String)
    (expression : Option String) (context : Value) (metadata : Metadata) :
    Logs (renderNode setup (enterPartial setup room) frame (.inclusion offset name expression)
        context metadata)
      (nodeLog setup room enter frame (.inclusion offset name expression) context metadata) := by
  intro state
  let site : Site := ⟨room, frame, .inclusion offset name expression, context, metadata, state⟩
  have hNode : site.node = .inclusion offset name expression := rfl
  change state.history.Compiles _ (site.outcome setup).2.history
  rw [nodeLog]
  cases hFound : setup.partials.find? name with
  | none => exact compiles_nil_of_eq (Site.unchanged_of_unregistered hNode hFound)
  | some source =>
    cases hContext : site.innerContext? setup expression with
    | ok inner =>
      rw [Site.outcome_inclusion hNode hFound hContext]
      exact hEnter name source inner metadata state
    | error fault => exact compiles_nil_of_eq (Site.unchanged_of_unresolved hNode hFound hContext)

mutual

theorem logs_renderNode (hEnter : EntryLogs setup room enter frame) (node : Node)
    (context : Value) (metadata : Metadata) :
    Logs (renderNode setup (enterPartial setup room) frame node context metadata)
      (nodeLog setup room enter frame node context metadata) := by
  cases node with
  | text offset content =>
    intro state
    rw [nodeLog, renderNode]
    exact .nil
  | output offset path arguments filters =>
    intro state
    have hKeeps : Keeps (fun after => after.history = state.history)
        (renderOutput setup frame offset path arguments filters context metadata) :=
      keeps_renderOutput _ _ _ _ _ _ _ _
    rw [nodeLog, renderNode]
    exact compiles_nil_of_eq (hKeeps state rfl)
  | block offset name arguments children =>
    exact logs_block (logs_renderNodes hEnter children) offset name arguments context metadata
  | inclusion offset name expression =>
    exact logs_inclusion hEnter offset name expression context metadata

theorem logs_renderNodes (hEnter : EntryLogs setup room enter frame) (nodes : List Node)
    (context : Value) (metadata : Metadata) :
    Logs (renderNodes setup (enterPartial setup room) frame nodes context metadata)
      (nodesLog setup room enter frame nodes context metadata) := by
  intro state
  cases nodes with
  | nil =>
    rw [renderNodes, nodesLog]
    exact .nil
  | cons node nodes =>
    have hNode := logs_renderNode hEnter node context metadata state
    rw [nodesLog]
    change state.history.Compiles _
      (Task.outcome setup ⟨room, frame, node :: nodes, context, metadata, state⟩).2.history
    rw [Task.outcome_cons]
    rcases hSite : Site.outcome setup ⟨room, frame, node, context, metadata, state⟩ with
      ⟨failure | text, after⟩
    · have hRun : (renderNode setup (enterPartial setup room) frame node context metadata).run
          state = _ := hSite
      rw [hRun] at hNode
      rw [run_bind_of_error hRun, List.append_nil]
      exact hNode
    · have hRun : (renderNode setup (enterPartial setup room) frame node context metadata).run
          state = _ := hSite
      rw [hRun] at hNode
      rw [run_bind_of_ok hRun]
      exact hNode.append (holds_bind (I := fun last => after.history.Compiles _ last.history)
        (logs_renderNodes hEnter nodes context metadata after) fun later => keeps_pure _ _)

end

/-- What follows when a partial is compiled, in the frame that is entered for it. -/
theorem compiles_entered {machine : Machine} {options : Options} {source : String}
    {name : Option String} {step : Template → Step String}
    {log : Template → History → List Compilation} (state : State)
    (hStep : ∀ template (after : History), after.Compiles (log template after)
      ((step template).run { state with history := after }).2.history) :
    state.history.Compiles
      (match state.history.compile (machine.nesting state.around) options source name with
        | .error _ => []
        | .ok (template, after) => ⟨source, options.cache⟩ :: log template after)
      ((compile machine options source name >>= step).run state).2.history := by
  cases hCompile : state.history.compile (machine.nesting state.around) options source name with
  | error error =>
    rw [run_bind_of_error (run_compile_of_error state hCompile)]
    exact .nil
  | ok compiled =>
    obtain ⟨template, after⟩ := compiled
    rw [run_bind_of_ok (run_compile_of_ok state hCompile)]
    exact .cons hCompile (hStep template after)

theorem logs_enterPartial (room : Nat) (frame : Frame) :
    EntryLogs setup room (entryLog setup room) frame := by
  induction room generalizing frame with
  | zero =>
    intro name source context metadata state
    rw [enterPartial, entryLog]
    cases hEnter : frame.enter name source with
    | error error => exact .nil
    | ok inner => exact compiles_entered state fun _ _ => .nil
  | succ room ih =>
    intro name source context metadata state
    rw [enterPartial, entryLog]
    cases hEnter : frame.enter name source with
    | error error => exact .nil
    | ok inner =>
      refine compiles_entered state fun template after => ?_
      exact Logs.inside (logs_renderNodes (ih inner) template.nodes context metadata) _ _
        ⟨after, some inner, state.around⟩

/-- A render compiles what its log tells, and nothing else. -/
theorem Task.compiles (task : Task) :
    task.state.history.Compiles (task.compilations setup) (task.outcome setup).2.history :=
  logs_renderNodes (logs_enterPartial task.room task.frame) task.nodes task.context task.metadata
    task.state

end Render

end Stencil
