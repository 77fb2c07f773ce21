import Stencil.Machine
import Stencil.Helper.Basic
import Stencil.Engine.History

/-!
What renders work with: the machine, the options, helpers and partials that an engine is set up
with, which do not change while a template is rendered, and what does change: the history, the frame
that helpers can look at, and what is open around the place that is being rendered.
-/

namespace Stencil

/-- What an engine runs on, its default options, and what is registered in it. -/
structure Setup where
  machine : Machine
  options : Options := {}
  helpers : Table Helper
  partials : Table String

namespace Render

/-- What changes while a template is rendered. -/
structure State where
  history : History
  /-- The frame of the template or partial that is being rendered. -/
  published : Option Frame := none
  /-- The blocks and partials that are open around the place, the innermost first. -/
  around : List Surrounding := []

/-- A part of a render: it has a result or raises a failure, and the state changes either way. -/
abbrev Step := ExceptT Failure (StateM State)

def stop {α : Type} (error : RenderError) : Step α := throw (.error (.render error))

/-- The result of a computation that may raise a fault. -/
def raising {α : Type} : Except Fault α → Step α
  | .ok a => pure a
  | .error fault => throw (.fault fault)

/-- What is reported of a failure: `cause` says what a fault means. Errors have been reported where
they arose, and pass. What is raised instead of the words for a fault is not caught. -/
def reported (place : Place) (cause : Fault → RenderError.Cause) : Failure → Failure
  | .fault fault =>
    match fault.raised? with
    | some raised => .fault raised
    | none => .error (.render (.ofCause (cause fault) place))
  | .error error => .error error

/-- Report a fault that is raised by a part of a render. -/
def guarding {α : Type} (place : Place) (cause : Fault → RenderError.Cause) (step : Step α) :
    Step α :=
  tryCatch step fun failure => throw (reported place cause failure)

/-- Do something and take what it raises for its result. -/
def attempt {α : Type} (step : Step α) : Step (Except Failure α) :=
  tryCatch (Except.ok <$> step) fun failure => return .error failure

def published : Step (Option Frame) := return (← get).published

/-- Do something while a frame is published. Afterwards the frame from before is published again,
even if it failed. -/
def publishing {α : Type} (frame : Frame) (step : Step α) : Step α :=
  fun state =>
    let (result, state') := step.run { state with published := some frame }
    (result, { state' with published := state.published })

def State.inside (surrounding : Surrounding) (state : State) : State :=
  { state with around := surrounding :: state.around }

/-- Do something inside of a block or a partial, if there is stack enough to open it. Afterwards it
is closed again, even if what was done failed. -/
def inside {α : Type} (machine : Machine) (surrounding : Surrounding) (step : Step α) : Step α :=
  fun state =>
    if machine.opens (surrounding :: state.around) then
      let (result, state') := step.run (state.inside surrounding)
      (result, { state' with around := state.around })
    else (.error (.fault .stackUsedUp), state)

/-- Compile a source here, where the machine sets a limit to its blocks. -/
def compile (machine : Machine) (options : Options) (source : String) (name : Option String) :
    Step Template := do
  let state ← get
  match state.history.compile (machine.nesting state.around) options source name with
  | .ok (template, history) =>
    set { state with history }
    return template
  | .error error => throw (.error (.compile error))

theorem published_publishing {α : Type} (frame : Frame) (step : Step α) (state : State) :
    ((publishing frame step).run state).2.published = state.published := rfl

theorem around_inside {α : Type} (machine : Machine) (surrounding : Surrounding) (step : Step α)
    (state : State) : ((inside machine surrounding step).run state).2.around = state.around := by
  change (ite _ _ _ : Except Failure α × State).2.around = _
  split <;> rfl

end Render

end Stencil
