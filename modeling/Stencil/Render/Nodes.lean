import Stencil.Text.Html
import Stencil.Render.Setup

/-!
The text of a tree of nodes. Text is copied; a value is looked up or made by a helper, sent through
its filters and escaped; a block is what its helper makes of its body; a partial is rendered in a
frame of its own.

How a partial is entered is a parameter of the walk over the tree. The tree of a partial is no part
of the tree that includes it, and what ends the walk is that no partial is entered twice: inside all
registered partials there is none left to enter.
-/

namespace Stencil.Render

variable (setup : Setup)

/-- The helper with the given name. In a strict render it is an error if there is none. -/
def helper? (frame : Frame) (offset : Nat) (name : String) : Step (Option Helper) :=
  match setup.helpers.find? name with
  | some helper => return some helper
  | none =>
    if frame.strict then stop (.ofCause (.unknownHelper name) (frame.place offset)) else return none

/-- The partial with the given name. In a strict render it is an error if there is none. -/
def partial? (frame : Frame) (offset : Nat) (name : String) : Step (Option String) :=
  match setup.partials.find? name with
  | some source => return some source
  | none =>
    if frame.strict then stop (.ofCause (.unknownPartial name) (frame.place offset))
    else return none

def lookUp (frame : Frame) (offset : Nat) (context : Value) (metadata : Metadata) (path : String) :
    Step Value :=
  guarding (frame.place offset) (.unresolved path) (raising (Path.resolve context path metadata))

def textOf (frame : Frame) (offset : Nat) (value : Value) : Step String :=
  guarding (frame.place offset) (.unprintable value.typeName) (raising value.display)

/-- Do what a helper wants, given how the body of its block is rendered. -/
def carryOut {α : Type} (body : Value → Metadata → Step String) (action : Action α) : Step α :=
  action.run throw (fun context metadata => attempt (body context metadata)) published

def call (body : Value → Metadata → Step String) (frame : Frame) (offset : Nat) (helper : Helper)
    (name : String) (arguments : List Value) : Step Value :=
  guarding (frame.place offset) (.helperFailed name) (carryOut body (helper.act arguments))

/-- A helper that is called without a block has no body. -/
def noBody (_ : Value) (_ : Metadata) : Step String := return ""

def callInline (frame : Frame) (offset : Nat) (helper : Helper) (name : String)
    (arguments : List Value) : Step Value :=
  if helper.isBlock then stop (.ofCause (.blockHelperInline name) (frame.place offset))
  else call noBody frame offset helper name arguments

/-- Send a value through filters. A filter without a helper leaves it as it is. -/
def applyFilters (frame : Frame) (offset : Nat) : List Filter → Value → Step Value
  | [], value => return value
  | filter :: filters, value => do
    match ← helper? setup frame offset filter.name with
    | none => applyFilters frame offset filters value
    | some helper =>
      let value ← callInline frame offset helper filter.name
        (value :: filter.arguments.map Value.text)
      applyFilters frame offset filters value

/-- The value of an expression, before its filters; none if its helper is not known. -/
def head? (frame : Frame) (offset : Nat) (path : String) (arguments : List String)
    (context : Value) (metadata : Metadata) : Step (Option Value) := do
  if arguments.isEmpty then
    return some (← lookUp frame offset context metadata path)
  else
    match ← helper? setup frame offset path with
    | none => return none
    | some helper =>
      let values ← arguments.mapM (lookUp frame offset context metadata)
      return some (← callInline frame offset helper path values)

def renderOutput (frame : Frame) (offset : Nat) (path : String) (arguments : List String)
    (filters : List Filter) (context : Value) (metadata : Metadata) : Step String := do
  match ← head? setup frame offset path arguments context metadata with
  | none => return ""
  | some value =>
    let value ← applyFilters setup frame offset filters value
    let text ← textOf frame offset value
    return if frame.noEscape then text else Text.Html.escape text

/-- The context of a partial: the entries of the value of its context expression, if that is a map,
laid over those of the context around it. -/
def innerContext (context : Value) (value : Value) : Value :=
  match value.entries? with
  | some entries => .map (Value.merge (context.entries?.getD []) entries)
  | none => context

/-- The context of a partial, if its keys can be compared. -/
def innerContext? (compares : Nat → Bool) (context value : Value) : Except Fault Value :=
  if value.entries?.any (Value.keysTooDeep compares (context.entries?.getD [])) then
    .error .keysTooDeep
  else .ok (innerContext context value)

/-- The context of a partial that is included here. If its keys cannot be compared, nobody reports
it. -/
def contextHere (machine : Machine) (context value : Value) : Step Value := do
  let state ← get
  raising (innerContext? (machine.compares state.around) context value)

/-- How a partial with a name and a source is rendered inside a frame, in a context and with
metadata. -/
abbrev Entry := Frame → String → String → Value → Metadata → Step String

mutual

def renderNode (enter : Entry) (frame : Frame) : Node → Value → Metadata → Step String
  | .text _ content, _, _ => return content
  | .output offset path arguments filters, context, metadata =>
    renderOutput setup frame offset path arguments filters context metadata
  | .block offset name arguments children, context, metadata => do
    match ← helper? setup frame offset name with
    | none => return ""
    | some helper =>
      let values ← arguments.mapM (lookUp frame offset context metadata)
      let value ←
        if helper.isBlock then
          call (fun inner more => inside setup.machine (.body name)
              (renderNodes enter frame children inner (more ++ metadata)))
            frame offset helper name (values ++ [.blockOptions name context])
        else call noBody frame offset helper name values
      textOf frame offset value
  | .inclusion offset name expression, context, metadata => do
    match ← partial? setup frame offset name with
    | none => return ""
    | some source =>
      let inner ← match expression with
        | none => pure context
        | some path =>
          lookUp frame offset context metadata path >>= contextHere setup.machine context
      enter frame name source inner metadata

def renderNodes (enter : Entry) (frame : Frame) : List Node → Value → Metadata → Step String
  | [], _, _ => return ""
  | node :: nodes, context, metadata => do
    let text ← renderNode enter frame node context metadata
    let later ← renderNodes enter frame nodes context metadata
    return text ++ later

end

/-- Enter a partial, inside which so many more can be entered. -/
def enterPartial : Nat → Entry
  | depth, frame, name, source, context, metadata => do
    match frame.enter name source with
    | .error error => stop error
    | .ok inner =>
      let options := setup.options.merge { strict := frame.strict, noEscape := frame.noEscape }
      let template ← compile setup.machine options source name
      match depth with
      | 0 => stop (.ofCause (.partialCycle name frame.stack) { templateName := frame.templateName })
      | depth + 1 =>
        publishing inner (inside setup.machine (.inclusion name)
          (renderNodes setup (enterPartial depth) inner template.nodes context metadata))

def topFrame (template : Template) : Frame where
  templateName := template.name
  source := some template.source
  strict := template.options.strict
  noEscape := template.options.noEscape

/-- The context of a render: nothing counts as a map without entries, and named values are laid over
the entries of a map. -/
def topContext (context : Value) (named : List (String × Value)) : Value :=
  let context := match context with
    | .null => .map []
    | context => context
  if named.isEmpty then context
  else .map (Value.merge (context.entries?.getD [])
    (named.map fun (name, value) => (.text name, value)))

def render (template : Template) (context : Value) (named : List (String × Value)) : Step String :=
  let frame := topFrame template
  publishing frame
    (renderNodes setup (enterPartial setup setup.partials.size) frame template.nodes
      (topContext context named) [])

end Stencil.Render
