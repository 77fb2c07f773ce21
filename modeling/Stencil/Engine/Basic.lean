import Stencil.Helper.Builtin
import Stencil.Render.Nodes

/-!
Engines: a setup and a history. Engines share nothing, so what is registered in one is unknown to
all others. Every operation gives back the engine as it is afterwards; an operation that stops with
an error gives it back too, since the templates that were compiled on the way stay compiled.
-/

namespace Stencil

/-- An engine. -/
structure Engine where
  setup : Setup
  history : History := {}

namespace Engine

/-- A new engine on a machine, with default options. It knows the built-in helpers and no
partials. -/
def new (machine : Machine) (options : Options) : Engine where
  setup := { machine, options, helpers := .ofList (Helper.builtins machine), partials := .empty }

def note (engine : Engine) (event : Event) : Engine :=
  { engine with history := engine.history.note event }

/-! ### Registering -/

def setHelpers (engine : Engine) (helpers : List (String × Helper)) : Engine :=
  let helpers := engine.setup.helpers.insertAll helpers
  { engine with setup := { engine.setup with helpers } }

def setPartials (engine : Engine) (partials : List (String × String)) : Engine :=
  let partials := engine.setup.partials.insertAll partials
  { engine with setup := { engine.setup with partials } }

/-- Register a helper. One with the same name is replaced. -/
def registerHelper (engine : Engine) (name : String) (helper : Helper) : Engine :=
  (engine.setHelpers [(name, helper)]).note (.registeredHelper name)

def registerHelpers (engine : Engine) (helpers : Table Helper) : Engine :=
  (engine.setHelpers helpers.entries).note (.registeredHelpers helpers.size)

/-- Register a partial. One with the same name is replaced. -/
def registerPartial (engine : Engine) (name source : String) : Engine :=
  (engine.setPartials [(name, source)]).note (.registeredPartial name)

def registerPartials (engine : Engine) (partials : Table String) : Engine :=
  (engine.setPartials partials.entries).note (.registeredPartials partials.size)

def clearCache (engine : Engine) : Engine := { engine with history := engine.history.clear }

def stats (engine : Engine) : CacheStats := engine.history.cache.stats

/-! ### Compiling and rendering -/

/-- Run a part of a render; no frame is published outside of it, and nothing is open there. -/
def run {α : Type} (engine : Engine) (step : Render.Step α) : Except Failure α × Engine :=
  let (result, state) := step.run { history := engine.history }
  (result, { engine with history := state.history })

/-- Compile a source. Options that are not overridden are the engine's. -/
def compile (engine : Engine) (source : String) (name : Option String) (overrides : Overrides) :
    Except Failure Template × Engine :=
  engine.run
    (Render.compile engine.setup.machine (engine.setup.options.merge overrides) source name)

def call (engine : Engine) (template : Template) (context : Value)
    (named : List (String × Value)) : Except Failure String × Engine :=
  engine.run (Render.render engine.setup template context named)

def render (engine : Engine) (source : String) (context : Value) (overrides : Overrides) :
    Except Failure String × Engine :=
  engine.run do
    let template ←
      Render.compile engine.setup.machine (engine.setup.options.merge overrides) source none
    Render.render engine.setup template context []

def rebind (engine : Engine) (template : Template) (options : Options) (name : Option String) :
    Template × Engine :=
  let (template, history) := engine.history.rebind template options name
  (template, { engine with history })

def describe (engine : Engine) : String :=
  "<Environment strict=" ++ Options.flagText engine.setup.options.strict ++ " no_escape=" ++
    Options.flagText engine.setup.options.noEscape ++ " helpers=" ++
    toString engine.setup.helpers.size ++ " partials=" ++ toString engine.setup.partials.size ++
    " cached=" ++ toString engine.history.cache.size ++ ">"

end Engine

end Stencil
