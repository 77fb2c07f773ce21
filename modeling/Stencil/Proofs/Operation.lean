import Stencil.Engine.Basic

/-!
The states that an engine can come into. An engine is new, and then asked to do one thing after the
other; what it is asked for may succeed or fail.
-/

namespace Stencil.Engine

/-- Something that an engine can be asked to do. The template of a call may have been compiled at
any time, with any options. -/
inductive Operation where
  | registerHelper (name : String) (helper : Helper)
  | registerHelpers (helpers : Table Helper)
  | registerPartial (name source : String)
  | registerPartials (partials : Table String)
  | compile (source : String) (name : Option String) (overrides : Overrides)
  | render (source : String) (context : Value) (overrides : Overrides)
  | call (template : Template) (context : Value) (named : List (String × Value))
  | clearCache

/-- The engine after an operation. -/
def perform (engine : Engine) : Operation → Engine
  | .registerHelper name helper => engine.registerHelper name helper
  | .registerHelpers helpers => engine.registerHelpers helpers
  | .registerPartial name source => engine.registerPartial name source
  | .registerPartials partials => engine.registerPartials partials
  | .compile source name overrides => (engine.compile source name overrides).2
  | .render source context overrides => (engine.render source context overrides).2
  | .call template context named => (engine.call template context named).2
  | .clearCache => engine.clearCache

/-- The engine after operations, the first of the list first. -/
def performAll (engine : Engine) (operations : List Operation) : Engine :=
  operations.foldl perform engine

/-- What holds of an engine and is kept by every operation holds after any number of them. -/
theorem performAll_induction {P : Engine → Prop} {engine : Engine} (operations : List Operation)
    (h : P engine) (step : ∀ engine operation, P engine → P (engine.perform operation)) :
    P (engine.performAll operations) := by
  induction operations generalizing engine with
  | nil => exact h
  | cons operation operations ih => exact ih (step engine operation h)

end Stencil.Engine
