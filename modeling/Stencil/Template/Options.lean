/-!
Options of templates, and how those of a single call are laid over the defaults of an engine.
-/

namespace Stencil

/-- How a template is compiled and rendered. -/
structure Options where
  /-- Unknown helpers and partials are errors and not empty texts. -/
  strict : Bool := false
  /-- Values are output as they are. -/
  noEscape : Bool := false
  /-- The compiled template is kept for later calls. -/
  cache : Bool := true
  deriving DecidableEq, Repr

/-- Options of a single call. Those that are left out are inherited. -/
structure Overrides where
  strict : Option Bool := none
  noEscape : Option Bool := none
  cache : Option Bool := none
  deriving DecidableEq, Repr

def Overrides.isEmpty (overrides : Overrides) : Bool :=
  overrides.strict.isNone && overrides.noEscape.isNone && overrides.cache.isNone

namespace Options

def merge (options : Options) (overrides : Overrides) : Options where
  strict := overrides.strict.getD options.strict
  noEscape := overrides.noEscape.getD options.noEscape
  cache := overrides.cache.getD options.cache

def flagText (b : Bool) : String := if b then "True" else "False"

def describe (options : Options) : String :=
  "TemplateOptions(strict=" ++ flagText options.strict ++ ", no_escape=" ++
    flagText options.noEscape ++ ", cache=" ++ flagText options.cache ++ ")"

end Options

end Stencil
