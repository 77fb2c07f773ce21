import Stencil.Diagnostic.Error
import Stencil.Template.Compile
import Stencil.Engine.Cache

/-!
What an engine remembers from one call to the next: its cache, the templates that it has made, and a
journal of what it did. Compiling is the work that is remembered.
-/

namespace Stencil

/-- Something that an engine did. -/
inductive Event where
  | registeredHelper (name : String)
  | registeredHelpers (count : Nat)
  | registeredPartial (name : String)
  | registeredPartials (count : Nat)
  | /-- A template was found in the cache; the count includes this use. -/
    found (uses : Nat) (source : String)
  | compiled (name : Option String) (nodes : Nat) (source : String)
  | cleared
  deriving DecidableEq, Repr

/-- The line of the journal for an event. Only the front of a source is shown. -/
def Event.message : Event → String
  | registeredHelper name => "registered helper " ++ Text.Quoted.encode name
  | registeredHelpers count => "registered " ++ toString count ++ " helpers"
  | registeredPartial name => "registered partial " ++ Text.Quoted.encode name
  | registeredPartials count => "registered " ++ toString count ++ " partials"
  | found uses source => "cache hit (uses=" ++ toString uses ++ "): " ++ shown source
  | compiled name nodes source =>
    "compiled template " ++ Template.shownName name ++ " (" ++ toString nodes ++ " nodes): " ++
      shown source
  | cleared => "template cache cleared"
where
  shown (source : String) : String := Text.Quoted.encode (Template.preview 50 50 source)

/-- What an engine remembers. -/
structure History where
  cache : Cache := .empty
  /-- How many templates were made. -/
  made : Nat := 0
  /-- What was done, the latest first. -/
  journal : List Event := []
  deriving Repr

namespace History

def note (history : History) (event : Event) : History :=
  { history with journal := event :: history.journal }

/-- The template with other options and another name. Nothing is made if these are its own. -/
def rebind (history : History) (template : Template) (options : Options) (name : Option String) :
    Template × History :=
  if options = template.options ∧ name = template.name then (template, history)
  else
    ({ template with number := history.made, options, name },
      { history with made := history.made + 1 })

/-- Make the template of a source in which so many blocks may lie inside one another. -/
def make (history : History) (limit : Nat) (options : Options) (source : String)
    (name : Option String) : Except CompileError (Template × History) := do
  let nodes ← Template.compile limit source name
  let template := ⟨history.made, history.made, nodes, source, name, options⟩
  let history := { history with made := history.made + 1 }
  return (template, history.note (.compiled name nodes.length source))

/-- The template of a source. With the option `cache` a template that was made before is taken from
the cache, however deep its blocks lie, and a new one is put there. -/
def compile (history : History) (limit : Nat) (options : Options) (source : String)
    (name : Option String) : Except CompileError (Template × History) :=
  if options.cache then
    match history.cache.use? source with
    | some (entry, cache) =>
      let history := { history with cache }.note (.found entry.uses source)
      .ok (history.rebind entry.template options name)
    | none => do
      let (template, history) ← history.make limit options source name
      return (template, { history with cache := history.cache.put template source })
  else history.make limit options source name

def clear (history : History) : History := { history with cache := .empty }.note .cleared

end History

end Stencil
