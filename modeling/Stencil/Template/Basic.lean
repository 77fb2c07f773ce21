import Stencil.Text.Quoted
import Stencil.Template.Node
import Stencil.Template.Options

/-!
Compiled templates. Templates that share their nodes differ in their name or their options.
-/

namespace Stencil

/-- A compiled template. The two numbers tell apart what one engine has made: the template itself,
and the nodes, which were made for the first template that has them. -/
structure Template where
  number : Nat
  tree : Nat
  nodes : List Node
  source : String
  name : Option String
  options : Options
  deriving Repr

namespace Template

/-- The first characters of a text, with dots behind them if the text is longer than a limit. -/
def preview (limit kept : Nat) (source : String) : String :=
  if source.length ≤ limit then source
  else String.ofList (source.toList.take kept) ++ "..."

/-- The name of a template in descriptions. A template without a name, or with an empty one, has a
stock name. -/
def shownName (name : Option String) : String := (name.filter (· ≠ "")).getD "<string>"

def describe (template : Template) : String :=
  "<Template " ++ shownName template.name ++ ": " ++
    Text.Quoted.encode (preview 40 37 template.source) ++ ">"

/-- Whether two templates of an engine have the same nodes and not only equal ones. There is only
one empty list of nodes. -/
def sharesNodes (a b : Template) : Bool :=
  a.tree == b.tree || (a.nodes.isEmpty && b.nodes.isEmpty)

end Template

end Stencil
