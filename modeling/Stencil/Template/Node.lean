/-!
The tree of a template. Every node knows the offset at which its tag or text starts in the source.
-/

namespace Stencil

/-- A stage behind an expression: a helper that is given the value so far, and arguments that are
taken as they are written. -/
structure Filter where
  offset : Nat
  name : String
  arguments : List String
  deriving DecidableEq, Repr

/-- A part of a template. -/
inductive Node where
  | /-- Text that is output as it is. -/
    text (offset : Nat) (content : String)
  | /-- The value of a path or, if there are arguments, of a helper with the name `path`. -/
    output (offset : Nat) (path : String) (arguments : List String) (filters : List Filter)
  | /-- A helper that is given the nodes between the two tags. -/
    block (offset : Nat) (name : String) (arguments : List String) (children : List Node)
  | /-- The nodes of a partial, rendered in the value of the context expression if there is one. -/
    inclusion (offset : Nat) (name : String) (context : Option String)
  deriving Repr, Inhabited

namespace Node

def offset : Node → Nat
  | .text offset _ | .output offset .. | .block offset .. | .inclusion offset .. => offset

mutual

/-- A node and all nodes inside it, each before those that it holds. -/
def preorder : Node → List Node
  | .block offset name arguments children =>
    .block offset name arguments children :: preorderAll children
  | node => [node]

/-- The nodes of a list and all nodes inside them, each before those that it holds. -/
def preorderAll : List Node → List Node
  | [] => []
  | node :: nodes => preorder node ++ preorderAll nodes

end

mutual

def depth : Node → Nat
  | .block _ _ _ children => depthAll children + 1
  | _ => 0

/-- How many blocks lie inside one another in a list of nodes. -/
def depthAll : List Node → Nat
  | [] => 0
  | node :: nodes => max (depth node) (depthAll nodes)

end

end Node

end Stencil
