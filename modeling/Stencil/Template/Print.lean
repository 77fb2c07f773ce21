import Stencil.Template.Node

/-!
Nodes written as template text. Every tag has one written form: single blanks between its words,
none before its closing braces, and a bar before each filter. Where a node is written decides its
offset, and `placed` gives the nodes the offsets of their written forms.
-/

namespace Stencil.Node

def spaced (words : List String) : String := " ".intercalate words

def tag (inside : String) : String := "\x7b\x7b" ++ inside ++ "\x7d\x7d"

/-- A path with its arguments, and the filters behind it. -/
def expression (path : String) (arguments : List String) (filters : List Filter) : String :=
  let stages := filters.map fun filter => spaced (filter.name :: filter.arguments)
  " | ".intercalate (spaced (path :: arguments) :: stages)

def openingTag (name : String) (arguments : List String) : String :=
  tag ("#" ++ spaced (name :: arguments))

mutual

def print : Node → String
  | .text _ content => content
  | .output _ path arguments filters => tag (expression path arguments filters)
  | .block _ name arguments children =>
    openingTag name arguments ++ printAll children ++ tag ("/" ++ name)
  | .inclusion _ name context => tag (spaced (">" :: name :: context.toList))

def printAll : List Node → String
  | [] => ""
  | node :: nodes => print node ++ printAll nodes

end

mutual

/-- The node with the offsets that it has where its written form starts at the given offset. -/
def placed (start : Nat) : Node → Node
  | .text _ content => .text start content
  | .output _ path arguments filters =>
    .output start path arguments (filters.map fun filter => { filter with offset := start })
  | .block _ name arguments children =>
    .block start name arguments (placedAll (start + (openingTag name arguments).length) children)
  | .inclusion _ name context => .inclusion start name context

/-- The nodes with their offsets where their written forms follow one another from an offset on. -/
def placedAll (start : Nat) : List Node → List Node
  | [] => []
  | node :: nodes => placed start node :: placedAll (start + (print node).length) nodes

end

@[simp] theorem printAll_nil : printAll [] = "" := by simp [printAll]

end Stencil.Node
