import Stencil.Template.Lexeme
import Stencil.Template.Tree
import Stencil.Diagnostic.Error

/-!
Template text read into its tree. What the text lacks is reported with the place of the tag that
is at fault.
-/

namespace Stencil.Template

/-- The first opening tag among some tokens: its name and its offset. -/
def firstOpening : List Token → Option (String × Nat)
  | [] => none
  | token :: tokens =>
    match token.kind with
    | .opening name _ => some (name, token.offset)
    | _ => firstOpening tokens

/-- The error for tokens that have no tree. A nest that is too deep is reported at the first block
of the template. -/
def treeError (tokens : List Token) (source name : Option String) : TreeError → CompileError
  | .unclosed block offset => .ofCause (.unclosed block) ⟨source, some offset, name⟩
  | .tooDeep =>
    let (block, offset) := (firstOpening tokens).getD ("", 0)
    .ofCause (.tooDeep block) ⟨source, some offset, name⟩

/-- The nodes of some tokens. The source and the name of the template only serve the error. -/
def parse (limit : Nat) (tokens : List Token) (source name : Option String) :
    Except CompileError (List Node) :=
  match Tree.build limit tokens with
  | .ok nodes => .ok nodes
  | .error e => .error (treeError tokens source name e)

/-- The nodes of a source in which so many blocks may lie inside one another. -/
def compile (limit : Nat) (source : String) (name : Option String) :
    Except CompileError (List Node) :=
  parse limit (tokenize source) (some source) name

end Stencil.Template
