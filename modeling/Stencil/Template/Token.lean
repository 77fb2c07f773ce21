import Stencil.Text.Quoted

/-!
Tokens of template text. A token is a stretch of the source together with what it says: plain text,
an expression to be output, the opening or the closing tag of a block, or the inclusion of a
partial.
-/

namespace Stencil

/-- What a token says. The parts of a tag are kept as they were written. -/
inductive Token.Kind where
  | text
  | output (expression : String)
  | opening (name : String) (arguments : Option String)
  | closing (name : String)
  | inclusion (name : String) (context : Option String)
  deriving DecidableEq, Repr, Inhabited

/-- A stretch of the source: what it says, how it is written, and where it starts. Offsets count
characters. -/
structure Token where
  kind : Token.Kind
  lexeme : String
  offset : Nat
  deriving DecidableEq, Repr, Inhabited

namespace Token

/-- The written parts of a tag, in order; parts that were left out are not listed. -/
def Kind.parameters : Kind → List String
  | .text => []
  | .output expression => [expression]
  | .opening name arguments => name :: arguments.toList
  | .closing name => [name]
  | .inclusion name context => name :: context.toList

/-- The name of the kind as it is shown in descriptions of tokens. -/
def Kind.label : Kind → String
  | .text => "TEXT"
  | .output _ => "VARIABLE"
  | .opening .. => "BLOCK_START"
  | .closing _ => "BLOCK_END"
  | .inclusion .. => "PARTIAL"

/-- A one-line description of a token for people who look at a list of them. -/
def describe (token : Token) : String :=
  "Token(" ++ token.kind.label ++ ", " ++ Text.Quoted.encode token.lexeme ++ ", offset=" ++
    toString token.offset ++ ")"

end Token

end Stencil
