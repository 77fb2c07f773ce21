import Stencil.Text.Blank
import Stencil.Template.Token
import Stencil.Template.Node

/-!
The tree of a list of tokens. A block reaches from its opening tag to the closing tag that balances
it among the tags with the same name; tags with other names do not count. What lies between is read
as a list of its own, and a closing tag that closes nothing there is passed over.
-/

namespace Stencil

/-- Why a list of tokens has no tree. -/
inductive TreeError where
  | /-- The block that starts at the offset is not closed before its surroundings end. -/
    unclosed (name : String) (offset : Nat)
  | /-- Blocks lie inside one another beyond the limit. -/
    tooDeep
  deriving DecidableEq, Repr

namespace Tree

/-- The tokens up to the closing tag that brings the depth of `name` to zero, and those behind that
tag. -/
def splitAtClose (name : String) : Nat → List Token → Option (List Token × List Token)
  | _, [] => none
  | depth, token :: tokens =>
    match token.kind with
    | .closing other =>
      if other = name then
        match depth with
        | 0 | 1 => some ([], tokens)
        | depth + 1 => (splitAtClose name depth tokens).map fun (inside, behind) =>
            (token :: inside, behind)
      else (splitAtClose name depth tokens).map fun (inside, behind) => (token :: inside, behind)
    | .opening other _ =>
      let depth := if other = name then depth + 1 else depth
      (splitAtClose name depth tokens).map fun (inside, behind) => (token :: inside, behind)
    | _ => (splitAtClose name depth tokens).map fun (inside, behind) => (token :: inside, behind)

theorem splitAtClose_length {name : String} {depth : Nat} {tokens inside behind : List Token}
    (h : splitAtClose name depth tokens = some (inside, behind)) :
    inside.length + behind.length < tokens.length := by
  fun_induction splitAtClose name depth tokens generalizing inside behind <;>
    simp_all <;> (try obtain ⟨a, h, rfl⟩ := h) <;> grind

/-- A stage behind an expression; nothing if no word is written there. -/
def filter? (offset : Nat) (stage : String) : Option Filter :=
  match Text.words stage with
  | [] => none
  | name :: arguments => some ⟨offset, name, arguments⟩

/-- The node of an expression: its first piece is the path, or a helper with its arguments, and the
pieces behind the bars are the filters. -/
def outputNode (offset : Nat) (expression : String) : Node :=
  let (head, stages) := Text.cutChars '|' expression.toList
  let filters := stages.filterMap fun stage => filter? offset (String.ofList stage)
  match Text.words (String.ofList head) with
  | name :: first :: later => .output offset name (first :: later) filters
  | _ => .output offset (Text.trim (String.ofList head)) [] filters

/-- The context expression of an inclusion; blanks alone are none. -/
def contextExpression (context : Option String) : Option String :=
  (context.map Text.trim).filter (· ≠ "")

/-- The nodes of a list of tokens in which at most `limit` blocks may lie inside one another. -/
def build (limit : Nat) (tokens : List Token) : Except TreeError (List Node) :=
  match tokens with
  | [] => .ok []
  | token :: tokens =>
    match token.kind with
    | .text => do
      let later ← build limit tokens
      return .text token.offset token.lexeme :: later
    | .output expression => do
      let later ← build limit tokens
      return outputNode token.offset expression :: later
    | .inclusion name context => do
      let later ← build limit tokens
      return .inclusion token.offset name (contextExpression context) :: later
    | .closing _ => build limit tokens
    | .opening name arguments =>
      match _h : splitAtClose name 1 tokens with
      | none => .error (.unclosed name token.offset)
      | some (inside, behind) =>
        match limit with
        | 0 => .error .tooDeep
        | limit + 1 => do
          let children ← build limit inside
          let later ← build (limit + 1) behind
          return .block token.offset name ((arguments.map Text.words).getD []) children :: later
termination_by tokens.length
decreasing_by
  all_goals try simp
  all_goals
    have := splitAtClose_length _h
    simp
    omega

end Tree

end Stencil
