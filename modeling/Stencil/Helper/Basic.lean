import Stencil.Helper.Action

/-!
Helpers: the functions that templates can call. An inline helper makes a value from its arguments; a
block helper is also given the options of its block, behind the arguments.
-/

namespace Stencil

/-- How a helper is called. -/
inductive Helper.Kind where
  | inline
  | block
  deriving DecidableEq, Repr

/-- A function that templates can call. -/
structure Helper where
  kind : Helper.Kind
  act : List Value → Action Value

namespace Helper

def Kind.name : Kind → String
  | inline => "inline"
  | block => "block"

/-- Whether the helper is given the options of a block. -/
def isBlock (helper : Helper) : Bool := helper.kind == .block

/-- The helper with the given kind, or with its own if none is given. -/
def withKind (helper : Helper) (kind : Option Kind) : Helper :=
  { helper with kind := kind.getD helper.kind }

/-- An inline helper that takes so many arguments at most. Those that are left out are `null`. -/
def function (name : String) (most : Nat) (f : List Value → Except Fault Value) : Helper where
  kind := .inline
  act arguments :=
    if most < arguments.length then
      .raise (.tooManyArguments name 0 most arguments.length)
    else .ofExcept (f arguments)

def argument (arguments : List Value) (i : Nat) : Value := arguments.getD i .null

def unary (name : String) (f : Value → Except Fault Value) : Helper :=
  function name 1 fun arguments => f (argument arguments 0)

def binary (name : String) (f : Value → Value → Except Fault Value) : Helper :=
  function name 2 fun arguments => f (argument arguments 0) (argument arguments 1)

def ternary (name : String) (f : Value → Value → Value → Except Fault Value) : Helper :=
  function name 3 fun arguments =>
    f (argument arguments 0) (argument arguments 1) (argument arguments 2)

/-- A block helper, given its arguments and its options apart. -/
def blockFunction (f : List Value → Value → Action Value) : Helper where
  kind := .block
  act arguments :=
    match arguments.getLast? with
    | none => .raise .noArguments
    | some options => f arguments.dropLast options

theorem act_binary (name : String) (f : Value → Value → Except Fault Value) (a : Value)
    (b : Option Value) :
    (binary name f).act (a :: b.toList) = .ofExcept (f a (b.getD .null)) := by
  cases b <;> rfl

end Helper

end Stencil
