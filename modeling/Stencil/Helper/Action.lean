import Stencil.Value.Text
import Stencil.Value.Path
import Stencil.Render.Frame

/-!
Actions: what a helper does when it is called. It may have the body of its block rendered, as often
as it likes and in any context, and it may look at the frame that it is called in; then it gives a
result or fails. It is told if the body cannot be rendered, and may go on all the same. An action
only says what it wants, and whoever runs it decides how that is done.
-/

namespace Stencil

/-- Why a helper gives no result. -/
inductive Failure where
  | fault (fault : Fault)
  | error (error : TemplateError)
  deriving DecidableEq, Repr

/-- What a helper does until it gives a result. -/
inductive Action (α : Type) where
  | done (result : α)
  | fail (failure : Failure)
  | /-- Have the body rendered in a context, with metadata on top of what surrounds the block, and
    go on with its text or with the failure that it raised. -/
    body (context : Value) (metadata : Metadata) (next : Except Failure String → Action α)
  | /-- Look at the frame that is being rendered, if there is one. -/
    frame (next : Option Frame → Action α)

namespace Action

variable {α β : Type}

def bind : Action α → (α → Action β) → Action β
  | done a, k => k a
  | fail failure, _ => fail failure
  | body context metadata next, k => body context metadata fun outcome => (next outcome).bind k
  | frame next, k => frame fun current => (next current).bind k

instance : Monad Action where
  pure := done
  bind := bind

/-- The result of a computation that may raise a fault. -/
def ofExcept : Except Fault α → Action α
  | .ok a => done a
  | .error fault => fail (.fault fault)

instance : MonadLift (Except Fault) Action := ⟨ofExcept⟩

def raise (fault : Fault) : Action α := fail (.fault fault)

/-- The result that there is, or the failure that stands in its place. -/
def passOn : Except Failure α → Action α
  | .ok a => done a
  | .error failure => fail failure

/-- Do what an action asks for, given what its failure means, how the body is rendered, and what the
frame is. -/
def run {m : Type → Type} [Monad m] (failed : Failure → m α)
    (render : Value → Metadata → m (Except Failure String)) (current : m (Option Frame)) :
    Action α → m α
  | done a => pure a
  | fail failure => failed failure
  | body context metadata next => do
    let outcome ← render context metadata
    (next outcome).run failed render current
  | frame next => do
    let current' ← current
    (next current').run failed render current

/-! ### What block helpers are given -/

/-- Fail because a value that is no set of options is asked for a member that can be called. -/
def notOptions (member : String) (value : Value) : Action α :=
  match value.member member with
  | .error fault => raise fault
  | .ok found => raise (.notCallable found.fullTypeName)

/-- Render the body of the block to which the options belong, in the ambient context if no other is
given. If it cannot be rendered, neither can what asks for it. -/
def content (options : Value) (context : Option Value) (metadata : Metadata) : Action String :=
  match options with
  | .blockOptions _ ambient => body (context.getD ambient) metadata passOn
  | value => notOptions "fn" value

/-- The text for a condition that does not hold. No template can say what it is, so it is empty. -/
def alternative (options : Value) : Action String :=
  match options with
  | .blockOptions .. => done ""
  | value => notOptions "inverse" value

end Action

end Stencil
