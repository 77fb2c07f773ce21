import Stencil.Helper.Basic
import Stencil.Helper.Loop

/-!
The block helpers: a body that is rendered if a condition holds, or if it does not, and one that is
rendered for each item of a list.
-/

namespace Stencil.Helper

/-- Whether the first of the arguments is there and holds. -/
def condition (arguments : List Value) : Bool := arguments.head?.any Value.truthy

/-- The body if a condition holds, and otherwise the alternative. -/
def choice (holds : Bool) (options : Value) : Action Value := do
  let text ← if holds then Action.content options none [] else Action.alternative options
  return .text text

def conditional : Helper := blockFunction fun arguments => choice (condition arguments)

def negated : Helper := blockFunction fun arguments => choice !(condition arguments)

/-- The text so far, and behind it the body once for each of the items from a place on. -/
def bodies (options : Value) (loop : Loop) (before : String) : List Value → Action String
  | [] => return before
  | item :: items => do
    let text ← Action.content options (loop.scope item) loop.metadata
    bodies options { loop with index := loop.index + 1 } (before ++ text) items

/-- Render the body for each item of the first argument, if that is a list or a tuple. -/
def eachItem : Helper := blockFunction fun arguments options =>
  match arguments.head?.bind Value.items? with
  | none => return .text ""
  | some items => return .text (← bodies options ⟨items.length, 0⟩ "" items)

end Stencil.Helper
