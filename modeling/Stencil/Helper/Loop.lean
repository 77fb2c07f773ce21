import Stencil.Value.Path
import Stencil.Value.Text

/-!
Loops: how far the rendering of a block for each item of a list has come. A block sees its index,
and whether it is the first or the last, as metadata.
-/

namespace Stencil

/-- A place in a list of so many items. -/
structure Loop where
  length : Nat
  index : Nat
  deriving DecidableEq, Repr

namespace Loop

/-- The items that a loop over a value runs through: those of a list, the characters of a text, the
keys of a map. -/
def items : Value → Except Fault (List Value)
  | .list items | .tuple _ items => .ok items
  | .text s => .ok (s.toList.map fun c => .text (String.singleton c))
  | .bytes bytes => .ok (bytes.map fun byte => .int byte.toNat)
  | .map entries | .lockedMap entries _ => .ok (entries.map (·.1))
  | value => .error (.notSized value.fullTypeName)

def isFirst (loop : Loop) : Bool := loop.index == 0

def isLast (loop : Loop) : Bool := loop.index + 1 == loop.length

def metadata (loop : Loop) : Metadata :=
  [("@index", .int loop.index), ("@first", .bool loop.isFirst), ("@last", .bool loop.isLast)]

/-- The context for an item. A map is shown with the metadata among its entries. -/
def scope (loop : Loop) (item : Value) : Value :=
  match item.entries? with
  | some entries =>
    .map (Value.merge entries (loop.metadata.map fun (name, value) => (.text name, value)))
  | none => item

def describe (loop : Loop) : String :=
  Value.callText "LoopContext"
    ["index=" ++ toString loop.index, "length=" ++ toString loop.length]

end Loop

end Stencil
