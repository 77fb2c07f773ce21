import Stencil.Fault
import Stencil.Number.Numeral
import Stencil.Calendar.Date

/-!
Values: the data that templates are rendered with and that helpers are given and give back. Maps
keep the order of their entries. Some values guard what they hold: a locked map refuses to be looked
into, though it tells what its entries are, and a member of an object, or the text of one, may raise
a fault instead.
-/

namespace Stencil

/-- A piece of data. -/
inductive Value where
  | null
  | bool (b : Bool)
  | int (n : Int)
  | float (x : Binary64)
  | text (s : String)
  | bytes (bytes : List UInt8)
  | list (items : List Value)
  | /-- Tuples with one mark are one and the same. -/
    tuple (mark : Nat) (items : List Value)
  | map (entries : List (Value × Value))
  | /-- A map that raises a fault when it is asked for what it has under a key. -/
    lockedMap (entries : List (Value × Value)) (fault : Fault)
  | date (date : Date)
  | moment (moment : Moment)
  | /-- The offset of a clock in minutes. -/
    zone (minutes : Int)
  | /-- Named members, members that raise a fault, and a text or the fault that asking for it
    raises. Objects with different identities are different whatever they hold. -/
    object (identity : Nat) (members : List (String × Value)) (broken : List (String × Fault))
      (shown : Except Fault String)
  | /-- What a block helper is given behind its arguments: the name that it was called by and the
    context of the block. -/
    blockOptions (name : String) (ambient : Value)
  deriving Inhabited

namespace Value

def typeName : Value → String
  | null => "NoneType"
  | bool _ => "bool"
  | int _ => "int"
  | float _ => "float"
  | text _ => "str"
  | bytes _ => "bytes"
  | list _ => "list"
  | tuple .. => "tuple"
  | map _ => "dict"
  | lockedMap .. => "BadMap"
  | date _ => "date"
  | moment _ => "datetime"
  | zone _ => "timezone"
  | object .. => "Obj"
  | blockOptions .. => "HelperOptions"

/-- The name of the type of a value with the family that it belongs to. -/
def fullTypeName (value : Value) : String :=
  match value with
  | date _ | moment _ | zone _ => "datetime." ++ value.typeName
  | _ => value.typeName

/-- Whether a condition on the value holds: emptiness and zero count as false. -/
def truthy : Value → Bool
  | null => false
  | bool b => b
  | int n => n != 0
  | float x => !x.isZero
  | text s => s != ""
  | bytes b => !b.isEmpty
  | list items | tuple _ items => !items.isEmpty
  | map entries | lockedMap entries _ => !entries.isEmpty
  | _ => true

def items? : Value → Option (List Value)
  | list items | tuple _ items => some items
  | _ => none

/-- The entries of a map, locked or not. -/
def entries? : Value → Option (List (Value × Value))
  | map entries | lockedMap entries _ => some entries
  | _ => none

/-! ### Numbers -/

def ofNumber : Number → Value
  | .int n => int n
  | .float x => float x

/-- The number that a value is or that its text writes. Truth values are no numbers. -/
def toNumber? : Value → Option Number
  | int n => some (.int n)
  | float x => some (.float x)
  | text s => Numeral.number? s
  | _ => none

/-- The number that a value is, without its fraction; the default if it is no finite number. A whole
number that is too large for a floating point number is refused. -/
def toInt (default : Int) (value : Value) : Except Fault Int :=
  value.toNumber?.elim (.ok default) (Number.truncate default)

end Value

end Stencil
