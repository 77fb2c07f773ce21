import Stencil.Text.Blank
import Stencil.Text.Digit
import Stencil.Value.Order

/-!
Paths: names with dots between them that lead from a context into the data that it holds. A path
that starts with `@` is looked up in the metadata of the surrounding blocks first.
-/

namespace Stencil

/-- What surrounding blocks say about the place where a path stands, the innermost block first. -/
abbrev Metadata := List (String × Value)

namespace Value

/-- What a value has under a name because of its sort. -/
def property? (name : String) : Value → Option Value
  | bool b => number b.toNat 1 name
  | int n => number n 1 name
  | float x =>
    match name with
    | "real" => some (float x)
    | "imag" => some (float .zero)
    | _ => none
  | date d =>
    match name with
    | "min" => some (date .first)
    | "max" => some (date .last)
    | name => day d name
  | moment m =>
    match name with
    | "min" => some (moment .first)
    | "max" => some (moment .last)
    | "hour" => some (int m.clock.hour)
    | "minute" => some (int m.clock.minute)
    | "second" => some (int m.clock.second)
    | "microsecond" => some (int m.clock.microsecond)
    | "tzinfo" => some ((m.offset.map zone).getD null)
    | "fold" => some (int 0)
    | name => day m.date name
  | zone _ =>
    match name with
    | "utc" => some (zone 0)
    | "min" => some (zone (-1439))
    | "max" => some (zone 1439)
    | _ => none
  | blockOptions called ambient =>
    match name with
    | "name" => some (text called)
    | "data" => some ambient
    | _ => none
  | _ => none
where
  number (numerator denominator : Int) : String → Option Value
    | "real" | "numerator" => some (int numerator)
    | "imag" => some (int 0)
    | "denominator" => some (int denominator)
    | _ => none
  day (d : Date) : String → Option Value
    | "year" => some (int d.year)
    | "month" => some (int d.month)
    | "day" => some (int d.day)
    | _ => none

/-- What a value has under a name. -/
def member (name : String) (value : Value) : Except Fault Value :=
  let missing : Except Fault Value := .error (.noMember value.fullTypeName name)
  match value with
  | object _ members broken _ =>
    match broken.lookup name with
    | some fault => .error fault
    | none => (members.lookup name).elim missing .ok
  | value => (value.property? name).elim missing .ok

/-- What a value has under a name, and nothing if it has no such member. -/
def memberOrNull (name : String) (value : Value) : Except Fault Value :=
  match value.member name with
  | .ok found => .ok found
  | .error fault => if fault.kind = .member then .ok null else .error fault

/-- Whether a text consists of digits. Some of them may be digits that no number is written with. -/
def isIndex (segment : String) : Bool := segment != "" && segment.toList.all Text.isDigit

/-- The item that a segment of a path picks from a list. -/
def item (segment : String) (items : List Value) : Except Fault Value :=
  if isIndex segment then
    return items[(← Numeral.int? segment).toNat]?.getD null
  else if segment = "length" then .ok (int items.length)
  else .ok null

def segment (segment : String) : Value → Except Fault Value
  | map entries => .ok ((find? (text segment) entries).getD null)
  | lockedMap _ fault => .error fault
  | list items | tuple _ items => item segment items
  | value => if segment.toList.head? = some '_' then .ok null else value.memberOrNull segment

/-- What the segments of a path lead to, one after the other. Nothing is found in nothing. -/
def walk : Value → List String → Except Fault Value
  | value, [] => .ok value
  | null, _ :: _ => .ok null
  | value, name :: later => do walk (← value.segment name) later

end Value

namespace Path

/-- The path without `this.` in front. -/
def withoutThis (path : String) : String :=
  match path.toList with
  | 't' :: 'h' :: 'i' :: 's' :: '.' :: cs => String.ofList cs
  | _ => path

/-- The metadata with exactly the name of the path, if the path asks for metadata. -/
def metadata? (path : String) (metadata : Metadata) : Option Value :=
  if path.toList.head? = some '@' then metadata.lookup path else none

/-- What a path leads to. What is missing is `null`. -/
def resolve (context : Value) (path : String) (metadata : Metadata) : Except Fault Value :=
  if path = "" then .ok .null
  else if path = "this" ∨ path = "." then .ok context
  else
    let path := withoutThis path
    match metadata? path metadata with
    | some value => .ok value
    | none => context.walk (Text.cut '.' path)

theorem withoutThis_eq_self {path : String} (h : ¬ "this.".toList <+: path.toList) :
    withoutThis path = path := by
  unfold withoutThis
  split
  · rename_i cs hChars
    exact absurd ⟨cs, hChars.symm⟩ h
  · rfl

theorem metadata?_of_not_at {path : String} (h : path.toList.head? ≠ some '@')
    (metadata : Metadata) : metadata? path metadata = none := if_neg h

theorem resolve_of_ne {path : String} (hEmpty : path ≠ "") (hThis : path ≠ "this")
    (hDot : path ≠ ".") (context : Value) (metadata : Metadata) :
    resolve context path metadata =
      match metadata? (withoutThis path) metadata with
      | some value => .ok value
      | none => context.walk (Text.cut '.' (withoutThis path)) := by
  unfold resolve
  rw [if_neg hEmpty]
  exact if_neg (not_or.2 ⟨hThis, hDot⟩)

end Path

end Stencil
