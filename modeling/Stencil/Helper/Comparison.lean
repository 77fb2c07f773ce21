import Stencil.Helper.Basic

/-!
The helpers that compare two values. What has no order in common is in no relation.
-/

namespace Stencil.Helper

def comparison (holds : Value → Value → Bool) : Helper :=
  binary "_comparison.<locals>.compare" fun a b => .ok (.bool (holds a b))

def equal : Helper := comparison Value.equal

def notEqual : Helper := comparison fun a b => !a.equal b

def relation (r : Relation) : Helper := comparison (Value.related r)

end Stencil.Helper
