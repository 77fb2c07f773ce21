import Stencil.Helper.Blocks
import Stencil.Helper.Comparison
import Stencil.Helper.Wording
import Stencil.Helper.Items
import Stencil.Helper.Terminal

/-!
The helpers that every engine starts with.
-/

namespace Stencil.Helper

/-- The helpers of a new engine with their names, in the order in which they are listed. -/
def builtins (machine : Machine) : List (String × Helper) :=
  [("if", conditional), ("unless", negated), ("each", eachItem),
    ("eq", equal), ("ne", notEqual), ("lt", relation .lt), ("le", relation .le),
    ("gt", relation .gt), ("ge", relation .ge),
    ("capitalize", capitalize), ("uppercase", uppercase), ("lowercase", lowercase),
    ("truncate", truncate),
    ("json", json machine), ("formatNumber", formatNumber), ("formatDate", formatDate machine),
    ("length", length), ("first", first), ("last", last), ("join", join),
    ("add", add), ("subtract", subtract), ("multiply", multiply), ("divide", divide),
    ("default", fallback), ("colorize", colorize), ("progress", progress machine)]

def builtin? (machine : Machine) (name : String) : Option Helper :=
  (builtins machine).lookup name

end Stencil.Helper
