import Stencil.Number.Binary64
import Stencil.Template.Basic
import Stencil.Engine.Table

/-!
The cache of an engine: compiled templates under the exact text of their sources, with the number of
times that each was asked for. Nothing leaves the cache until it is cleared.
-/

namespace Stencil

/-- A compiled template, the text that it was compiled from, and how often it was asked for, the
first time included. -/
structure CacheEntry where
  template : Template
  source : String
  uses : Nat
  deriving Repr

abbrev Cache := Table CacheEntry

/-- What can be said about a cache as a whole. -/
structure CacheStats where
  size : Nat
  total : Nat
  average : Binary64
  deriving DecidableEq, Repr

namespace Cache

/-- The entry of a source with one use more, and the cache with that entry. -/
def use? (cache : Cache) (source : String) : Option (CacheEntry × Cache) :=
  (cache.find? source).map fun entry =>
    let used := { entry with uses := entry.uses + 1 }
    (used, cache.insert source used)

/-- The cache with a new entry under a text, by default that of the template. -/
def put (cache : Cache) (template : Template) (source : String := template.source) : Cache :=
  cache.insert source ⟨template, source, 1⟩

def totalUses (cache : Cache) : Nat :=
  cache.entries.foldl (fun total entry => total + entry.2.uses) 0

/-- The number of entries, their uses, and the uses per entry, zero if there is none. -/
def stats (cache : Cache) : CacheStats where
  size := cache.size
  total := cache.totalUses
  average :=
    -- No quotient is out of range before there are `2 ^ 1023` uses per entry.
    if cache.size = 0 then .zero
    else (Binary64.ofIntQuotient? cache.totalUses cache.size).getD .zero

end Cache

end Stencil
