import Catalog.Category
import Catalog.Store

/-! The index: a store with its taxonomy, and what is known of the builds that filled it. -/
namespace Catalog

structure Summary where
  components : Nat
  documented : Nat
  withExamples : Nat
  errors : Nat
  deriving DecidableEq, Repr, Inhabited

/-- The index. `generation` counts the builds that succeeded, `lastSummary` is that of the latest one, and `isTaken`
tells whether a caller has the turn to build. -/
structure Index where
  store : Store := {}
  taxonomy : Taxonomy := {}
  isIndexed : Bool := false
  lastIndexed : Option String := none
  isBuilding : Bool := false
  isTaken : Bool := false
  generation : Nat := 0
  lastSummary : Option Summary := none
  deriving DecidableEq, Repr, Inhabited

namespace Index

/-- The index whose turn a caller has taken. -/
def take (ix : Index) : Index :=
  { ix with isTaken := true }

/-- The index that is being built. -/
def enter (ix : Index) : Index :=
  { ix with isBuilding := true }

/-- The index with the contents that a build left. -/
def fill (ix : Index) (store : Store) (taxonomy : Taxonomy) : Index :=
  { ix with store := store, taxonomy := taxonomy }

/-- The index after a build succeeded at the time `now`. -/
def publish (ix : Index) (summary : Summary) (now : String) : Index :=
  { ix with
    isIndexed := true
    lastIndexed := some now
    generation := ix.generation + 1
    lastSummary := some summary }

/-- The index whose turn is given back. -/
def release (ix : Index) : Index :=
  { ix with isBuilding := false, isTaken := false }

/-- The index after a build, which leaves its contents in any case, and counts only if it succeeded; `now` is the
time. -/
def settle (ix : Index) (store : Store) (taxonomy : Taxonomy) (now : String) : Except Failure Summary → Index
  | .ok summary => ((ix.fill store taxonomy).publish summary now).release
  | .error _ => (ix.fill store taxonomy).release

end Index
end Catalog
