import Catalog.Component
import Catalog.Keyed
import Catalog.Text.Case

/-! The store: components in the order of their first insertion, and API references, both found by name
ignoring case. -/
namespace Catalog

/-- The key of a name. -/
def key (name : String) : String :=
  Text.lower name

def Component.key (c : Component) : String :=
  Catalog.key c.name

def ApiReference.key (r : ApiReference) : String :=
  Catalog.key r.typeName

/-- The component with the name of another one. -/
def Component.named (old new : Component) : Component :=
  { new with name := old.name }

structure Store where
  components : List Component := []
  references : List ApiReference := []
  deriving DecidableEq, Repr, Inhabited

namespace Store

def empty : Store := {}

/-- Stores a component. One of the same key is replaced, but keeps its place and the spelling of its name. -/
def put (s : Store) (c : Component) : Store :=
  { s with components := Keyed.insert Component.key Component.named c s.components }

def putReference (s : Store) (r : ApiReference) : Store :=
  { s with references := Keyed.insert ApiReference.key (fun _ new => new) r s.references }

def get? (s : Store) (name : String) : Option Component :=
  Keyed.find? Component.key (key name) s.components

def has (s : Store) (name : String) : Bool :=
  (s.get? name).isSome

def reference? (s : Store) (typeName : String) : Option ApiReference :=
  Keyed.find? ApiReference.key (key typeName) s.references

/-- The names of the components in order. -/
def names (s : Store) : List String :=
  s.components.map Component.name

def size (s : Store) : Nat :=
  s.components.length

/-- Keeps the components with one of the names, and drops the others with their API references. -/
def retain (s : Store) (names : List String) : Store :=
  let keep := names.map key
  let stale := (s.components.map Component.key).filter fun k => !keep.contains k
  { components := s.components.filter fun c => keep.contains c.key
    references := s.references.filter fun r => !stale.contains r.key }

/-- How many components `retain` drops. -/
def staleCount (s : Store) (names : List String) : Nat :=
  (s.components.filter fun c => !(names.map key).contains c.key).length

/-- A change of a store. -/
inductive Change where
  | put (c : Component)
  | putReference (r : ApiReference)
  | retain (names : List String)
  | clear
  deriving DecidableEq, Repr

def change (s : Store) : Change → Store
  | .put c => s.put c
  | .putReference r => s.putReference r
  | .retain names => s.retain names
  | .clear => empty

/-- The store after changes made one after another. -/
def replay (s : Store) (changes : List Change) : Store :=
  changes.foldl change s

end Store
end Catalog
