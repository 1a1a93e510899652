import Catalog.Index.State
import Catalog.Relationship
import Catalog.Search
import Catalog.Text.Broken

/-! Questions to an index. They are answered only after a build has succeeded. -/
namespace Catalog.Index

def requireIndexed (ix : Index) : Except Failure Unit :=
  if ix.isIndexed then .ok () else .error .notBuilt

/-- A question about a text as a caller gives it. No text in an index is broken, so there is nothing to one that is. -/
def ask {α : Type} (ix : Index) (nothing : α) (question : String → Except Failure α) : AnyText → Except Failure α
  | .whole text => question text
  | .broken _ => do
    ix.requireIndexed
    .ok nothing

@[simp]
theorem ask_whole {α : Type} (ix : Index) (nothing : α) (question : String → Except Failure α) (text : String) :
    ix.ask nothing question (.whole text) = question text := rfl

/-- Whether a name begins with the letters of the library in any case. -/
def hasPrefix (name : String) : Bool :=
  Text.beginsWith (Text.lower name) (Text.lower namePrefix)

/-- The first answer of a look-up for the name as given and, if it lacks the letters of the library, with
them; none for a blank name. -/
def lookUp {α : Type} (get : String → Option α) (name : String) : Option α :=
  if Text.isBlankText name then none
  else
    let name := Text.trim name
    match get name with
    | some found => some found
    | none => if hasPrefix name then none else get (namePrefix ++ name)

/-- The component that a name means. -/
def resolve (ix : Index) (name : String) : Option Component :=
  lookUp ix.store.get? name

def allComponents (ix : Index) : Except Failure (List Component) := do
  ix.requireIndexed
  .ok ix.store.components

def component? (ix : Index) (name : String) : Except Failure (Option Component) := do
  ix.requireIndexed
  .ok (ix.resolve name)

def categories (ix : Index) : Except Failure (List Category) := do
  ix.requireIndexed
  .ok ix.taxonomy.categories

/-- Whether a component is in the category whose lower-case name is given. -/
def isInCategory (category : String) (c : Component) : Bool :=
  match c.category with
  | some own => Text.lower own = category
  | none => false

/-- The components of a category, whose name is taken in any case. -/
def componentsIn (ix : Index) (category : String) : Except Failure (List Component) := do
  ix.requireIndexed
  .ok (ix.store.components.filter (isInCategory (Text.lower (Text.trim category))))

def search (ix : Index) (query : String) (fields : SearchFields) (limit : Int) :
    Except Failure (List (Component × Nat)) := do
  ix.requireIndexed
  if Text.isBlankText query || limit ≤ 0 then .ok []
  else .ok (rank ix.store.components (Text.trim query) fields limit)

/-- The examples of a component, none for a name that means no component. -/
def examples (ix : Index) (name : String) : Except Failure (List Example) := do
  ix.requireIndexed
  match ix.resolve name with
  | some c => .ok c.examples
  | none => .ok []

def apiReference? (ix : Index) (typeName : String) : Except Failure (Option ApiReference) := do
  ix.requireIndexed
  .ok (lookUp ix.store.reference? typeName)

/-- The most components that are told as related to one. -/
def maxRelated : Nat := 10

/-- The names in a component's own category. -/
def siblingNames (ix : Index) (c : Component) : List String :=
  match c.category with
  | none => []
  | some category =>
    if category.isEmpty then []
    else (ix.store.components.filter (isInCategory (Text.lower category))).map Component.name

/-- The base type of a component, if it is a component too. -/
def parentNames (ix : Index) (c : Component) : List String :=
  match c.baseType with
  | none => []
  | some base => if !base.isEmpty && ix.store.has base then [base] else []

/-- The names of the components whose base type is the given one. -/
def childNames (ix : Index) (c : Component) : List String :=
  (ix.store.components.filter fun d =>
    match d.baseType with
    | some base => key base = key c.name
    | none => false).map Component.name

/-- The names that may be related to a component: its links, then siblings, parents and children. -/
def candidates (ix : Index) (c : Component) (relationship : Relationship) : List String :=
  c.related ++
    (if relationship.includesSiblings then ix.siblingNames c else []) ++
    (if relationship.includesParents then ix.parentNames c else []) ++
    (if relationship.includesChildren then ix.childNames c else [])

/-- The components related to one. Names of no component are dropped. -/
def relatedTo (ix : Index) (name : String) (relationship : Relationship) : Except Failure (List Component) := do
  ix.requireIndexed
  match ix.resolve name with
  | none => .ok []
  | some c =>
    let names := Text.distinctIgnoringCase [key c.name] (ix.candidates c relationship)
    .ok ((names.filterMap ix.store.get?).take maxRelated)

end Catalog.Index
