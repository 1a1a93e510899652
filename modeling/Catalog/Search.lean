import Catalog.Component
import Catalog.Failure
import Catalog.Text.Case

/-! Search over components: the fields looked at, the score of a match, and the ranking. -/
namespace Catalog

/-- The fields of a component that a search looks at. -/
structure SearchFields where
  name : Bool := false
  description : Bool := false
  parameters : Bool := false
  examples : Bool := false
  deriving DecidableEq, Repr, Inhabited

namespace SearchFields

def all : SearchFields := ⟨true, true, true, true⟩

def none : SearchFields := ⟨false, false, false, false⟩

def union (a b : SearchFields) : SearchFields :=
  ⟨a.name || b.name, a.description || b.description, a.parameters || b.parameters, a.examples || b.examples⟩

/-- The fields that an upper-case word names. -/
def ofWord? (word : String) : Option SearchFields :=
  if word = "NAME" then some { name := true }
  else if word = "DESCRIPTION" then some { description := true }
  else if word = "PARAMETERS" then some { parameters := true }
  else if word = "EXAMPLES" then some { examples := true }
  else if word = "ALL" then some all
  else .none

/-- The fields that the words of a list name; `none` if there is no word in it. -/
def ofParts : List String → Except Failure (Option SearchFields)
  | [] => .ok .none
  | part :: parts =>
    let word := Text.trim part
    if Text.upper word = "" then ofParts parts
    else
      match ofWord? (Text.upper word) with
      | .none => .error (.unknownField word)
      | some fields => do
        let others ← ofParts parts
        .ok (some (fields.union (others.getD none)))

/-- The fields that a comma-separated list names, all of them if it names none. -/
def parse (text : Option String) : Except Failure SearchFields :=
  match text with
  | .none => .ok all
  | some text => do
    let fields ← ofParts (Text.splitOn text ',')
    .ok (fields.getD all)

end SearchFields

/-- Whether a text is there and holds the query, which is given in lower case. -/
def mentions (text : Option String) (query : String) : Bool :=
  match text with
  | none => false
  | some text => Text.contains (Text.lower text) query

namespace Component

/-- What a match in the name is worth; the exact name counts twice. -/
def nameScore (c : Component) (query : String) : Nat :=
  if mentions (some c.name) query then if Text.lower c.name = query then 100 else 50 else 0

/-- What matches in the summary and the description are worth. -/
def descriptionScore (c : Component) (query : String) : Nat :=
  (if mentions (some c.summary) query then 30 else 0) + (if mentions c.description query then 20 else 0)

def parameterScore (query : String) (p : Parameter) : Nat :=
  (if mentions (some p.name) query then 10 else 0) + (if mentions p.description query then 5 else 0)

def exampleScore (query : String) (e : Example) : Nat :=
  if mentions (some e.name) query then 5 else 0

/-- What matches in the items are worth together. -/
def total {α : Type} (worth : α → Nat) (items : List α) : Nat :=
  items.foldr (fun a rest => worth a + rest) 0

/-- How well a component matches a query, ignoring case; nought is no match. -/
def score (c : Component) (query : String) (fields : SearchFields) : Nat :=
  let query := Text.lower query
  (if fields.name then c.nameScore query else 0) +
    (if fields.description then c.descriptionScore query else 0) +
    (if fields.parameters then total (parameterScore query) c.parameters else 0) +
    (if fields.examples then total (exampleScore query) c.examples else 0)

end Component

/-- The first `limit` items; a negative limit counts from the end. -/
def takeUpTo {α : Type} (limit : Int) (items : List α) : List α :=
  if 0 ≤ limit then items.take limit.toNat else items.take (items.length - limit.natAbs)

/-- The matching components with their scores, best first; equal scores keep their order. -/
def rank (components : List Component) (query : String) (fields : SearchFields) (limit : Int) :
    List (Component × Nat) :=
  let scored := components.map fun c => (c, c.score query fields)
  let matching := scored.filter fun (_, score) => decide (0 < score)
  takeUpTo limit (matching.mergeSort fun a b => decide (b.2 ≤ a.2))

end Catalog
