import Catalog.Failure
import Catalog.Text.Case

/-! How one component can be related to another. -/
namespace Catalog

inductive Relationship where
  | all
  | sibling
  | parent
  | child
  deriving DecidableEq, Repr, Inhabited

namespace Relationship

def label : Relationship → String
  | all => "all"
  | sibling => "sibling"
  | parent => "parent"
  | child => "child"

/-- The relationship that a word names in any case; a blank text names all of them. -/
def parse (text : Option String) : Except Failure Relationship :=
  match text with
  | none => .ok all
  | some text =>
    let word := Text.lower (Text.trim text)
    if word = "" then .ok all
    else if word = "all" then .ok all
    else if word = "sibling" then .ok sibling
    else if word = "parent" then .ok parent
    else if word = "child" then .ok child
    else .error (.unknownRelationship text)

def includesSiblings (r : Relationship) : Bool := r = all || r = sibling

def includesParents (r : Relationship) : Bool := r = all || r = parent

def includesChildren (r : Relationship) : Bool := r = all || r = child

end Relationship
end Catalog
