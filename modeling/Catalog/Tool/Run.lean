import Catalog.Index.Query
import Catalog.Tool.Call
import Catalog.Tool.Markdown

/-! Running a call against an index. -/
namespace Catalog.Tool

open Text

/-- The text without blank characters at either end, if anything is left. -/
def requireText (value : AnyText) (argument : String) : Except Failure AnyText :=
  if value.isBlank then .error (.tool (.missingText argument)) else .ok value.trim

theorem requireText_whole {text : String} (h : isBlankText text = false) (argument : String) :
    requireText text argument = .ok (trim text) := by
  rw [requireText, AnyText.isBlank_whole, h]
  rfl

def requireComponent (ix : Index) (name : AnyText) : Except Failure Component := do
  let name ← requireText name "component_name"
  match ← ix.ask none ix.component? name with
  | some c => .ok c
  | none => .error (.tool (.unknownComponent name))

def requireRange (argument : String) (least most : Nat) (n : Int) : Except Failure Unit :=
  if (least : Int) ≤ n && n ≤ (most : Int) then .ok () else .error (.tool (.outOfRange argument least most))

/-- A word that is no search field or relationship is a fault of the call; other failures pass. -/
def asToolFault : Failure → Failure
  | .unknownField text => .tool (.unknownField text)
  | .unknownRelationship text => .tool (.unknownRelationship text)
  | failure => failure

/-- Whether a part of a list of search fields may stand there; a broken one names no field. -/
def isField : AnyText → Bool
  | .whole part => (SearchFields.ofParts [part]).isOk
  | .broken _ => false

/-- The fields that a list names. In a broken list the first part that is no field is at fault. -/
def fieldsOf : Option AnyText → Except Failure SearchFields
  | none => (SearchFields.parse none).mapError asToolFault
  | some (.whole text) => (SearchFields.parse (some text)).mapError asToolFault
  | some (.broken text) =>
    let parts := AnyText.splitOn ',' (.broken text)
    .error (.tool (.unknownField ((parts.find? fun part => !isField part).getD (.broken text)).trim))

def relationshipOf : Option AnyText → Except Failure Relationship
  | none => (Relationship.parse none).mapError asToolFault
  | some (.whole text) => (Relationship.parse (some text)).mapError asToolFault
  | some (.broken text) => .error (.tool (.unknownRelationship (.broken text)))

theorem relationshipOf_whole (text : Option String) :
    relationshipOf (text.map .whole) = (Relationship.parse text).mapError asToolFault := by
  cases text <;> rfl

/-- The text of an optional argument, absent if it is blank. -/
def givenText (text : Option AnyText) : Option AnyText :=
  text.bind fun text => if text.isBlank then none else some text.trim

/-- The items that mention a text, whose case does not count. None mentions a broken text. -/
def mentioning {α : Type} (mentions : String → α → Bool) (items : List α) : AnyText → List α
  | .whole text => items.filter (mentions (lower text))
  | .broken _ => []

/-- The heading under which a component is listed. -/
def groupOf (c : Component) : String :=
  orElse c.category "Uncategorized"

/-- The components by group, groups and components in order. -/
def groupLines (components : List Component) : List String :=
  let groups := ((components.map groupOf).eraseDups).mergeSort fun a b => decide (a ≤ b)
  groups.flatMap fun group =>
    let own := (components.filter fun c => groupOf c = group).mergeSort fun a b =>
      decide (lower a.name ≤ lower b.name)
    ("## " ++ group) :: own.map (fun c => "- **" ++ c.name ++ "** — " ++ c.summary) ++ [""]

def listComponents (ix : Index) (category : Option AnyText) : Except Failure AnyText := do
  match givenText category with
  | some name =>
    let components ← ix.ask [] ix.componentsIn name
    if components.isEmpty then
      .ok (name.within "No components found in category '" "'. Use list_categories to see categories.")
    else .ok (listing components)
  | none =>
    let components ← ix.allComponents
    if components.isEmpty then .ok "No components are indexed." else .ok (listing components)
where
  listing (components : List Component) : String :=
    page (("# Bit BlazorUI components (" ++ toString components.length ++ ")") :: "" :: groupLines components)

def listCategories (ix : Index) : Except Failure String := do
  let categories ← ix.categories
  let lines ← categories.mapM fun category => do
    let indexed ← ix.componentsIn category.name
    .ok ("- **" ++ category.title ++ "** (" ++ toString indexed.length ++ " indexed) — " ++ category.description)
  .ok (joinLines ("# Component categories" :: "" :: lines) ++ "\n")

def componentDetail (ix : Index) (name : AnyText) (withApi withExamples : Bool) : Except Failure String := do
  let c ← requireComponent ix name
  let reference ← if withApi then ix.apiReference? c.name else .ok none
  .ok (componentPage c (reference.elim [] ApiReference.members) withExamples)

/-- Whether a parameter has the lower-case text in its name, type or category. -/
def parameterMentions (needle : String) (p : Parameter) : Bool :=
  contains (lower p.name) needle || contains (lower p.type) needle ||
    (!(textOr p.category).isEmpty && contains (lower (textOr p.category)) needle)

def componentParameters (ix : Index) (name : AnyText) (filter : Option AnyText) : Except Failure AnyText := do
  let c ← requireComponent ix name
  let parameters :=
    match givenText filter with
    | some text => mentioning parameterMentions c.parameters text
    | none => c.parameters
  if parameters.isEmpty then
    match filter.filter fun text => !text.isEmpty with
    | some text => .ok (text.trim.within (c.name ++ " has no parameters matching '") "'.")
    | none => .ok (.whole (c.name ++ " has no parameters."))
  else
    .ok (page (("# " ++ c.name ++ " parameters (" ++ toString parameters.length ++ ")") :: "" ::
      parameters.flatMap parameterLines))

def maxSearchResults : Nat := 50

def searchComponents (ix : Index) (query : AnyText) (fields : Option AnyText) (limit : Int) :
    Except Failure AnyText := do
  let query ← requireText query "query"
  requireRange "max_results" 1 maxSearchResults limit
  let fields ← fieldsOf fields
  let results ← ix.ask [] (fun query => ix.search query fields limit) query
  .ok (resultPage (results.map fun (c, score) => (c, (score : Int))) query)

/-- Whether an example has the lower-case text in its name, texts or features. -/
def exampleMentions (needle : String) (e : Example) : Bool :=
  (e.name :: textOr e.description :: textOr e.markup :: textOr e.code :: e.features).any fun text =>
    !text.isEmpty && contains (lower text) needle

def maxExamples : Nat := 20

def componentExamples (ix : Index) (name : AnyText) (limit : Int) (filter : Option AnyText) :
    Except Failure AnyText := do
  let _ ← requireText name "component_name"
  requireRange "max_examples" 1 maxExamples limit
  let c ← requireComponent ix name
  match givenText filter with
  | some text =>
    let examples := mentioning exampleMentions c.examples text
    if examples.isEmpty then .ok (text.within ("No examples for " ++ c.name ++ " match '") "'.")
    else .ok (listing c examples)
  | none =>
    if c.examples.isEmpty then .ok (.whole ("No examples available for " ++ c.name ++ "."))
    else .ok (listing c c.examples)
where
  listing (c : Component) (examples : List Example) : String :=
    let shown := examples.take limit.toNat
    page (("# " ++ c.name ++ " Examples (" ++ toString shown.length ++ " of " ++ toString examples.length ++ ")") ::
      "" :: shown.flatMap fun e => exampleLines e "##")

/-- The example with the lower-case name, else the first one whose name holds it. -/
def findExample (examples : List Example) (wanted : String) : Option Example :=
  match examples.find? fun e => lower e.name = wanted with
  | some e => some e
  | none => examples.find? fun e => contains (lower e.name) wanted

def exampleByName (ix : Index) (component name : AnyText) : Except Failure String := do
  let name ← requireText name "example_name"
  let c ← requireComponent ix component
  match name.whole?.bind fun name => findExample c.examples (lower name) with
  | some e =>
    .ok (page (["# " ++ c.name ++ ": " ++ e.name, "*Source:* " ++ e.sourceFile, ""] ++ exampleBody e))
  | none => .error (.tool (.unknownExample name c.name (c.examples.map Example.name)))

def apiReference (ix : Index) (typeName : AnyText) : Except Failure String := do
  let name ← requireText typeName "type_name"
  match ← ix.ask none ix.apiReference? name with
  | some reference => .ok (apiPage reference)
  | none => .error (.tool (.unknownType name))

/-- Whether two optional texts are there, not empty, and equal ignoring case. -/
def sameText (a b : Option String) : Bool :=
  !(textOr a).isEmpty && !(textOr b).isEmpty && lower (textOr a) == lower (textOr b)

/-- How a component is related to `c`. -/
def relationNotes (c r : Component) : List String :=
  (if (c.related.map lower).contains (lower r.name) then ["linked"] else []) ++
    (if sameText c.category r.category then ["same category"] else []) ++
    (if !(textOr c.baseType).isEmpty && lower (textOr c.baseType) == lower r.name then ["base type"] else []) ++
    (if !(textOr r.baseType).isEmpty && lower (textOr r.baseType) == lower c.name then ["derives from it"] else [])

def relatedLine (c r : Component) : String :=
  let notes := relationNotes c r
  let suffix := if notes.isEmpty then "" else " (" ++ join ", " notes ++ ")"
  "- **" ++ r.name ++ "**" ++ suffix ++ " — " ++ r.summary

def relatedComponents (ix : Index) (name : AnyText) (relationship : Option AnyText) : Except Failure String := do
  let relationship ← relationshipOf relationship
  let c ← requireComponent ix name
  let related ← ix.relatedTo c.name relationship
  if related.isEmpty then
    .ok ("No related components found for " ++ c.name ++ " (" ++ relationship.label ++ ").")
  else
    .ok (joinLines (("# Components related to " ++ c.name ++ " (" ++ relationship.label ++ ")") :: "" ::
      related.map (relatedLine c)) ++ "\n")

/-- Some tools tell a text as it was given, so what they answer can be broken. -/
def run (ix : Index) : Call → Except Failure AnyText
  | .listComponents category => listComponents ix category
  | .listCategories => (listCategories ix).map .whole
  | .componentDetail name withApi withExamples => (componentDetail ix name withApi withExamples).map .whole
  | .componentParameters name filter => componentParameters ix name filter
  | .searchComponents query fields limit => searchComponents ix query fields limit
  | .componentExamples name limit filter => componentExamples ix name limit filter
  | .exampleByName component name => (exampleByName ix component name).map .whole
  | .apiReference typeName => (apiReference ix typeName).map .whole
  | .relatedComponents name relationship => (relatedComponents ix name relationship).map .whole

def maxResultLength : Nat := 20000

/-- What is put in the place of what is cut off. -/
def truncation : String := "\n... (truncated)"

def truncate (answer : String) : String :=
  if maxResultLength < answer.length then takeFirst answer maxResultLength ++ truncation else answer

/-- The answer cut after as many code points; a broken one can become whole by it. -/
def truncateAny : AnyText → AnyText
  | .whole answer => .whole (truncate answer)
  | .broken answer =>
    if maxResultLength < answer.points.length then
      (AnyText.ofPoints (answer.points.take maxResultLength)).within "" truncation
    else .broken answer

def execute (ix : Index) (name : String) (arguments : List (String × Json)) : Except Failure AnyText := do
  let call ← Call.read name arguments
  let answer ← run ix call
  .ok (truncateAny answer)

/-- What a tool answers to arguments as a caller gives them. -/
def answer (ix : Index) (name : String) : Arguments → Except Failure AnyText
  | .named members => execute ix name members
  | .misnamed _ =>
    if (ToolName.ofText? name).isNone then .error (.unknownTool name)
    else .error (.tool (.invalidArguments name Arguments.misnaming))

end Catalog.Tool
