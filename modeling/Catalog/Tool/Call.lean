import Catalog.Failure
import Catalog.Json.Basic

/-! Tools, the arguments that each takes, and calls whose arguments have been checked. -/
namespace Catalog

inductive ToolName where
  | listComponents
  | listCategories
  | componentDetail
  | componentParameters
  | searchComponents
  | componentExamples
  | exampleByName
  | apiReference
  | relatedComponents
  deriving DecidableEq, Repr, Inhabited

inductive ArgumentType where
  | text
  | integer
  | truth
  deriving DecidableEq, Repr

/-- An argument of a tool. One that is not required may be null, which means absent. -/
structure ArgumentSpec where
  name : String
  type : ArgumentType := .text
  required : Bool := false
  deriving DecidableEq, Repr

namespace ToolName

def all : List ToolName :=
  [listComponents, listCategories, componentDetail, componentParameters, searchComponents, componentExamples,
    exampleByName, apiReference, relatedComponents]

def text : ToolName → String
  | listComponents => "list_components"
  | listCategories => "list_categories"
  | componentDetail => "get_component_detail"
  | componentParameters => "get_component_parameters"
  | searchComponents => "search_components"
  | componentExamples => "get_component_examples"
  | exampleByName => "get_example_by_name"
  | apiReference => "get_api_reference"
  | relatedComponents => "get_related_components"

def ofText? (name : String) : Option ToolName :=
  all.find? fun tool => tool.text = name

def arguments : ToolName → List ArgumentSpec
  | listComponents => [{ name := "category" }]
  | listCategories => []
  | componentDetail =>
    [{ name := "component_name", required := true }, { name := "include_api", type := .truth },
      { name := "include_examples", type := .truth }]
  | componentParameters => [{ name := "component_name", required := true }, { name := "filter" }]
  | searchComponents =>
    [{ name := "query", required := true }, { name := "fields" }, { name := "max_results", type := .integer }]
  | componentExamples =>
    [{ name := "component_name", required := true }, { name := "max_examples", type := .integer },
      { name := "filter" }]
  | exampleByName => [{ name := "component_name", required := true }, { name := "example_name", required := true }]
  | apiReference => [{ name := "type_name", required := true }]
  | relatedComponents => [{ name := "component_name", required := true }, { name := "relationship" }]

end ToolName

/-- Whether a value is of the type; nothing is converted. -/
def ArgumentType.accepts : ArgumentType → Json → Bool
  | .text, .string _ => true
  | .text, .broken _ => true
  | .integer, .int _ => true
  | .truth, .bool _ => true
  | _, _ => false

/-- What is said of a value that is not of the type. -/
def ArgumentType.complaint : ArgumentType → String
  | .text => "Input should be a valid string"
  | .integer => "Input should be a valid integer"
  | .truth => "Input should be a valid boolean"

def ArgumentSpec.problem? (spec : ArgumentSpec) (arguments : List (String × Json)) : Option (String × String) :=
  match arguments.lookup spec.name with
  | none => if spec.required then some (spec.name, "Missing required argument") else none
  | some value =>
    let absent := match value with
      | .null => !spec.required
      | _ => false
    if absent || spec.type.accepts value then none else some (spec.name, spec.type.complaint)

/-- All that is wrong with the arguments: of the declared ones in order, then the names that are not declared. -/
def ToolName.problems (tool : ToolName) (arguments : List (String × Json)) : List (String × String) :=
  tool.arguments.filterMap (fun spec => spec.problem? arguments) ++
    arguments.filterMap fun (name, _) =>
      if tool.arguments.any fun spec => spec.name = name then none else some (name, "Unexpected keyword argument")

/-- A call of a tool; absent arguments have their defaults where these are values. -/
inductive Call where
  | listComponents (category : Option AnyText)
  | listCategories
  | componentDetail (name : AnyText) (withApi withExamples : Bool)
  | componentParameters (name : AnyText) (filter : Option AnyText)
  | searchComponents (query : AnyText) (fields : Option AnyText) (limit : Int)
  | componentExamples (name : AnyText) (limit : Int) (filter : Option AnyText)
  | exampleByName (component name : AnyText)
  | apiReference (typeName : AnyText)
  | relatedComponents (name : AnyText) (relationship : Option AnyText)
  deriving DecidableEq, Repr, Inhabited

def textArgument? (arguments : List (String × Json)) (name : String) : Option AnyText :=
  (arguments.lookup name).bind Json.text?

/-- The text under a name that is required to be there. -/
def textArgument (arguments : List (String × Json)) (name : String) : AnyText :=
  (textArgument? arguments name).getD ""

/-- The truth value under a name, `default` when absent. -/
def truthArgument (arguments : List (String × Json)) (name : String) (default : Bool) : Bool :=
  match arguments.lookup name with
  | some (.bool b) => b
  | _ => default

/-- The number under a name, `default` when absent. -/
def integerArgument (arguments : List (String × Json)) (name : String) (default : Int) : Int :=
  match arguments.lookup name with
  | some (.int n) => n
  | _ => default

/-- The call that checked arguments make. -/
def ToolName.call (tool : ToolName) (arguments : List (String × Json)) : Call :=
  match tool with
  | .listComponents => .listComponents (textArgument? arguments "category")
  | .listCategories => .listCategories
  | .componentDetail =>
    .componentDetail (textArgument arguments "component_name") (truthArgument arguments "include_api" false)
      (truthArgument arguments "include_examples" true)
  | .componentParameters =>
    .componentParameters (textArgument arguments "component_name") (textArgument? arguments "filter")
  | .searchComponents =>
    .searchComponents (textArgument arguments "query") (textArgument? arguments "fields")
      (integerArgument arguments "max_results" 10)
  | .componentExamples =>
    .componentExamples (textArgument arguments "component_name") (integerArgument arguments "max_examples" 5)
      (textArgument? arguments "filter")
  | .exampleByName =>
    .exampleByName (textArgument arguments "component_name") (textArgument arguments "example_name")
  | .apiReference => .apiReference (textArgument arguments "type_name")
  | .relatedComponents =>
    .relatedComponents (textArgument arguments "component_name") (textArgument? arguments "relationship")

/-- The arguments of a call: values by their names, or some of which a name is broken. -/
inductive Arguments where
  | named (members : List (String × Json))
  | misnamed (members : List (AnyText × Json))
  deriving Repr

def Arguments.ofJson? : Json → Option Arguments
  | .object members => some (.named members)
  | .misnamed members => some (.misnamed members)
  | _ => none

/-- What is wrong with arguments of which a name is broken: they are not looked into. -/
def Arguments.misnaming : List (String × String) :=
  [("arguments", "Input should be a valid string, unable to parse raw data as a unicode string")]

/-- The call of a tool by name, if there is such a tool and the arguments fit it. -/
def Call.read (name : String) (arguments : List (String × Json)) : Except Failure Call :=
  match ToolName.ofText? name with
  | none => .error (.unknownTool name)
  | some tool =>
    match tool.problems arguments with
    | [] => .ok (tool.call arguments)
    | problems => .error (.tool (.invalidArguments name problems))

end Catalog
