import Catalog.Tool.Call

/-! What is declared of the tools to those that call them. -/
namespace Catalog.ToolName

/-- A member that says what type and meaning an argument has. -/
def described (type description : String) : Json :=
  .object [("type", .string type), ("description", .string description)]

def componentNameSchema : Json :=
  described "string" "Component name, with or without the Bit prefix (e.g. 'BitButton' or 'Button')."

/-- The description of a number within bounds. -/
def boundedSchema (least most : Int) : Json :=
  .object [("type", .string "integer"), ("minimum", .int least), ("maximum", .int most)]

def description : ToolName → String
  | listComponents => "Lists all indexed Bit BlazorUI components, grouped by category."
  | listCategories => "Lists the component categories with their descriptions."
  | componentDetail => "Returns summary, parameters, events, methods and examples of one component."
  | componentParameters => "Lists a component's parameters with types, defaults and Razor usage hints."
  | searchComponents =>
    "Searches components by name, description, parameters and examples; best matches first."
  | componentExamples => "Returns Razor and C# code examples for a component."
  | exampleByName => "Returns one named example of a component."
  | apiReference => "Returns the flat API reference (properties, events, methods) of a component type."
  | relatedComponents => "Finds linked, same-category, parent and derived components."

def argumentSchemas : ToolName → List (String × Json)
  | listComponents => [("category", described "string" "Only list components in this category.")]
  | listCategories => []
  | componentDetail =>
    [("component_name", componentNameSchema),
      ("include_api", described "boolean" "Append the flat API member table."),
      ("include_examples", described "boolean" "Include code examples (default true).")]
  | componentParameters =>
    [("component_name", componentNameSchema),
      ("filter", described "string" "Only parameters whose name, type or category contains this.")]
  | searchComponents =>
    [("query", described "string" "Text to search for."),
      ("fields", described "string" "Comma separated subset of: name, description, parameters, examples."),
      ("max_results", boundedSchema 1 50)]
  | componentExamples =>
    [("component_name", componentNameSchema),
      ("max_examples", boundedSchema 1 20),
      ("filter", described "string" "Only examples mentioning this text.")]
  | exampleByName =>
    [("component_name", componentNameSchema),
      ("example_name", described "string" "Example name, e.g. 'Example 2'.")]
  | apiReference => [("type_name", componentNameSchema)]
  | relatedComponents =>
    [("component_name", componentNameSchema),
      ("relationship", .object [("type", .string "string"),
        ("enum", .array [.string "all", .string "sibling", .string "parent", .string "child"])])]

/-- The schema of the arguments of a tool; the required ones are told if there are any. -/
def schema (tool : ToolName) : Json :=
  let required := (tool.arguments.filter ArgumentSpec.required).map fun spec => Json.string spec.name
  .object ([("type", .string "object"), ("properties", .object tool.argumentSchemas)] ++
    if required.isEmpty then [] else [("required", .array required)])

def declaration (tool : ToolName) : Json :=
  .object [("name", .string tool.text), ("description", .string tool.description),
    ("parameters_json_schema", tool.schema)]

def declarations : Json :=
  .array (all.map declaration)

end Catalog.ToolName
