import Catalog.Component
import Catalog.Link
import Catalog.Text.Blank

/-! The catalog entries of a component, made from what its source file tells. -/
namespace Catalog

/-- The namespace of a component whose source names none. -/
def defaultNameSpace : String := "Bit.BlazorUI"

/-- The text unless it is absent or empty, else the other one. -/
def orElse (text : Option String) (other : String) : String :=
  match text with
  | none => other
  | some text => if text.isEmpty then other else text

/-- The type of an event callback that hands over a value of the given type. -/
def callbackType (argumentType : Option String) : String :=
  let argument := argumentType.getD ""
  if argument.isEmpty then "EventCallback" else "EventCallback<" ++ argument ++ ">"

/-- The parameters of a method as a list of types and names. -/
def signatureText (parameters : List MethodParameter) : String :=
  Text.join ", " (parameters.map fun p => p.type ++ " " ++ p.name)

namespace SourceFacts

/-- The entry of the component found in the folder `path`, relative to the checkout. -/
def component (facts : SourceFacts) (category : Option String) (path : String) : Component where
  name := facts.className
  nameSpace := orElse facts.nameSpace defaultNameSpace
  summary := orElse facts.summary (facts.className ++ " component")
  description := facts.remarks
  category := category
  baseType := facts.baseType
  parameters := facts.parameters
  events := facts.events
  methods := facts.methods
  documentationUrl := some (Link.documentation path Link.documentationBase)
  sourceUrl := some (Link.source path Link.sourceBase)

def parameterMember (p : Parameter) : Member :=
  { name := p.name, kind := .property, returnType := p.type, description := p.description }

def eventMember (e : Event) : Member :=
  { name := e.name, kind := .event, returnType := callbackType e.argumentType, description := e.description }

def methodMember (m : Method) : Member :=
  { name := m.name, kind := .method, returnType := m.returnType, description := m.description,
    signature := Text.nonEmpty? (signatureText m.parameters) }

/-- The flat list of members: parameters, then events, then methods. -/
def apiReference (facts : SourceFacts) : ApiReference where
  typeName := facts.className
  nameSpace := orElse facts.nameSpace defaultNameSpace
  summary := facts.summary
  baseType := facts.baseType
  members :=
    facts.parameters.map parameterMember ++ facts.events.map eventMember ++ facts.methods.map methodMember

end SourceFacts
end Catalog
