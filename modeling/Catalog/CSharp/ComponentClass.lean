import Catalog.Component
import Catalog.CSharp.Declaration
import Catalog.CSharp.DocComment
import Catalog.Files.Path
import Catalog.Text.Utf8

/-! The public class of a source file, read as a component. -/
namespace Catalog.CSharp

open Text

/-- The documentation comments before an item: `run` continued by a comment. A comment of another kind ends
the run. -/
def extendRun (run : List String) (comment : String) : List String :=
  if beginsWith comment "///" then run ++ [comment] else []

mutual

/-- The first namespace, outermost first. -/
def nameSpaceIn : Item → Option String
  | .nameSpace name _ => some name
  | .fileSpace name => some name
  | .conditional items => firstNameSpace items
  | .type _ body => firstNameSpace body
  | _ => none

/-- The first namespace among the items and in them. -/
def firstNameSpace : List Item → Option String
  | [] => none
  | item :: items => (nameSpaceIn item).orElse fun _ => firstNameSpace items

end

/-- A class with the documentation comments before it. -/
structure FoundClass where
  docs : List String
  head : TypeHead
  body : List Item

mutual

/-- The public classes that an item is or holds; `docs` are the comments before it, and `nested` tells that it
stands directly in a class. -/
def classesOf (nested : Bool) (docs : List String) : Item → List FoundClass
  | .type head body =>
    (if head.keyword = "class" && head.modifiers.contains "public" && !nested then [⟨docs, head, body⟩] else []) ++
      classesIn (head.keyword = "class") [] body
  | .nameSpace _ body => classesIn false [] body
  | .conditional items => classesIn false [] items
  | _ => []

/-- The public classes among the items and in them, outermost first, that do not stand directly in a class;
`run` are the documentation comments directly before. -/
def classesIn (nested : Bool) (run : List String) : List Item → List FoundClass
  | [] => []
  | item :: items =>
    match item with
    | .comment text => classesIn nested (extendRun run text) items
    | _ => classesOf nested run item ++ classesIn nested [] items

end

/-- The class with the name, else the first one. -/
def chooseClass (name : String) (classes : List FoundClass) : Option FoundClass :=
  (classes.find? fun c => c.head.name = name).orElse fun _ => classes.head?

/-- The items with the documentation comments directly before each. -/
def withDocs (run : List String) : List Item → List (List String × Item)
  | [] => []
  | .comment text :: items => withDocs (extendRun run text) items
  | item :: items => (run, item) :: withDocs [] items

/-- The characters without the question mark at their end, if there is one. -/
def dropQuestionMark (s : List Char) : List Char :=
  match s.reverse with
  | '?' :: front => front.reverse
  | _ => s

/-- What stands between a pair of angle brackets that only blank characters may go before, if anything does. -/
def betweenAngles? (s : List Char) : Option (List Char) := do
  let (_, rest) ← dropLead ['<'] (s.dropWhile isBlank)
  match rest.reverse with
  | '>' :: inside => if inside.isEmpty then none else some inside.reverse
  | _ => none

/-- What an event callback hands over, if the type is that of one: nothing, or the type argument. -/
def callbackArgument? (type : String) : Option (Option String) := do
  let (_, rest) ← dropLead "EventCallback".toList type.toList
  let rest := dropQuestionMark rest
  if rest.isEmpty then some none
  else (betweenAngles? rest).map fun inside => some (String.ofList (trimmedOrLast inside))

/-- What a property with the attribute of a parameter gives: an event or a parameter. -/
def memberOfProperty (docs : List String) (p : PropertyDeclaration) : Option (Event ⊕ Parameter) :=
  let cascading := p.attributes.contains "CascadingParameter"
  if !cascading && !p.attributes.contains "Parameter" then none
  else
    let description := summaryOf docs
    match if cascading then none else callbackArgument? p.type with
    | some argument => some (.inl { name := p.name, argumentType := argument, description := description })
    | none =>
      some (.inr {
        name := p.name
        type := p.type
        description := description
        defaultValue := p.initial
        isRequired := p.attributes.contains "EditorRequired"
        isCascading := cascading })

/-- The entry of a method that is public and no override. -/
def methodEntry (docs : List String) (m : MethodDeclaration) : Option Method :=
  if m.modifiers.contains "public" && !m.modifiers.contains "override" then
    some {
      name := m.name
      returnType := m.returnType
      description := summaryOf docs
      parameters := m.arguments.map fun a => { name := a.name, type := a.type }
      isAsync := m.modifiers.contains "async" || beginsWith m.returnType "Task" ||
        beginsWith m.returnType "ValueTask" }
  else none

/-- The events and parameters of a body in order. -/
def propertyMembers (body : List (List String × Item)) : List (Event ⊕ Parameter) :=
  body.filterMap fun (docs, item) =>
    match item with
    | .property p => memberOfProperty docs p
    | _ => none

/-- The methods of a body in order. -/
def methodMembers (body : List (List String × Item)) : List Method :=
  body.filterMap fun (docs, item) =>
    match item with
    | .method m => methodEntry docs m
    | _ => none

/-- What a class tells of a component. -/
def FoundClass.facts (found : FoundClass) (filePath : String) (nameSpace : Option String) : SourceFacts :=
  let body := withDocs [] found.body
  let properties := propertyMembers body
  { className := found.head.name
    filePath := filePath
    nameSpace := nameSpace
    summary := summaryOf found.docs
    remarks := remarksOf found.docs
    baseType := found.head.base
    parameters := properties.filterMap Sum.getRight?
    events := properties.filterMap Sum.getLeft?
    methods := methodMembers body }

/-- The component class of a source file, if the file has a public class. -/
def componentClass (source : List Char) (filePath : String) : Option SourceFacts := do
  let items := parse source
  let found ← chooseClass (Path.ofText filePath).stem (classesIn false [] items)
  some (found.facts filePath ((firstNameSpace items).bind nonEmpty?))

end Catalog.CSharp
