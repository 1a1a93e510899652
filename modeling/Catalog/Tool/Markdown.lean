import Catalog.Component
import Catalog.Entry
import Catalog.Text.Broken

/-! Components and their parts as markdown. -/
namespace Catalog.Tool

open Text

def joinLines (lines : List String) : String :=
  join "\n" lines

/-- The lines as a text without blank characters at its end but one line feed. -/
def page (lines : List String) : String :=
  trimEnd (joinLines lines) ++ "\n"

def textOr (text : Option String) : String :=
  text.getD ""

/-- The lines if the text is there and not empty. -/
def whenText (text : Option String) (lines : String → List String) : List String :=
  if (textOr text).isEmpty then [] else lines (textOr text)

/-- The text after a dash, if it is there and not empty. -/
def dashed (text : Option String) : String :=
  if (textOr text).isEmpty then "" else " — " ++ textOr text

/-- A character of a table cell: a bar is escaped, and a line feed becomes a space. -/
def cellChar (c : Char) : List Char :=
  if c = '|' then ['\\', '|'] else if c = '\n' then [' '] else [c]

def cell (text : Option String) : String :=
  String.ofList ((textOr text).toList.flatMap cellChar)

/-- The names of the type of truth values. -/
def truthTypes : List String := ["bool", "Boolean", "System.Boolean"]

/-- How to write a parameter of a truth type or an enumeration in markup. -/
def usageHint (p : Parameter) : Option String :=
  let base := trim (trimEndWhile (· = '?') p.type)
  let default := textOr p.defaultValue
  if truthTypes.contains base then some (p.name ++ "=\"true\" or " ++ p.name ++ "=\"false\"")
  else if beginsWith default (base ++ ".") && default ≠ "null" then some (p.name ++ "=\"" ++ default ++ "\"")
  else if beginsWith base "Bit" && !contains base "<" &&
      !(["Options", "Item", "Args"].any fun tail => finishesWith base tail) then
    some (p.name ++ "=\"" ++ base ++ ".<Value>\"")
  else none

def fenced (language : String) (text : Option String) : List String :=
  whenText text fun text => ["", "```" ++ language, text, "```"]

/-- What an example holds, below its heading. -/
def exampleBody (e : Example) : List String :=
  whenText e.description (fun text => [text]) ++
    (if e.features.isEmpty then [] else ["*Features:* " ++ join ", " e.features]) ++
    fenced "razor" e.markup ++ fenced "csharp" e.code ++ [""]

def exampleLines (e : Example) (heading : String) : List String :=
  (heading ++ " " ++ e.name) :: exampleBody e

/-- Words for what is special about a parameter. -/
def parameterFlags (p : Parameter) : String :=
  let flags := (if p.isRequired then ["required"] else []) ++ (if p.isCascading then ["cascading"] else [])
  if flags.isEmpty then "" else " (" ++ join ", " flags ++ ")"

def parameterRow (p : Parameter) : String :=
  "| " ++ p.name ++ parameterFlags p ++ " | `" ++ cell (some p.type) ++ "` | " ++ cell p.defaultValue ++ " | " ++
    cell p.description ++ " |"

def eventLine (e : Event) : String :=
  "- `" ++ e.name ++ "` (" ++ callbackType e.argumentType ++ ")" ++ dashed e.description

def methodLine (m : Method) : String :=
  "- `" ++ m.returnType ++ " " ++ m.name ++ "(" ++ signatureText m.parameters ++ ")`" ++ dashed m.description

def memberRow (m : Member) : String :=
  "| " ++ m.name ++ " | " ++ m.kind.label ++ " | `" ++ cell (some m.returnType) ++ "` |"

/-- A part of a page with its heading, left out when it has no content. -/
def part {α : Type} (heading : List String) (items : List α) (line : α → List String) (closing : List String) :
    List String :=
  if items.isEmpty then [] else heading ++ items.flatMap line ++ closing

/-- The detail page of a component; its API members are given if they are to be shown. -/
def componentPage (c : Component) (members : List Member) (withExamples : Bool) : String :=
  page (
    ["# " ++ c.name, "", c.summary, "", "**Namespace:** " ++ c.nameSpace] ++
      whenText c.category (fun text => ["**Category:** " ++ text]) ++
      whenText c.baseType (fun text => ["**Base type:** " ++ text]) ++
      whenText c.documentationUrl (fun text => ["**Documentation:** " ++ text]) ++
      whenText c.sourceUrl (fun text => ["**Source:** " ++ text]) ++ [""] ++
      whenText c.description (fun text => ["## Description", text, ""]) ++
      part ["## Parameters", "", "| Name | Type | Default | Description |", "|---|---|---|---|"] c.parameters
        (fun p => [parameterRow p]) [""] ++
      part ["## Events"] c.events (fun e => [eventLine e]) [""] ++
      part ["## Methods"] c.methods (fun m => [methodLine m]) [""] ++
      part ["## API Reference", "", "| Member | Kind | Type |", "|---|---|---|"] members
        (fun m => [memberRow m]) [""] ++
      (if withExamples then part ["## Examples", ""] c.examples (fun e => exampleLines e "###") [] else []) ++
      part ["## Related Components"] c.related (fun name => ["- " ++ name]) [""])

/-- The lines of a parameter with its usage. -/
def parameterLines (p : Parameter) : List String :=
  ["### " ++ p.name, "- **Type:** `" ++ p.type ++ "`"] ++
    whenText p.defaultValue (fun text => ["- **Default:** `" ++ text ++ "`"]) ++
    (if p.isRequired then ["- **Required**"] else []) ++
    (if p.isCascading then ["- **Cascading parameter**"] else []) ++
    whenText p.category (fun text => ["- **Category:** " ++ text]) ++
    whenText p.description (fun text => ["- " ++ text]) ++
    whenText (usageHint p) (fun text => ["- **Usage:** `" ++ text ++ "`"]) ++ [""]

/-- The line of a member; only a method shows its parameters. -/
def memberLine (m : Member) : String :=
  let signature := if m.kind = .method then "(" ++ textOr m.signature ++ ")" else ""
  "- `" ++ m.returnType ++ " " ++ m.name ++ signature ++ "`" ++ dashed m.description

/-- The members of one kind under their heading. -/
def memberPart (members : List Member) (kind : MemberKind) (title : String) : List String :=
  part ["## " ++ title] (members.filter fun m => m.kind = kind) (fun m => [memberLine m]) [""]

def apiPage (r : ApiReference) : String :=
  page (
    ["# " ++ r.typeName ++ " API", "", "**Namespace:** " ++ r.nameSpace] ++
      whenText r.baseType (fun text => ["**Base type:** " ++ text]) ++
      whenText r.summary (fun text => ["", text]) ++ [""] ++
      memberPart r.members .property "Properties" ++ memberPart r.members .event "Events" ++
      memberPart r.members .method "Methods")

/-- The results of a search, numbered from one. -/
def resultLines (number : Nat) : List (Component × Int) → List String
  | [] => []
  | (c, score) :: results =>
    let category := if (textOr c.category).isEmpty then "" else " [" ++ textOr c.category ++ "]"
    ("  " ++ toString number ++ ". **" ++ c.name ++ "**" ++ category ++ " (score " ++ toString score ++ ")") ::
      ("     " ++ c.summary) :: resultLines (number + 1) results

/-- Nothing is found for a query that is broken. -/
def resultPage (results : List (Component × Int)) (query : AnyText) : AnyText :=
  if results.isEmpty then query.within "No components found for '" "'."
  else
    query.within "Search results for '" (joinLines (("' (" ++ toString results.length ++ " result(s)):") :: "" ::
      resultLines 1 results) ++ "\n")

end Catalog.Tool
