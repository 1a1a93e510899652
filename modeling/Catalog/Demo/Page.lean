import Catalog.Component
import Catalog.Demo.Markup
import Catalog.Failure
import Catalog.Files.Path

/-! Documentation pages: title, description, sections, links and notes. -/
namespace Catalog.Demo

open Text

/-- The component that a demo page is about, by the name of its file: what stands before `Demo`. -/
def componentNameOf (path : Path) : Option String :=
  let stem := path.stem
  if finishesWith stem "Demo" && decide (4 < stem.length) then some (dropLast stem 4) else none

/-- Reads an equals sign with blank characters around it, and a quote. -/
def readAssignment : Reader Unit := fun s => do
  let (_, rest) ← dropLead ['='] (s.dropWhile isBlank)
  dropLead ['"'] (rest.dropWhile isBlank)

/-- Reads one or more characters other than a quote, and the quote that ends them. -/
def readQuotedValue : Reader String := fun s => do
  let (value, rest) ← cutAt ['"'] s
  guard !value.isEmpty
  some (String.ofList value, rest)

/-- Reads an attribute whose name is given in lower case and may stand in any. -/
def readNamedValue (name : String) : Reader String := fun s => do
  let rest ← dropKeyword name.toList s
  let (_, rest) ← readAssignment rest
  readQuotedValue rest

def titleOf (content : List Char) : Option String :=
  findFirst (readNamedValue "title") content

/-- Reads an opening tag that begins with the given text, up to its closing bracket. -/
def readOpening (lead : String) : Reader Unit := fun s => do
  let (_, rest) ← dropLead lead.toList s
  let (_, rest) ← cutAt ['>'] rest
  some ((), rest)

def readHeading : Reader String := fun s => do
  let (_, rest) ← readOpening "<BitText" s
  let (body, rest) := spanWhile (· ≠ '<') rest
  guard !body.isEmpty
  let (_, rest) ← dropLead "</BitText>".toList rest
  some (String.ofList (trimmedOrLast body), rest)

/-- The description of a page: its subtitle, else its first heading. -/
def descriptionOf (content : List Char) : Option String :=
  match findFirst (readNamedValue "subtitle") content with
  | some text => some text
  | none => findFirst readHeading content

/-- Reads a tag with a capital after the given text, up to its closing bracket. -/
def readCapitalTag (lead : List Char) : Reader Unit := fun s => do
  let (_, rest) ← dropLead lead s
  match rest with
  | c :: rest' =>
    guard (isAsciiCapital c)
    let (_, rest'') ← cutAt ['>'] rest'
    some ((), rest'')
  | [] => none

/-- The text after the first place where something can be read. -/
def dropThrough {α : Type} (read : Reader α) : List Char → Option (List Char)
  | [] => none
  | c :: cs =>
    match read (c :: cs) with
    | some (_, rest) => some rest
    | none => dropThrough read cs

/-- Reads a component tag: an opening tag with all up to the first closing tag, else a tag that closes
itself at its first slash. -/
def readComponentTag : Reader Unit := fun s =>
  match (readCapitalTag ['<'] s).bind fun (_, rest) => dropThrough (readCapitalTag ['<', '/']) rest with
  | some rest => some ((), rest)
  | none =>
    match s with
    | '<' :: c :: rest =>
      if isAsciiCapital c then
        match rest.dropWhile (· ≠ '/') with
        | '/' :: '>' :: rest' => some ((), rest')
        | _ => none
      else none
    | _ => none

def readCode : Reader Unit := fun s =>
  let between := fun (opening closing : String) => do
    let (_, rest) ← dropLead opening.toList s
    let (_, rest) ← cutAt closing.toList rest
    some ((), rest)
  (between "<code>" "</code>").orElse fun _ => between "@\x7b" "\x7d"

/-- The text after names that a dot leads in, one after another. `fuel` bounds their number. -/
def dropDottedNames : Nat → List Char → List Char
  | 0, s => s
  | fuel + 1, s =>
    match s with
    | '.' :: rest =>
      if (rest.takeWhile isAsciiLetter).isEmpty then s else dropDottedNames fuel (rest.dropWhile isAsciiLetter)
    | _ => s

/-- Reads an at sign with a dotted name. -/
def readAtName : Reader Unit := fun s => do
  let (_, rest) ← dropLead ['@'] s
  let (name, rest) := spanWhile isAsciiLetter rest
  guard !name.isEmpty
  some ((), dropDottedNames rest.length rest)

/-- The text of a piece of markup: component tags, code and directives left out, blank runs collapsed. -/
def textContent (markup : List Char) : String :=
  collapse (String.ofList (eraseAll readAtName (eraseAll readCode (eraseAll readComponentTag markup))))

/-- Reads a section: its title and its body. -/
def readSection : Reader (String × List Char) := fun s => do
  let (_, rest) ← dropLead "<DocsPageSection".toList s
  let (gap, rest) := spanWhile isBlank rest
  guard !gap.isEmpty
  let (_, rest) ← dropLead "Title".toList rest
  let (_, rest) ← readAssignment rest
  let (title, rest) ← readQuotedValue rest
  let (_, rest) ← cutAt ['>'] rest
  let (body, rest) ← cutAt "</DocsPageSection>".toList rest
  some ((title, body), rest)

def sectionsOf (content : List Char) : List Section :=
  (findAll readSection content).map fun (title, body) =>
    { title := title
      content := some (textContent body)
      hasExample := occursIn "SectionSource".toList body || occursIn "Example".toList body }

def readLink : Reader String := fun s => do
  let rest ← dropKeyword "href".toList s
  let (_, rest) ← readAssignment rest
  let rest ← dropKeyword "/components/".toList rest
  readQuotedValue rest

/-- Reads the tag name of a component: the prefix, a capital and at least one more letter. -/
def readTagName : Reader String := fun s => do
  let (_, rest) ← dropLead "<Bit".toList s
  let (letters, rest) := spanWhile isAsciiLetter rest
  match letters with
  | c :: _ :: _ =>
    guard (isAsciiCapital c)
    some ("Bit" ++ String.ofList letters, rest)
  | _ => none

/-- The components that a page links to or uses, other than its own. -/
def relatedOf (content : List Char) (own : Option String) : List String :=
  let linked := (findAll readLink content).filterMap fun target => componentNameOf (Path.ofText target)
  distinctIgnoringCase (own.toList.map lower) (linked ++ findAll readTagName content)

def readNote : Reader (List Char) := fun s => do
  let (_, rest) ← readOpening "<BitMessageBar" s
  cutAt "</BitMessageBar>".toList rest

/-- The notes of a page, those without text left out. -/
def notesOf (content : List Char) : List String :=
  ((findAll readNote content).map textContent).filter fun text => !text.isEmpty

def parsePage (content : List Char) (filePath : String) : Except Failure PageFacts := do
  requireName filePath "file_path"
  let name := componentNameOf (Path.ofText filePath)
  .ok {
    filePath := filePath
    componentName := name
    title := titleOf content
    description := descriptionOf content
    sections := sectionsOf content
    related := relatedOf content name
    usageNotes := notesOf content }

end Catalog.Demo
