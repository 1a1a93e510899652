import Catalog.Text.Blank
import Catalog.Text.Word

/-! Documentation comments: the lines after `///` and the elements in them. -/
namespace Catalog.CSharp

open Text

/-- A line without blank characters at its ends and without the slashes at its front. -/
def docLine (line : String) : String :=
  let line := trim line
  if beginsWith line "///" then dropFirst line 3 else line

def docText (comments : List String) : List Char :=
  (join "\n" ((comments.flatMap lines).map docLine)).toList

/-- Reads one of the given words with a blank character after it, and the further blank ones. -/
def readOneWord (words : List String) : Reader Unit := fun s =>
  words.findSome? fun word => do
    let (_, rest) ← dropLead word.toList s
    match rest with
    | c :: rest' => if isBlank c then some ((), rest'.dropWhile isBlank) else none
    | [] => none

/-- Reads `="…"` and the end of an empty tag, with blank characters where they may stand; the value is not
empty. -/
def readValueAndEnd : Reader (List Char) := fun s => do
  let (_, rest) ← dropLead ['='] (s.dropWhile isBlank)
  let (_, rest) ← dropLead ['"'] (rest.dropWhile isBlank)
  let (value, rest) ← cutAt ['"'] rest
  guard !value.isEmpty
  let (_, rest) ← dropLead ['/', '>'] (rest.dropWhile isBlank)
  some (value, rest)

/-- The target of a reference without the capital and colon that tell its kind, if anything else is left. -/
def withoutKind (target : List Char) : List Char :=
  match target with
  | c :: ':' :: d :: rest => if isAsciiCapital c then d :: rest else target
  | _ => target

/-- Reads one of the given words without anything about what follows it. -/
def readBareWord (words : List String) : Reader Unit := fun s =>
  words.findSome? fun word => dropLead word.toList s

def readReference : Reader (List Char) := fun s => do
  let (_, rest) ← dropLead ['<'] s
  let (_, rest) ← readOneWord ["see", "seealso"] rest
  let (_, rest) ← readBareWord ["cref", "langword", "href"] rest
  let (target, rest) ← readValueAndEnd rest
  some (withoutKind target, rest)

def readParameterReference : Reader (List Char) := fun s => do
  let (_, rest) ← dropLead ['<'] s
  let (_, rest) ← readOneWord ["paramref", "typeparamref"] rest
  let (_, rest) ← dropLead "name".toList rest
  readValueAndEnd rest

def readTag : Reader Unit := fun s => do
  let (_, rest) ← dropLead ['<'] s
  let name := match rest with
    | '/' :: rest' => rest'
    | _ => rest
  match name with
  | c :: rest' =>
    guard (isAsciiLetter c)
    let (_, rest'') ← cutAt ['>'] rest'
    some ((), rest'')
  | [] => none

/-- The text of an element: references as what they refer to, no tags, blank runs collapsed; absent if nothing
is left. -/
def plainText (s : List Char) : Option String :=
  nonEmpty? (collapse (String.ofList
    (eraseAll readTag (replaceAll readParameterReference (replaceAll readReference s)))))

/-- Reads an element without attributes: what stands in it. -/
def readElement (name : String) : Reader (List Char) := fun s => do
  let (_, rest) ← dropLead ("<" ++ name ++ ">").toList s
  cutAt ("</" ++ name ++ ">").toList rest

def elementText (doc : List Char) (name : String) : Option String :=
  (findFirst (readElement name) doc).bind plainText

def summaryOf (comments : List String) : Option String :=
  elementText (docText comments) "summary"

def remarksOf (comments : List String) : Option String :=
  elementText (docText comments) "remarks"

end Catalog.CSharp
