import Catalog.Text.Blank
import Catalog.Text.Case
import Catalog.Text.Word

/-! Demo markup: the directives at its head, and the features that it shows. -/
namespace Catalog.Demo

open Text

/-- Reads `@page "…"` with the blank characters after it. -/
def readPage : Reader Unit := fun s => do
  let (_, rest) ← dropLead "@page".toList s
  let (gap, rest) := spanWhile isBlank rest
  guard !gap.isEmpty
  let (_, rest) ← dropLead ['"'] rest
  let (_, rest) ← cutAt ['"'] rest
  some ((), rest.dropWhile isBlank)

/-- The length of the longest front of `gap`, at least one character, that a character other than a line
feed follows in `gap`. -/
def lastBreak (gap : List Char) : Option Nat :=
  let tail := gap.reverse.dropWhile (· = '\n')
  if tail.length < 2 then none else some (tail.length - 1)

/-- Reads a directive word, blank characters, and what stands on the line after them, with the line feed.
Where nothing but blank characters follows, the last ones of them stand for the line. -/
def readDirective (word : String) : Reader Unit := fun s => do
  let (_, rest) ← dropLead word.toList s
  let (gap, after) := spanWhile isBlank rest
  guard !gap.isEmpty
  let line ←
    match after with
    | _ :: _ => some after
    | [] => (lastBreak gap).map fun n => gap.drop n
  match line.dropWhile (· ≠ '\n') with
  | _ :: rest' => some ((), rest')
  | [] => some ((), [])

/-- Reads three or more line feeds as two. -/
def readBlankLines : Reader (List Char) := fun s =>
  let (run, rest) := spanWhile (· = '\n') s
  if run.length < 3 then none else some (['\n', '\n'], rest)

/-- The markup without its directives, with at most one blank line in a row and none at either end. -/
def cleanMarkup (markup : String) : String :=
  let withoutPage := eraseAll readPage markup.toList
  let withoutDirectives :=
    ["@using", "@inject", "@namespace"].foldl (fun s word => eraseAll (readDirective word) s) withoutPage
  trim (String.ofList (replaceAll readBlankLines withoutDirectives))

/-- The text with a space before each capital but the first character, and none at either end. -/
def spacedWords (text : String) : String :=
  match text.toList with
  | [] => text
  | c :: cs => trim (String.ofList (c :: cs.flatMap fun d => if isAsciiCapital d then [' ', d] else [d]))

/-- Reads an attribute: a word, `="`, and a closing quote later on. What fails at the front of a word fails at
its other characters too. -/
def readAttribute : Reader String := fun s => do
  let (name, rest) := spanWhile isWordChar s
  guard !name.isEmpty
  let (_, rest) ← dropLead ['=', '"'] rest
  let (_, rest) ← cutAt ['"'] rest
  some (String.ofList name, rest)

/-- Words that a text holds, and the feature that each shows. -/
def tagsOf (content : String) : List String :=
  (if contains (lower content) "@bind" then ["Two-way binding"] else []) ++
    (if contains content "EventCallback" || contains content "@on" then ["Event handling"] else []) ++
    (if contains content "Variant=" then ["Variants"] else []) ++
    (if contains content "Color=" then ["Colors"] else []) ++
    (if contains content "Size=" then ["Sizes"] else [])

def maxFeatures : Nat := 5

/-- Short words for what an example shows: its attributes, then what it makes use of. -/
def features (content : String) : List String :=
  (distinctIgnoringCase [] (findAll readAttribute content.toList ++ tagsOf content)).take maxFeatures

end Catalog.Demo
