import Catalog.Component
import Catalog.Demo.Markup
import Catalog.Files.Path
import Catalog.Failure

/-! Samples files: numbered constants with markup or code, two of which with one number make an example. -/
namespace Catalog.Demo

open Text

/-- What a constant of a samples file holds. -/
inductive SampleKind where
  | markup
  | code
  deriving DecidableEq, Repr

/-- The end of the name of a constant. -/
def SampleKind.suffix : SampleKind → String
  | .markup => "RazorCode"
  | .code => "CsharpCode"

/-- Reads a word and one or more blank characters. -/
def readWordAndGap (word : String) : Reader Unit := fun s => do
  let (_, rest) ← dropLead word.toList s
  let (gap, rest) := spanWhile isBlank rest
  guard !gap.isEmpty
  some ((), rest)

/-- The text that a verbatim string writes: a quote is written twice. -/
def unescapeVerbatim (s : List Char) : List Char :=
  replaceAll (fun s => (dropLead ['"', '"'] s).map fun (_, rest) => (['"'], rest)) s

/-- Reads a constant of the kind: its digits and its text, up to the first quote with a semicolon. -/
def readConstant (kind : SampleKind) : Reader (List Char × String) := fun s => do
  let (_, rest) ← readWordAndGap "private" s
  let (_, rest) ← readWordAndGap "readonly" rest
  let (_, rest) ← readWordAndGap "string" rest
  let (_, rest) ← dropLead "example".toList rest
  let (digits, rest) := spanWhile isDigit rest
  guard !digits.isEmpty
  let (_, rest) ← dropLead kind.suffix.toList rest
  let (_, rest) ← dropLead ['='] (rest.dropWhile isBlank)
  let (_, rest) ← dropLead ['@', '"'] (rest.dropWhile isBlank)
  let (text, rest) ← cutAt ['"', ';'] rest
  some ((digits, String.ofList (unescapeVerbatim text)), rest)

def constants (kind : SampleKind) (content : List Char) : Except Failure (List (Nat × String)) :=
  (findAll (readConstant kind) content).mapM fun (digits, text) =>
    match natOfDigits digits with
    | .ok number => .ok (number, text)
    | .error e => .error (.number e)

def textOf? (number : Nat) (constants : List (Nat × String)) : Option String :=
  constants.reverse.lookup number

/-- The numbers of the constants, in order, each once. -/
def numbersOf (constants : List (Nat × String)) : List Nat :=
  ((constants.map Prod.fst).mergeSort fun a b => decide (a ≤ b)).eraseDups

/-- The end of the name of a samples file. -/
def samplesSuffix : String := "Demo.razor.samples.cs"

/-- What the examples of a samples file begin with: the words by which its name goes on after the name of the
component. -/
def namePrefix (file : Path) (componentName : String) : String :=
  let front :=
    if finishesWith file.name samplesSuffix then dropLast file.name samplesSuffix.length else file.stem
  let front := trimStartWhile (· = '_') front
  let extra := dropFirst front componentName.length
  if beginsWith (lower front) (lower componentName) && !extra.isEmpty then spacedWords extra ++ " " else ""

def exampleOf (lead fileName : String) (number : Nat) (markup code : Option String) : Example :=
  let markup := markup.map fun text => if isBlankText text then text else cleanMarkup text
  { name := lead ++ "Example " ++ toString number
    description := none
    markup := markup
    code := code.map fun text => if text.isEmpty then text else trim text
    sourceFile := fileName
    features := features (markup.getD "" ++ "\n" ++ code.getD "") }

def parseSamples (file : Path) (componentName : String) (content : List Char) (cancelled : Bool) :
    Except Failure (List Example) := do
  let markup ← constants .markup content
  let code ← constants .code content
  let lead := namePrefix file componentName
  (numbersOf (markup ++ code)).mapM fun number => do
    checkCancelled cancelled
    .ok (exampleOf lead file.name number (textOf? number markup) (textOf? number code))

end Catalog.Demo
