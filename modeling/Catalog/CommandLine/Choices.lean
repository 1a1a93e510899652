import Catalog.Files.Path
import Catalog.Text.Word

/-! The arguments of the command line and the choices that they make. -/
namespace Catalog.CommandLine

/-- What is chosen on the command line. -/
structure Choices where
  repositoryPath : Option Path := none
  noSync : Bool := false
  search : Option String := none
  tool : Option String := none
  arguments : String := "{}"
  dryRun : Bool := false
  verbose : Bool := false
  deriving DecidableEq, Repr, Inhabited

/-- An option that stands alone. -/
inductive Flag where
  | help
  | noSync
  | dryRun
  | verbose
  deriving DecidableEq, Repr

/-- An option that takes a value. -/
inductive Slot where
  | repositoryPath
  | search
  | tool
  | arguments
  deriving DecidableEq, Repr

inductive OptionKey where
  | flag (flag : Flag)
  | slot (slot : Slot)
  deriving DecidableEq, Repr

def longOptions : List (String × OptionKey) := [
  ("--help", .flag .help), ("--repo-path", .slot .repositoryPath), ("--no-sync", .flag .noSync),
  ("--search", .slot .search), ("--tool", .slot .tool), ("--args", .slot .arguments),
  ("--dry-run", .flag .dryRun), ("--verbose", .flag .verbose)]

/-- The options that have a letter. -/
def letterOption? : Char → Option Flag
  | 'h' => some .help
  | 'v' => some .verbose
  | _ => none

/-- What an argument is taken for. Letters may be written together, so a letter has what follows it in the same
argument. -/
inductive Word where
  | plain (text : String)
  | divider
  | long (key : OptionKey) (value : Option String)
  | letters (flag : Flag) (rest : List Char)
  | unknown
  | ambiguous
  deriving DecidableEq, Repr

/-- Whether the characters write a number: digits, with a point before the last ones or without. -/
def isNumber (s : List Char) : Bool :=
  match Text.spanWhile Text.isDigit s with
  | (digits, []) => !digits.isEmpty
  | (_, '.' :: rest) => !rest.isEmpty && rest.all Text.isDigit
  | _ => false

/-- The characters without one line feed at their end. -/
def withoutLineFeed (s : List Char) : List Char :=
  if s.getLast? = some '\n' then s.dropLast else s

/-- What an argument with a hyphen in front is taken for if it names no option. -/
def unnamed (text : String) (rest : List Char) : Word :=
  if isNumber (withoutLineFeed rest) || rest.contains ' ' then .plain text else .unknown

/-- The part before the first equals sign, and the part after it if there is one. -/
def splitValue (s : List Char) : String × Option String :=
  match Text.spanWhile (· ≠ '=') s with
  | (name, []) => (String.ofList name, none)
  | (name, _ :: value) => (String.ofList name, some (String.ofList value))

/-- What an argument with two hyphens in front is taken for: an option by its name, or by the front of just one
name, with a value if an equals sign follows. -/
def longWord (text : String) : Word :=
  let (name, value) := splitValue text.toList
  match longOptions.lookup name with
  | some key => .long key value
  | none =>
    match longOptions.filter fun (full, _) => Text.beginsWith full name with
    | [] => unnamed text (text.toList.drop 1)
    | [(_, key)] => .long key value
    | _ => .ambiguous

/-- What an argument is taken for. -/
def Word.ofText (text : String) : Word :=
  match text.toList with
  | ['-', '-'] => .divider
  | '-' :: '-' :: _ => longWord text
  | '-' :: letter :: rest =>
    match letterOption? letter with
    | some flag => .letters flag rest
    | none => unnamed text (letter :: rest)
  | _ => .plain text

/-- What the arguments are taken for. After two hyphens alone, nothing is an option. -/
def Word.ofTexts : List String → List Word
  | [] => []
  | text :: texts =>
    match Word.ofText text with
    | .divider => .divider :: texts.map .plain
    | word => word :: ofTexts texts

/-- What comes of the arguments. -/
inductive Reading where
  | choices (choices : Choices)
  | help
  | wrong
  deriving DecidableEq, Repr

/-- The options that letters in one argument name, and whether letters are left over that name none; nothing if a
value is given to one of them. -/
def readLetters (flag : Flag) : List Char → Option (List Flag × Bool)
  | [] => some ([flag], false)
  | letter :: rest =>
    if letter = '=' || letter = '-' then none
    else
      match letterOption? letter with
      | none => some ([flag], true)
      | some next => (readLetters next rest).map fun (flags, more) => (flag :: flags, more)

def Choices.add (c : Choices) : Flag → Choices
  | .help => c
  | .noSync => { c with noSync := true }
  | .dryRun => { c with dryRun := true }
  | .verbose => { c with verbose := true }

def Choices.put (c : Choices) (value : String) : Slot → Choices
  | .repositoryPath => { c with repositoryPath := some (Path.ofText value) }
  | .search => { c with search := some value }
  | .tool => { c with tool := some value }
  | .arguments => { c with arguments := value }

/-- Reads the words from left to right; `stray` tells whether one of those before belongs to nothing. The option for
help counts where it stands, before anything wrong after it. -/
def readWords (c : Choices) (stray : Bool) : List Word → Reading
  | [] => if stray then .wrong else .choices c
  | .long (.slot slot) (some value) :: words => readWords (c.put value slot) stray words
  | .long (.slot slot) none :: .plain value :: words => readWords (c.put value slot) stray words
  | .long (.slot _) none :: _ => .wrong
  | .long (.flag .help) none :: _ => .help
  | .long (.flag flag) none :: words => readWords (c.add flag) stray words
  | .long (.flag _) (some _) :: _ => .wrong
  | .letters flag rest :: words =>
    match readLetters flag rest with
    | none => .wrong
    | some (flags, more) =>
      if flags.contains .help then .help else readWords (flags.foldl Choices.add c) (stray || more) words
  | _ :: words => readWords c true words

def Reading.ofArguments (arguments : List String) : Reading :=
  let words := Word.ofTexts arguments
  if words.contains .ambiguous then .wrong else readWords {} false words

end Catalog.CommandLine
