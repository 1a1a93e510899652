import Catalog.Text.Broken
import Catalog.Text.Integer

/-! Everything that can go wrong, by cause. -/
namespace Catalog

/-- Why a tool refuses a call. -/
inductive ToolFault where
  | invalidArguments (tool : String) (problems : List (String × String))
  | missingText (argument : String)
  | outOfRange (argument : String) (least most : Nat)
  | unknownComponent (name : AnyText)
  | unknownType (name : AnyText)
  | unknownExample (name : AnyText) (component : String) (available : List String)
  | unknownField (text : AnyText)
  | unknownRelationship (text : AnyText)
  deriving DecidableEq, Repr

/-- Why a command of the version control system failed. -/
inductive GitFault where
  | failed (arguments : List String) (output : String)
  | timedOut (arguments : List String) (limit : String)
  | notInstalled
  deriving DecidableEq, Repr

/-- Why a file or folder cannot be used as asked. -/
inductive FileFault where
  | isFolder
  | notFolder
  | occupied
  | missing
  deriving DecidableEq, Repr

/-- A cause of failure. -/
inductive Failure where
  | blankName (what : String)
  | unknownField (text : String)
  | unknownRelationship (text : String)
  | number (error : Text.NumberError)
  | strayStars
  | notBuilt
  | repositoryUnavailable
  | cancelled (reason : String)
  | tool (fault : ToolFault)
  | unknownTool (name : String)
  | argumentsNotObject
  | tooDeep
  | notEncodable (text : Broken)
  | git (fault : GitFault)
  | file (fault : FileFault)
  | exclusiveTaskRunning
  | tasksClosed
  | foreign (kind message : String)
  deriving DecidableEq, Repr

def unknownFieldMessage (text : AnyText) : String :=
  "Unknown search field " ++ text.quoted ++ ". Use any of: name, description, parameters, examples, all"

def unknownRelationshipMessage (text : AnyText) : String :=
  "Unknown relationship type " ++ text.quoted ++ ". Use one of: all, sibling, parent, child"

/-- What is said of a fault. Some faults tell a name as it was given, so a broken name makes a broken message. -/
def ToolFault.wording : ToolFault → AnyText
  | .invalidArguments tool problems =>
    .whole ("Invalid arguments for " ++ tool ++ ": " ++
      Text.join "; " (problems.map fun (argument, problem) => argument ++ ": " ++ problem))
  | .missingText argument => .whole (argument ++ " is required.")
  | .outOfRange argument least most =>
    .whole (argument ++ " must be between " ++ toString least ++ " and " ++ toString most ++ ".")
  | .unknownComponent name =>
    name.within "Component '" "' not found. Use list_components to see available components."
  | .unknownType name => name.within "Type '" "' not found. Use list_components to see available components."
  | .unknownExample name component available =>
    let names := Text.join ", " available
    name.within "Example '" ("' not found for " ++ component ++ ". Available examples: " ++
      (if names.isEmpty then "none" else names) ++ ".")
  | .unknownField text => .whole (unknownFieldMessage text)
  | .unknownRelationship text => .whole (unknownRelationshipMessage text)

def GitFault.message : GitFault → String
  | .failed arguments output => "git " ++ Text.join " " arguments ++ " failed: " ++ Text.trim output
  | .timedOut arguments limit => "git " ++ Text.join " " arguments ++ " timed out after " ++ limit ++ "s"
  | .notInstalled => "git is not installed or not in PATH"

def FileFault.message : FileFault → String
  | .isFolder => "Is a directory"
  | .notFolder => "Not a directory"
  | .occupied => "File exists"
  | .missing => "No such file or directory"

/-- What is said of a failure, as an error stream shows it. -/
def Failure.message : Failure → String
  | .blankName what => what ++ " must not be empty"
  | .unknownField text => unknownFieldMessage text
  | .unknownRelationship text => unknownRelationshipMessage text
  | .number error => error.message
  | .strayStars => "Invalid pattern: '**' can only be an entire path component"
  | .notBuilt => "Index has not been built. Call build_index() first."
  | .repositoryUnavailable => "Repository is not available for indexing"
  | .cancelled reason => reason
  | .tool fault => fault.wording.shown
  | .unknownTool name => "Unknown tool: " ++ name
  | .argumentsNotObject => "The arguments of a tool must be a JSON object"
  | .tooDeep => "maximum recursion depth exceeded"
  | .notEncodable text => text.encodingFault
  | .git fault => fault.message
  | .file fault => fault.message
  | .exclusiveTaskRunning => "An exclusive task is already running"
  | .tasksClosed => "cannot schedule new futures after shutdown"
  | .foreign _ message => message

def Failure.wording : Failure → AnyText
  | .tool fault => fault.wording
  | failure => .whole failure.message

@[simp]
theorem Failure.wording_tool (fault : ToolFault) : (tool fault).wording = fault.wording := rfl

/-- A build that saw its cancel flag set. -/
def Failure.buildCancelled : Failure :=
  .cancelled "Index build was cancelled"

/-- Whether the failure is a cancellation, which ends a build instead of counting as an error in it. -/
def Failure.isCancellation : Failure → Bool
  | .cancelled _ => true
  | _ => false

def checkCancelled (cancelled : Bool) : Except Failure Unit :=
  if cancelled then .error .buildCancelled else .ok ()

/-- A name is blank when nothing but blank characters is in it. -/
def requireName (value what : String) : Except Failure Unit :=
  if Text.isBlankText value then .error (.blankName what) else .ok ()

end Catalog
