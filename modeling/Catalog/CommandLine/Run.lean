import Catalog.CommandLine.Choices
import Catalog.Index.Build
import Catalog.Json.Reader
import Catalog.Settings
import Catalog.Tool.Run

/-! What the command line does: it builds an index, tells how that went, and runs a tool if one is chosen. -/
namespace Catalog.CommandLine

/-- What is written, the exit status that is asked for, and the failure that escapes, if nothing is made of one. -/
structure Output where
  exitCode : Nat := 0
  printed : String := ""
  complaint : String := ""
  escaped : Option Failure := none
  deriving Repr, Inhabited

def Output.line (o : Output) (text : String) : Output :=
  { o with printed := o.printed ++ text ++ "\n" }

/-- Ends with a complaint. -/
def Output.complain (o : Output) (exitCode : Nat) (text : String) : Output :=
  { o with exitCode := exitCode, complaint := o.complaint ++ text ++ "\n" }

/-- Ends with an error. -/
def Output.fail (o : Output) (text : String) : Output :=
  o.complain 1 ("Error: " ++ text)

/-- Ends with a failure that nothing is made of, so no exit status is asked for. -/
def Output.escape (o : Output) (failure : Failure) : Output :=
  { o with escaped := some failure }

/-- Prints a line. A broken text cannot be encoded for it. -/
def Output.print (o : Output) : AnyText → Output
  | .whole text => o.line text
  | .broken text => o.escape (.notEncodable text)

/-- What is told about the arguments. -/
def help : List String := [
  "usage: index.py [-h] [--repo-path REPO_PATH] [--no-sync] [--search SEARCH]",
  "                [--tool TOOL] [--args ARGS] [--dry-run] [-v]",
  "",
  "Index the Bit BlazorUI component library",
  "",
  "options:",
  "  -h, --help            show this help message and exit",
  "  --repo-path REPO_PATH",
  "                        Use an existing checkout instead of cloning (default:",
  "                        REPO_PATH or data/repos)",
  "  --no-sync             Do not clone or pull; the checkout must already exist",
  "  --search SEARCH       Run a component search after indexing and print the",
  "                        result",
  "  --tool TOOL           Run a tool after indexing (e.g. get_component_detail)",
  "  --args ARGS           JSON object of tool arguments (e.g.",
  "                        '\x7b\"component_name\": \"BitButton\"\x7d')",
  "  --dry-run             Only report which files would be indexed",
  "  -v, --verbose         Debug logging"]

/-- The lines of the help that tell how to write the arguments. -/
def usage : List String :=
  help.take 2

/-- How the checkout is kept. One that is chosen is left as it is. -/
def planOf (settings : Settings) (choices : Choices) : RepositoryPlan :=
  let plan := settings.plan
  { plan with
    path := choices.repositoryPath.getD plan.path
    sync := plan.sync && !choices.noSync && choices.repositoryPath.isNone }

/-- Only tells what would be indexed. -/
def dryRun (plan : RepositoryPlan) (request : Repository.Request) : Output :=
  match request.result with
  | .error failure => Output.escape {} failure
  | .ok false => Output.fail {} "repository is not available."
  | .ok true =>
    let folders := Checkout.componentFolders request.workspace plan.path
    let pages := Checkout.documentationPages request.workspace plan.path
    ((({} : Output).line ("Repository: " ++ plan.path.text)).line
      ("[components]     " ++ toString folders.length ++ " component directories")).line
      ("[documentation]  " ++ toString pages.length ++ " demo pages")

/-- Tells how the build went. -/
def report (summary : Summary) (elapsed : String) : Output :=
  [ "", "Index build complete:",
    "  Components indexed: " ++ toString summary.components,
    "  With documentation: " ++ toString summary.documented,
    "  With examples: " ++ toString summary.withExamples,
    "  Errors: " ++ toString summary.errors,
    "", "Done in " ++ elapsed ++ "s"].foldl Output.line {}

/-- Tells why there is no index. -/
def reportFailure : Failure → Output
  | .cancelled _ => Output.complain {} 130 "\nCancelled."
  | .repositoryUnavailable => Output.fail {} Failure.repositoryUnavailable.message
  | failure => Output.escape {} failure

/-- What a tool answers to a JSON value of arguments: to an object as to a call, to nothing as to a call without
arguments, and to no other value. -/
def callTool (ix : Index) (tool : String) (value : Json) : Except Failure AnyText :=
  match Arguments.ofJson? value with
  | some arguments => Tool.answer ix tool arguments
  | none =>
    if value.isNothing then Tool.answer ix tool (.named [])
    else if (ToolName.ofText? tool).isNone then .error (.unknownTool tool)
    else .error .argumentsNotObject

/-- Prints what a tool answers. An error stream takes every text, the broken ones with their halves of pairs escaped. -/
def printTool (o : Output) (ix : Index) (tool : String) (value : Json) : Output :=
  let o := o.line ""
  match callTool ix tool value with
  | .ok answer => o.print answer
  | .error failure =>
    match failure with
    | .unknownTool _ => o.fail failure.message
    | .tool _ => o.fail failure.message
    | _ => o.escape failure

def runTool (o : Output) (ix : Index) (nesting : Nat) (tool arguments : String) : Output :=
  match Json.read nesting arguments with
  | .ok value => printTool o ix tool value
  | .error e =>
    match e.reason with
    | .tooManyDigits count => o.escape (.number (.tooManyDigits count))
    | .tooDeep => o.escape .tooDeep
    | _ => o.fail ("--args is not valid JSON: " ++ e.message)

/-- Runs a search or a tool if one is chosen, the search if both are. -/
def runChosen (o : Output) (ix : Index) (nesting : Nat) (choices : Choices) : Output :=
  match choices.search, choices.tool with
  | some query, _ => printTool o ix "search_components" (.object [("query", .string query)])
  | none, some tool => runTool o ix nesting tool choices.arguments
  | none, none => o

/-- Builds an index from the repository that was asked for, and goes on from there. -/
def build (plan : RepositoryPlan) (choices : Choices) (request : Repository.Request) (nesting : Nat)
    (now elapsed : String) : Output :=
  let sources := Checkout.sources request.workspace plan.path
  match ({} : Index).build .unattended () (fun u => (u, request.result)) sources plan.path now with
  | (_, _, .error failure) => reportFailure failure
  | (ix, _, .ok summary) => runChosen (report summary elapsed) ix nesting choices

/-- Runs the command line in a workspace. The outcomes of commands come from the session; `nesting` is how deep JSON can
be nested to be read, `now` is the time, and `elapsed` tells how many seconds the build takes. -/
def run (settings : Settings) (w : Workspace) (session : Git.Session) (nesting : Nat) (now elapsed : String)
    (arguments : List String) : Output :=
  match Reading.ofArguments arguments with
  | .wrong => usage.foldl (Output.complain · 2) {}
  | .help => help.foldl Output.line {}
  | .choices choices =>
    let plan := planOf settings choices
    let request := ({} : Repository).ensure plan w session false
    if choices.dryRun then dryRun plan request else build plan choices request nesting now elapsed

end Catalog.CommandLine
