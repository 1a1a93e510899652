import Catalog.Files.Tree
import Catalog.Json.Basic

/-! Commands of the version control system. They are run elsewhere; here is which ones are started and what is made
of their outcomes. -/
namespace Catalog.Git

/-- A span of time in seconds, written as a whole number or as a decimal one. -/
inductive Seconds where
  | whole (n : Int)
  | decimal (d : Decimal)
  deriving DecidableEq, Repr

def limitText : Option Seconds → String
  | some (.whole n) => toString n
  | some (.decimal d) => d.text
  | none => "None"

/-- A command: its arguments, the folder it is started in, and the time it may take. -/
structure Command where
  arguments : List String
  folder : Option Path := none
  limit : Option Seconds := none
  deriving DecidableEq, Repr

/-- How a command that was started came out. -/
inductive Outcome where
  | succeeded (output : String)
  | failed (output : String)
  | timedOut
  | notInstalled
  deriving DecidableEq, Repr, Inhabited

def Outcome.result (command : Command) : Outcome → Except GitFault String
  | .succeeded output => .ok (Text.trim output)
  | .failed output => .error (.failed command.arguments output)
  | .timedOut => .error (.timedOut command.arguments (limitText command.limit))
  | .notInstalled => .error .notInstalled

/-- The outcomes of the next commands, and the commands started so far. Further commands succeed without
output. -/
structure Session where
  outcomes : List Outcome := []
  started : List Command := []
  deriving Repr, Inhabited

def Session.run (session : Session) (command : Command) : Session × Except GitFault String :=
  (⟨session.outcomes.tail, session.started ++ [command]⟩,
    (session.outcomes.headD (.succeeded "")).result command)

/-- Whether the folder is the root of a working tree. -/
def isWorkingTree (w : Workspace) (folder : Path) : Bool :=
  w.exists? (folder.child ".git")

/-- The command for the revision of the working tree. -/
def headCommand (folder : Path) : Command :=
  { arguments := ["rev-parse", "HEAD"], folder := some folder }

/-- The command that brings the working tree up to date. -/
def pullCommand (folder : Path) (remote : String) (branch : Option String) (limit : Option Seconds) : Command :=
  { arguments := ["pull", "--ff-only", remote] ++ (branch.toList.filter fun b => !b.isEmpty)
    folder := some folder
    limit := limit }

/-- The command that makes a working tree. -/
def cloneCommand (url : String) (folder : Path) (shallow : Bool) (branch : Option String)
    (limit : Option Seconds) : Command :=
  let branch := branch.toList.filter fun b => !b.isEmpty
  { arguments :=
      ["clone"] ++ (if shallow then ["--depth", "1"] else []) ++ branch.flatMap (fun b => ["--branch", b]) ++
        [url, folder.text]
    limit := limit }

/-- Makes a working tree, in a folder that is made as needed. -/
def clone (w : Workspace) (session : Session) (url : String) (folder : Path) (shallow : Bool)
    (branch : Option String) (limit : Option Seconds) : Workspace × Session × Except Failure Unit :=
  match w.makeFolder folder.parent with
  | .error failure => (w, session, .error failure)
  | .ok w' =>
    let (session', result) := session.run (cloneCommand url folder shallow branch limit)
    (w', session', (result.map fun _ => ()).mapError .git)

end Catalog.Git
