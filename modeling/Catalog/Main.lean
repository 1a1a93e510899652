import Catalog.CommandLine.Run

/-! The program. It reads a snapshot of the working folder from standard input: a JSON object with a member for each
file, and a null for each folder that is to be there without one. Commands of the version control system are taken
for missing, so only a checkout in the snapshot can be indexed. -/
namespace Catalog.Program

/-- The variables that settings are read from. -/
def variableNames : List String := [
  "REPO_URL", "REPO_BRANCH", "GIT_SHALLOW", "REPO_PATH", "DATA_DIR", "INDEX_WORKERS", "INDEX_ON_STARTUP",
  "DOCS_BASE_URL", "SOURCE_BASE_URL", "HOST", "PORT", "LOG_LEVEL"]

/-- The environment, as far as it is of use. -/
def environment : IO (List (String × String)) :=
  variableNames.filterMapM fun name => do
    return (← IO.getEnv name).map (name, ·)

/-- The workspace that the members of a snapshot make. -/
def workspaceOf (members : List (String × Json)) : Workspace :=
  ⟨members.foldl (fun tree (name, content) =>
    let parts := (Path.ofText name).parts
    match content with
    | .string text => tree.write parts text.toUTF8.toList
    | _ => tree.addFolder parts) {}, []⟩

/-- How deep JSON may be nested. -/
def nesting : Nat := 1000

/-- The workspace of a snapshot, an empty one if it is none. -/
def workspaceOfText (text : String) : Workspace :=
  match Json.read nesting text with
  | .ok (.object members) => workspaceOf members
  | _ => workspaceOf []

/-- Everything that is left to read. -/
partial def readAll (input : IO.FS.Stream) (text : String) : IO String := do
  let line ← input.getLine
  if line.isEmpty then return text else readAll input (text ++ line)

/-- A span of milliseconds in seconds, with one place after the point. -/
def secondsText (milliseconds : Nat) : String :=
  let tenths := (milliseconds + 50) / 100
  toString (tenths / 10) ++ "." ++ toString (tenths % 10)

/-- Writes what is to be written, and gives the exit code: one for a failure that escapes. -/
def finish (output : CommandLine.Output) : IO UInt32 := do
  IO.print output.printed
  IO.eprint output.complaint
  match output.escaped with
  | some failure =>
    IO.eprintln failure.message
    return 1
  | none => return UInt32.ofNat output.exitCode

/-- Runs the command line on the snapshot that is read. -/
def start (settings : Settings) (arguments : List String) : IO UInt32 := do
  let begun ← IO.monoMsNow
  let w := workspaceOfText (← readAll (← IO.getStdin) "")
  let session : Git.Session := { outcomes := [.notInstalled, .notInstalled] }
  finish (CommandLine.run settings w session nesting "" (secondsText ((← IO.monoMsNow) - begun)) arguments)

end Catalog.Program

def main (arguments : List String) : IO UInt32 := do
  match Catalog.Settings.read (← Catalog.Program.environment) with
  | .ok settings => Catalog.Program.start settings arguments
  | .error failure =>
    IO.eprintln failure.message
    return 1
