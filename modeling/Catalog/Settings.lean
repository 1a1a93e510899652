import Catalog.Failure
import Catalog.Files.Path
import Catalog.Link
import Catalog.Repository
import Catalog.Text.Case

/-! Settings, read from the variables of the environment. -/
namespace Catalog

structure Settings where
  repositoryUrl : String
  repositoryBranch : String
  shallow : Bool
  repositoryPath : Path
  dataFolder : Path
  workers : Int
  indexOnStartup : Bool
  documentationBase : String
  sourceBase : String
  host : String
  portNumber : Int
  logLevel : String
  deriving Repr

namespace Settings

/-- The value of a variable, `default` if it is not set. -/
def value (environment : List (String × String)) (name default : String) : String :=
  (environment.lookup name).getD default

/-- Whether a text means yes. -/
def isYes (text : String) : Bool :=
  ["1", "true", "yes", "on"].contains (Text.lower (Text.trim text))

/-- The whole number that a variable holds. -/
def integer (environment : List (String × String)) (name default : String) : Except Failure Int :=
  (Text.readInt (value environment name default)).mapError .number

/-- The settings that an environment makes. -/
def read (environment : List (String × String)) : Except Failure Settings := do
  let text := value environment
  let workers ← integer environment "INDEX_WORKERS" "8"
  let portNumber ← integer environment "PORT" "8000"
  .ok {
    repositoryUrl := text "REPO_URL" "https://github.com/bitfoundation/bitplatform.git"
    repositoryBranch := text "REPO_BRANCH" "develop"
    shallow := isYes (text "GIT_SHALLOW" "true")
    repositoryPath := Path.ofText (text "REPO_PATH" "")
    dataFolder := Path.ofText (text "DATA_DIR" "./data")
    workers := workers
    indexOnStartup := isYes (text "INDEX_ON_STARTUP" "true")
    documentationBase := text "DOCS_BASE_URL" Link.documentationBase
    sourceBase := text "SOURCE_BASE_URL" Link.sourceBase
    host := text "HOST" "0.0.0.0"
    portNumber := portNumber
    logLevel := Text.upper (text "LOG_LEVEL" "INFO") }

def clonesFolder (s : Settings) : Path :=
  s.dataFolder.child "repos"

/-- Whether the settings name a checkout that is to be left as it is. -/
def usesLocalCheckout (s : Settings) : Bool :=
  !s.repositoryPath.isEmpty

/-- The name of a clone: the last part of its address without the ending `.git`. -/
def cloneName (url : String) : String :=
  let name := Text.afterLast (Link.withoutEndSlashes url) '/'
  let name := if Text.finishesWith name ".git" then Text.dropLast name 4 else name
  if name.isEmpty then "repo" else name

def checkoutPath (s : Settings) : Path :=
  if s.usesLocalCheckout then s.repositoryPath else s.clonesFolder.append (Path.ofText (cloneName s.repositoryUrl))

/-- How the checkout is kept, unless other choices are given. -/
def plan (s : Settings) : RepositoryPlan where
  path := s.checkoutPath
  url := s.repositoryUrl
  branch := s.repositoryBranch
  shallow := s.shallow
  sync := !s.usesLocalCheckout

end Settings
end Catalog
