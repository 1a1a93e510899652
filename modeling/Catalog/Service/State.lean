import Catalog.Index.Build
import Catalog.Task.Listing

/-! The state of the service: an index, and the tasks that build it. A build begins and ends in steps of their own,
and requests come between them. -/
namespace Catalog

structure Service where
  index : Index := {}
  board : TaskBoard Progress Summary := {}

def Summary.toJson (s : Summary) : Json :=
  .object [("components", .int s.components), ("documented", .int s.documented),
    ("with_examples", .int s.withExamples), ("errors", .int s.errors)]

namespace Service

/-- The name of the tasks that build the index. -/
def taskName : String := "index"

/-- Accepts a task that builds the index, under an id that no task has yet. -/
def requestBuild (s : Service) (id now : String) : Service × Except Failure Job :=
  let (board, answer) := s.board.submit id taskName exclusiveKind now
  ({ s with board := board }, answer)

/-- The watch of a build: its task tells whether it is cancelled, and keeps the reports. -/
def watch (job : Job) : Watch (TaskBoard Progress Summary) where
  look board := (board, board.isCancelled job.ticket)
  report progress board := (board.push job.id progress, none)

/-- Begins the build that has waited longest, if there is room. It goes on to ask for the repository, unless it was
cancelled before: then it has ended. -/
def beginBuild (s : Service) (now : String) : Option (Service × Option Job) :=
  match s.board.start with
  | none => none
  | some (job, board) =>
    match s.index.beginBuild (watch job) board with
    | (index, board, .ok ()) => some (⟨index, board⟩, some job)
    | (index, board, .error failure) => some (⟨index, board.finish job (.error failure) now⟩, none)

/-- Ends the build behind a job, with the answer whether the repository is there. -/
def endBuild (s : Service) (job : Job) (sources : Sources) (repository : Path) (available : Except Failure Bool)
    (now : String) : Service :=
  match s.index.endBuild (watch job) s.board sources repository available now with
  | (index, board, outcome) => ⟨index, board.finish job outcome now⟩

/-- Starts the service, with a build of the index if that is wanted. -/
def startUp (s : Service) (indexOnStartup : Bool) (id now : String) : Service × Except Failure Unit :=
  if indexOnStartup then
    let (s, answer) := s.requestBuild id now
    (s, answer.map fun _ => ())
  else (s, .ok ())

/-- Shuts the service down: it takes no more tasks, and those that run are cancelled. -/
def shutDown (s : Service) : Service :=
  { s with board := s.board.close true }

end Service
end Catalog
