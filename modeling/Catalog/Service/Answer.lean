import Catalog.Service.State
import Catalog.Service.Request
import Catalog.Tool.Declaration
import Catalog.Tool.Run

/-! The answers of the service to requests. -/
namespace Catalog.Service

/-- What comes from outside for the answer to a request: the time, an id that no task has yet, the text by which the
failure of a task is told, how deep a body can be nested to be read, and how much deeper than its own levels an answer
can be nested to be sent. -/
structure Surroundings where
  now : String
  freshId : String
  describe : Failure → String
  nesting : Nat
  deeper : Nat

/-- The tasks in the words of the service. -/
def Surroundings.wording (around : Surroundings) : TaskWording Progress Summary :=
  ⟨Progress.toJson, Summary.toJson, around.describe⟩

/-- The state of the index. -/
def health (s : Service) : Response :=
  ⟨200, .object [
    ("status", .string (if s.index.isIndexed then "ok" else "indexing")), ("indexed", .bool s.index.isIndexed),
    ("building", .bool s.index.isBuilding), ("last_indexed", .ofText? s.index.lastIndexed),
    ("components", .int s.index.store.size)]⟩

/-- The status of a failed call. -/
def statusOf : Failure → Nat
  | .unknownTool _ => 404
  | .tool _ => 400
  | .notBuilt => 503
  | _ => 500

/-- The answer to the call of a tool, whose arguments are in the body. -/
def callTool (s : Service) (nesting : Nat) (name body : String) : Response :=
  match argumentsOf nesting body with
  | .error fault => fault.response
  | .ok arguments =>
    match Tool.answer s.index name arguments with
    | .ok result => ⟨200, .object [("tool", .string name), ("result", .ofText result)]⟩
    | .error failure => ⟨statusOf failure, .object [("detail", .ofText failure.wording)]⟩

/-- Asks for a build of the index, unless a task that builds it is running. -/
def buildIndex (s : Service) (around : Surroundings) : Service × Response :=
  if s.board.hasRunningExclusive then (s, .because 409 "An index build is already running")
  else
    match s.requestBuild around.freshId around.now with
    | (s, .ok job) =>
      (s, ⟨200, .object [("task_id", .string job.id), ("name", .string taskName),
        ("status", .string TaskStatus.running.label)]⟩)
    | (s, .error failure) => (s, .because 409 failure.message)

/-- All tasks, without their reports. -/
def listTasks (s : Service) (around : Surroundings) : Response :=
  ⟨200, .array (s.board.tasks.map fun t => t.brief around.wording)⟩

def showTask (s : Service) (around : Surroundings) (id : String) : Response :=
  match s.board.task? id with
  | some t => ⟨200, t.full around.wording⟩
  | none => .because 404 "Task not found"

/-- Asks for the cancellation of a task. -/
def cancelTask (s : Service) (id : String) : Service × Response :=
  let (board, found) := s.board.cancel id
  ({ s with board := board },
    if found then ⟨200, .object [("task_id", .string id), ("status", .string "cancelling")]⟩
    else .because 404 "No running task with that id")

/-- The answer of a page. -/
def visit (s : Service) (around : Surroundings) (body : String) : Route → Service × Response
  | .health => (s, s.health)
  | .tools => (s, ⟨200, ToolName.declarations⟩)
  | .tool name => (s, (s.callTool around.nesting name body).sent around.deeper)
  | .index => s.buildIndex around
  | .tasks => (s, s.listTasks around)
  | .task id => (s, s.showTask around id)
  | .cancellation id => s.cancelTask id

/-- The answer to a request. A path that only its last slashes keep from leading to a page is redirected. -/
def respond (s : Service) (around : Surroundings) (request : Request) : Service × Response :=
  let path := pathOf request.target
  match Route.ofPath path with
  | some route =>
    if request.method = route.method then s.visit around request.body route
    else (s, .because 405 "Method Not Allowed")
  | none => if Route.isSlashed path then (s, ⟨307, .null⟩) else (s, .because 404 "Not Found")

/-- The answer to a request as it is sent: to the method `HEAD`, without a body. -/
def handle (s : Service) (around : Surroundings) (request : Request) : Service × Response :=
  let (s, response) := s.respond around request
  (s, if request.method = "HEAD" then { response with body := .null } else response)

end Catalog.Service
