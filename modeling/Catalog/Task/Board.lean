import Catalog.Failure
import Catalog.Keyed

/-! Tasks that run in the background: a record of each, found by its id, and the jobs behind them, of which two run
at a time. An exclusive task is refused while the records show another one running. -/
namespace Catalog

inductive TaskStatus where
  | running
  | completed
  | cancelled
  | failed
  deriving DecidableEq, Repr, Inhabited

def TaskStatus.label : TaskStatus → String
  | running => "running"
  | completed => "completed"
  | cancelled => "cancelled"
  | failed => "failed"

/-- What is recorded of a task with reports of type `ε` and a result of type `ρ`. The ticket tells its job from
those of other tasks with the same id. -/
structure Task (ε ρ : Type) where
  id : String
  name : String
  kind : String
  ticket : Nat
  startedAt : String
  status : TaskStatus := .running
  finishedAt : Option String := none
  reports : List ε := []
  result : Option ρ := none
  error : Option Failure := none
  deriving Repr, Inhabited

/-- A job that was accepted for a task. -/
structure Job where
  ticket : Nat
  id : String
  kind : String
  deriving DecidableEq, Repr, Inhabited

/-- The records in the order in which their ids were first used, the tickets whose cancellation was asked for, and
the jobs that wait or run. -/
structure TaskBoard (ε ρ : Type) where
  tasks : List (Task ε ρ) := []
  cancelledTickets : List Nat := []
  nextTicket : Nat := 0
  queued : List Job := []
  active : List Job := []
  closed : Bool := false
  deriving Repr, Inhabited

/-- The kind of a task that suffers no other of its kind beside it. -/
def exclusiveKind : String := "exclusive"

namespace Task

variable {ε ρ : Type}

/-- Whether the record shows an exclusive task running. -/
def blocks (t : Task ε ρ) : Bool :=
  t.status = .running && t.kind = exclusiveKind

/-- The most reports that are kept. -/
def maxReports : Nat := 200

/-- Adds a report; the oldest ones go when there are too many. -/
def addReport (t : Task ε ρ) (report : ε) : Task ε ρ :=
  let reports := t.reports ++ [report]
  { t with reports := reports.drop (reports.length - maxReports) }

/-- Records the end of the job at the time `now`. -/
def finish (t : Task ε ρ) (outcome : Except Failure ρ) (now : String) : Task ε ρ :=
  match outcome with
  | .ok result => { t with status := .completed, result := some result, error := none, finishedAt := some now }
  | .error failure =>
    if failure.isCancellation then
      { t with status := .cancelled, result := none, error := none, finishedAt := some now }
    else { t with status := .failed, result := none, error := some failure, finishedAt := some now }

end Task

namespace TaskBoard

variable {ε ρ : Type}

/-- The most jobs that run at a time. -/
def maxActive : Nat := 2

def task? (b : TaskBoard ε ρ) (id : String) : Option (Task ε ρ) :=
  b.tasks.find? fun t => t.id = id

def hasRunningExclusive (b : TaskBoard ε ρ) : Bool :=
  b.tasks.any Task.blocks

/-- Puts a record in the place of that with the same id, or at the end. -/
def insert (task : Task ε ρ) (tasks : List (Task ε ρ)) : List (Task ε ρ) :=
  Keyed.insert Task.id (fun _ new => new) task tasks

def update (b : TaskBoard ε ρ) (id : String) (f : Task ε ρ → Task ε ρ) : TaskBoard ε ρ :=
  { b with tasks := b.tasks.map fun t => if t.id = id then f t else t }

/-- Accepts a task at the time `now`, and its job. After the board was closed the task is recorded, and then
refused. -/
def submit (b : TaskBoard ε ρ) (id name kind now : String) : TaskBoard ε ρ × Except Failure Job :=
  if kind = exclusiveKind && b.hasRunningExclusive then (b, .error .exclusiveTaskRunning)
  else
    let job : Job := ⟨b.nextTicket, id, kind⟩
    let task : Task ε ρ := { id := id, name := name, kind := kind, ticket := job.ticket, startedAt := now }
    let b := { b with tasks := insert task b.tasks, nextTicket := b.nextTicket + 1 }
    if b.closed then (b, .error .tasksClosed) else ({ b with queued := b.queued ++ [job] }, .ok job)

/-- Starts the job that has waited longest, if there is room. -/
def start (b : TaskBoard ε ρ) : Option (Job × TaskBoard ε ρ) :=
  match b.queued with
  | [] => none
  | job :: queued =>
    if b.active.length < maxActive then some (job, { b with queued := queued, active := b.active ++ [job] })
    else none

/-- Ends a job with its outcome. It is the record of its id that shows it. -/
def finish (b : TaskBoard ε ρ) (job : Job) (outcome : Except Failure ρ) (now : String) : TaskBoard ε ρ :=
  { b.update job.id (fun t => t.finish outcome now) with active := b.active.filter fun j => j.ticket ≠ job.ticket }

/-- Adds a report to the record of an id. -/
def push (b : TaskBoard ε ρ) (id : String) (report : ε) : TaskBoard ε ρ :=
  b.update id fun t => t.addReport report

/-- Whether cancellation of a job was asked for. -/
def isCancelled (b : TaskBoard ε ρ) (ticket : Nat) : Bool :=
  b.cancelledTickets.contains ticket

/-- Asks for the cancellation of a running task; answers whether there is one with the id. -/
def cancel (b : TaskBoard ε ρ) (id : String) : TaskBoard ε ρ × Bool :=
  match b.task? id with
  | none => (b, false)
  | some t =>
    if t.status = .running then ({ b with cancelledTickets := t.ticket :: b.cancelledTickets }, true)
    else (b, false)

/-- Takes no more jobs, and asks for the cancellation of all tasks if wanted. -/
def close (b : TaskBoard ε ρ) (cancelRunning : Bool) : TaskBoard ε ρ :=
  let cancelled := if cancelRunning then b.tasks.map Task.ticket else []
  { b with closed := true, cancelledTickets := cancelled ++ b.cancelledTickets }

end TaskBoard
end Catalog
