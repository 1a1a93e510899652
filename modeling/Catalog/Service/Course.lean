import Catalog.Index.Turn
import Catalog.Service.Answer
import Catalog.Task.Course

/-! What happens to a service one thing after another: requests come, jobs begin, and the build behind each job goes
its way step by step, until its end is recorded. -/
namespace Catalog

/-- A service at work. The place tells, by the ticket of a job, how far the build behind the job has come. -/
structure Operation where
  service : Service := {}
  place : Nat → Progression := fun _ => .outside

namespace Operation

/-- A build that is being made changes the contents of the index and reports before it ends. -/
inductive Event where
  | request (around : Service.Surroundings) (request : Service.Request)
  | start
  | move (job : Job) (move : Move)
  | contents (job : Job) (store : Store) (taxonomy : Taxonomy)
  | report (job : Job) (progress : Progress)
  | record (job : Job) (now : String)

def withIndex (o : Operation) (index : Index) : Operation :=
  { o with service := { o.service with index := index } }

def withBoard (o : Operation) (board : TaskBoard Progress Summary) : Operation :=
  { o with service := { o.service with board := board } }

def withPlace (o : Operation) (job : Job) (place : Progression) : Operation :=
  { o with place := fun ticket => if ticket = job.ticket then place else o.place ticket }

def runs (o : Operation) (job : Job) : Bool :=
  o.service.board.active.contains job

/-- Whether the build behind the job is being made. -/
def builds (o : Operation) (job : Job) : Bool :=
  o.runs job && (o.place job.ticket).isBuilding

/-- The operation after an event; what cannot happen changes nothing. -/
def step (o : Operation) : Event → Operation
  | .request around request => { o with service := (o.service.handle around request).1 }
  | .start => o.withBoard (o.service.board.step .start)
  | .move job move =>
    let cancelled := o.service.board.isCancelled job.ticket
    match (o.place job.ticket).advance o.service.index cancelled move with
    | some (index, place) => if o.runs job then (o.withIndex index).withPlace job place else o
    | none => o
  | .contents job store taxonomy =>
    if o.builds job then o.withIndex (o.service.index.fill store taxonomy) else o
  | .report job progress => if o.builds job then o.withBoard (o.service.board.push job.id progress) else o
  | .record job now =>
    match (o.place job.ticket).answer? with
    | some outcome => o.withBoard (o.service.board.step (.finish job outcome now))
    | none => o

def run (o : Operation) (events : List Event) : Operation :=
  events.foldl step o

end Operation
end Catalog
