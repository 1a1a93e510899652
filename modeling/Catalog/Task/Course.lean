import Catalog.Task.Board

/-! What happens on a board one thing after another: tasks are submitted, jobs begin, report and end, and
cancellation is asked for. -/
namespace Catalog.TaskBoard

variable {ε ρ : Type}

inductive Event (ε ρ : Type) where
  | submit (id name kind now : String)
  | start
  | push (id : String) (report : ε)
  | finish (job : Job) (outcome : Except Failure ρ) (now : String)
  | cancel (id : String)
  | close (cancelRunning : Bool)

/-- The board after an event; only a job that runs can end. -/
def step (b : TaskBoard ε ρ) : Event ε ρ → TaskBoard ε ρ
  | .submit id name kind now => (b.submit id name kind now).1
  | .start => b.start.elim b Prod.snd
  | .push id report => b.push id report
  | .finish job outcome now => if b.active.contains job then b.finish job outcome now else b
  | .cancel id => (b.cancel id).1
  | .close cancelRunning => b.close cancelRunning

def run (b : TaskBoard ε ρ) (events : List (Event ε ρ)) : TaskBoard ε ρ :=
  events.foldl step b

/-- The jobs that were accepted and have not ended. -/
def live (b : TaskBoard ε ρ) : List Job :=
  b.queued ++ b.active

end Catalog.TaskBoard
