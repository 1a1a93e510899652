import Catalog.Json.Basic
import Catalog.Task.Board

/-! Tasks as JSON objects. -/
namespace Catalog

/-- What stands for the parts of a task that the record leaves open: its reports, its result and the text of its
failure. -/
structure TaskWording (ε ρ : Type) where
  report : ε → Json
  result : ρ → Json
  failure : Failure → String

namespace Task

variable {ε ρ : Type}

/-- The members before and after the reports. -/
def frontMembers (t : Task ε ρ) : List (String × Json) := [
  ("id", .string t.id), ("name", .string t.name), ("kind", .string t.kind), ("status", .string t.status.label),
  ("started_at", .string t.startedAt), ("finished_at", .ofText? t.finishedAt)]

def backMembers (t : Task ε ρ) (wording : TaskWording ε ρ) : List (String × Json) := [
  ("result", t.result.elim .null wording.result),
  ("error", .ofText? (t.error.map wording.failure))]

/-- A task without its reports. -/
def brief (t : Task ε ρ) (wording : TaskWording ε ρ) : Json :=
  .object (t.frontMembers ++ t.backMembers wording)

/-- A task with its reports. -/
def full (t : Task ε ρ) (wording : TaskWording ε ρ) : Json :=
  .object (t.frontMembers ++ [("progress_events", .array (t.reports.map wording.report))] ++ t.backMembers wording)

end Task
end Catalog
