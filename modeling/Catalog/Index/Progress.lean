import Catalog.Json.Basic

/-! What a build reports while it runs. -/
namespace Catalog

inductive Progress where
  | syncing
  | synced (path : String)
  | component (current total : Nat) (name : Option String)
  | page (current total : Nat) (file : String)
  | examples (current total : Nat) (name : String)
  deriving DecidableEq, Repr

namespace Progress

def counted (step : String) (current total : Nat) (label : String) (value : Json) : Json :=
  .object [("step", .string step), ("current", .int current), ("total", .int total), (label, value)]

def toJson : Progress → Json
  | syncing => .object [("step", .string "repository"), ("status", .string "syncing")]
  | synced path => .object [("step", .string "repository"), ("status", .string "done"), ("path", .string path)]
  | component current total name => counted "components" current total "component" (.ofText? name)
  | page current total file => counted "documentation" current total "file" (.string file)
  | examples current total name => counted "examples" current total "component" (.string name)

end Progress
end Catalog
