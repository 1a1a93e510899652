import Catalog.Failure
import Catalog.Index.State

/-! Several callers ask for a build at the same time: one of them builds, and those who waited for a build that
succeeded take over its summary. -/
namespace Catalog

/-- How far a caller has come. He reads the generation of the index, looks whether he is cancelled, waits for his
turn, decides whether a build has succeeded since, builds if not and makes his success known, and gives the turn
back. -/
inductive Progression where
  | outside
  | arriving (observed : Nat)
  | waiting (observed : Nat)
  | deciding (observed : Nat)
  | building (observed : Nat)
  | publishing (summary : Summary)
  | leaving (answer : Except Failure Summary)
  | gone (answer : Except Failure Summary)

namespace Progression

def hasTurn : Progression → Bool
  | deciding _ => true
  | building _ => true
  | publishing _ => true
  | leaving _ => true
  | _ => false

/-- Whether the caller is inside a build of his own. -/
def isBuilding : Progression → Bool
  | building _ => true
  | _ => false

def answer? : Progression → Option (Except Failure Summary)
  | gone answer => some answer
  | _ => none

end Progression

/-- A step that one caller makes, or, for `stop`, that somebody makes who sets his cancel flag. -/
inductive Move where
  | stop
  | read
  | arrive
  | giveUp
  | take
  | decide
  | finish (store : Store) (taxonomy : Taxonomy) (outcome : Except Failure Summary)
  | publish (now : String)
  | release

/-- What a step of a caller makes of the index and of him, if he can make it. -/
def Progression.advance (ix : Index) (isCancelled : Bool) : Progression → Move → Option (Index × Progression)
  | outside, .read => some (ix, arriving ix.generation)
  | arriving observed, .arrive =>
    some (ix, if isCancelled then gone (.error .buildCancelled) else waiting observed)
  | waiting _, .giveUp => if isCancelled then some (ix, gone (.error .buildCancelled)) else none
  | waiting observed, .take => if ix.isTaken then none else some (ix.take, deciding observed)
  | deciding observed, .decide =>
    if ix.generation ≠ observed then some (ix, leaving (ix.lastSummary.elim (.error .notBuilt) .ok))
    else some (ix.enter, building observed)
  | building _, .finish store taxonomy (.ok summary) => some (ix.fill store taxonomy, publishing summary)
  | building _, .finish store taxonomy (.error failure) =>
    some (ix.fill store taxonomy, leaving (.error failure))
  | publishing summary, .publish now => some (ix.publish summary now, leaving (.ok summary))
  | leaving answer, .release => some (ix.release, gone answer)
  | _, _ => none

/-- A caller. His cancel flag is absent if nothing can stop him. -/
structure Caller where
  flag : Option Bool := none
  place : Progression := .outside

namespace Caller

def isCancelled (c : Caller) : Bool :=
  c.flag = some true

/-- What a step makes of the index and of the caller, if it can be made. -/
def step (ix : Index) (c : Caller) : Move → Option (Index × Caller)
  | .stop => c.flag.map fun _ => (ix, { c with flag := some true })
  | move => (c.place.advance ix c.isCancelled move).map fun (ix, place) => (ix, { c with place := place })

end Caller

structure Turns where
  index : Index
  callers : List Caller

namespace Turns

/-- The step of the caller with the number `i`, if there is one and it can be made. -/
def step (t : Turns) (i : Nat) (move : Move) : Option Turns := do
  let c ← t.callers[i]?
  let (ix, c) ← c.step t.index move
  some ⟨ix, t.callers.set i c⟩

end Turns
end Catalog
