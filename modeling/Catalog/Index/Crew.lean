import Catalog.Index.Build

/-! Phase one with any number of workers. A leader hands out the folders and hears what became of them, batch by
batch; the workers read the folders and write to the store meanwhile, each at his own pace. -/
namespace Catalog

open Build (Outcome Tally)

/-- What has become of a folder. -/
inductive Errand where
  | unsent
  | queued
  | reading
  | writing (component : Component) (reference : ApiReference)
  | completing (name : String) (reference : ApiReference)
  | done (result : Except Failure (Outcome String))
  | heard
  | dropped

namespace Errand

/-- Whether a worker is at the folder or may still begin with it. -/
def isOpen : Errand → Bool
  | queued => true
  | reading => true
  | writing _ _ => true
  | completing _ _ => true
  | _ => false

/-- Whether a worker is at the folder. -/
def isBegun : Errand → Bool
  | reading => true
  | writing _ _ => true
  | completing _ _ => true
  | _ => false

/-- Whether a worker has ended with the folder and the leader has not heard of it. -/
def isDone : Errand → Bool
  | done _ => true
  | _ => false

/-- Whether the leader has heard of the folder. -/
def isHeard : Errand → Bool
  | heard => true
  | _ => false

variable {σ : Type}

/-- The next step of a worker at a folder, with the changes that he makes in the store. -/
def work (watch : Watch σ) (sources : Sources) (repository folder : Path) (bench : Workbench σ) :
    Errand → Option (Workbench σ × Errand × List Store.Change)
  | queued =>
    match Build.check watch bench with
    | .ok _ bench => some (bench, reading, [])
    | .error failure bench => some (bench, done (.error failure), [])
  | reading =>
    match Build.readItem watch (fun taxonomy => Build.readFolder sources taxonomy repository folder) bench with
    | .ok (.found (component, reference)) bench => some (bench, writing component reference, [])
    | .ok .nothing bench => some (bench, done (.ok .nothing), [])
    | .ok .failed bench => some (bench, done (.ok .failed), [])
    | .error failure bench => some (bench, done (.error failure), [])
  | writing component reference =>
    some ({ bench with store := bench.store.put component }, completing component.name reference, [.put component])
  | completing name reference =>
    some ({ bench with store := bench.store.putReference reference }, done (.ok (.found name)),
      [.putReference reference])
  | _ => none

end Errand

/-- What the leader is at. He closes the phase when it fails: nobody begins with a further folder once the queue is
dropped, and those who have begun come to their end. -/
inductive Lead where
  | sending (next : Nat)
  | waiting
  | hearing (batch : List Nat)
  | closing (failure : Failure)
  | ended (result : Except Failure Tally)

/-- The leader and the workers in phase one, with what was changed in the store so far. -/
structure Crew (σ : Type) where
  bench : Workbench σ
  errands : List Errand
  lead : Lead := .sending 0
  tally : Tally := {}
  told : Nat := 0
  written : List Store.Change := []

namespace Crew

/-- A step in phase one: of the leader, who waits for a batch of folders or does what is next, of the worker at a
folder, or of the pool, which drops a folder from its queue. -/
inductive Move where
  | lead
  | gather (batch : List Nat)
  | work (i : Nat)
  | drop (i : Nat)

variable {σ : Type}

/-- The crew before phase one. -/
def start (sources : Sources) (bench : Workbench σ) : Crew σ :=
  { bench := bench, errands := sources.folders.map fun _ => .unsent }

/-- The crew whose leader has made a check, and goes on or closes the phase. -/
def checked (watch : Watch σ) (crew : Crew σ) (next : Crew σ → Crew σ) : Crew σ :=
  match Build.check watch crew.bench with
  | .ok _ bench => next { crew with bench := bench }
  | .error failure bench => { crew with bench := bench, lead := .closing failure }

/-- The crew whose leader has heard what became of a folder, and reports it. -/
def hear (watch : Watch σ) (crew : Crew σ) (i : Nat) (outcome : Outcome String) (batch : List Nat) : Crew σ :=
  match Build.report watch (.component (crew.told + 1) crew.errands.length outcome.value?) crew.bench with
  | .ok _ bench =>
    { crew with
      bench := bench
      errands := crew.errands.set i .heard
      lead := .hearing batch
      tally := crew.tally.add outcome
      told := crew.told + 1 }
  | .error failure bench => { crew with bench := bench, lead := .closing failure }

/-- What the leader does next, unless he has to wait. -/
def guide (watch : Watch σ) (crew : Crew σ) : Option (Crew σ) :=
  match crew.lead with
  | .sending next =>
    match crew.errands[next]? with
    | some .unsent =>
      some (crew.checked watch fun crew =>
        { crew with errands := crew.errands.set next .queued, lead := .sending (next + 1) })
    | some _ => none
    | none => some { crew with lead := .waiting }
  | .waiting =>
    if crew.errands.all Errand.isHeard then
      some { crew with
        bench := { crew.bench with store := crew.bench.store.retain crew.tally.names }
        lead := .ended (.ok crew.tally) }
    else none
  | .hearing [] => some (crew.checked watch fun crew => { crew with lead := .waiting })
  | .hearing (i :: batch) =>
    match crew.errands[i]? with
    | some (.done (.ok outcome)) => some (crew.hear watch i outcome batch)
    | some (.done (.error failure)) => some { crew with lead := .closing failure }
    | _ => none
  | .closing failure =>
    if crew.errands.any Errand.isOpen then none else some { crew with lead := .ended (.error failure) }
  | .ended _ => none

/-- The leader stops waiting, for folders that are done or because he has waited long enough. -/
def gather (crew : Crew σ) (batch : List Nat) : Option (Crew σ) :=
  match crew.lead with
  | .waiting =>
    if !crew.errands.all Errand.isHeard && batch.all (fun i => (crew.errands[i]?).any Errand.isDone) &&
        decide batch.Nodup then
      some { crew with lead := .hearing batch }
    else none
  | _ => none

/-- The step of the worker at the folder with the number `i`. -/
def work (watch : Watch σ) (sources : Sources) (repository : Path) (crew : Crew σ) (i : Nat) : Option (Crew σ) := do
  let folder ← sources.folders[i]?
  let errand ← crew.errands[i]?
  let (bench, errand, changes) ← errand.work watch sources repository folder crew.bench
  some { crew with bench := bench, errands := crew.errands.set i errand, written := crew.written ++ changes }

/-- The pool drops the folder with the number `i` when the phase is closed before anybody began with it. -/
def drop (crew : Crew σ) (i : Nat) : Option (Crew σ) :=
  match crew.lead, crew.errands[i]? with
  | .closing _, some .queued => some { crew with errands := crew.errands.set i .dropped }
  | _, _ => none

/-- What a step makes of the crew, if it can be made. -/
def step (watch : Watch σ) (sources : Sources) (repository : Path) (crew : Crew σ) : Move → Option (Crew σ)
  | .lead => crew.guide watch
  | .gather batch => crew.gather batch
  | .work i => crew.work watch sources repository i
  | .drop i => crew.drop i

/-- The crew after steps made one after another; a step that cannot be made is left out. -/
def run (watch : Watch σ) (sources : Sources) (repository : Path) (crew : Crew σ) (moves : List Move) : Crew σ :=
  moves.foldl (fun crew move => (crew.step watch sources repository move).getD crew) crew

/-- How many folders workers are at. -/
def underWay (crew : Crew σ) : Nat :=
  crew.errands.countP Errand.isBegun

/-- What a step makes of a crew with so many workers, if it can be made and they are enough for it. -/
def stepWith (workers : Nat) (watch : Watch σ) (sources : Sources) (repository : Path) (crew : Crew σ) (move : Move) :
    Option (Crew σ) :=
  (crew.step watch sources repository move).filter fun crew => crew.underWay ≤ workers

/-- The crew with so many workers after steps made one after another. -/
def runWith (workers : Nat) (watch : Watch σ) (sources : Sources) (repository : Path) (crew : Crew σ)
    (moves : List Move) : Crew σ :=
  moves.foldl (fun crew move => (crew.stepWith workers watch sources repository move).getD crew) crew

/-- How phase one has ended, if it has. -/
def result? (crew : Crew σ) : Option (EStateM.Result Failure (Workbench σ) Tally) :=
  match crew.lead with
  | .ended (.ok tally) => some (.ok tally crew.bench)
  | .ended (.error failure) => some (.error failure crew.bench)
  | _ => none

end Crew

namespace Index

variable {σ : Type}

/-- What a build that ended so makes of the index and of the watcher at the time `now`, and its answer. -/
def conclude (ix : Index) (now : String) :
    EStateM.Result Failure (Workbench σ) Summary → Index × σ × Except Failure Summary
  | .ok summary bench => (ix.settle bench.store bench.taxonomy now (.ok summary), bench.watcher, .ok summary)
  | .error failure bench => (ix.settle bench.store bench.taxonomy now (.error failure), bench.watcher, .error failure)

/-- Ends a build with so many workers, who make these steps in phase one with their leader; nothing if the phase does
not end with them. -/
def endBuildWith (workers : Nat) (ix : Index) (watch : Watch σ) (watcher : σ) (sources : Sources) (repository : Path)
    (available : Except Failure Bool) (now : String) (moves : List Crew.Move) :
    Option (Index × σ × Except Failure Summary) :=
  match Build.prepare watch repository available (ix.workbench watcher) with
  | .error failure bench => some (ix.conclude now (.error failure bench))
  | .ok _ bench =>
    ((Crew.start sources bench).runWith workers watch sources repository moves).result?.map fun
      | .ok tally bench => ix.conclude now (Build.enrich watch sources tally bench)
      | .error failure bench => ix.conclude now (.error failure bench)

/-- A whole build with so many workers, as `build` is one with a single worker who never gets ahead of his leader. -/
def buildWith (workers : Nat) (ix : Index) (watch : Watch σ) (watcher : σ) (ensure : σ → σ × Except Failure Bool)
    (sources : Sources) (repository : Path) (now : String) (moves : List Crew.Move) :
    Option (Index × σ × Except Failure Summary) :=
  match ix.beginBuild watch watcher with
  | (ix, watcher, .error failure) => some (ix, watcher, .error failure)
  | (ix, watcher, .ok ()) =>
    match ensure watcher with
    | (watcher, available) => ix.endBuildWith workers watch watcher sources repository available now moves

end Index
end Catalog
