import Catalog.Checkout
import Catalog.Entry
import Catalog.Index.Progress
import Catalog.Index.State

/-! Building an index from a checkout in three phases: components, documentation pages, examples. What goes wrong
with one item is counted and the item left out; only cancellation and a missing repository end a build. -/
namespace Catalog

/-- Those that read a checkout for a build. The last argument tells whether cancellation was asked for. -/
structure Sources where
  folders : List Path
  mainFile? : Path → Option Path
  pages : List Path
  readComponent : Path → Bool → Except Failure (Option SourceFacts)
  readPage : Path → Bool → Except Failure (Option PageFacts)
  findExamples : String → Bool → Except Failure (List Example)

/-- The sources that a checkout in the workspace gives. -/
def Checkout.sources (w : Workspace) (repository : Path) : Sources where
  folders := Checkout.componentFolders w repository
  mainFile? := Checkout.mainFile? w
  pages := Checkout.documentationPages w repository
  readComponent := Checkout.readComponent w
  readPage := Checkout.readPage w
  findExamples := Checkout.findExamples w repository

/-- One who follows a build: what a look tells whether cancellation is asked for, and what a report makes of him and
of the build. Two looks one after another may differ, since he is stopped at any time. -/
structure Watch (σ : Type) where
  look : σ → σ × Bool
  report : Progress → σ → σ × Option Failure

/-- The watch of a build that nobody follows. -/
def Watch.unattended : Watch Unit :=
  ⟨fun u => (u, false), fun _ u => (u, none)⟩

/-- What a build works on. -/
structure Workbench (σ : Type) where
  store : Store
  taxonomy : Taxonomy
  watcher : σ

/-- A step of a build: it changes the workbench, also where it fails. -/
abbrev BuildM (σ : Type) := EStateM Failure (Workbench σ)

namespace Build

variable {σ : Type}

def look (watch : Watch σ) : BuildM σ Bool := do
  let bench ← get
  let (watcher, cancelled) := watch.look bench.watcher
  set { bench with watcher := watcher }
  pure cancelled

def check (watch : Watch σ) : BuildM σ Unit := do
  if ← look watch then throw .buildCancelled

/-- Reports to the watcher, who may make the build fail. -/
def report (watch : Watch σ) (progress : Progress) : BuildM σ Unit := do
  let bench ← get
  let (watcher, failure) := watch.report progress bench.watcher
  set { bench with watcher := watcher }
  match failure with
  | some failure => throw failure
  | none => pure ()

/-- What became of an item. -/
inductive Outcome (α : Type) where
  | found (value : α)
  | nothing
  | failed

def Outcome.value? {α : Type} : Outcome α → Option α
  | found value => some value
  | _ => none

/-- What became of an item that was read; a cancellation ends the build. -/
def settle {α : Type} : Except Failure (Option α) → Except Failure (Outcome α)
  | .ok (some value) => .ok (.found value)
  | .ok none => .ok .nothing
  | .error failure => if failure.isCancellation then .error failure else .ok .failed

/-- A result as a step of a build. -/
def lift {α : Type} : Except Failure α → BuildM σ α
  | .ok value => pure value
  | .error failure => throw failure

/-- Reads an item, as the taxonomy and the cancel flag tell. -/
def readItem {α : Type} (watch : Watch σ) (read : Taxonomy → Bool → Except Failure (Option α)) :
    BuildM σ (Outcome α) := do
  let cancelled ← look watch
  let bench ← get
  lift (settle (read bench.taxonomy cancelled))

/-- The path of a folder as seen from the checkout. -/
def relativeText (repository folder : Path) : String :=
  Path.text ⟨"", (folder.relativeTo? repository).getD folder.parts⟩

/-- The entries of the component in a folder, if there is one. -/
def readFolder (sources : Sources) (taxonomy : Taxonomy) (repository folder : Path) (cancelled : Bool) :
    Except Failure (Option (Component × ApiReference)) := do
  match sources.mainFile? folder with
  | none => .ok none
  | some file =>
    match ← sources.readComponent file cancelled with
    | none => .ok none
    | some facts =>
      let category ← taxonomy.assign facts.className
      .ok (some (facts.component (some category) (relativeText repository folder), facts.apiReference))

/-- What phase one has found so far. -/
structure Tally where
  names : List String := []
  errors : Nat := 0

def Tally.add (tally : Tally) : Outcome String → Tally
  | .found name => { tally with names := tally.names ++ [name] }
  | .nothing => tally
  | .failed => { tally with errors := tally.errors + 1 }

/-- Puts the component of a folder into the store, if there is one. -/
def indexFolder (watch : Watch σ) (sources : Sources) (repository folder : Path) : BuildM σ (Outcome String) := do
  check watch
  match ← readItem watch fun taxonomy => readFolder sources taxonomy repository folder with
  | .found (component, reference) =>
    modify fun bench => { bench with store := (bench.store.put component).putReference reference }
    pure (.found component.name)
  | .nothing => pure .nothing
  | .failed => pure .failed

/-- Phase one from the folder with the given number on. -/
def indexFolders (watch : Watch σ) (sources : Sources) (repository : Path) (total : Nat) :
    Nat → List Path → Tally → BuildM σ Tally
  | _, [], tally => pure tally
  | current, folder :: folders, tally => do
    let outcome ← indexFolder watch sources repository folder
    report watch (.component current total outcome.value?)
    check watch
    indexFolders watch sources repository total (current + 1) folders (tally.add outcome)

/-- Phase one with a single worker: hands out all folders, fills the store with their components and drops those
of none. -/
def indexComponents (watch : Watch σ) (sources : Sources) (repository : Path) : BuildM σ Tally := do
  sources.folders.forM fun _ => check watch
  let tally ← indexFolders watch sources repository sources.folders.length 1 sources.folders {}
  modify fun bench => { bench with store := bench.store.retain tally.names }
  pure tally

/-- The number of items that changed the store, and of those that failed. -/
structure Count where
  changed : Nat := 0
  errors : Nat := 0

/-- The component as a documentation page completes it. -/
def documented (component : Component) (page : PageFacts) : Component :=
  { component with
    description := page.description.orElse fun _ => component.description
    related := page.related }

/-- The stored component that a page is about. -/
def subjectOf (store : Store) (page : PageFacts) : Option Component := do
  let name ← page.componentName
  if name.isEmpty then none else store.get? name

/-- Completes the component that a page is about, if there is one. -/
def indexPage (watch : Watch σ) (sources : Sources) (file : Path) (count : Count) : BuildM σ Count := do
  match ← readItem watch fun _ => sources.readPage file with
  | .found page =>
    let bench ← get
    match subjectOf bench.store page with
    | some component => do
      set { bench with store := bench.store.put (documented component page) }
      pure { count with changed := count.changed + 1 }
    | none => pure count
  | .nothing => pure count
  | .failed => pure { count with errors := count.errors + 1 }

/-- Phase two from the page with the given number on. -/
def indexPages (watch : Watch σ) (sources : Sources) (total : Nat) : Nat → List Path → Count → BuildM σ Count
  | _, [], count => pure count
  | current, file :: files, count => do
    check watch
    report watch (.page current total file.name)
    let count ← indexPage watch sources file count
    indexPages watch sources total (current + 1) files count

/-- A list of examples as a result that may be nothing. -/
def someExamples : List Example → Option (List Example)
  | [] => none
  | examples => some examples

/-- Adds its examples to a component, if there are any. -/
def indexExample (watch : Watch σ) (sources : Sources) (component : Component) (count : Count) :
    BuildM σ Count := do
  match ← readItem watch fun _ cancelled => (sources.findExamples component.name cancelled).map someExamples with
  | .found examples =>
    modify fun bench => { bench with store := bench.store.put { component with examples := examples } }
    pure { count with changed := count.changed + 1 }
  | .nothing => pure count
  | .failed => pure { count with errors := count.errors + 1 }

/-- Phase three from the component with the given number on; the components are those that were stored when the
phase began. -/
def indexExamples (watch : Watch σ) (sources : Sources) (total : Nat) :
    Nat → List Component → Count → BuildM σ Count
  | _, [], count => pure count
  | current, component :: components, count => do
    check watch
    report watch (.examples current total component.name)
    let count ← indexExample watch sources component count
    indexExamples watch sources total (current + 1) components count

/-- Phases two and three, after phase one came out as the tally tells. -/
def enrich (watch : Watch σ) (sources : Sources) (tally : Tally) : BuildM σ Summary := do
  let pages ← indexPages watch sources sources.pages.length 1 sources.pages {}
  let bench ← get
  let components := bench.store.components
  let examples ← indexExamples watch sources components.length 1 components {}
  pure {
    components := tally.names.length
    documented := pages.changed
    withExamples := examples.changed
    errors := tally.errors + pages.errors + examples.errors }

/-- What comes before the phases, with the answer whether the repository is there. -/
def prepare (watch : Watch σ) (repository : Path) (available : Except Failure Bool) : BuildM σ Unit := do
  let available ← lift available
  check watch
  if !available then throw .repositoryUnavailable
  report watch (.synced repository.text)
  modify fun bench => { bench with taxonomy := bench.taxonomy.fill }

/-- The build after it asked for the repository, with the answer whether that is there. -/
def afterSync (watch : Watch σ) (sources : Sources) (repository : Path) (available : Except Failure Bool) :
    BuildM σ Summary := do
  prepare watch repository available
  let tally ← indexComponents watch sources repository
  enrich watch sources tally

end Build

namespace Index

variable {σ : Type}

/-- What a build of the index works on. -/
def workbench (ix : Index) (watcher : σ) : Workbench σ :=
  ⟨ix.store, ix.taxonomy, watcher⟩

/-- Begins a build of an index whose turn nobody has: the turn is taken, the index is being built from now on, and
the watcher hears that the repository is asked for. A cancelled caller begins nothing. -/
def beginBuild (ix : Index) (watch : Watch σ) (watcher : σ) : Index × σ × Except Failure Unit :=
  match watch.look watcher with
  | (watcher, true) => (ix, watcher, .error .buildCancelled)
  | (watcher, false) =>
    match Build.report watch .syncing (ix.workbench watcher) with
    | .ok _ bench => (ix.take.enter, bench.watcher, .ok ())
    | .error failure bench => (ix.take.enter.release, bench.watcher, .error failure)

/-- Ends a build at the time `now`, with the answer whether the repository is there. A build that fails leaves
what it has put into the store, and no other trace. -/
def endBuild (ix : Index) (watch : Watch σ) (watcher : σ) (sources : Sources) (repository : Path)
    (available : Except Failure Bool) (now : String) : Index × σ × Except Failure Summary :=
  match Build.afterSync watch sources repository available (ix.workbench watcher) with
  | .ok summary bench => (ix.settle bench.store bench.taxonomy now (.ok summary), bench.watcher, .ok summary)
  | .error failure bench => (ix.settle bench.store bench.taxonomy now (.error failure), bench.watcher, .error failure)

/-- A whole build. The repository is asked for in between, and the watcher may be stopped meanwhile. -/
def build (ix : Index) (watch : Watch σ) (watcher : σ) (ensure : σ → σ × Except Failure Bool) (sources : Sources)
    (repository : Path) (now : String) : Index × σ × Except Failure Summary :=
  match ix.beginBuild watch watcher with
  | (ix, watcher, .error failure) => (ix, watcher, .error failure)
  | (ix, watcher, .ok ()) =>
    match ensure watcher with
    | (watcher, available) => ix.endBuild watch watcher sources repository available now

end Index
end Catalog
