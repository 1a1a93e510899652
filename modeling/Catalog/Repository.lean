import Catalog.Git

/-! The checkout of the library, which is cloned or brought up to date on demand. -/
namespace Catalog

/-- How a checkout is kept: where it is, where it comes from, and whether it is synchronised at all. -/
structure RepositoryPlan where
  path : Path
  url : String
  branch : String
  shallow : Bool
  sync : Bool
  deriving DecidableEq, Repr

/-- What is known of a checkout. -/
structure Repository where
  isAvailable : Bool := false
  head : Option String := none
  deriving DecidableEq, Repr, Inhabited

namespace Repository

/-- Where the checkout is, if it is available. -/
def path? (r : Repository) (plan : RepositoryPlan) : Option Path :=
  if r.isAvailable then some plan.path else none

/-- How long a command may take. -/
def timeLimit : Git.Seconds := .decimal ⟨false, 6000, -1⟩

/-- What comes of the revision of the checkout: with it, the checkout is available. -/
def takeHead (r : Repository) (plan : RepositoryPlan) (session : Git.Session) : Repository × Git.Session :=
  match session.run (Git.headCommand plan.path) with
  | (session', .ok head) => (⟨true, some head⟩, session')
  | (session', .error _) => ({ r with isAvailable := false }, session')

/-- Brings a working tree up to date; if that fails, the old one will do. -/
def update (r : Repository) (plan : RepositoryPlan) (session : Git.Session) : Repository × Git.Session :=
  let (session', _) := session.run (Git.pullCommand plan.path "origin" (some plan.branch) (some timeLimit))
  r.takeHead plan session'

/-- What comes of a request for the checkout. -/
structure Request where
  workspace : Workspace
  repository : Repository
  session : Git.Session
  result : Except Failure Bool

/-- Makes sure that the checkout is there and up to date, and answers whether it is available. A request that is
cancelled beforehand changes nothing. -/
def ensure (r : Repository) (plan : RepositoryPlan) (w : Workspace) (session : Git.Session) (cancelled : Bool) :
    Request :=
  if cancelled then ⟨w, r, session, .ok r.isAvailable⟩
  else if !plan.sync then
    let available := w.isFolder plan.path
    ⟨w, { r with isAvailable := available }, session, .ok available⟩
  else if Git.isWorkingTree w plan.path then
    let (r', session') := r.update plan session
    ⟨w, r', session', .ok r'.isAvailable⟩
  else
    match Git.clone w session plan.url plan.path plan.shallow (some plan.branch) (some timeLimit) with
    | (w', session', .ok ()) =>
      let (r', session'') := r.takeHead plan session'
      ⟨w', r', session'', .ok r'.isAvailable⟩
    | (w', session', .error (.git _)) => ⟨w', { r with isAvailable := false }, session', .ok false⟩
    | (w', session', .error failure) => ⟨w', r, session', .error failure⟩

end Repository
end Catalog
