import Catalog.Repository
import Mathlib.Data.List.Induction

/-! The checkout over any sequence of requests for it, whatever files each of them meets and however its commands come
out. It is available exactly after a request that found a revision, or one that changed nothing after it, and then that
revision is the one that is known. -/
namespace Catalog

def Git.Outcome.output? : Git.Outcome → Option String
  | .succeeded output => some (Text.trim output)
  | _ => none

theorem Git.Outcome.result_of_some {outcome : Git.Outcome} {output : String} (h : outcome.output? = some output)
    (command : Git.Command) : outcome.result command = .ok output := by
  cases outcome <;> cases h
  rfl

theorem Git.Outcome.result_of_none {outcome : Git.Outcome} (h : outcome.output? = none) (command : Git.Command) :
    ∃ fault, outcome.result command = .error fault := by
  cases outcome
  case succeeded => cases h
  all_goals exact ⟨_, rfl⟩

theorem Workspace.makeFrom_fault {tree : FileTree} {made parts : List String} {failure : Failure}
    (h : makeFrom tree made parts = .error failure) : ∃ fault, failure = .file fault := by
  induction parts generalizing tree made with
  | nil => cases h
  | cons part parts ih =>
    rw [makeFrom] at h
    by_cases hup : part = ".."
    · rw [if_pos hup] at h
      exact ih h
    · rw [if_neg hup] at h
      by_cases hfile : tree.hasFile (made ++ [part]) = true
      · rw [if_pos hfile] at h
        exact ⟨_, (Except.error.inj h).symm⟩
      · rw [if_neg hfile] at h
        exact ih h

theorem Workspace.makeFolder_fault {w : Workspace} {p : Path} {failure : Failure}
    (h : w.makeFolder p = .error failure) : ∃ fault, failure = .file fault := by
  unfold makeFolder at h
  cases hmade : makeFrom w.tree (if p.root = "" then w.here else []) p.parts with
  | error made =>
    rw [hmade] at h
    cases h
    exact makeFrom_fault hmade
  | ok tree =>
    rw [hmade] at h
    cases h

namespace Repository

/-- A request for the checkout: the files that it meets, its cancel flag if it has one, and how each command comes out
if it is started. -/
structure Call where
  workspace : Workspace
  cancel : Option Bool := none
  pull : Git.Outcome := .succeeded ""
  clone : Git.Outcome := .succeeded ""
  revision : Git.Outcome := .succeeded ""

variable {plan : RepositoryPlan} {r : Repository} {c : Call} {q : Request} {calls earlier : List Call}

namespace Call

def isCancelled (c : Call) : Bool :=
  c.cancel.getD false

def meetsTree (c : Call) (plan : RepositoryPlan) : Bool :=
  Git.isWorkingTree c.workspace plan.path

/-- The outcomes in the order in which the commands are started: of the pull or the clone, then of the revision. -/
def session (c : Call) (plan : RepositoryPlan) : Git.Session where
  outcomes := [if c.meetsTree plan then c.pull else c.clone, c.revision]

def request (c : Call) (plan : RepositoryPlan) (r : Repository) : Request :=
  r.ensure plan c.workspace (c.session plan) c.isCancelled

/-- A clone is asked for, but a file is in the way of the folder that it goes to. -/
structure IsBlocked (c : Call) (plan : RepositoryPlan) : Prop where
  uncancelled : c.isCancelled = false
  synced : plan.sync = true
  treeless : c.meetsTree plan = false
  inTheWay : ∃ fault, c.workspace.makeFolder plan.path.parent = .error (.file fault)

def Obtains (c : Call) (plan : RepositoryPlan) : Prop :=
  c.revision.output?.isSome ∧ (c.meetsTree plan = false → c.clone.output?.isSome)

structure Succeeds (c : Call) (plan : RepositoryPlan) : Prop where
  uncancelled : c.isCancelled = false
  unblocked : ¬ c.IsBlocked plan
  obtains : c.Obtains plan

end Call

inductive Course (plan : RepositoryPlan) (r : Repository) (c : Call) : Request → Prop
  | cancelled (h : c.isCancelled = true) : Course plan r c ⟨c.workspace, r, c.session plan, .ok r.isAvailable⟩
  | lookedUp (hopen : c.isCancelled = false) (hsync : plan.sync = false) :
    Course plan r c ⟨c.workspace, { r with isAvailable := c.workspace.isFolder plan.path }, c.session plan,
      .ok (c.workspace.isFolder plan.path)⟩
  | blocked (h : c.IsBlocked plan) (fault : FileFault) :
    Course plan r c ⟨c.workspace, r, c.session plan, .error (.file fault)⟩
  | found (h : c.Succeeds plan) (hsync : plan.sync = true) {head : String} (hhead : c.revision.output? = some head)
    (w : Workspace) (session : Git.Session) : Course plan r c ⟨w, ⟨true, some head⟩, session, .ok true⟩
  | missed (hopen : c.isCancelled = false) (hsync : plan.sync = true) (hfree : ¬ c.IsBlocked plan)
    (h : ¬ c.Obtains plan) (w : Workspace) (session : Git.Session) :
    Course plan r c ⟨w, { r with isAvailable := false }, session, .ok false⟩

/-- The revision decides, once there is a working tree. -/
theorem course_takeHead (hopen : c.isCancelled = false) (hsync : plan.sync = true) (hfree : ¬ c.IsBlocked plan)
    (hclone : c.meetsTree plan = false → c.clone.output?.isSome) (w : Workspace) (started : List Git.Command) :
    Course plan r c
      (match r.takeHead plan ⟨[c.revision], started⟩ with
        | (r', session) => ⟨w, r', session, .ok r'.isAvailable⟩) := by
  cases hhead : c.revision.output? with
  | some head =>
    have hrun := Git.Outcome.result_of_some hhead (Git.headCommand plan.path)
    simp only [takeHead, Git.Session.run, List.headD_cons, hrun]
    exact .found ⟨hopen, hfree, by rw [hhead]; rfl, hclone⟩ hsync hhead w _
  | none =>
    obtain ⟨fault, hrun⟩ := Git.Outcome.result_of_none hhead (Git.headCommand plan.path)
    simp only [takeHead, Git.Session.run, List.headD_cons, hrun]
    refine .missed hopen hsync hfree (fun h => ?_) w _
    exact Bool.noConfusion ((congrArg Option.isSome hhead).symm.trans h.1)

theorem course (plan : RepositoryPlan) (r : Repository) (c : Call) : Course plan r c (c.request plan r) := by
  unfold Call.request ensure
  cases hcancel : c.isCancelled with
  | true => exact .cancelled hcancel
  | false =>
    cases hsync : plan.sync with
    | false => exact .lookedUp hcancel hsync
    | true =>
      cases htree : c.meetsTree plan with
      | true =>
        have hfree : ¬ c.IsBlocked plan := fun h => Bool.noConfusion (htree.symm.trans h.treeless)
        have hclone : c.meetsTree plan = false → c.clone.output?.isSome := fun h =>
          Bool.noConfusion (htree.symm.trans h)
        have hmeets : Git.isWorkingTree c.workspace plan.path = true := htree
        simp only [hmeets, update, Git.Session.run, Call.session, htree]
        exact course_takeHead hcancel hsync hfree hclone _ _
      | false =>
        have hmeets : Git.isWorkingTree c.workspace plan.path = false := htree
        cases hmade : c.workspace.makeFolder plan.path.parent with
        | error failure =>
          obtain ⟨fault, rfl⟩ := Workspace.makeFolder_fault hmade
          simp only [hmeets, Git.clone, hmade]
          exact .blocked ⟨hcancel, hsync, htree, fault, hmade⟩ fault
        | ok w =>
          have hfree : ¬ c.IsBlocked plan := by
            rintro ⟨-, -, -, fault, hfault⟩
            cases hmade.symm.trans hfault
          cases hclone : c.clone.output? with
          | some output =>
            have hrun := Git.Outcome.result_of_some hclone
            simp only [hmeets, Git.clone, hmade, Git.Session.run, Call.session, htree, Bool.false_eq_true, if_false,
              Bool.not_true, List.headD_cons, hrun]
            exact course_takeHead hcancel hsync hfree (fun _ => by rw [hclone]; rfl) _ _
          | none =>
            obtain ⟨fault, hrun⟩ := Git.Outcome.result_of_none hclone
              (Git.cloneCommand plan.url plan.path plan.shallow (some plan.branch) (some timeLimit))
            simp only [hmeets, Git.clone, hmade, Git.Session.run, Call.session, htree, Bool.false_eq_true, if_false,
              Bool.not_true, List.headD_cons, hrun]
            refine .missed hcancel hsync hfree (fun h => ?_) _ _
            exact Bool.noConfusion ((congrArg Option.isSome hclone).symm.trans (h.2 htree))

section Fields

theorem Course.contained (h : Course plan r c q) (fault : GitFault) : q.result ≠ .error (.git fault) := by
  cases h <;> nofun

theorem Course.told (h : Course plan r c q) (hfree : ¬ c.IsBlocked plan) :
    q.result = .ok q.repository.isAvailable := by
  cases h with
  | cancelled => rfl
  | lookedUp => rfl
  | blocked hblocked => exact absurd hblocked hfree
  | found => rfl
  | missed => rfl

/-- A call that is cancelled beforehand changes nothing. -/
theorem Course.cancelled_eq (h : Course plan r c q) (hcancel : c.isCancelled = true) :
    q.session.started = [] ∧ q.workspace = c.workspace ∧ q.repository = r := by
  cases h with
  | cancelled => exact ⟨rfl, rfl, rfl⟩
  | lookedUp hopen => exact Bool.noConfusion (hcancel.symm.trans hopen)
  | blocked => exact ⟨rfl, rfl, rfl⟩
  | found hc => exact Bool.noConfusion (hcancel.symm.trans hc.uncancelled)
  | missed hopen => exact Bool.noConfusion (hcancel.symm.trans hopen)

theorem Course.isAvailable_iff (h : Course plan r c q) (hsync : plan.sync = true) (hopen : c.isCancelled = false)
    (hfree : ¬ c.IsBlocked plan) : q.repository.isAvailable = true ↔ c.Obtains plan := by
  cases h with
  | cancelled hcancel => exact Bool.noConfusion (hcancel.symm.trans hopen)
  | lookedUp _ hnone => exact Bool.noConfusion (hsync.symm.trans hnone)
  | blocked hblocked => exact absurd hblocked hfree
  | found hc => exact iff_of_true rfl hc.obtains
  | missed _ _ _ hnot => exact iff_of_false Bool.noConfusion hnot

theorem Course.started_eq_nil (h : Course plan r c q) (hsync : plan.sync = false) : q.session.started = [] := by
  cases h with
  | cancelled => rfl
  | lookedUp => rfl
  | blocked => rfl
  | found _ hsynced => exact Bool.noConfusion (hsynced.symm.trans hsync)
  | missed _ hsynced => exact Bool.noConfusion (hsynced.symm.trans hsync)

/-- A folder that cannot be made is told as such, and nothing is changed or started. -/
theorem Course.blocked_eq (h : Course plan r c q) (hblocked : c.IsBlocked plan) :
    (∃ fault, q.result = .error (.file fault)) ∧ q.session.started = [] ∧ q.repository = r := by
  cases h with
  | cancelled hcancel => exact Bool.noConfusion (hcancel.symm.trans hblocked.uncancelled)
  | lookedUp _ hnone => exact Bool.noConfusion (hnone.symm.trans hblocked.synced)
  | blocked _ fault => exact ⟨⟨fault, rfl⟩, rfl, rfl⟩
  | found hc => exact absurd hblocked hc.unblocked
  | missed _ _ hfree => exact absurd hblocked hfree

theorem path?_cases (r : Repository) (plan : RepositoryPlan) :
    r.path? plan = some plan.path ∧ r.isAvailable = true ∨ r.path? plan = none ∧ r.isAvailable = false := by
  unfold path?
  cases r.isAvailable with
  | true => exact .inl ⟨rfl, rfl⟩
  | false => exact .inr ⟨rfl, rfl⟩

end Fields

def after (plan : RepositoryPlan) (calls : List Call) : Repository :=
  calls.foldl (fun r c => (c.request plan r).repository) {}

theorem after_concat (plan : RepositoryPlan) (calls : List Call) (c : Call) :
    after plan (calls ++ [c]) = (c.request plan (after plan calls)).repository :=
  List.foldl_append

def IsLatest (plan : RepositoryPlan) (calls : List Call) (revision : String) : Prop :=
  ∃ past c future, calls = past ++ c :: future ∧ c.Succeeds plan ∧ c.revision.output? = some revision ∧
    ∀ d ∈ future, ¬ d.Succeeds plan

theorem IsLatest.concat {revision : String} (h : IsLatest plan calls revision) (hc : ¬ c.Succeeds plan) :
    IsLatest plan (calls ++ [c]) revision := by
  obtain ⟨past, d, future, rfl, hd, hrevision, hfuture⟩ := h
  refine ⟨past, d, future ++ [c], by simp, hd, hrevision, ?_⟩
  exact List.forall_mem_append.mpr ⟨hfuture, List.forall_mem_singleton.mpr hc⟩

/-- A checkout that is kept up to date and available has the revision of the latest call that succeeded. -/
theorem isLatest_after (hsync : plan.sync = true) (calls : List Call) (h : (after plan calls).isAvailable = true) :
    ∃ revision, (after plan calls).head = some revision ∧ IsLatest plan calls revision := by
  induction calls using List.reverseRecOn with
  | nil => cases h
  | append_singleton calls c ih =>
    rw [after_concat] at h ⊢
    have hcourse := course plan (after plan calls) c
    generalize c.request plan (after plan calls) = q at h hcourse ⊢
    cases hcourse with
    | cancelled hcancel =>
      obtain ⟨revision, hhead, hlatest⟩ := ih h
      exact ⟨revision, hhead, hlatest.concat fun hc => Bool.noConfusion (hcancel.symm.trans hc.uncancelled)⟩
    | lookedUp hopen hnone => exact Bool.noConfusion (hsync.symm.trans hnone)
    | blocked hblocked fault =>
      obtain ⟨revision, hhead, hlatest⟩ := ih h
      exact ⟨revision, hhead, hlatest.concat fun hc => hc.unblocked hblocked⟩
    | found hc _ hhead => exact ⟨_, rfl, calls, c, [], rfl, hc, hhead, nofun⟩
    | missed => cases h

/-- What a request for the checkout answers and leaves behind after others. -/
structure Answers (plan : RepositoryPlan) (earlier : List Call) (c : Call) (q : Request) : Prop where
  contained : ∀ fault, q.result ≠ .error (.git fault)
  told : ¬ c.IsBlocked plan → q.result = .ok q.repository.isAvailable
  placed : q.repository.path? plan = some plan.path ∧ q.repository.isAvailable = true ∨
    q.repository.path? plan = none ∧ q.repository.isAvailable = false
  cancelled : c.isCancelled = true →
    q.session.started = [] ∧ q.workspace = c.workspace ∧ q.repository = after plan earlier
  obtained : plan.sync = true → c.isCancelled = false → ¬ c.IsBlocked plan →
    (q.repository.isAvailable = true ↔ c.Obtains plan)
  current : plan.sync = true → q.repository.isAvailable = true →
    ∃ revision, q.repository.head = some revision ∧ IsLatest plan (earlier ++ [c]) revision
  unsynced : plan.sync = false → q.session.started = []
  blocked : c.IsBlocked plan →
    (∃ fault, q.result = .error (.file fault)) ∧ q.session.started = [] ∧ q.repository = after plan earlier

/-- After any requests, the next one tells whether the checkout is available, and no failure of a command escapes. -/
theorem answers_every_call (plan : RepositoryPlan) (earlier : List Call) (c : Call) :
    Answers plan earlier c (c.request plan (after plan earlier)) := by
  have hcourse := course plan (after plan earlier) c
  have hcurrent := fun hsync : plan.sync = true => isLatest_after hsync (earlier ++ [c])
  rw [after_concat] at hcurrent
  exact {
    contained := hcourse.contained
    told := hcourse.told
    placed := path?_cases _ plan
    cancelled := hcourse.cancelled_eq
    obtained := hcourse.isAvailable_iff
    current := hcurrent
    unsynced := hcourse.started_eq_nil
    blocked := hcourse.blocked_eq }

def workPlan : RepositoryPlan :=
  ⟨⟨"/", ["work", "library"]⟩, "library.git", "develop", true, true⟩

def vacant : Workspace where
  tree := { folders := [["work"]] }

def checkedOut : Workspace where
  tree := { folders := [["work"], ["work", "library"], ["work", "library", ".git"]] }

/-- A clone is denied, the next one succeeds, the revision is not told, and then it is although the pull fails. -/
def mixed : List Call := [
  { workspace := vacant, clone := .failed "denied" },
  { workspace := vacant, revision := .succeeded "one\n" },
  { workspace := checkedOut, revision := .timedOut },
  { workspace := checkedOut, cancel := some false, pull := .failed "offline", revision := .succeeded "two\n" }]

/-- The checkout has vanished by then, but a call that is cancelled does not look. -/
def unheeding : Call where
  workspace := vacant
  cancel := some true

theorem answers_every_call_mixed :
    (mixed.inits.map fun calls => (after workPlan calls).isAvailable) = [false, false, true, false, true] ∧
      Answers workPlan mixed unheeding (unheeding.request workPlan (after workPlan mixed)) ∧
      (unheeding.request workPlan (after workPlan mixed)).repository = ⟨true, some "two"⟩ :=
  ⟨by decide +kernel, answers_every_call workPlan mixed unheeding, by decide +kernel⟩

end Repository
end Catalog
