import Catalog.Proofs.Service.Steps

/-! The management of the index by requests. Whatever comes between them, one task runs at most, and requests are
answered by the tasks as they stand. A build has succeeded before its task is completed, so that it is only while no
task runs that the index is told to be there if and only if a task is completed. -/
namespace Catalog

def Service.Response.taskId? (response : Response) : Option String :=
  match response.body.member? "task_id" with
  | some (.string id) => some id
  | _ => none

theorem Service.taskId?_acceptance (around : Surroundings) : (acceptance around).taskId? = some around.freshId := by
  simp [acceptance, Response.taskId?, Json.member?]

theorem Service.status_acceptance (around : Surroundings) : (acceptance around).status = 200 :=
  rfl

namespace Operation

open Service (Asks Request Response Surroundings taskName)

variable {o o' : Operation} {e : Event} {events : List Event}

/-- The answer to an event, if it accepts a build. -/
def grant? (o : Operation) : Event → Option Response
  | .request around asked =>
    let response := (o.service.handle around asked).2
    if Asks asked .index ∧ response.status = 200 then some response else none
  | _ => none

def grants (o : Operation) : List Event → List Response
  | [] => []
  | e :: events => (o.grant? e).toList ++ grants (o.step e) events

def ids (o : Operation) : List (Option String) :=
  o.service.board.tasks.map fun t => some t.id

theorem ids_eq_jobs (o : Operation) : o.ids = o.service.board.jobs.map fun job => some job.id := by
  simp [ids, TaskBoard.jobs, Task.job]

theorem Sound.post_busy (h : o.Sound) (hbusy : o.service.board.IsBusy) (around : Surroundings) :
    o.service.buildIndex around = (o.service, .because 409 "An index build is already running") :=
  Service.buildIndex_busy (h.solitary.hasRunningExclusive_iff.mpr hbusy)

theorem Sound.post_idle (h : o.Sound) (hidle : ¬ o.service.board.IsBusy) (around : Surroundings) :
    (o.service.buildIndex around).2 = Service.acceptance around := by
  refine Service.buildIndex_free ?_ h.solitary.orderly.unclosed
  rw [Bool.eq_false_iff]
  exact fun hrunning => hidle (h.solitary.hasRunningExclusive_iff.mp hrunning)

/-- Anything but a submission leaves the ids of the records. -/
theorem Sound.ids_withBoard (h : o.Sound) {be : TaskBoard.Event Progress Summary} (hid : be.submittedId? = none)
    (hclose : be.isClose = false) : (o.withBoard (o.service.board.step be)).ids = o.ids := by
  rw [ids_eq_jobs, ids_eq_jobs]
  rcases h.solitary.orderly.jobs_step (h.solitary.orderly.undisturbed_of_quiet hid hclose) with
    hjobs | ⟨id, name, kind, now, rfl, -, -⟩
  · exact congrArg _ hjobs
  · cases hid

theorem Sound.ids_of_quiet (h : o.Sound) (hchange : Change o e o')
    (hquiet : ∀ around asked, e = .request around asked → ¬ Asks asked .index) : o'.ids = o.ids := by
  cases hchange with
  | idle => rfl
  | submit around asked hindex => exact absurd hindex (hquiet around asked rfl)
  | cancel around asked id => exact h.ids_withBoard rfl rfl
  | start => exact h.ids_withBoard rfl rfl
  | advance job move index place hjob ha => rfl
  | fill job store taxonomy => rfl
  | push job progress => exact h.ids_withBoard rfl rfl
  | finish job now outcome hplace => exact h.ids_withBoard rfl rfl

/-- The records that an event adds are those that its answer tells of. -/
theorem Sound.ids_step (h : o.Sound) (he : e.Fresh o) :
    (o.step e).ids = o.ids ++ (o.grant? e).toList.map Response.taskId? := by
  by_cases hpost : ∃ around asked, e = .request around asked ∧ Asks asked .index
  · obtain ⟨around, asked, rfl, hindex⟩ := hpost
    have hanswer : o.service.handle around asked = o.service.buildIndex around := Service.handle_page hindex
    by_cases hbusy : o.service.board.IsBusy
    · have hrefused := hanswer.trans (h.post_busy hbusy around)
      have hgrant : o.grant? (.request around asked) = none := by
        simp [grant?, hrefused, Response.because]
      have hsame : o.step (.request around asked) = o := by
        rw [Operation.step, hrefused]
      simp [hgrant, hsame]
    · have hresponse := h.post_idle hbusy around
      have hboard : (o.service.handle around asked).1.board.tasks =
          o.service.board.tasks ++
            [o.service.board.submitted around.freshId taskName exclusiveKind around.now] := by
        rw [hanswer, Service.buildIndex_fst]
        exact h.solitary.tasks_submit hbusy (he hindex) taskName exclusiveKind around.now
      have hgrant : (o.grant? (.request around asked)).toList.map Response.taskId? = [some around.freshId] := by
        simp [grant?, hanswer, hresponse, hindex, Service.status_acceptance, Service.taskId?_acceptance]
      rw [hgrant]
      simp [ids, Operation.step, hboard, TaskBoard.submitted]
  · have hquiet : ∀ around asked, e = .request around asked → ¬ Asks asked .index :=
      fun around asked hrequest hindex => hpost ⟨around, asked, hrequest, hindex⟩
    have hgrant : o.grant? e = none := by
      cases e with
      | request around asked => simp [grant?, hquiet around asked rfl]
      | _ => rfl
    rw [h.ids_of_quiet (o.change e) hquiet, hgrant]
    simp

theorem Sound.ids_run (h : o.Sound) (he : o.Fresh events) :
    (o.run events).ids = o.ids ++ (o.grants events).map Response.taskId? := by
  induction events generalizing o with
  | nil => simp [Operation.run, grants]
  | cons e events ih =>
    have hrest := ih (h.step he.1) he.2
    change ((o.step e).run events).ids = _
    rw [hrest, h.ids_step he.1, grants, List.map_append, List.append_assoc]

/-- Without requests no ids are told. -/
theorem Sound.ids_run_of_no_request (h : o.Sound) (hquiet : ∀ e ∈ events, e.isRequest = false) :
    (o.run events).ids = o.ids := by
  have hgrants (o : Operation) : o.grants events = [] := by
    clear h
    induction events generalizing o with
    | nil => rfl
    | cons e events ih =>
      rw [grants, ih (fun e' he' => hquiet e' (List.mem_cons_of_mem e he')), List.append_nil]
      cases e with
      | request around asked => cases hquiet _ List.mem_cons_self
      | _ => rfl
  rw [h.ids_run (o.fresh_of_no_request hquiet), hgrants]
  exact List.append_nil _

/-! What the pages answer. -/

def TellsIndexed (response : Response) : Prop :=
  response.body.member? "indexed" = some (.bool true)

def TellsTime (response : Response) : Prop :=
  ∃ time, response.body.member? "last_indexed" = some (.string time)

/-- What comes of a request for a build: the answer, and the service that it leaves. -/
structure Posts (o : Operation) (around : Surroundings) (outcome : Service × Response) : Prop where
  accepted_iff : outcome.2.status = 200 ↔ ¬ o.service.board.IsBusy
  refused : outcome.2.status ≠ 200 → outcome.2.status = 409 ∧ outcome.1 = o.service
  accepted : outcome.2.status = 200 → (∀ t ∈ o.service.board.tasks, t.id ≠ around.freshId) →
    outcome.2.taskId? = some around.freshId ∧
      outcome.1.board.tasks =
        o.service.board.tasks ++ [o.service.board.submitted around.freshId taskName exclusiveKind around.now]

structure Cancels (o : Operation) (id : String) (outcome : Service × Response) : Prop where
  asked_iff : outcome.2.status = 200 ↔ ∃ t ∈ o.service.board.tasks, t.id = id ∧ t.status = .running
  missed : outcome.2.status ≠ 200 → outcome.2.status = 404 ∧ outcome.1 = o.service
  tasks : outcome.1.board.tasks = o.service.board.tasks

structure Shows (o : Operation) (id : String) (outcome : Service × Response) : Prop where
  found_iff : outcome.2.status = 200 ↔ some id ∈ o.ids
  missed : outcome.2.status ≠ 200 → outcome.2.status = 404
  unchanged : outcome.1 = o.service

/-- What comes of a request for the state of the index. -/
structure Reports (o : Operation) (outcome : Service × Response) : Prop where
  answered : outcome.2.status = 200
  indexed : o.service.board.HasCompleted → TellsIndexed outcome.2
  indexed_iff : ¬ o.service.board.IsBusy →
    (TellsIndexed outcome.2 ∧ TellsTime outcome.2 ↔ o.service.board.HasCompleted)
  time_iff : TellsTime outcome.2 ↔ TellsIndexed outcome.2
  unchanged : outcome.1 = o.service

theorem Sound.posts (h : o.Sound) (around : Surroundings) : o.Posts around (o.service.buildIndex around) := by
  by_cases hbusy : o.service.board.IsBusy
  · have hrefused := h.post_busy hbusy around
    rw [hrefused]
    have hstatus : (Response.because 409 "An index build is already running").status = 409 := rfl
    constructor
    · simp [hstatus, hbusy]
    · intro _
      exact ⟨hstatus, rfl⟩
    · intro haccepted
      rw [hstatus] at haccepted
      cases haccepted
  · have hresponse := h.post_idle hbusy around
    have hstatus := Service.status_acceptance around
    constructor
    · simp [hresponse, hstatus, hbusy]
    · intro hrefused
      rw [hresponse] at hrefused
      exact absurd hstatus hrefused
    · intro _ hid
      constructor
      · rw [hresponse]
        exact Service.taskId?_acceptance around
      · rw [Service.buildIndex_fst]
        exact h.solitary.tasks_submit hbusy hid taskName exclusiveKind around.now

theorem Sound.cancels (h : o.Sound) (id : String) : o.Cancels id (o.service.cancelTask id) := by
  have htask {t : Task Progress Summary} :
      o.service.board.task? id = some t ↔ t ∈ o.service.board.tasks ∧ t.id = id :=
    h.solitary.orderly.task?_eq_some_iff
  unfold Service.cancelTask
  rcases TaskBoard.cancel_cases o.service.board id with ⟨hsame, hnone⟩ | ⟨t, ht, hstatus, hcancelled⟩
  · rw [hsame]
    constructor
    · refine iff_of_false (by simp [Response.because]) ?_
      rintro ⟨t, hmem, hid, hstatus⟩
      exact hnone t (htask.mpr ⟨hmem, hid⟩) hstatus
    · intro _
      exact ⟨rfl, rfl⟩
    · rfl
  · obtain ⟨hmem, hid⟩ := htask.mp ht
    rw [hcancelled]
    constructor
    · exact iff_of_true rfl ⟨t, hmem, hid, hstatus⟩
    · intro hmissed
      exact absurd rfl hmissed
    · rfl

theorem Sound.shows (h : o.Sound) (id : String) (around : Surroundings) :
    o.Shows id (o.service, o.service.showTask around id) := by
  have htask {t : Task Progress Summary} :
      o.service.board.task? id = some t ↔ t ∈ o.service.board.tasks ∧ t.id = id :=
    h.solitary.orderly.task?_eq_some_iff
  have hids : some id ∈ o.ids ↔ ∃ t, o.service.board.task? id = some t := by
    simp [ids, htask]
  unfold Service.showTask
  cases hfound : o.service.board.task? id with
  | none =>
    constructor
    · refine iff_of_false (by simp [Response.because]) ?_
      simp [hids, hfound]
    · intro _
      rfl
    · rfl
  | some t =>
    constructor
    · exact iff_of_true rfl (hids.mpr ⟨t, hfound⟩)
    · intro hmissed
      exact absurd rfl hmissed
    · rfl

theorem tellsIndexed_health (s : Service) : TellsIndexed s.health ↔ s.index.isIndexed = true := by
  simp [TellsIndexed, Service.health, Json.member?, List.lookup_cons]

theorem tellsTime_health (s : Service) : TellsTime s.health ↔ s.index.lastIndexed.isSome = true := by
  have hmember : s.health.body.member? "last_indexed" = some (.ofText? s.index.lastIndexed) := by
    simp [Service.health, Json.member?, List.lookup_cons]
  unfold TellsTime
  rw [hmember]
  cases s.index.lastIndexed with
  | none => simp [Json.ofText?]
  | some time => simp [Json.ofText?]

theorem Sound.reports (h : o.Sound) : o.Reports (o.service, o.service.health) := by
  have htime : TellsTime o.service.health ↔ TellsIndexed o.service.health := by
    rw [tellsTime_health, tellsIndexed_health, h.told.dated]
  refine ⟨rfl, fun hcompleted => ?_, fun hidle => ?_, htime, rfl⟩
  · exact (tellsIndexed_health o.service).mpr (h.completed hcompleted)
  · show TellsIndexed o.service.health ∧ TellsTime o.service.health ↔ _
    rw [htime, and_self, tellsIndexed_health]
    constructor
    · intro hindexed
      rcases h.indexed hindexed with hcompleted | ⟨job, hjob, -⟩
      · exact hcompleted
      · exact absurd (h.solitary.orderly.isBusy_of_active hjob) hidle
    · exact h.completed

/-- The service answers for its tasks: those that it was started with, under these ids, and those of the builds that
it has accepted with these answers. -/
structure Managed (o : Operation) (startIds : List String) (granted : List Response) : Prop where
  alone : (o.service.board.tasks.filter fun t => t.status = .running).length ≤ 1
  count : o.service.board.tasks.length = startIds.length + granted.length
  listed : o.ids = startIds.map some ++ granted.map Response.taskId?
  list : ∀ around asked, Asks asked .tasks → o.service.handle around asked =
    (o.service, ⟨200, .array (o.service.board.tasks.map fun t => t.brief around.wording)⟩)
  post : ∀ around asked, Asks asked .index → o.Posts around (o.service.handle around asked)
  cancel : ∀ around asked id, Asks asked (.cancellation id) → o.Cancels id (o.service.handle around asked)
  get : ∀ around asked id, Asks asked (.task id) → o.Shows id (o.service.handle around asked)
  health : ∀ around asked, Asks asked .health → o.Reports (o.service.handle around asked)
  tools : ∀ around asked, (Asks asked .tools ∨ ∃ name, Asks asked (.tool name)) →
    (o.service.handle around asked).1 = o.service

def startIds (indexOnStartup : Bool) (id : String) : List String :=
  if indexOnStartup then [id] else []

theorem Sound.answers (h : o.Sound) {startIds : List String} {granted : List Response}
    (hids : o.ids = startIds.map some ++ granted.map Response.taskId?) : o.Managed startIds granted := by
  constructor
  case alone => exact h.solitary.running_length
  case count =>
    have hlength := congrArg List.length hids
    simpa [ids] using hlength
  case listed => exact hids
  case list => exact fun around asked hasks => Service.handle_page hasks
  case post =>
    intro around asked hasks
    rw [Service.handle_page hasks]
    exact h.posts around
  case cancel =>
    intro around asked id hasks
    rw [Service.handle_page hasks]
    exact h.cancels id
  case get =>
    intro around asked id hasks
    rw [Service.handle_page hasks]
    exact h.shows id around
  case health =>
    intro around asked hasks
    rw [Service.handle_page hasks]
    exact h.reports
  case tools =>
    rintro around asked (hasks | ⟨name, hasks⟩)
    · rw [Service.handle_page hasks]
      rfl
    · rw [Service.handle_page hasks]
      rfl

/-- A service that is started with a build, which is cancelled; then another one succeeds, and meanwhile a third one is
refused. -/
def twoBuilds : List Event :=
  let around (id : String) : Surroundings := ⟨"now", id, Failure.message, 1000, 1000⟩
  let first : Job := ⟨0, "a", exclusiveKind⟩
  let second : Job := ⟨1, "b", exclusiveKind⟩
  [.start, .move first .read, .move first .arrive, .move first .take, .move first .decide, .report first .syncing,
    .request (around "b") ⟨"POST", "/index/tasks/a/cancel", ""⟩,
    .move first (.finish {} {} (.error .buildCancelled)), .move first .release, .record first "then",
    .request (around "b") ⟨"POST", "/index", ""⟩, .start, .move second .read, .move second .arrive,
    .move second .take, .move second .decide, .request (around "c") ⟨"POST", "/index", ""⟩,
    .move second (.finish {} {} (.ok ⟨0, 0, 0, 0⟩)), .move second (.publish "later"),
    .request (around "d") ⟨"GET", "/health", ""⟩, .move second .release, .record second "later"]

end Operation
end Catalog
