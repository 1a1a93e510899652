import Catalog.Proofs.Index.Steps
import Catalog.Proofs.Service.Management

/-! The service begins a build in one go, and ends it in one go. Both are courses of events of the service at work, so
that what holds in the course of any events holds of such builds. -/
namespace Catalog

def Watch.Still {σ : Type} (watch : Watch σ) : Prop :=
  ∀ w, (watch.look w).1 = w

def Watch.hear {σ : Type} (watch : Watch σ) (w : σ) (reports : List Progress) : σ :=
  reports.foldl (fun w progress => (watch.report progress w).1) w

namespace Build

variable {σ α β : Type} {watch : Watch σ} {sources : Sources} {m : BuildM σ α} {f : α → BuildM σ β}

/-- A step changes the watcher by reports only, whether it fails or not. -/
def Reported (watch : Watch σ) (m : BuildM σ α) : Prop :=
  ∀ b, ∃ reports, (left (m b)).watcher = watch.hear b.watcher reports

theorem Reported.of_keeps (h : Keeps Workbench.watcher m) : Reported watch m :=
  fun b => ⟨[], h b⟩

theorem Reported.pure (x : α) : Reported watch (pure x : BuildM σ α) :=
  .of_keeps (Keeps.pure x)

theorem Reported.bind (hm : Reported watch m) (hf : ∀ x, Reported watch (f x)) : Reported watch (m >>= f) := by
  intro b
  obtain ⟨first, hfirst⟩ := hm b
  cases h : m b with
  | ok x b₁ =>
    rw [h] at hfirst
    obtain ⟨second, hsecond⟩ := hf x b₁
    have hwatcher : b₁.watcher = watch.hear b.watcher first := hfirst
    refine ⟨first ++ second, ?_⟩
    rw [bind_of_ok h, hsecond, hwatcher, Watch.hear, Watch.hear, Watch.hear, List.foldl_append]
  | error failure b₁ =>
    rw [h] at hfirst
    refine ⟨first, ?_⟩
    rw [bind_of_error h]
    exact hfirst

theorem Reported.get_bind {f : Workbench σ → BuildM σ β} (hf : ∀ bench, Reported watch (f bench)) :
    Reported watch (get >>= f) :=
  fun b => hf b b

theorem Reported.lift (r : Except Failure α) : Reported watch (lift r : BuildM σ α) :=
  .of_keeps (Keeps.lift r)

theorem reported_report (progress : Progress) : Reported watch (report watch progress) := by
  intro b
  refine ⟨[progress], ?_⟩
  rw [report_apply]
  cases (watch.report progress b.watcher).2 <;> rfl

section Still

variable (hstill : watch.Still)
include hstill

theorem reported_look : Reported watch (look watch) :=
  .of_keeps fun b => hstill b.watcher

theorem reported_check : Reported watch (check watch) := by
  refine .of_keeps fun b => ?_
  rw [check_apply]
  split_ifs
  · exact hstill b.watcher
  · exact hstill b.watcher

theorem reported_readItem (read : Taxonomy → Bool → Except Failure (Option α)) :
    Reported watch (readItem watch read) :=
  (reported_look hstill).bind fun _ => Reported.get_bind fun _ => Reported.lift _

theorem reported_indexFolder (repository folder : Path) :
    Reported watch (indexFolder watch sources repository folder) := by
  refine (reported_check hstill).bind fun _ => (reported_readItem hstill _).bind fun found => ?_
  cases found with
  | found entries => exact .of_keeps fun _ => rfl
  | nothing => exact .pure _
  | failed => exact .pure _

theorem reported_indexFolders (repository : Path) (total current : ℕ) (folders : List Path) (tally : Tally) :
    Reported watch (indexFolders watch sources repository total current folders tally) := by
  induction folders generalizing current tally with
  | nil => exact .pure tally
  | cons folder folders ih =>
    refine (reported_indexFolder hstill repository folder).bind fun outcome => ?_
    refine (reported_report _).bind fun _ => ?_
    exact (reported_check hstill).bind fun _ => ih (current + 1) (tally.add outcome)

theorem reported_forM_check (folders : List Path) : Reported watch (folders.forM fun _ => check watch) := by
  induction folders with
  | nil => exact .pure ()
  | cons folder folders ih => exact (reported_check hstill).bind fun _ => ih

theorem reported_indexComponents (repository : Path) : Reported watch (indexComponents watch sources repository) := by
  refine (reported_forM_check hstill sources.folders).bind fun _ => ?_
  exact (reported_indexFolders hstill repository _ _ _ _).bind fun tally => .of_keeps fun _ => rfl

theorem reported_indexPage (file : Path) (count : Count) : Reported watch (indexPage watch sources file count) := by
  refine (reported_readItem hstill _).bind fun found => ?_
  cases found with
  | found page =>
    refine .of_keeps fun b => ?_
    simp only [Build.get_bind]
    cases subjectOf b.store page <;> rfl
  | nothing => exact .pure count
  | failed => exact .pure _

theorem reported_indexPages (total current : ℕ) (files : List Path) (count : Count) :
    Reported watch (indexPages watch sources total current files count) := by
  induction files generalizing current count with
  | nil => exact .pure count
  | cons file files ih =>
    refine (reported_check hstill).bind fun _ => (reported_report _).bind fun _ => ?_
    exact (reported_indexPage hstill file count).bind fun count => ih (current + 1) count

theorem reported_indexExample (c : Component) (count : Count) :
    Reported watch (indexExample watch sources c count) := by
  refine (reported_readItem hstill _).bind fun found => ?_
  cases found with
  | found examples => exact .of_keeps fun _ => rfl
  | nothing => exact .pure count
  | failed => exact .pure _

theorem reported_indexExamples (total current : ℕ) (components : List Component) (count : Count) :
    Reported watch (indexExamples watch sources total current components count) := by
  induction components generalizing current count with
  | nil => exact .pure count
  | cons c components ih =>
    refine (reported_check hstill).bind fun _ => (reported_report _).bind fun _ => ?_
    exact (reported_indexExample hstill c count).bind fun count => ih (current + 1) count

theorem reported_enrich (tally : Tally) : Reported watch (enrich watch sources tally) := by
  refine (reported_indexPages hstill _ _ _ _).bind fun pages => Reported.get_bind fun bench => ?_
  exact (reported_indexExamples hstill _ _ _ _).bind fun examples => .pure _

theorem reported_prepare (repository : Path) (available : Except Failure Bool) :
    Reported watch (prepare watch repository available) := by
  refine (Reported.lift available).bind fun isThere => (reported_check hstill).bind fun _ => ?_
  cases isThere with
  | false => exact .of_keeps fun _ => rfl
  | true => exact (reported_report _).bind fun _ => .of_keeps fun _ => rfl

theorem reported_afterSync (repository : Path) (available : Except Failure Bool) :
    Reported watch (afterSync watch sources repository available) := by
  refine (reported_prepare hstill repository available).bind fun _ => ?_
  exact (reported_indexComponents hstill repository).bind fun tally => reported_enrich hstill tally

end Still

end Build

namespace Operation

variable {o : Operation} {job : Job} {now : String}

theorem run_cons (o : Operation) (e : Event) (events : List Event) : o.run (e :: events) = (o.step e).run events :=
  rfl

theorem run_append (o : Operation) (past future : List Event) : o.run (past ++ future) = (o.run past).run future :=
  List.foldl_append

/-- A step of a build whose job runs. -/
theorem step_move {move : Move} {index : Index} {place : Progression} (hruns : o.runs job = true)
    (h : (o.place job.ticket).advance o.service.index (o.service.board.isCancelled job.ticket) move =
      some (index, place)) :
    o.step (.move job move) = (o.withIndex index).withPlace job place := by
  simp only [step, h, hruns, if_true]

theorem step_record {outcome : Except Failure Summary} (hruns : o.runs job = true)
    (h : o.place job.ticket = .gone outcome) (now : String) :
    o.step (.record job now) = o.withBoard (o.service.board.finish job outcome now) := by
  have hactive : o.service.board.active.contains job = true := hruns
  simp only [step, h, Progression.answer?, TaskBoard.step, hactive, if_true]

@[simp]
theorem place_withPlace (o : Operation) (job : Job) (place : Progression) :
    (o.withPlace job place).place job.ticket = place :=
  if_pos rfl

theorem run_reports {g : ℕ} (hruns : o.runs job = true) (hplace : o.place job.ticket = .building g)
    (reports : List Progress) :
    o.run (reports.map (.report job)) = o.withBoard ((Service.watch job).hear o.service.board reports) := by
  induction reports generalizing o with
  | nil => rfl
  | cons progress reports ih =>
    have hbuilds : o.builds job = true := by simp [builds, hruns, hplace, Progression.isBuilding]
    have hstep : o.step (.report job progress) = o.withBoard (o.service.board.push job.id progress) := by
      simp only [step, hbuilds, if_true]
    rw [List.map_cons, run_cons, hstep]
    exact ih (o := o.withBoard (o.service.board.push job.id progress)) hruns hplace

theorem active_hear (job : Job) (board : TaskBoard Progress Summary) (reports : List Progress) :
    ((Service.watch job).hear board reports).active = board.active := by
  induction reports generalizing board with
  | nil => rfl
  | cons progress reports ih => exact ih (board.push job.id progress)

/-- A build that is left gives the turn back, and its end is recorded. -/
theorem run_leave {answer : Except Failure Summary} (hruns : o.runs job = true)
    (hplace : o.place job.ticket = .leaving answer) (now : String) :
    (o.run [.move job .release, .record job now]).service =
      ⟨o.service.index.release, o.service.board.finish job answer now⟩ := by
  have hrelease : o.step (.move job .release) = (o.withIndex o.service.index.release).withPlace job (.gone answer) :=
    step_move hruns (by rw [hplace]; rfl)
  have hrecord := step_record (o := (o.withIndex o.service.index.release).withPlace job (.gone answer)) hruns
    (place_withPlace _ _ _) now
  rw [run_cons, hrelease, run_cons, hrecord]
  rfl

/-- A build that ends leaves its contents, makes its success known if it succeeds, and is left. -/
theorem exists_run_eq_settle {g : ℕ} (hruns : o.runs job = true) (hplace : o.place job.ticket = .building g)
    (store : Store) (taxonomy : Taxonomy) (outcome : Except Failure Summary) (now : String) :
    ∃ events, (∀ e ∈ events, e.isRequest = false) ∧ (o.run events).service =
      ⟨o.service.index.settle store taxonomy now outcome, o.service.board.finish job outcome now⟩ := by
  cases outcome with
  | ok summary =>
    let filled := (o.withIndex (o.service.index.fill store taxonomy)).withPlace job (.publishing summary)
    let published := (filled.withIndex (filled.service.index.publish summary now)).withPlace job (.leaving (.ok summary))
    have hfill : o.step (.move job (.finish store taxonomy (.ok summary))) = filled :=
      step_move hruns (by rw [hplace]; rfl)
    have hpublish : filled.step (.move job (.publish now)) = published :=
      step_move hruns (by rw [place_withPlace]; rfl)
    have hleave := run_leave (o := published) hruns (place_withPlace _ _ _) now
    refine ⟨[.move job (.finish store taxonomy (.ok summary)), .move job (.publish now), .move job .release,
      .record job now], by simp [Event.isRequest], ?_⟩
    rw [run_cons, hfill, run_cons, hpublish, hleave]
    rfl
  | error failure =>
    let filled := (o.withIndex (o.service.index.fill store taxonomy)).withPlace job (.leaving (.error failure))
    have hfill : o.step (.move job (.finish store taxonomy (.error failure))) = filled :=
      step_move hruns (by rw [hplace]; rfl)
    have hleave := run_leave (o := filled) hruns (place_withPlace _ _ _) now
    refine ⟨[.move job (.finish store taxonomy (.error failure)), .move job .release, .record job now],
      by simp [Event.isRequest], ?_⟩
    rw [run_cons, hfill, hleave]
    rfl

/-- The end of a build is a course of events: its reports, and what follows them. -/
theorem exists_run_eq_endBuild {g : ℕ} (hruns : o.runs job = true) (hplace : o.place job.ticket = .building g)
    (sources : Sources) (repository : Path) (available : Except Failure Bool) (now : String) :
    ∃ events, (∀ e ∈ events, e.isRequest = false) ∧
      (o.run events).service = o.service.endBuild job sources repository available now := by
  have hstill : (Service.watch job).Still := fun _ => rfl
  let bench := o.service.index.workbench o.service.board
  have hreported : Build.Reported (Service.watch job) (Build.afterSync _ sources repository available) :=
    Build.reported_afterSync hstill repository available
  obtain ⟨reports, hreports⟩ := hreported bench
  let reported := o.withBoard ((Service.watch job).hear o.service.board reports)
  have hrun : o.run (reports.map (.report job)) = reported := run_reports hruns hplace reports
  have hstillRuns : reported.runs job = true := by
    show ((Service.watch job).hear o.service.board reports).active.contains job = true
    rw [active_hear]
    exact hruns
  -- whatever the outcome, the board is the one that the reports have left
  have hend (store : Store) (taxonomy : Taxonomy) (board : TaskBoard Progress Summary)
      (outcome : Except Failure Summary) (hboard : board = (Service.watch job).hear o.service.board reports) :
      ∃ events, (∀ e ∈ events, e.isRequest = false) ∧ (o.run events).service =
        ⟨o.service.index.settle store taxonomy now outcome, board.finish job outcome now⟩ := by
    obtain ⟨events, hquiet, hevents⟩ := exists_run_eq_settle hstillRuns hplace store taxonomy outcome now
    refine ⟨reports.map (.report job) ++ events, fun e he => ?_, ?_⟩
    · rcases List.mem_append.mp he with hreport | hrest
      · obtain ⟨progress, -, rfl⟩ := List.mem_map.mp hreport
        rfl
      · exact hquiet e hrest
    · rw [run_append, hrun, hevents, hboard]
      rfl
  unfold Service.endBuild Index.endBuild
  cases hresult : Build.afterSync (Service.watch job) sources repository available bench with
  | ok summary left =>
    rw [hresult] at hreports
    exact hend left.store left.taxonomy left.watcher (.ok summary) hreports
  | error failure left =>
    rw [hresult] at hreports
    exact hend left.store left.taxonomy left.watcher (.error failure) hreports

/-- A build that is cancelled before it arrives ends at once. -/
theorem run_refused (hruns : o.runs job = true) (hplace : o.place job.ticket = .outside)
    (hcancelled : o.service.board.isCancelled job.ticket = true) (now : String) :
    (o.run [.move job .read, .move job .arrive, .record job now]).service =
      ⟨o.service.index, o.service.board.finish job (.error .buildCancelled) now⟩ := by
  let arriving := o.withPlace job (.arriving o.service.index.generation)
  let refused := arriving.withPlace job (.gone (.error .buildCancelled))
  have hread : o.step (.move job .read) = arriving := step_move hruns (by rw [hplace]; rfl)
  have harrive : arriving.step (.move job .arrive) = refused := by
    refine step_move hruns ?_
    show (arriving.place job.ticket).advance _ (o.service.board.isCancelled job.ticket) _ = _
    rw [place_withPlace, hcancelled]
    rfl
  have hrecord := step_record (o := refused) hruns (place_withPlace _ _ _) now
  rw [run_cons, hread, run_cons, harrive, run_cons, hrecord]
  rfl

def entry (job : Job) : List Event :=
  [.move job .read, .move job .arrive, .move job .take, .move job .decide, .report job .syncing]

/-- A build that is not cancelled takes the turn if nobody has it. -/
theorem run_entry (hruns : o.runs job = true) (hplace : o.place job.ticket = .outside)
    (hcancelled : o.service.board.isCancelled job.ticket = false) (hfree : o.service.index.isTaken = false) :
    (o.run (entry job)).service = ⟨o.service.index.take.enter, o.service.board.push job.id .syncing⟩ ∧
      (o.run (entry job)).runs job = true ∧
      (o.run (entry job)).place job.ticket = .building o.service.index.generation := by
  let g := o.service.index.generation
  let arriving := o.withPlace job (.arriving g)
  let waiting := arriving.withPlace job (.waiting g)
  let deciding := (waiting.withIndex o.service.index.take).withPlace job (.deciding g)
  let building := (deciding.withIndex o.service.index.take.enter).withPlace job (.building g)
  have hread : o.step (.move job .read) = arriving := step_move hruns (by rw [hplace]; rfl)
  have harrive : arriving.step (.move job .arrive) = waiting := by
    refine step_move hruns ?_
    show (arriving.place job.ticket).advance _ (o.service.board.isCancelled job.ticket) _ = _
    rw [place_withPlace, hcancelled]
    rfl
  have htake : waiting.step (.move job .take) = deciding := by
    refine step_move hruns ?_
    rw [place_withPlace]
    show (if o.service.index.isTaken = true then none else _) = _
    rw [hfree]
    rfl
  have hdecide : deciding.step (.move job .decide) = building := by
    refine step_move hruns ?_
    rw [place_withPlace]
    show (if g ≠ g then _ else _) = _
    rw [if_neg (not_not.mpr rfl)]
    rfl
  have hplaced : building.place job.ticket = .building g := place_withPlace _ _ _
  have hreport : building.run [.report job .syncing] = building.withBoard (o.service.board.push job.id .syncing) :=
    run_reports (o := building) hruns hplaced [.syncing]
  have hrun : o.run (entry job) = building.withBoard (o.service.board.push job.id .syncing) := by
    rw [entry, run_cons, hread, run_cons, harrive, run_cons, htake, run_cons, hdecide, hreport]
  rw [hrun]
  exact ⟨rfl, hruns, hplaced⟩

theorem mem_of_start {b b' : TaskBoard Progress Summary} (h : b.start = some (job, b')) :
    job ∈ b.queued ∧ job ∈ b'.active := by
  unfold TaskBoard.start at h
  split at h
  · cases h
  · next next queued hqueued =>
    split_ifs at h
    cases h
    rw [hqueued]
    exact ⟨List.mem_cons_self, List.mem_append_right _ (List.mem_singleton.mpr rfl)⟩

/-- The beginning of a build is a course of events while nobody has the turn and the jobs that wait have not begun. It
leaves a job that builds, unless it was cancelled before. -/
theorem exists_run_eq_beginBuild {s : Service} {begun : Option Job}
    (hwait : ∀ job ∈ o.service.board.queued, o.place job.ticket = .outside)
    (hfree : o.service.index.isTaken = false) (h : o.service.beginBuild now = some (s, begun)) :
    ∃ events, (∀ e ∈ events, e.isRequest = false) ∧ (o.run events).service = s ∧
      ∀ job, begun = some job → (o.run events).runs job = true ∧ ∃ g, (o.run events).place job.ticket = .building g := by
  unfold Service.beginBuild at h
  cases hstart : o.service.board.start with
  | none =>
    rw [hstart] at h
    cases h
  | some next =>
    obtain ⟨job, board⟩ := next
    rw [hstart] at h
    obtain ⟨hqueued, hactive⟩ := mem_of_start hstart
    let started := o.withBoard board
    have hruns : started.runs job = true := List.contains_iff_mem.mpr hactive
    have hplace : started.place job.ticket = .outside := hwait job hqueued
    have hstep : o.step .start = started := by
      simp only [step, TaskBoard.step, hstart, Option.elim_some, started]
    cases hcancelled : board.isCancelled job.ticket with
    | true =>
      have hs : some (⟨o.service.index, board.finish job (.error .buildCancelled) now⟩, none) = some (s, begun) := by
        simpa [Index.beginBuild, Service.watch, hcancelled] using h
      cases hs
      refine ⟨.start :: [.move job .read, .move job .arrive, .record job now], by simp [Event.isRequest], ?_, ?_⟩
      · rw [run_cons, hstep]
        exact run_refused hruns hplace hcancelled now
      · intro other hother
        cases hother
    | false =>
      have hs : some (⟨o.service.index.take.enter, board.push job.id .syncing⟩, some job) = some (s, begun) := by
        simpa [Index.beginBuild, Service.watch, hcancelled, Build.report_apply, Index.workbench] using h
      cases hs
      obtain ⟨hservice, hstillRuns, hbuilding⟩ := run_entry hruns hplace hcancelled hfree
      refine ⟨.start :: entry job, by simp [entry, Event.isRequest], ?_⟩
      rw [run_cons, hstep]
      refine ⟨hservice, fun other hother => ?_⟩
      cases hother
      exact ⟨hstillRuns, _, hbuilding⟩

/-- The service at work after a build that begins in one go: it goes on to answer for the same tasks. -/
theorem Sound.exists_beginBuild (h : o.Sound) {s : Service} {begun : Option Job}
    (hwait : ∀ job ∈ o.service.board.queued, o.place job.ticket = .outside)
    (hfree : o.service.index.isTaken = false) (hbegin : o.service.beginBuild now = some (s, begun)) :
    ∃ o' : Operation, o'.Sound ∧ o'.ids = o.ids ∧ o'.service = s ∧
      ∀ job, begun = some job → o'.runs job = true ∧ ∃ g, o'.place job.ticket = .building g := by
  obtain ⟨events, hquiet, hservice, hbegun⟩ := exists_run_eq_beginBuild hwait hfree hbegin
  exact ⟨o.run events, h.run (o.fresh_of_no_request hquiet), h.ids_run_of_no_request hquiet, hservice, hbegun⟩

/-- The service at work after a build that ends in one go. -/
theorem Sound.exists_endBuild (h : o.Sound) {g : ℕ} (hruns : o.runs job = true)
    (hplace : o.place job.ticket = .building g) (sources : Sources) (repository : Path)
    (available : Except Failure Bool) (now : String) :
    ∃ o' : Operation, o'.Sound ∧ o'.ids = o.ids ∧
      o'.service = o.service.endBuild job sources repository available now := by
  obtain ⟨events, hquiet, hservice⟩ := exists_run_eq_endBuild hruns hplace sources repository available now
  exact ⟨o.run events, h.run (o.fresh_of_no_request hquiet), h.ids_run_of_no_request hquiet, hservice⟩

end Operation
end Catalog
