import Catalog.Proofs.Task.Orderly
import Mathlib.Data.List.DropRight

/-! The life of a task: its record shows it running until its job ends, then how the job ended and nothing else for
ever; it keeps the latest reports for its id; and asking for its cancellation sets its own flag. This holds in every
course in which the board is not closed and no id is submitted twice. -/
namespace Catalog

variable {ε ρ : Type}

/-- The end of a list, when more is put behind it, is that of the whole list. -/
theorem rtake_rtake_append {α : Type} (n : ℕ) (l m : List α) : (l.rtake n ++ m).rtake n = (l ++ m).rtake n := by
  have hmin : min (n - m.length) n = n - m.length := min_eq_left (Nat.sub_le n m.length)
  simp only [List.rtake_eq_reverse_take_reverse, List.reverse_append, List.reverse_reverse, List.take_append,
    List.length_reverse, List.take_take, hmin]

namespace Task

variable {t u : Task ε ρ} {outcome : Except Failure ρ} {now : String}

/-- The record shows how its job ended, and when. -/
structure EndedBy (t : Task ε ρ) (outcome : Except Failure ρ) (now : String) : Prop where
  finishedAt : t.finishedAt = some now
  completed : ∀ result, outcome = .ok result → t.status = .completed ∧ t.result = some result ∧ t.error = none
  cancelled : ∀ failure, outcome = .error failure → failure.isCancellation = true →
    t.status = .cancelled ∧ t.result = none ∧ t.error = none
  failed : ∀ failure, outcome = .error failure → failure.isCancellation = false →
    t.status = .failed ∧ t.result = none ∧ t.error = some failure

structure SameEnd (t u : Task ε ρ) : Prop where
  status : t.status = u.status
  finishedAt : t.finishedAt = u.finishedAt
  result : t.result = u.result
  error : t.error = u.error

theorem reports_finish (t : Task ε ρ) (outcome : Except Failure ρ) (now : String) :
    (t.finish outcome now).reports = t.reports := by
  unfold finish
  cases outcome with
  | ok result => rfl
  | error failure => dsimp only; split_ifs <;> rfl

theorem endedBy_finish (t : Task ε ρ) (outcome : Except Failure ρ) (now : String) :
    (t.finish outcome now).EndedBy outcome now := by
  unfold finish
  cases outcome with
  | ok result => constructor <;> simp
  | error failure =>
    cases h : failure.isCancellation with
    | true => constructor <;> simp [h]
    | false => constructor <;> simp [h]

theorem EndedBy.congr (h : u.EndedBy outcome now) (hsame : t.SameEnd u) : t.EndedBy outcome now := by
  constructor
  · rw [hsame.finishedAt, h.finishedAt]
  all_goals rw [hsame.status, hsame.result, hsame.error]
  · exact h.completed
  · exact h.cancelled
  · exact h.failed

end Task

namespace TaskBoard

variable {b : TaskBoard ε ρ} {t u : Task ε ρ} {job : Job} {e : Event ε ρ} {events : List (Event ε ρ)}
  {outcome : Except Failure ρ} {now : String}

def Event.submittedId? : Event ε ρ → Option String
  | .submit id _ _ _ => some id
  | _ => none

def Event.isClose : Event ε ρ → Bool
  | .close _ => true
  | _ => false

/-- The board is not closed, and no id is submitted that has a record or that was submitted before. -/
structure Undisturbed (b : TaskBoard ε ρ) (events : List (Event ε ρ)) : Prop where
  fresh : (b.tasks.map Task.id ++ events.filterMap Event.submittedId?).Nodup
  unclosed : ∀ e ∈ events, e.isClose = false

def EndsIn (b : TaskBoard ε ρ) (events : List (Event ε ρ)) (job : Job) (outcome : Except Failure ρ)
    (now : String) : Prop :=
  ∃ before after, events = before ++ .finish job outcome now :: after ∧ job ∈ (b.run before).active

def pushed (id : String) (events : List (Event ε ρ)) : List ε :=
  events.filterMap fun
    | .push other report => if other = id then some report else none
    | _ => none

theorem endsIn_cons : b.EndsIn (e :: events) job outcome now ↔
    (e = .finish job outcome now ∧ job ∈ b.active) ∨ (b.step e).EndsIn events job outcome now := by
  constructor
  · rintro ⟨before, after, hsplit, hactive⟩
    cases before with
    | nil =>
      obtain ⟨rfl, -⟩ := List.cons.inj hsplit
      exact .inl ⟨rfl, hactive⟩
    | cons e' before =>
      obtain ⟨rfl, rfl⟩ := List.cons.inj hsplit
      exact .inr ⟨before, after, rfl, hactive⟩
  · rintro (⟨rfl, hactive⟩ | ⟨before, after, rfl, hactive⟩)
    · exact ⟨[], events, rfl, hactive⟩
    · exact ⟨e :: before, after, rfl, hactive⟩

theorem not_endsIn_nil : ¬ b.EndsIn [] job outcome now := by
  rintro ⟨before, after, hsplit, -⟩
  cases before <;> cases hsplit

/-! One event. -/

theorem ids_eq (b : TaskBoard ε ρ) : b.tasks.map Task.id = b.jobs.map Job.id := by
  simp [jobs, Task.job, Function.comp_def]

theorem Undisturbed.submit_fresh {id name kind now : String}
    (he : b.Undisturbed (.submit id name kind now :: events)) : id ∉ b.jobs.map Job.id := by
  intro hid
  rw [← ids_eq] at hid
  exact (List.nodup_append.mp he.fresh).2.2 id hid id List.mem_cons_self rfl

def after (b : TaskBoard ε ρ) (t : Task ε ρ) : Event ε ρ → Task ε ρ
  | .push id report => if t.id = id then t.addReport report else t
  | .finish job outcome now => if t.id = job.id ∧ job ∈ b.active then t.finish outcome now else t
  | _ => t

theorem heading_after (b : TaskBoard ε ρ) (t : Task ε ρ) (e : Event ε ρ) : (b.after t e).heading = t.heading := by
  unfold after
  split
  · split_ifs
    · exact t.heading_addReport _
    · rfl
  · split_ifs
    · exact t.heading_finish _ _
    · rfl
  · rfl

theorem job_after (b : TaskBoard ε ρ) (t : Task ε ρ) (e : Event ε ρ) : (b.after t e).job = t.job :=
  congrArg Prod.fst (b.heading_after t e)

/-- An event changes the records in their places, or it is a submission that is accepted and adds its own. -/
theorem Orderly.tasks_step (h : b.Orderly) (he : b.Undisturbed (e :: events)) :
    ((b.step e).tasks = b.tasks.map fun t => b.after t e) ∨
      ∃ id name kind now, e = .submit id name kind now ∧
        (b.submit id name kind now).2 = .ok (b.submitted id name kind now).job ∧
        (b.step e).tasks = b.tasks ++ [b.submitted id name kind now] := by
  cases e with
  | submit id name kind now =>
    rcases submit_of_unclosed h.unclosed id name kind now with hrefused | haccepted
    · left
      simp [step, hrefused, after]
    · right
      refine ⟨id, name, kind, now, rfl, by rw [haccepted], ?_⟩
      rw [step, haccepted]
      exact insert_of_fresh he.submit_fresh
  | start =>
    left
    simp [b.tasks_start, after]
  | push id report => exact .inl rfl
  | finish job outcome now =>
    left
    by_cases hactive : job ∈ b.active
    · simp [step, hactive, after, TaskBoard.finish, update]
    · simp [step, hactive, after]
  | cancel id =>
    left
    simp [step, b.tasks_cancel id, after]
  | close cancelRunning =>
    left
    simp [step, close, after]

theorem Orderly.after_mem (h : b.Orderly) (he : b.Undisturbed (e :: events)) (ht : t ∈ b.tasks) :
    b.after t e ∈ (b.step e).tasks := by
  rcases h.tasks_step he with htasks | ⟨id, name, kind, now, rfl, -, htasks⟩
  · rw [htasks]
    exact List.mem_map_of_mem ht
  · rw [htasks]
    exact List.mem_append_left _ ht

/-- An event leaves the jobs of the records as they are, or it is a submission that is accepted and adds its own. -/
theorem Orderly.jobs_step (h : b.Orderly) (he : b.Undisturbed (e :: events)) :
    (b.step e).jobs = b.jobs ∨
      ∃ id name kind now, e = .submit id name kind now ∧
        (b.submit id name kind now).2 = .ok (b.submitted id name kind now).job ∧
        (b.step e).jobs = b.jobs ++ [(b.submitted id name kind now).job] := by
  rcases h.tasks_step he with htasks | ⟨id, name, kind, now, he, haccepted, htasks⟩
  · left
    rw [jobs, jobs, htasks, List.map_map]
    exact List.map_congr_left fun t _ => b.job_after t e
  · right
    refine ⟨id, name, kind, now, he, haccepted, ?_⟩
    rw [jobs, htasks, List.map_append]
    rfl

theorem Orderly.ids_step (h : b.Orderly) (he : b.Undisturbed (e :: events)) :
    (b.step e).tasks.map Task.id = b.tasks.map Task.id ∨
      ∃ id name kind now job, e = .submit id name kind now ∧ (b.submit id name kind now).2 = .ok job ∧
        (b.step e).tasks.map Task.id = b.tasks.map Task.id ++ [id] := by
  rw [ids_eq, ids_eq]
  rcases h.jobs_step he with hjobs | ⟨id, name, kind, now, he, haccepted, hjobs⟩
  · left
    rw [hjobs]
  · right
    refine ⟨id, name, kind, now, _, he, haccepted, ?_⟩
    rw [hjobs, List.map_append]
    rfl

theorem Orderly.undisturbed_step (h : b.Orderly) (he : b.Undisturbed (e :: events)) :
    (b.step e).Undisturbed events := by
  refine ⟨?_, fun e' he' => he.unclosed e' (List.mem_cons_of_mem e he')⟩
  have hfresh := he.fresh
  rcases h.ids_step he with hids | ⟨id, name, kind, now, job, rfl, -, hids⟩
  · rw [hids]
    refine hfresh.sublist ((List.Sublist.refl _).append ?_)
    exact (List.sublist_cons_self e events).filterMap _
  · rw [hids, List.append_assoc]
    exact hfresh

theorem Orderly.step (h : b.Orderly) (he : b.Undisturbed (e :: events)) : (b.step e).Orderly := by
  cases e with
  | submit id name kind now => exact h.submit he.submit_fresh name kind now
  | start => exact h.start
  | push id report => exact h.push id report
  | finish job outcome now =>
    rw [TaskBoard.step]
    split_ifs with hactive
    · exact h.finish (List.contains_iff_mem.mp hactive) outcome now
    · exact h
  | cancel id => exact h.cancel id
  | close cancelRunning =>
    have hclose := he.unclosed _ List.mem_cons_self
    cases hclose

/-- The latest reports stay the latest ones. -/
theorem reports_after {reports : List ε} (hreports : t.reports = reports.rtake Task.maxReports) (e : Event ε ρ) :
    (b.after t e).reports = (reports ++ pushed t.id [e]).rtake Task.maxReports := by
  cases e with
  | push id report =>
    by_cases hid : t.id = id
    · subst hid
      rw [after, if_pos rfl]
      have hadded : (t.addReport report).reports = (t.reports ++ [report]).rtake Task.maxReports := by
        simp only [Task.addReport, List.rtake]
      simp [hadded, hreports, rtake_rtake_append, pushed]
    · have hother : id ≠ t.id := fun e => hid e.symm
      rw [after, if_neg hid]
      simp [hreports, pushed, hother]
  | finish job outcome now =>
    have hsame : (b.after t (.finish job outcome now)).reports = t.reports := by
      rw [after]
      split_ifs
      · exact t.reports_finish outcome now
      · rfl
    simp [hsame, hreports, pushed]
  | _ => simp [after, hreports, pushed]

/-- An event ends the record of the job that it ends, and no other. -/
theorem Orderly.after_end (h : b.Orderly) (ht : t ∈ b.tasks) (e : Event ε ρ) :
    (∃ outcome now, e = .finish t.job outcome now ∧ t.job ∈ b.active ∧ (b.after t e).EndedBy outcome now ∧
        (b.after t e).status ≠ .running) ∨
      (∀ outcome now, ¬ (e = .finish t.job outcome now ∧ t.job ∈ b.active)) ∧ (b.after t e).SameEnd t := by
  cases e with
  | push id report =>
    refine .inr ⟨?_, ?_⟩
    · rintro outcome now ⟨hend, -⟩
      cases hend
    · rw [after]
      split_ifs
      · constructor <;> simp only [Task.addReport]
      · exact ⟨rfl, rfl, rfl, rfl⟩
  | finish job outcome now =>
    rw [after]
    split_ifs with hown
    · left
      obtain ⟨-, rfl⟩ := h.eq_job_of_live ht (List.mem_append_right _ hown.2) hown.1
      exact ⟨outcome, now, rfl, hown.2, t.endedBy_finish outcome now, t.status_finish_ne_running outcome now⟩
    · refine .inr ⟨?_, rfl, rfl, rfl, rfl⟩
      rintro outcome' now' ⟨heq, hactive⟩
      cases heq
      exact hown ⟨rfl, hactive⟩
  | _ =>
    refine .inr ⟨?_, rfl, rfl, rfl, rfl⟩
    rintro outcome now ⟨hend, -⟩
    cases hend

/-! A course of events. -/

theorem run_append (b : TaskBoard ε ρ) (past future : List (Event ε ρ)) :
    b.run (past ++ future) = (b.run past).run future :=
  List.foldl_append

theorem Orderly.run (h : b.Orderly) (he : b.Undisturbed events) : (b.run events).Orderly := by
  induction events generalizing b with
  | nil => exact h
  | cons e events ih => exact ih (h.step he) (h.undisturbed_step he)

theorem Orderly.undisturbed_run {past future : List (Event ε ρ)} (h : b.Orderly)
    (he : b.Undisturbed (past ++ future)) : (b.run past).Undisturbed future := by
  induction past generalizing b with
  | nil => exact he
  | cons e past ih => exact ih (h.step he) (h.undisturbed_step he)

theorem Undisturbed.take {past future : List (Event ε ρ)} (he : b.Undisturbed (past ++ future)) :
    b.Undisturbed past := by
  refine ⟨he.fresh.sublist ((List.Sublist.refl _).append ?_), fun e hpast => ?_⟩
  · exact (List.sublist_append_left past future).filterMap _
  · exact he.unclosed e (List.mem_append_left future hpast)

/-- A job that has ended does not end again. -/
theorem Orderly.not_endsIn (h : b.Orderly) (he : b.Undisturbed events) (ht : t ∈ b.tasks)
    (hstatus : t.status ≠ .running) : ¬ b.EndsIn events t.job outcome now := by
  induction events generalizing b t with
  | nil => exact not_endsIn_nil
  | cons e events ih =>
    rw [endsIn_cons]
    rintro (⟨-, hactive⟩ | hlater)
    · exact hstatus (h.eq_job_of_live ht (List.mem_append_right _ hactive) rfl).1
    · have hafter : (b.after t e).status ≠ .running := by
        rcases h.after_end ht e with ⟨_, _, -, -, -, hended⟩ | ⟨-, hsame⟩
        · exact hended
        · rw [hsame.status]
          exact hstatus
      refine ih (h.step he) (h.undisturbed_step he) (h.after_mem he ht) hafter ?_
      rw [job_after]
      exact hlater

/-- What has become of a record in a course of events. -/
structure Becomes (b : TaskBoard ε ρ) (events : List (Event ε ρ)) (t t' : Task ε ρ) : Prop where
  heading : t'.heading = t.heading
  reports : ∀ reports, t.reports = reports.rtake Task.maxReports →
    t'.reports = (reports ++ pushed t.id events).rtake Task.maxReports
  ended : ∀ outcome now, b.EndsIn events t.job outcome now → t'.EndedBy outcome now
  same : (∀ outcome now, ¬ b.EndsIn events t.job outcome now) → t'.SameEnd t

theorem Orderly.becomes (h : b.Orderly) (he : b.Undisturbed events) (ht : t ∈ b.tasks) :
    ∃ t' ∈ (b.run events).tasks, b.Becomes events t t' := by
  induction events generalizing b t with
  | nil =>
    refine ⟨t, ht, rfl, fun reports hreports => ?_, fun _ _ hend => absurd hend not_endsIn_nil, fun _ => ?_⟩
    · simpa [pushed] using hreports
    · exact ⟨rfl, rfl, rfl, rfl⟩
  | cons e events ih =>
    obtain ⟨t', ht', hbecomes⟩ := ih (h.step he) (h.undisturbed_step he) (h.after_mem he ht)
    have hjob : (b.after t e).job = t.job := b.job_after t e
    have hid : (b.after t e).id = t.id := congrArg Job.id hjob
    refine ⟨t', ht', hbecomes.heading.trans (b.heading_after t e), fun reports hreports => ?_, ?_, ?_⟩
    · rw [hbecomes.reports _ (reports_after hreports e), hid, List.append_assoc]
      simp only [pushed, ← List.filterMap_append, List.singleton_append]
    · intro outcome now hend
      rcases endsIn_cons.mp hend with ⟨hnow, hactive⟩ | hlater
      · rcases h.after_end ht e with ⟨outcome', now', hnow', -, hended, hstatus⟩ | ⟨hnot, -⟩
        · have hlast : ∀ outcome now, ¬ (b.step e).EndsIn events (b.after t e).job outcome now := fun _ _ =>
            (h.step he).not_endsIn (h.undisturbed_step he) (h.after_mem he ht) hstatus
          cases hnow.symm.trans hnow'
          exact hended.congr (hbecomes.same hlast)
        · exact absurd ⟨hnow, hactive⟩ (hnot outcome now)
      · exact hbecomes.ended outcome now (by rwa [hjob])
    · intro hnone
      have hlater : ∀ outcome now, ¬ (b.step e).EndsIn events (b.after t e).job outcome now := by
        intro outcome now hend
        rw [hjob] at hend
        exact hnone outcome now (endsIn_cons.mpr (.inr hend))
      have hsame := hbecomes.same hlater
      rcases h.after_end ht e with ⟨outcome, now, hnow, hactive, -, -⟩ | ⟨-, hkept⟩
      · exact absurd (endsIn_cons.mpr (.inl ⟨hnow, hactive⟩)) (hnone outcome now)
      · exact ⟨hsame.status.trans hkept.status, hsame.finishedAt.trans hkept.finishedAt,
          hsame.result.trans hkept.result, hsame.error.trans hkept.error⟩

/-- Each record is that of a submission that was accepted. -/
theorem exists_submission (he : Undisturbed {} events) (ht : t ∈ (run {} events).tasks) :
    ∃ past name kind now job future, events = past ++ .submit t.id name kind now :: future ∧
      ((run {} past).submit t.id name kind now).2 = .ok job := by
  have hid : t.id ∈ (run {} events).tasks.map Task.id := List.mem_map_of_mem ht
  clear ht
  generalize t.id = id at hid ⊢
  induction events using List.reverseRecOn with
  | nil => cases hid
  | append_singleton events e ih =>
    have hboard := orderly_empty.run he.take
    have hstep := hboard.ids_step (orderly_empty.undisturbed_run he)
    rw [run_append] at hid
    have hearlier (hid : id ∈ (run {} events).tasks.map Task.id) : ∃ past name kind now job future,
        events ++ [e] = past ++ .submit id name kind now :: future ∧
          ((run {} past).submit id name kind now).2 = .ok job := by
      obtain ⟨past, name, kind, now, job, future, rfl, haccepted⟩ := ih he.take hid
      exact ⟨past, name, kind, now, job, future ++ [e], by simp, haccepted⟩
    rcases hstep with hsame | ⟨id', name, kind, now, job, rfl, haccepted, hids⟩
    · exact hearlier (hsame ▸ hid)
    · change id ∈ ((run {} events).step (.submit id' name kind now)).tasks.map Task.id at hid
      rw [hids] at hid
      rcases List.mem_append.mp hid with hid | hid
      · exact hearlier hid
      · cases List.mem_singleton.mp hid
        exact ⟨events, name, kind, now, job, [], rfl, haccepted⟩

/-- What a record tells of the job that was accepted for it, after the events since. -/
structure Tells (b : TaskBoard ε ρ) (events : List (Event ε ρ)) (job : Job) (name startedAt : String)
    (t : Task ε ρ) : Prop where
  heading : t.heading = (job, name, startedAt)
  running_iff : t.status = .running ↔ ∀ outcome now, ¬ b.EndsIn events job outcome now
  ended : ∀ outcome now, b.EndsIn events job outcome now → t.EndedBy outcome now
  whole : t.Whole
  reports : t.reports = (pushed job.id events).rtake Task.maxReports

structure Cancels (b : TaskBoard ε ρ) (id : String) : Prop where
  answer_iff : (b.cancel id).2 = true ↔ ∃ t, b.task? id = some t ∧ t.status = .running
  unchanged : (b.cancel id).1 = { b with cancelledTickets := (b.cancel id).1.cancelledTickets }
  isCancelled_iff : ∀ t ∈ b.tasks, (b.cancel id).1.isCancelled t.ticket = true ↔
    b.isCancelled t.ticket = true ∨ (b.cancel id).2 = true ∧ t.id = id

structure Lifecycle (events : List (Event ε ρ)) : Prop where
  accepted : ∀ past id name kind now job future, events = past ++ .submit id name kind now :: future →
    ((run {} past).submit id name kind now).2 = .ok job →
    ∃ t, (run {} events).task? id = some t ∧
      (run {} (past ++ [.submit id name kind now])).Tells future job name now t
  recorded : ∀ t ∈ (run {} events).tasks, ∃ past name kind now job future,
    events = past ++ .submit t.id name kind now :: future ∧
      ((run {} past).submit t.id name kind now).2 = .ok job
  final : ∀ t ∈ (run {} events).tasks, t.status ≠ .running → ∀ more, Undisturbed {} (events ++ more) →
    ∃ t', (run {} (events ++ more)).task? t.id = some t' ∧ t'.heading = t.heading ∧ t'.SameEnd t
  cancels : ∀ id, (run {} events).Cancels id

theorem Orderly.cancels (h : b.Orderly) (id : String) : b.Cancels id := by
  rcases cancel_cases b id with ⟨hsame, hnone⟩ | ⟨u, hu, hstatus, hcancelled⟩
  · constructor
    · rw [hsame]
      refine iff_of_false Bool.false_ne_true ?_
      rintro ⟨t, ht, hstatus⟩
      exact hnone t ht hstatus
    · rw [hsame]
    · intro t ht
      simp [hsame]
  · obtain ⟨hmem, rfl⟩ := h.task?_eq_some_iff.mp hu
    constructor
    · rw [hcancelled]
      exact iff_of_true rfl ⟨u, hu, hstatus⟩
    · rw [hcancelled]
    · intro t ht
      have hown : t.ticket = u.ticket ↔ t.id = u.id := by
        constructor
        · intro hticket
          rw [h.eq_of_ticket ht hmem hticket]
        · intro hid
          rw [h.eq_of_id ht hmem hid]
      simp [hcancelled, isCancelled, ← hown, or_comm]

/-- The record that is made for an accepted job. -/
theorem accepted_mem (h : b.closed = false) {id name kind : String}
    (haccepted : (b.submit id name kind now).2 = .ok job) :
    (b.submitted id name kind now).job = job ∧ b.submitted id name kind now ∈ (b.submit id name kind now).1.tasks := by
  rcases submit_of_unclosed h id name kind now with hrefused | hsubmitted
  · rw [hrefused] at haccepted
    cases haccepted
  · rw [hsubmitted] at haccepted
    rw [hsubmitted]
    exact ⟨Except.ok.inj haccepted, mem_insert_self _ _⟩

theorem Orderly.tells (h : b.Orderly) (he : b.Undisturbed events) (ht : t ∈ b.tasks) (hstatus : t.status = .running)
    (hreports : t.reports = []) :
    ∃ t', (b.run events).task? t.id = some t' ∧ b.Tells events t.job t.name t.startedAt t' := by
  obtain ⟨t', ht', hbecomes⟩ := h.becomes he ht
  have hid : t'.id = t.id := congrArg (fun heading => heading.1.id) hbecomes.heading
  refine ⟨t', (h.run he).task?_eq_some_iff.mpr ⟨ht', hid⟩, hbecomes.heading, ?_, hbecomes.ended,
    (h.run he).whole t' ht', ?_⟩
  · constructor
    · intro hrunning outcome now hend
      have hended := hbecomes.ended outcome now hend
      have hwhole := ((h.run he).whole t' ht').finishedAt.mpr hrunning
      rw [hended.finishedAt] at hwhole
      cases hwhole
    · intro hnone
      rw [(hbecomes.same hnone).status]
      exact hstatus
  · exact hbecomes.reports [] (by simp [hreports])

/-- Every task lives as it should where the board is not closed and no id is submitted twice. -/
theorem lifecycle (he : Undisturbed {} events) : Lifecycle events where
  accepted := by
    rintro past id name kind now job future rfl haccepted
    have hpast : (run {} past).Orderly := orderly_empty.run he.take
    have hrest := orderly_empty.undisturbed_run he
    obtain ⟨rfl, hmem⟩ := accepted_mem hpast.unclosed haccepted
    rw [run_append, run_append]
    exact (hpast.step hrest).tells (hpast.undisturbed_step hrest) hmem rfl rfl
  recorded t ht := exists_submission he ht
  final t ht hstatus more hmore := by
    have hevents : (run {} events).Orderly := orderly_empty.run he
    have hrest := orderly_empty.undisturbed_run hmore
    obtain ⟨t', ht', hbecomes⟩ := hevents.becomes hrest ht
    have hid : t'.id = t.id := congrArg (fun heading => heading.1.id) hbecomes.heading
    rw [run_append]
    refine ⟨t', (hevents.run hrest).task?_eq_some_iff.mpr ⟨ht', hid⟩, hbecomes.heading, ?_⟩
    exact hbecomes.same fun _ _ => hevents.not_endsIn hrest ht hstatus
  cancels := (orderly_empty.run he).cancels

/-- Two tasks that overlap, one of which is cancelled, beside a third one that is refused. A job that has ended does
not end again. -/
def overlapping : List (Event ℕ Unit) := [
  .submit "a" "index" exclusiveKind "1", .submit "b" "job" "concurrent" "2", .submit "c" "index" exclusiveKind "3",
  .start, .start, .push "a" 7, .push "b" 8, .cancel "b", .finish ⟨1, "b", "concurrent"⟩ (.error .buildCancelled) "4",
  .push "b" 9, .finish ⟨0, "a", exclusiveKind⟩ (.ok ()) "5", .finish ⟨0, "a", exclusiveKind⟩ (.error .notBuilt) "6",
  .cancel "a"]

theorem lifecycle_overlapping : Undisturbed {} overlapping ∧ Lifecycle overlapping ∧
    (run {} overlapping).tasks.map (fun t => (t.id, t.status, t.finishedAt, t.reports)) =
      [("a", .completed, some "5", [7]), ("b", .cancelled, some "4", [8, 9])] := by
  have hundisturbed : Undisturbed {} overlapping := ⟨by decide +kernel, by decide +kernel⟩
  exact ⟨hundisturbed, lifecycle hundisturbed, by decide +kernel⟩

end TaskBoard
end Catalog
