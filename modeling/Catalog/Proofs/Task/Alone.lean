import Catalog.Proofs.Task.Lifecycle
import Mathlib.Data.List.Perm.Subperm

/-! A board on which all tasks are exclusive: one of them runs at most, and those that have completed are those whose
jobs have ended with a result. -/
namespace Catalog

variable {ε ρ : Type}

theorem Task.EndedBy.outcome_eq_ok {t : Task ε ρ} {outcome : Except Failure ρ} {now : String}
    (h : t.EndedBy outcome now) (hstatus : t.status = .completed) : ∃ result, outcome = .ok result := by
  cases outcome with
  | ok result => exact ⟨result, rfl⟩
  | error failure =>
    cases hcancellation : failure.isCancellation with
    | true =>
      have hcancelled := (h.cancelled failure rfl hcancellation).1
      rw [hstatus] at hcancelled
      cases hcancelled
    | false =>
      have hfailed := (h.failed failure rfl hcancellation).1
      rw [hstatus] at hfailed
      cases hfailed

namespace TaskBoard

variable {b : TaskBoard ε ρ} {t u : Task ε ρ} {e : Event ε ρ} {events : List (Event ε ρ)} {job : Job}

/-- The board is orderly, and suffers no task beside another one. -/
structure Solitary (b : TaskBoard ε ρ) : Prop where
  orderly : b.Orderly
  accounted : b.Accounted
  exclusive : ∀ job ∈ b.jobs, job.isExclusive = true

def IsBusy (b : TaskBoard ε ρ) : Prop :=
  ∃ t ∈ b.tasks, t.status = .running

def HasCompleted (b : TaskBoard ε ρ) : Prop :=
  ∃ t ∈ b.tasks, t.status = .completed

/-- One event disturbs nothing unless it closes the board or submits an id again. -/
theorem Orderly.undisturbed_singleton (h : b.Orderly) (hfresh : ∀ id, e.submittedId? = some id → id ∉ b.tasks.map Task.id)
    (hclose : e.isClose = false) : b.Undisturbed [e] := by
  constructor
  · have hids : (b.tasks.map Task.id).Nodup := by
      rw [ids_eq]
      exact h.ids
    rw [List.filterMap_cons, List.filterMap_nil]
    cases hid : e.submittedId? with
    | none => simpa using hids
    | some id =>
      refine List.nodup_append.mpr ⟨hids, List.nodup_singleton id, ?_⟩
      intro other hother id' hid' hsame
      rw [hsame, List.mem_singleton.mp hid'] at hother
      exact hfresh id hid hother
  · intro e' he'
    rw [List.mem_singleton.mp he']
    exact hclose

theorem Orderly.undisturbed_of_quiet (h : b.Orderly) (hid : e.submittedId? = none) (hclose : e.isClose = false) :
    b.Undisturbed [e] := by
  refine h.undisturbed_singleton (fun id hsome => ?_) hclose
  rw [hid] at hsome
  cases hsome

theorem Orderly.undisturbed_submit (h : b.Orderly) {id : String} (hid : ∀ t ∈ b.tasks, t.id ≠ id)
    (name kind now : String) : b.Undisturbed [.submit id name kind now] := by
  have hfresh : id ∉ b.tasks.map Task.id := by
    intro hmem
    obtain ⟨t, ht, hsame⟩ := List.mem_map.mp hmem
    exact hid t ht hsame
  refine h.undisturbed_singleton (fun other hother => ?_) rfl
  cases hother
  exact hfresh

/-- A new id is not that of a live job. -/
theorem Orderly.unmixed (h : b.Orderly) (he : b.Undisturbed (e :: events)) : e.Unmixed b := by
  cases e with
  | submit id name kind now =>
    intro job hjob hid
    obtain ⟨t, ht, -, rfl⟩ := (h.mem_live_iff job).mp hjob
    have hused : id ∈ b.jobs.map Job.id := List.mem_map.mpr ⟨t.job, mem_jobs ht, hid⟩
    exact absurd hused he.submit_fresh
  | _ => trivial

theorem Solitary.step (h : b.Solitary) (he : b.Undisturbed (e :: events))
    (hkind : ∀ id name kind now, e = .submit id name kind now → kind = exclusiveKind) : (b.step e).Solitary := by
  refine ⟨h.orderly.step he, h.accounted.step (h.orderly.unmixed he), fun job hjob => ?_⟩
  rcases h.orderly.jobs_step he with hjobs | ⟨id, name, kind, now, hsubmit, -, hjobs⟩
  · rw [hjobs] at hjob
    exact h.exclusive job hjob
  · rw [hjobs] at hjob
    rcases List.mem_append.mp hjob with hold | hnew
    · exact h.exclusive job hold
    · rw [List.mem_singleton.mp hnew]
      exact decide_eq_true (hkind id name kind now hsubmit)

/-- At most one job waits or runs. -/
theorem Solitary.live_length (h : b.Solitary) : b.live.length ≤ 1 := by
  have hall : b.live.countP Job.isExclusive = b.live.length := by
    rw [List.countP_eq_length]
    intro job hjob
    obtain ⟨t, ht, -, rfl⟩ := (h.orderly.mem_live_iff job).mp hjob
    exact h.exclusive t.job (mem_jobs ht)
  rw [← hall]
  exact h.accounted.alone

/-- At most one task is shown running. -/
theorem Solitary.running_length (h : b.Solitary) : (b.tasks.filter fun t => t.status = .running).length ≤ 1 := by
  have hnodup : ((b.tasks.filter fun t => t.status = .running).map Task.job).Nodup :=
    (h.orderly.ids.of_map Job.id).sublist (List.filter_sublist.map Task.job)
  have hsub : (b.tasks.filter fun t => t.status = .running).map Task.job ⊆ b.live := by
    intro job hjob
    obtain ⟨t, ht, rfl⟩ := List.mem_map.mp hjob
    obtain ⟨hmem, hstatus⟩ := List.mem_filter.mp ht
    exact (h.orderly.mem_live_iff t.job).mpr ⟨t, hmem, of_decide_eq_true hstatus, rfl⟩
  have hlength := (hnodup.subperm hsub).length_le
  rw [List.length_map] at hlength
  exact hlength.trans h.live_length

theorem Solitary.hasRunningExclusive_iff (h : b.Solitary) : b.hasRunningExclusive = true ↔ b.IsBusy := by
  unfold hasRunningExclusive IsBusy
  rw [List.any_eq_true]
  constructor
  · rintro ⟨t, ht, hblocks⟩
    exact ⟨t, ht, by simpa using (Bool.and_eq_true_iff.mp hblocks).1⟩
  · rintro ⟨t, ht, hstatus⟩
    have hkind : t.kind = exclusiveKind := of_decide_eq_true (h.exclusive t.job (mem_jobs ht))
    exact ⟨t, ht, by simp [Task.blocks, hstatus, hkind]⟩

/-- A task under a new id is recorded while no other one runs. -/
theorem Solitary.tasks_submit (h : b.Solitary) (hidle : ¬ b.IsBusy) {id : String} (hid : ∀ t ∈ b.tasks, t.id ≠ id)
    (name kind now : String) :
    (b.submit id name kind now).1.tasks = b.tasks ++ [b.submitted id name kind now] := by
  have hfree : b.hasRunningExclusive = false := by
    rw [Bool.eq_false_iff]
    exact fun hrunning => hidle (h.hasRunningExclusive_iff.mp hrunning)
  have hfresh : (b.submitted id name kind now).id ∉ b.jobs.map Job.id :=
    (h.orderly.undisturbed_submit hid name kind now).submit_fresh
  have hsubmit : (b.submit id name kind now).1.tasks = insert (b.submitted id name kind now) b.tasks := by
    simp [TaskBoard.submit, hfree, h.orderly.unclosed, submitted]
  rw [hsubmit, insert_of_fresh hfresh]

/-- A job runs only while a task is shown running. -/
theorem Orderly.isBusy_of_active (h : b.Orderly) (hjob : job ∈ b.active) : b.IsBusy := by
  obtain ⟨t, ht, hstatus, -⟩ := (h.mem_live_iff job).mp (List.mem_append_right _ hjob)
  exact ⟨t, ht, hstatus⟩

/-- A job that runs goes on until it ends. -/
theorem Orderly.active_step (h : b.Orderly) (hjob : job ∈ b.active) (e : Event ε ρ) :
    job ∈ (b.step e).active ∨ ∃ outcome now, e = .finish job outcome now := by
  cases e with
  | submit id name kind now =>
    left
    rcases submit_of_unclosed h.unclosed id name kind now with hrefused | haccepted
    · rw [TaskBoard.step, hrefused]
      exact hjob
    · rw [TaskBoard.step, haccepted]
      exact hjob
  | start =>
    left
    rcases start_cases b with hsame | ⟨next, queued, -, hstarted⟩
    · rw [hsame]
      exact hjob
    · rw [hstarted]
      exact List.mem_append_left [next] hjob
  | push id report => exact .inl hjob
  | finish ended outcome now =>
    by_cases hticket : job.ticket = ended.ticket
    · by_cases hactive : ended ∈ b.active
      · right
        have hlive {i : Job} (hi : i ∈ b.active) : i ∈ b.live := List.mem_append_right _ hi
        rw [h.eq_of_live_ticket (hlive hjob) (hlive hactive) hticket]
        exact ⟨outcome, now, rfl⟩
      · left
        simpa [TaskBoard.step, hactive] using hjob
    · left
      rw [TaskBoard.step]
      split_ifs
      · exact List.mem_filter.mpr ⟨hjob, decide_eq_true hticket⟩
      · exact hjob
  | cancel id =>
    left
    rcases cancel_cases b id with ⟨hsame, -⟩ | ⟨t, -, -, hcancelled⟩
    · rw [TaskBoard.step, hsame]
      exact hjob
    · rw [TaskBoard.step, hcancelled]
      exact hjob
  | close cancelRunning => exact .inl hjob

/-- A task completes where its job ends with a result, and stays completed. -/
theorem Orderly.hasCompleted_step (h : b.Orderly) (he : b.Undisturbed (e :: events)) :
    (b.step e).HasCompleted ↔
      b.HasCompleted ∨ ∃ job result now, e = .finish job (.ok result) now ∧ job ∈ b.active := by
  constructor
  · rintro ⟨u, hu, hstatus⟩
    rcases h.tasks_step he with htasks | ⟨id, name, kind, now, -, -, htasks⟩
    · rw [htasks] at hu
      obtain ⟨t, ht, rfl⟩ := List.mem_map.mp hu
      rcases h.after_end ht e with ⟨outcome, now, hfinish, hactive, hended, -⟩ | ⟨-, hsame⟩
      · obtain ⟨result, rfl⟩ := hended.outcome_eq_ok hstatus
        exact .inr ⟨t.job, result, now, hfinish, hactive⟩
      · exact .inl ⟨t, ht, hsame.status.symm.trans hstatus⟩
    · rw [htasks] at hu
      rcases List.mem_append.mp hu with hold | hnew
      · exact .inl ⟨u, hold, hstatus⟩
      · rw [List.mem_singleton.mp hnew] at hstatus
        cases hstatus
  · rintro (⟨t, ht, hstatus⟩ | ⟨job, result, now, rfl, hactive⟩)
    · refine ⟨_, h.after_mem he ht, ?_⟩
      rcases h.after_end ht e with ⟨outcome, now, -, hactive, -, -⟩ | ⟨-, hsame⟩
      · have hrunning := (h.eq_job_of_live ht (List.mem_append_right _ hactive) rfl).1
        rw [hstatus] at hrunning
        cases hrunning
      · exact hsame.status.trans hstatus
    · obtain ⟨t, ht, -, rfl⟩ := (h.mem_live_iff job).mp (List.mem_append_right _ hactive)
      refine ⟨_, h.after_mem he ht, ?_⟩
      rcases h.after_end ht (.finish t.job (.ok result) now) with ⟨outcome, now', hfinish, -, hended, -⟩ | ⟨hnot, -⟩
      · cases hfinish
        exact (hended.completed result rfl).1
      · exact absurd ⟨rfl, hactive⟩ (hnot (.ok result) now)

end TaskBoard
end Catalog
