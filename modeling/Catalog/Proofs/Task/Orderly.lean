import Catalog.Proofs.Task.Exclusion

/-! A board that was not closed and on which no id is submitted twice: each record stands for one job, which is live
as long as the record shows it running. -/
namespace Catalog

variable {ε ρ : Type}

namespace Task

variable {t : Task ε ρ}

/-- What a record tells of the end of its job fits its status. -/
structure Whole (t : Task ε ρ) : Prop where
  finishedAt : t.finishedAt = none ↔ t.status = .running
  result : t.result ≠ none → t.status = .completed
  error : t.error ≠ none → t.status = .failed

/-- What stands in a record from the beginning. -/
def heading (t : Task ε ρ) : Job × String × String :=
  (t.job, t.name, t.startedAt)

theorem heading_addReport (t : Task ε ρ) (report : ε) : (t.addReport report).heading = t.heading := by
  simp only [heading, job, addReport]

theorem job_addReport (t : Task ε ρ) (report : ε) : (t.addReport report).job = t.job :=
  congrArg Prod.fst (t.heading_addReport report)

theorem status_addReport (t : Task ε ρ) (report : ε) : (t.addReport report).status = t.status := by
  simp only [addReport]

theorem Whole.addReport (h : t.Whole) (report : ε) : (t.addReport report).Whole := by
  simp only [Task.addReport]
  exact ⟨h.finishedAt, h.result, h.error⟩

theorem heading_finish (t : Task ε ρ) (outcome : Except Failure ρ) (now : String) :
    (t.finish outcome now).heading = t.heading := by
  unfold finish
  cases outcome with
  | ok result => rfl
  | error failure => dsimp only; split_ifs <;> rfl

theorem job_finish (t : Task ε ρ) (outcome : Except Failure ρ) (now : String) : (t.finish outcome now).job = t.job :=
  congrArg Prod.fst (t.heading_finish outcome now)

theorem status_finish_ne_running (t : Task ε ρ) (outcome : Except Failure ρ) (now : String) :
    (t.finish outcome now).status ≠ .running := by
  unfold finish
  cases outcome with
  | ok result => exact TaskStatus.noConfusion
  | error failure => dsimp only; split_ifs <;> exact TaskStatus.noConfusion

theorem whole_finish (t : Task ε ρ) (outcome : Except Failure ρ) (now : String) : (t.finish outcome now).Whole := by
  unfold finish
  cases outcome with
  | ok result => constructor <;> simp
  | error failure => dsimp only; split_ifs <;> constructor <;> simp

end Task

namespace TaskBoard

variable {b : TaskBoard ε ρ} {t u : Task ε ρ} {job i : Job}

def jobs (b : TaskBoard ε ρ) : List Job :=
  b.tasks.map Task.job

/-- Each record stands for a job of its own, and the live jobs are those whose records show them running. -/
structure Orderly (b : TaskBoard ε ρ) : Prop where
  unclosed : b.closed = false
  ids : (b.jobs.map Job.id).Nodup
  tickets : (b.jobs.map Job.ticket).Nodup
  ticketed : ∀ job ∈ b.jobs, job.ticket < b.nextTicket
  once : b.live.Nodup
  mem_live_iff : ∀ job, job ∈ b.live ↔ ∃ t ∈ b.tasks, t.status = .running ∧ t.job = job
  whole : ∀ t ∈ b.tasks, t.Whole

theorem orderly_empty : Orderly ({} : TaskBoard ε ρ) where
  unclosed := rfl
  ids := List.nodup_nil
  tickets := List.nodup_nil
  ticketed _ h := by cases h
  once := List.nodup_nil
  mem_live_iff job := by simp [live]
  whole _ h := by cases h

theorem mem_jobs (ht : t ∈ b.tasks) : t.job ∈ b.jobs :=
  List.mem_map_of_mem ht

theorem Orderly.eq_of_id (h : b.Orderly) (ht : t ∈ b.tasks) (hu : u ∈ b.tasks) (hid : t.id = u.id) : t = u := by
  have hids : (b.tasks.map Task.id).Nodup := by simpa [jobs, Task.job, Function.comp_def] using h.ids
  exact List.inj_on_of_nodup_map hids ht hu hid

theorem Orderly.eq_of_ticket (h : b.Orderly) (ht : t ∈ b.tasks) (hu : u ∈ b.tasks) (hticket : t.ticket = u.ticket) :
    t = u := by
  have htickets : (b.tasks.map Task.ticket).Nodup := by simpa [jobs, Task.job, Function.comp_def] using h.tickets
  exact List.inj_on_of_nodup_map htickets ht hu hticket

theorem Orderly.task?_eq_some_iff (h : b.Orderly) {id : String} : b.task? id = some t ↔ t ∈ b.tasks ∧ t.id = id := by
  have hids : (b.tasks.map Task.id).Nodup := by simpa [jobs, Task.job, Function.comp_def] using h.ids
  exact Keyed.find?_eq_some_iff hids

/-- A live job is that of the record with its id. -/
theorem Orderly.eq_job_of_live (h : b.Orderly) (ht : t ∈ b.tasks) (hjob : job ∈ b.live) (hid : t.id = job.id) :
    t.status = .running ∧ t.job = job := by
  obtain ⟨u, hu, hstatus, rfl⟩ := (h.mem_live_iff job).mp hjob
  obtain rfl : t = u := h.eq_of_id ht hu hid
  exact ⟨hstatus, rfl⟩

theorem Orderly.eq_of_live_ticket (h : b.Orderly) (hi : i ∈ b.live) (hjob : job ∈ b.live)
    (hticket : i.ticket = job.ticket) : i = job := by
  obtain ⟨t, ht, -, rfl⟩ := (h.mem_live_iff i).mp hi
  obtain ⟨u, hu, -, rfl⟩ := (h.mem_live_iff job).mp hjob
  rw [h.eq_of_ticket ht hu hticket]

/-! What events do to an orderly board. -/

/-- A submission to a board that is not closed is refused, or its record and its job are added. -/
theorem submit_of_unclosed (h : b.closed = false) (id name kind now : String) :
    b.submit id name kind now = (b, .error .exclusiveTaskRunning) ∨
      b.submit id name kind now =
        ({ b with
            tasks := insert (b.submitted id name kind now) b.tasks
            nextTicket := b.nextTicket + 1
            queued := b.queued ++ [(b.submitted id name kind now).job] },
          .ok (b.submitted id name kind now).job) := by
  have hcases := b.submission id name kind now
  generalize b.submit id name kind now = outcome at hcases ⊢
  obtain ⟨b', answer⟩ := outcome
  cases hcases with
  | blocked => exact .inl rfl
  | turnedAway _ hclosed =>
    rw [h] at hclosed
    cases hclosed
  | accepted => exact .inr rfl

theorem insert_of_fresh {new : Task ε ρ} (hid : new.id ∉ b.jobs.map Job.id) :
    insert new b.tasks = b.tasks ++ [new] := by
  refine Keyed.insert_eq_append ?_
  simpa [jobs, Task.job, Function.comp_def] using hid

/-- A record under a new id with a new ticket, and its job, may be added. -/
theorem Orderly.add (h : b.Orderly) {new : Task ε ρ} (hid : new.id ∉ b.jobs.map Job.id)
    (hticket : new.ticket = b.nextTicket) (hstatus : new.status = .running) (hwhole : new.Whole) :
    Orderly { b with
      tasks := b.tasks ++ [new]
      nextTicket := b.nextTicket + 1
      queued := b.queued ++ [new.job] } := by
  have hjobs : (b.tasks ++ [new]).map Task.job = b.jobs ++ [new.job] := List.map_append
  have hlive : (b.queued ++ [new.job] ++ b.active).Perm (new.job :: b.live) := by
    rw [live, List.append_assoc]
    exact List.perm_middle
  have hnew : ∀ i ∈ b.jobs, i.ticket ≠ new.ticket := fun i hi e => by
    have hlt := h.ticketed i hi
    omega
  refine ⟨h.unclosed, ?_, ?_, ?_, ?_, ?_, ?_⟩
  · rw [jobs, hjobs, List.map_append, List.map_singleton]
    refine List.nodup_append.mpr ⟨h.ids, List.nodup_singleton _, ?_⟩
    rintro a ha c hc rfl
    rw [List.mem_singleton.mp hc] at ha
    exact hid ha
  · rw [jobs, hjobs, List.map_append, List.map_singleton]
    refine List.nodup_append.mpr ⟨h.tickets, List.nodup_singleton _, ?_⟩
    rintro a ha c hc rfl
    obtain ⟨i, hi, rfl⟩ := List.mem_map.mp ha
    exact hnew i hi (List.mem_singleton.mp hc)
  · intro i hi
    rw [jobs, hjobs] at hi
    rcases List.mem_append.mp hi with hi | hi
    · exact Nat.lt_succ_of_lt (h.ticketed i hi)
    · rw [List.mem_singleton.mp hi]
      exact Nat.lt_succ_of_le (Nat.le_of_eq hticket)
  · refine hlive.nodup_iff.mpr (List.nodup_cons.mpr ⟨fun hmem => ?_, h.once⟩)
    obtain ⟨t, ht, -, htjob⟩ := (h.mem_live_iff _).mp hmem
    exact hnew t.job (mem_jobs ht) (congrArg Job.ticket htjob)
  · intro i
    rw [live, hlive.mem_iff, List.mem_cons, h.mem_live_iff]
    constructor
    · rintro (rfl | ⟨t, ht, hrunning, rfl⟩)
      · exact ⟨new, List.mem_append_right _ (List.mem_singleton.mpr rfl), hstatus, rfl⟩
      · exact ⟨t, List.mem_append_left _ ht, hrunning, rfl⟩
    · rintro ⟨t, ht, hrunning, rfl⟩
      rcases List.mem_append.mp ht with ht | ht
      · exact .inr ⟨t, ht, hrunning, rfl⟩
      · exact .inl (congrArg Task.job (List.mem_singleton.mp ht))
  · intro t ht
    rcases List.mem_append.mp ht with ht | ht
    · exact h.whole t ht
    · rw [List.mem_singleton.mp ht]
      exact hwhole

theorem whole_submitted (b : TaskBoard ε ρ) (id name kind now : String) : (b.submitted id name kind now).Whole := by
  constructor <;> simp [submitted]

theorem Orderly.submit (h : b.Orderly) {id : String} (hid : id ∉ b.jobs.map Job.id) (name kind now : String) :
    (b.submit id name kind now).1.Orderly := by
  rcases submit_of_unclosed h.unclosed id name kind now with hrefused | haccepted
  · rw [hrefused]
    exact h
  · rw [haccepted, insert_of_fresh hid]
    exact h.add hid rfl rfl (b.whole_submitted id name kind now)

/-- The job that is started goes from those that wait to those that run, and nothing else changes. -/
theorem start_cases (b : TaskBoard ε ρ) :
    b.step .start = b ∨ ∃ job queued, b.queued = job :: queued ∧
      b.step .start = { b with queued := queued, active := b.active ++ [job] } := by
  rw [step, TaskBoard.start]
  cases hqueued : b.queued with
  | nil => exact .inl rfl
  | cons job queued =>
    dsimp only
    split_ifs
    · exact .inr ⟨job, queued, rfl, rfl⟩
    · exact .inl rfl

theorem tasks_start (b : TaskBoard ε ρ) : (b.step .start).tasks = b.tasks := by
  rcases start_cases b with hsame | ⟨job, queued, -, hstarted⟩
  · rw [hsame]
  · rw [hstarted]

theorem Orderly.start (h : b.Orderly) : (b.step .start).Orderly := by
  rcases start_cases b with hsame | ⟨job, queued, hqueued, hstarted⟩
  · rw [hsame]
    exact h
  · rw [hstarted]
    have hperm : (queued ++ (b.active ++ [job])).Perm b.live := by
      rw [live, hqueued, ← List.append_assoc]
      exact List.perm_append_singleton job _
    refine ⟨h.unclosed, h.ids, h.tickets, h.ticketed, ?_, ?_, h.whole⟩
    · exact hperm.nodup_iff.mpr h.once
    · exact fun i => hperm.mem_iff.trans (h.mem_live_iff i)

theorem mem_update {id : String} {f : Task ε ρ → Task ε ρ} :
    t ∈ (b.update id f).tasks ↔ ∃ u ∈ b.tasks, (if u.id = id then f u else u) = t :=
  List.mem_map

theorem jobs_update (b : TaskBoard ε ρ) (id : String) {f : Task ε ρ → Task ε ρ} (hf : ∀ t, (f t).job = t.job) :
    (b.update id f).jobs = b.jobs := by
  simp only [jobs, update, List.map_map]
  refine List.map_congr_left fun t _ => ?_
  rw [Function.comp_apply]
  split_ifs
  · exact hf t
  · rfl

theorem whole_update (h : b.Orderly) {id : String} {f : Task ε ρ → Task ε ρ} (hf : ∀ t : Task ε ρ, t.Whole → (f t).Whole)
    (ht : t ∈ (b.update id f).tasks) : t.Whole := by
  obtain ⟨u, hu, rfl⟩ := mem_update.mp ht
  split_ifs
  · exact hf u (h.whole u hu)
  · exact h.whole u hu

theorem Orderly.push (h : b.Orderly) (id : String) (report : ε) : (b.push id report).Orderly := by
  have hjobs : (b.push id report).jobs = b.jobs := jobs_update b id fun t => t.job_addReport report
  refine ⟨h.unclosed, hjobs ▸ h.ids, hjobs ▸ h.tickets, hjobs ▸ h.ticketed, h.once, fun i => ?_, fun t ht => ?_⟩
  · refine (h.mem_live_iff i).trans ?_
    constructor
    · rintro ⟨t, ht, hstatus, rfl⟩
      refine ⟨_, mem_update.mpr ⟨t, ht, rfl⟩, ?_⟩
      split_ifs
      · exact ⟨(t.status_addReport report).trans hstatus, t.job_addReport report⟩
      · exact ⟨hstatus, rfl⟩
    · rintro ⟨t, ht, hstatus, rfl⟩
      obtain ⟨u, hu, rfl⟩ := mem_update.mp ht
      refine ⟨u, hu, ?_⟩
      split_ifs at hstatus ⊢
      · exact ⟨(u.status_addReport report).symm.trans hstatus, (u.job_addReport report).symm⟩
      · exact ⟨hstatus, rfl⟩
  · exact whole_update h (fun t ht => ht.addReport report) ht

/-- The live jobs once one of them has ended. -/
theorem Orderly.mem_live_finish (h : b.Orderly) (hjob : job ∈ b.active) (outcome : Except Failure ρ) (now : String) :
    i ∈ (b.finish job outcome now).live ↔ i ∈ b.live ∧ i ≠ job := by
  have hqueued : job ∉ b.queued := fun hq => (List.nodup_append.mp h.once).2.2 job hq job hjob rfl
  have hticket : ∀ j ∈ b.active, j.ticket = job.ticket → j = job := fun j hj =>
    h.eq_of_live_ticket (List.mem_append_right _ hj) (List.mem_append_right _ hjob)
  change i ∈ b.queued ++ b.active.filter (fun j => j.ticket ≠ job.ticket) ↔ i ∈ b.queued ++ b.active ∧ i ≠ job
  simp only [List.mem_append, List.mem_filter, decide_eq_true_eq]
  constructor
  · rintro (hi | ⟨hi, hne⟩)
    · exact ⟨.inl hi, fun e => hqueued (e ▸ hi)⟩
    · exact ⟨.inr hi, fun e => hne (congrArg Job.ticket e)⟩
  · rintro ⟨hi | hi, hne⟩
    · exact .inl hi
    · exact .inr ⟨hi, fun e => hne (hticket i hi e)⟩

theorem Orderly.finish (h : b.Orderly) (hjob : job ∈ b.active) (outcome : Except Failure ρ) (now : String) :
    (b.finish job outcome now).Orderly := by
  have hlive : job ∈ b.live := List.mem_append_right _ hjob
  have hjobs : (b.finish job outcome now).jobs = b.jobs := jobs_update b job.id fun t => t.job_finish outcome now
  have hsub : (b.finish job outcome now).live.Sublist b.live :=
    (List.Sublist.refl b.queued).append List.filter_sublist
  refine ⟨h.unclosed, hjobs ▸ h.ids, hjobs ▸ h.tickets, hjobs ▸ h.ticketed, h.once.sublist hsub, fun i => ?_,
    fun t ht => ?_⟩
  · rw [h.mem_live_finish hjob, h.mem_live_iff]
    constructor
    · rintro ⟨⟨t, ht, hstatus, rfl⟩, hne⟩
      refine ⟨t, mem_update.mpr ⟨t, ht, if_neg fun hid => ?_⟩, hstatus, rfl⟩
      exact hne (h.eq_job_of_live ht hlive hid).2
    · rintro ⟨t, ht, hstatus, rfl⟩
      obtain ⟨u, hu, rfl⟩ := mem_update.mp ht
      split_ifs at hstatus ⊢ with hid
      · exact absurd hstatus (u.status_finish_ne_running outcome now)
      · exact ⟨⟨u, hu, hstatus, rfl⟩, fun e => hid (congrArg Job.id e)⟩
  · exact whole_update h (fun t _ => t.whole_finish outcome now) ht

/-- Asking for a cancellation sets the flag of the running task with the id, and nothing else. -/
theorem cancel_cases (b : TaskBoard ε ρ) (id : String) :
    (b.cancel id = (b, false) ∧ ∀ t, b.task? id = some t → t.status ≠ .running) ∨
      ∃ t, b.task? id = some t ∧ t.status = .running ∧
        b.cancel id = ({ b with cancelledTickets := t.ticket :: b.cancelledTickets }, true) := by
  unfold TaskBoard.cancel
  cases htask : b.task? id with
  | none => exact .inl ⟨rfl, fun t h => by cases h⟩
  | some t =>
    by_cases hstatus : t.status = .running
    · exact .inr ⟨t, rfl, hstatus, if_pos hstatus⟩
    · refine .inl ⟨if_neg hstatus, fun u h => ?_⟩
      cases h
      exact hstatus

theorem tasks_cancel (b : TaskBoard ε ρ) (id : String) : (b.cancel id).1.tasks = b.tasks := by
  rcases cancel_cases b id with ⟨hsame, -⟩ | ⟨t, -, -, hcancelled⟩
  · rw [hsame]
  · rw [hcancelled]

theorem Orderly.cancel (h : b.Orderly) (id : String) : (b.cancel id).1.Orderly := by
  rcases cancel_cases b id with ⟨hsame, -⟩ | ⟨t, -, -, hcancelled⟩
  · rw [hsame]
    exact h
  · rw [hcancelled]
    exact ⟨h.unclosed, h.ids, h.tickets, h.ticketed, h.once, h.mem_live_iff, h.whole⟩

end TaskBoard
end Catalog
