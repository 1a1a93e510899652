import Catalog.Proofs.Task.Orderly
import Mathlib.Data.List.Induction

/-! A submission that is refused because an exclusive task runs leaves no trace. One that a closed board refuses leaves
its record, which shows a task running that nobody runs; every other record that shows its task running stands for a
job that was accepted and has not ended. This holds in every course, also where ids are used again. -/
namespace Catalog.TaskBoard

variable {ε ρ : Type} {b : TaskBoard ε ρ} {e : Event ε ρ} {job : Job} {stray : Job → Prop}

/-- Every record that shows its task running stands for a live job, those of stray jobs apart. -/
structure Backed (b : TaskBoard ε ρ) (stray : Job → Prop) : Prop where
  ticketed : ∀ job ∈ b.live, job.ticket < b.nextTicket
  apart : ∀ i ∈ b.live, ∀ j ∈ b.live, i.ticket = j.ticket → i = j
  backed : ∀ t ∈ b.tasks, t.status = .running → t.job ∈ b.live ∨ stray t.job

theorem backed_empty (stray : Job → Prop) : Backed ({} : TaskBoard ε ρ) stray where
  ticketed _ h := by cases h
  apart _ h := by cases h
  backed _ h := by cases h

/-- The event is a submission that a closed board refuses, and records, for this job. -/
def Event.Strays (b : TaskBoard ε ρ) (e : Event ε ρ) (job : Job) : Prop :=
  ∃ name now, e = .submit job.id name job.kind now ∧
    (b.submit job.id name job.kind now).2 = .error .tasksClosed ∧ job.ticket = b.nextTicket

theorem eq_or_mem_of_mem_insert {t new : Task ε ρ} {tasks : List (Task ε ρ)} (h : t ∈ insert new tasks) :
    t = new ∨ t ∈ tasks := by
  rcases Keyed.eq_or_mem_of_mem_insert h with hnew | hold | ⟨_, -, -, hnew⟩
  · exact .inl hnew
  · exact .inr hold
  · exact .inl hnew

theorem Backed.mono {stray' : Job → Prop} (h : b.Backed stray) (hstray : ∀ job, stray job → stray' job) :
    b.Backed stray' := by
  refine ⟨h.ticketed, h.apart, fun t ht hstatus => ?_⟩
  exact (h.backed t ht hstatus).imp_right (hstray t.job)

theorem Backed.submit (h : b.Backed stray) (id name kind now : String) :
    (b.submit id name kind now).1.Backed fun job => stray job ∨ (Event.submit id name kind now).Strays b job := by
  have hstrays : (b.submit id name kind now).2 = .error .tasksClosed →
      (Event.submit id name kind now).Strays b (b.submitted id name kind now).job :=
    fun hrefused => ⟨name, now, rfl, hrefused, rfl⟩
  have hcases := b.submission id name kind now
  generalize b.submit id name kind now = outcome at hcases hstrays ⊢
  obtain ⟨b', answer⟩ := outcome
  cases hcases with
  | blocked => exact h.mono fun _ => Or.inl
  | turnedAway =>
    refine ⟨fun job hjob => ?_, h.apart, fun t ht hstatus => ?_⟩
    · have hlt := h.ticketed job hjob
      show job.ticket < b.nextTicket + 1
      omega
    · rcases eq_or_mem_of_mem_insert ht with rfl | hold
      · exact .inr (.inr (hstrays rfl))
      · exact (h.backed t hold hstatus).imp_right Or.inl
  | accepted =>
    have hlive (job : Job) : job ∈ b.queued ++ [(b.submitted id name kind now).job] ++ b.active ↔
        job = (b.submitted id name kind now).job ∨ job ∈ b.live := mem_live_queued
    have hnew (job : Job) (hjob : job ∈ b.live) : job.ticket ≠ (b.submitted id name kind now).job.ticket := by
      have hlt := h.ticketed job hjob
      show job.ticket ≠ b.nextTicket
      omega
    refine ⟨fun job hjob => ?_, fun i hi j hj hsame => ?_, fun t ht hstatus => ?_⟩
    · show job.ticket < b.nextTicket + 1
      rcases (hlive job).mp hjob with rfl | hold
      · exact Nat.lt_succ_self b.nextTicket
      · have hlt := h.ticketed job hold
        omega
    · rcases (hlive i).mp hi with rfl | hi
      · rcases (hlive j).mp hj with rfl | hj
        · rfl
        · exact absurd hsame.symm (hnew j hj)
      · rcases (hlive j).mp hj with rfl | hj
        · exact absurd hsame (hnew i hi)
        · exact h.apart i hi j hj hsame
    · rcases eq_or_mem_of_mem_insert ht with rfl | hold
      · exact .inl ((hlive _).mpr (.inl rfl))
      · rcases h.backed t hold hstatus with hjob | hstray
        · exact .inl ((hlive _).mpr (.inr hjob))
        · exact .inr (.inl hstray)

/-- A job that begins stays live. -/
theorem Backed.start (h : b.Backed stray) : (b.step .start).Backed stray := by
  rcases start_cases b with hsame | ⟨job, queued, hqueued, hstarted⟩
  · rw [hsame]
    exact h
  · have hperm : (queued ++ (b.active ++ [job])).Perm b.live := by
      rw [live, hqueued, ← List.append_assoc]
      exact List.perm_append_singleton job _
    rw [hstarted]
    refine ⟨fun i hi => ?_, fun i hi j hj => ?_, fun t ht hstatus => ?_⟩
    · exact h.ticketed i (hperm.subset hi)
    · exact h.apart i (hperm.subset hi) j (hperm.subset hj)
    · exact (h.backed t ht hstatus).imp_left fun hjob => hperm.symm.subset hjob

theorem Backed.push (h : b.Backed stray) (id : String) (report : ε) : (b.push id report).Backed stray := by
  refine ⟨h.ticketed, h.apart, fun t ht hstatus => ?_⟩
  obtain ⟨u, hu, rfl⟩ := mem_update.mp ht
  split_ifs at hstatus ⊢
  · rw [Task.status_addReport] at hstatus
    rw [Task.job_addReport]
    exact h.backed u hu hstatus
  · exact h.backed u hu hstatus

/-- The job that ends takes its ticket with it, and the record of its id shows nothing running any more. -/
theorem Backed.finish (h : b.Backed stray) (hjob : job ∈ b.active) (outcome : Except Failure ρ) (now : String) :
    (b.finish job outcome now).Backed stray := by
  have hsub : (b.finish job outcome now).live.Sublist b.live :=
    (List.Sublist.refl b.queued).append List.filter_sublist
  refine ⟨fun i hi => ?_, fun i hi j hj => ?_, fun t ht hstatus => ?_⟩
  · exact h.ticketed i (hsub.subset hi)
  · exact h.apart i (hsub.subset hi) j (hsub.subset hj)
  · obtain ⟨u, hu, rfl⟩ := mem_update.mp ht
    split_ifs at hstatus ⊢ with hid
    · exact absurd hstatus (u.status_finish_ne_running outcome now)
    · refine (h.backed u hu hstatus).imp_left fun hlive => ?_
      have hticket : u.job.ticket ≠ job.ticket := by
        intro hsame
        have heq := h.apart u.job hlive job (List.mem_append_right _ hjob) hsame
        exact hid (congrArg Job.id heq)
      show u.job ∈ b.queued ++ b.active.filter fun j => j.ticket ≠ job.ticket
      rcases List.mem_append.mp hlive with hqueued | hactive
      · exact List.mem_append_left _ hqueued
      · exact List.mem_append_right _ (List.mem_filter.mpr ⟨hactive, decide_eq_true hticket⟩)

theorem Backed.cancel (h : b.Backed stray) (id : String) : (b.cancel id).1.Backed stray := by
  rcases cancel_cases b id with ⟨hsame, -⟩ | ⟨t, -, -, hcancelled⟩
  · rw [hsame]
    exact h
  · rw [hcancelled]
    exact ⟨h.ticketed, h.apart, h.backed⟩

theorem Backed.step (h : b.Backed stray) (e : Event ε ρ) :
    (b.step e).Backed fun job => stray job ∨ e.Strays b job := by
  cases e with
  | submit id name kind now => exact h.submit id name kind now
  | start => exact h.start.mono fun _ => Or.inl
  | push id report => exact (h.push id report).mono fun _ => Or.inl
  | finish job outcome now =>
    rw [TaskBoard.step]
    split_ifs with hactive
    · exact (h.finish (List.contains_iff_mem.mp hactive) outcome now).mono fun _ => Or.inl
    · exact h.mono fun _ => Or.inl
  | cancel id => exact (h.cancel id).mono fun _ => Or.inl
  | close cancelRunning => exact ⟨h.ticketed, h.apart, fun t ht hstatus => (h.backed t ht hstatus).imp_right Or.inl⟩

/-- In the course of events a closed board has refused, and recorded, this job. -/
def TurnedAway (events : List (Event ε ρ)) (job : Job) : Prop :=
  ∃ past e future, events = past ++ e :: future ∧ e.Strays (run {} past) job

/-- Whatever has happened on a board. -/
theorem backed_run (events : List (Event ε ρ)) : (run {} events).Backed (TurnedAway events) := by
  induction events using List.reverseRecOn with
  | nil => exact backed_empty _
  | append_singleton events e ih =>
    have hrun : run {} (events ++ [e]) = (run {} events).step e := List.foldl_append
    rw [hrun]
    refine (ih.step e).mono fun job hjob => ?_
    rcases hjob with ⟨past, e', future, rfl, hstrays⟩ | hstrays
    · exact ⟨past, e', future ++ [e], by simp, hstrays⟩
    · exact ⟨events, e, [], rfl, hstrays⟩

/-- What a submission after the course of events does to the board, and which records show a task running. -/
structure Refusing (events : List (Event ε ρ)) : Prop where
  refused_iff : ∀ id name kind now, (∃ failure, ((run {} events).submit id name kind now).2 = .error failure) ↔
    (run {} events).Blocks kind ∨ (run {} events).closed = true
  /-- Nothing is left of a refusal, unless it is the closed board that refuses. -/
  traceless : ∀ id name kind now failure, ((run {} events).submit id name kind now).2 = .error failure →
    (run {} events).closed = false ∨ (run {} events).Blocks kind →
    ((run {} events).submit id name kind now).1 = run {} events
  handedOver : ∀ id name kind now job, ((run {} events).submit id name kind now).2 = .ok job →
    ((run {} events).submit id name kind now).1.live.Perm (job :: (run {} events).live)
  running : ∀ t ∈ (run {} events).tasks, t.status = .running →
    t.job ∈ (run {} events).live ∨ TurnedAway events t.job

theorem refusing (events : List (Event ε ρ)) : Refusing events where
  refused_iff id name kind now := by
    have hcases := (run {} events).submission id name kind now
    generalize (run {} events).submit id name kind now = outcome at hcases ⊢
    obtain ⟨b', answer⟩ := outcome
    cases hcases with
    | blocked h => exact iff_of_true ⟨_, rfl⟩ (.inl h)
    | turnedAway h hclosed => exact iff_of_true ⟨_, rfl⟩ (.inr hclosed)
    | accepted h hopen =>
      refine iff_of_false ?_ (not_or.mpr ⟨h, by simp [hopen]⟩)
      rintro ⟨failure, hfailure⟩
      cases hfailure
  traceless id name kind now failure hrefused hcondition := by
    have hcases := (run {} events).submission id name kind now
    generalize (run {} events).submit id name kind now = outcome at hcases hrefused ⊢
    obtain ⟨b', answer⟩ := outcome
    cases hcases with
    | blocked => rfl
    | turnedAway h hclosed =>
      have hnone : ¬ ((run {} events).closed = false ∨ (run {} events).Blocks kind) := by
        rw [hclosed]
        exact not_or.mpr ⟨Bool.noConfusion, h⟩
      exact absurd hcondition hnone
    | accepted => cases hrefused
  handedOver id name kind now job haccepted := by
    have hcases := (run {} events).submission id name kind now
    generalize (run {} events).submit id name kind now = outcome at hcases haccepted ⊢
    obtain ⟨b', answer⟩ := outcome
    cases hcases with
    | blocked => cases haccepted
    | turnedAway => cases haccepted
    | accepted =>
      cases haccepted
      show ((run {} events).queued ++ [_] ++ (run {} events).active).Perm _
      rw [live, List.append_assoc]
      exact List.perm_middle
  running := (backed_run events).backed

/-- A closed board refuses a task, and shows it running all the same. -/
theorem refused_but_running :
    let b := run ({} : TaskBoard Unit Unit) [.close true]
    (b.submit "x" "index" exclusiveKind "now").2 = .error .tasksClosed ∧
      b.tasks.length = 0 ∧ b.hasRunningExclusive = false ∧
      (b.submit "x" "index" exclusiveKind "now").1.tasks.map (fun t => (t.id, t.status)) = [("x", .running)] ∧
      (b.submit "x" "index" exclusiveKind "now").1.hasRunningExclusive = true ∧
      (b.submit "x" "index" exclusiveKind "now").1.live = [] := by
  decide +kernel

end Catalog.TaskBoard
