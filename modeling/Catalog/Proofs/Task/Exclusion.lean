import Catalog.Proofs.Keyed
import Catalog.Task.Course

/-! Exclusive tasks exclude each other as long as no live job shares its id with a task of the other sort: the refusal
of a second exclusive task looks at the records, and a record is lost where its id is used again before its job has
ended. -/
namespace Catalog

def Job.isExclusive (job : Job) : Bool :=
  job.kind = exclusiveKind

def Task.job {ε ρ : Type} (t : Task ε ρ) : Job :=
  ⟨t.ticket, t.id, t.kind⟩

namespace TaskBoard

variable {ε ρ : Type} {b : TaskBoard ε ρ} {job : Job}

/-- A task that is submitted has not the id of a live job, unless both are exclusive or neither is. -/
def Event.Unmixed (b : TaskBoard ε ρ) : Event ε ρ → Prop
  | .submit id _ kind _ => ∀ job ∈ b.live, job.id = id → (job.isExclusive = true ↔ kind = exclusiveKind)
  | _ => True

def Unmixed (b : TaskBoard ε ρ) : List (Event ε ρ) → Prop
  | [] => True
  | e :: events => e.Unmixed b ∧ Unmixed (b.step e) events

instance Event.decidableUnmixed (b : TaskBoard ε ρ) : (e : Event ε ρ) → Decidable (e.Unmixed b)
  | .submit id _ kind _ =>
    inferInstanceAs (Decidable (∀ job ∈ b.live, job.id = id → (job.isExclusive = true ↔ kind = exclusiveKind)))
  | .start => isTrue trivial
  | .push _ _ => isTrue trivial
  | .finish _ _ _ => isTrue trivial
  | .cancel _ => isTrue trivial
  | .close _ => isTrue trivial

instance decidableUnmixed (b : TaskBoard ε ρ) : (events : List (Event ε ρ)) → Decidable (b.Unmixed events)
  | [] => isTrue trivial
  | e :: events =>
    have := decidableUnmixed (b.step e) events
    inferInstanceAs (Decidable (e.Unmixed b ∧ (b.step e).Unmixed events))

def Shows (task : Task ε ρ) (job : Job) : Prop :=
  task.id = job.id ∧ task.status = .running ∧ task.kind = exclusiveKind

/-- The records account for the exclusive jobs that are live. -/
structure Accounted (b : TaskBoard ε ρ) : Prop where
  alone : b.live.countP Job.isExclusive ≤ 1
  apart : ∀ i ∈ b.live, ∀ j ∈ b.live, i.isExclusive = true → j.id = i.id → j.isExclusive = true
  shown : ∀ job ∈ b.live, job.isExclusive = true → ∃ task ∈ b.tasks, Shows task job

theorem accounted_empty : Accounted ({} : TaskBoard ε ρ) where
  alone := Nat.zero_le 1
  apart _ hi := by cases hi
  shown _ hj := by cases hj

/-- While an exclusive job is live the records show one. -/
theorem Accounted.hasRunningExclusive (h : b.Accounted) (hj : job ∈ b.live) (he : job.isExclusive = true) :
    b.hasRunningExclusive = true := by
  obtain ⟨task, htask, -, hstatus, hkind⟩ := h.shown job hj he
  refine List.any_eq_true.mpr ⟨task, htask, ?_⟩
  simp [Task.blocks, hstatus, hkind]

/-- Where no exclusive job is live nothing has to be accounted for. -/
theorem accounted_of_countP_eq_zero (h : b.live.countP Job.isExclusive = 0) : b.Accounted := by
  have hnone : ∀ job ∈ b.live, ¬ job.isExclusive = true := List.countP_eq_zero.mp h
  refine ⟨by omega, fun i hi _ _ he => ?_, fun job hj he => ?_⟩
  · exact absurd he (hnone i hi)
  · exact absurd he (hnone job hj)

theorem mem_insert_self (new : Task ε ρ) (tasks : List (Task ε ρ)) : new ∈ insert new tasks := by
  induction tasks with
  | nil => exact List.mem_singleton.mpr rfl
  | cons task tasks ih =>
    rw [insert, Keyed.insert]
    split_ifs
    · exact List.mem_cons_self
    · exact List.mem_cons_of_mem task ih

theorem mem_insert_of_ne {task new : Task ε ρ} {tasks : List (Task ε ρ)} (h : task ∈ tasks) (hne : task.id ≠ new.id) :
    task ∈ insert new tasks := by
  have hkeeps : Keyed.KeepsKey Task.id fun (_ new : Task ε ρ) => new := fun _ _ _ => rfl
  obtain ⟨n, hn⟩ := List.mem_iff_getElem?.mp h
  exact List.mem_of_getElem? ((Keyed.getElem?_insert_of_ne hkeeps hne tasks n).mpr hn)

/-- A new record leaves those of the live exclusive jobs, since it would be refused under the id of one of them. -/
theorem Accounted.shown_insert (h : b.Accounted) {new : Task ε ρ}
    (hmixed : ∀ job ∈ b.live, job.id = new.id → (job.isExclusive = true ↔ new.kind = exclusiveKind))
    (hfree : ¬ (new.kind = exclusiveKind ∧ b.hasRunningExclusive = true)) (hj : job ∈ b.live)
    (he : job.isExclusive = true) : ∃ task ∈ insert new b.tasks, Shows task job := by
  obtain ⟨task, htask, hshows⟩ := h.shown job hj he
  refine ⟨task, mem_insert_of_ne htask ?_, hshows⟩
  intro hid
  have hkind : new.kind = exclusiveKind := (hmixed job hj (hshows.1.symm.trans hid)).mp he
  exact hfree ⟨hkind, h.hasRunningExclusive hj he⟩

def submitted (b : TaskBoard ε ρ) (id name kind now : String) : Task ε ρ :=
  { id := id, name := name, kind := kind, ticket := b.nextTicket, startedAt := now }

def Blocks (b : TaskBoard ε ρ) (kind : String) : Prop :=
  kind = exclusiveKind ∧ b.hasRunningExclusive = true

/-- The three ways in which a submission may come out, with the board that it leaves. -/
inductive Submission (b : TaskBoard ε ρ) (id name kind now : String) : TaskBoard ε ρ → Except Failure Job → Prop
  | blocked (h : b.Blocks kind) : Submission b id name kind now b (.error .exclusiveTaskRunning)
  | turnedAway (h : ¬ b.Blocks kind) (hclosed : b.closed = true) :
      Submission b id name kind now
        { b with tasks := insert (b.submitted id name kind now) b.tasks, nextTicket := b.nextTicket + 1 }
        (.error .tasksClosed)
  | accepted (h : ¬ b.Blocks kind) (hopen : b.closed = false) :
      Submission b id name kind now
        { b with
          tasks := insert (b.submitted id name kind now) b.tasks
          nextTicket := b.nextTicket + 1
          queued := b.queued ++ [(b.submitted id name kind now).job] }
        (.ok (b.submitted id name kind now).job)

theorem submission (b : TaskBoard ε ρ) (id name kind now : String) :
    Submission b id name kind now (b.submit id name kind now).1 (b.submit id name kind now).2 := by
  unfold TaskBoard.submit
  by_cases hblocks : b.Blocks kind
  · have hrefused : (decide (kind = exclusiveKind) && b.hasRunningExclusive) = true := by simpa [Blocks] using hblocks
    rw [if_pos hrefused]
    exact .blocked hblocks
  · have hfree : ¬ (decide (kind = exclusiveKind) && b.hasRunningExclusive) = true := by simpa [Blocks] using hblocks
    rw [if_neg hfree]
    dsimp only
    split_ifs with hclosed
    · exact .turnedAway hblocks hclosed
    · exact .accepted hblocks (Bool.eq_false_iff.mpr hclosed)

/-- The live jobs once another one waits. -/
theorem mem_live_queued {i : Job} : i ∈ b.queued ++ [job] ++ b.active ↔ i = job ∨ i ∈ b.live := by
  simp only [live, List.mem_append, List.mem_singleton]
  tauto

theorem Accounted.submit (h : b.Accounted) {id name kind now : String}
    (hmixed : (Event.submit id name kind now : Event ε ρ).Unmixed b) : (b.submit id name kind now).1.Accounted := by
  have hcases := b.submission id name kind now
  generalize b.submit id name kind now = outcome at hcases ⊢
  obtain ⟨b', answer⟩ := outcome
  cases hcases with
  | blocked => exact h
  | turnedAway hfree => exact ⟨h.alone, h.apart, fun job hj he => h.shown_insert hmixed hfree hj he⟩
  | accepted hfree =>
    have hlive (job : Job) : job ∈ b.queued ++ [(b.submitted id name kind now).job] ++ b.active ↔
        job = (b.submitted id name kind now).job ∨ job ∈ b.live := mem_live_queued
    refine ⟨?_, fun i hi j hj he hid => ?_, fun job hj he => ?_⟩
    · have halone := h.alone
      by_cases hkind : kind = exclusiveKind
      · have hzero : b.live.countP Job.isExclusive = 0 := by
          rw [List.countP_eq_zero]
          exact fun job hj he => hfree ⟨hkind, h.hasRunningExclusive hj he⟩
        simp only [live, List.countP_append, List.countP_singleton] at hzero ⊢
        split_ifs <;> omega
      · simp only [live, List.countP_append, List.countP_singleton, Job.isExclusive, Task.job, submitted, hkind,
          decide_false, Bool.false_eq_true, if_false] at halone ⊢
        omega
    · rcases (hlive i).mp hi with rfl | hi
      · rcases (hlive j).mp hj with rfl | hj
        · exact he
        · exact (hmixed j hj hid).mpr (of_decide_eq_true he)
      · rcases (hlive j).mp hj with rfl | hj
        · exact decide_eq_true ((hmixed i hi hid.symm).mp he)
        · exact h.apart i hi j hj he hid
    · rcases (hlive job).mp hj with rfl | hj
      · exact ⟨_, mem_insert_self _ _, rfl, rfl, of_decide_eq_true he⟩
      · exact h.shown_insert hmixed hfree hj he

/-- A job that begins stays live. -/
theorem Accounted.start (h : b.Accounted) : (b.start.elim b Prod.snd).Accounted := by
  unfold TaskBoard.start
  cases hqueued : b.queued with
  | nil => exact h
  | cons job queued =>
    simp only
    split_ifs with hroom
    · have hperm : (queued ++ (b.active ++ [job])).Perm b.live := by
        rw [live, hqueued, ← List.append_assoc]
        exact List.perm_append_singleton job _
      refine ⟨?_, fun i hi j hj => ?_, fun i hi => ?_⟩
      · exact hperm.countP_eq _ ▸ h.alone
      · exact h.apart i (hperm.subset hi) j (hperm.subset hj)
      · exact h.shown i (hperm.subset hi)
    · exact h

/-- Records may change as long as they go on telling what they told of live exclusive jobs. -/
theorem Accounted.update (h : b.Accounted) (id : String) {f : Task ε ρ → Task ε ρ}
    (hf : ∀ job ∈ b.live, job.isExclusive = true → ∀ task, Shows task job → task.id = id → Shows (f task) job) :
    (b.update id f).Accounted := by
  refine ⟨h.alone, h.apart, fun job hj he => ?_⟩
  obtain ⟨task, htask, hshows⟩ := h.shown job hj he
  refine ⟨_, List.mem_map_of_mem htask, ?_⟩
  split_ifs with hid
  · exact hf job hj he task hshows hid
  · exact hshows

theorem Accounted.push (h : b.Accounted) (id : String) (report : ε) : (b.push id report).Accounted := by
  unfold TaskBoard.push
  refine h.update id fun job _ _ task hshows _ => ?_
  simpa only [Shows, Task.addReport] using hshows

theorem countP_filter_lt {p q : Job → Bool} {l : List Job} (hj : job ∈ l) (hp : p job = true)
    (hq : q job = false) : (l.filter q).countP p < l.countP p := by
  have hsplit := List.countP_eq_countP_filter_add l p q
  have hrest : 0 < (l.filter fun i => !q i).countP p :=
    List.countP_pos_iff.mpr ⟨job, List.mem_filter.mpr ⟨hj, by simp [hq]⟩, hp⟩
  omega

/-- The job that ends takes its record with it, which is that of another live job only where neither is exclusive. -/
theorem Accounted.finish (h : b.Accounted) (hj : job ∈ b.active) (outcome : Except Failure ρ) (now : String) :
    (b.finish job outcome now).Accounted := by
  have hlive : job ∈ b.live := List.mem_append_right _ hj
  have hsub : (b.finish job outcome now).live.Sublist b.live :=
    (List.Sublist.refl b.queued).append List.filter_sublist
  cases he : job.isExclusive with
  | true =>
    refine accounted_of_countP_eq_zero ?_
    have hlt := countP_filter_lt (q := fun i => i.ticket ≠ job.ticket) hj he (by simp)
    have halone := h.alone
    simp only [live, List.countP_append] at halone
    simp only [live, TaskBoard.finish, TaskBoard.update, List.countP_append]
    omega
  | false =>
    have hupdate : (b.update job.id fun task => task.finish outcome now).Accounted := by
      refine h.update job.id fun i hi hexclusive task hshows hid => ?_
      have hjob := h.apart i hi job hlive hexclusive (hid.symm.trans hshows.1)
      rw [he] at hjob
      cases hjob
    refine ⟨?_, fun i hi j hj => ?_, fun i hi => ?_⟩
    · exact Nat.le_trans hsub.countP_le h.alone
    · exact h.apart i (hsub.subset hi) j (hsub.subset hj)
    · exact hupdate.shown i (hsub.subset hi)

theorem Accounted.cancel (h : b.Accounted) (id : String) : (b.cancel id).1.Accounted := by
  unfold TaskBoard.cancel
  cases b.task? id with
  | none => exact h
  | some task =>
    simp only
    split_ifs
    · exact ⟨h.alone, h.apart, h.shown⟩
    · exact h

theorem Accounted.step (h : b.Accounted) {e : Event ε ρ} (he : e.Unmixed b) : (b.step e).Accounted := by
  cases e with
  | submit id name kind now => exact h.submit he
  | start => exact h.start
  | push id report => exact h.push id report
  | finish job outcome now =>
    rw [TaskBoard.step]
    split_ifs with hj
    · exact h.finish (List.contains_iff_mem.mp hj) outcome now
    · exact h
  | cancel id => exact h.cancel id
  | close cancelRunning => exact ⟨h.alone, h.apart, h.shown⟩

theorem Accounted.run (h : b.Accounted) {events : List (Event ε ρ)} (he : b.Unmixed events) :
    (b.run events).Accounted := by
  induction events generalizing b with
  | nil => exact h
  | cons e events ih => exact ih (h.step he.1) he.2

/-- At most one exclusive job is live at any time of a course in which no live job shares its id with a task of the
other sort. -/
theorem exclusive_alone {events : List (Event ε ρ)} (h : Unmixed ({} : TaskBoard ε ρ) events) :
    (run {} events).live.countP Job.isExclusive ≤ 1 :=
  (accounted_empty.run h).alone

/-- An exclusive task beside two others with one id, and another one under its own id once it has ended. -/
def orderly : List (Event Unit Unit) := [
  .submit "a" "job" exclusiveKind "", .submit "b" "job" "concurrent" "", .submit "b" "job" "concurrent" "",
  .submit "c" "job" exclusiveKind "", .start, .push "a" (), .cancel "a", .finish ⟨0, "a", exclusiveKind⟩ (.ok ()) "",
  .submit "a" "job" exclusiveKind ""]

theorem exclusive_alone_orderly : Unmixed {} orderly ∧ (run {} orderly).live.countP Job.isExclusive ≤ 1 :=
  ⟨by decide +kernel, exclusive_alone (by decide +kernel)⟩

/-- A task that takes the id of a live exclusive one hides it, and makes room for a second one. -/
theorem exclusive_beside_exclusive :
    (run ({} : TaskBoard Unit Unit) [
      .submit "x" "job" exclusiveKind "", .submit "x" "job" "concurrent" "",
      .submit "y" "job" exclusiveKind ""]).live.countP Job.isExclusive = 2 := by
  decide +kernel

end TaskBoard
end Catalog
