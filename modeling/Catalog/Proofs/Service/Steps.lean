import Catalog.Proofs.Index.Turn
import Catalog.Proofs.Service.Visit
import Catalog.Proofs.Task.Alone
import Catalog.Service.Course

/-! What an event does to a service at work, and what holds all along: no task runs beside another one, and the index
is built if and only if a task is completed or the build of one that runs has succeeded. -/
namespace Catalog

namespace Progression

/-- The build has succeeded, or the caller takes over one that has. -/
def succeeded : Progression → Bool
  | leaving (.ok _) => true
  | gone (.ok _) => true
  | _ => false

variable {ix ix' : Index} {p p' : Progression} {m : Move}

/-- What has succeeded remains so. -/
theorem Advance.of_succeeded (h : Advance ix p m ix' p') (hp : p.succeeded = true) : p'.succeeded = true := by
  cases h with
  | release answer =>
    cases answer with
    | ok summary => rfl
    | error failure => cases hp
  | _ => cases hp

end Progression

namespace Index

/-- What an index tells of its builds: there is a summary of the latest one only if one has succeeded, and the time of
the latest one if and only if. -/
structure Told (ix : Index) : Prop where
  summarised : ix.lastSummary.isSome = true → ix.isIndexed = true
  dated : ix.lastIndexed.isSome = ix.isIndexed

variable {ix ix' : Index} {p p' : Progression} {m : Move}

theorem Told.advance (h : ix.Told) (ha : Progression.Advance ix p m ix' p') : ix'.Told := by
  cases ha with
  | publish summary now => exact ⟨fun _ => rfl, rfl⟩
  | _ => exact ⟨h.summarised, h.dated⟩

/-- An index that is built stays built. -/
theorem isIndexed_of_advance (ha : Progression.Advance ix p m ix' p') (hix : ix.isIndexed = true) :
    ix'.isIndexed = true := by
  cases ha with
  | publish summary now => rfl
  | _ => exact hix

/-- The step by which a build succeeds is the one that makes it known, or follows another's. -/
theorem Told.isIndexed_of_succeeded (h : ix.Told) (ha : Progression.Advance ix p m ix' p')
    (hp : p.succeeded = true → ix.isIndexed = true) (hp' : p'.succeeded = true) : ix'.isIndexed = true := by
  cases ha with
  | reuse g hg =>
    apply h.summarised
    cases hsummary : ix.lastSummary with
    | some summary => rfl
    | none =>
      rw [hsummary] at hp'
      cases hp'
  | publish summary now => rfl
  | release answer =>
    cases answer with
    | ok summary => exact hp rfl
    | error failure => cases hp'
  | _ => cases hp'

/-- An index is built by the step of one who has succeeded then. -/
theorem succeeded_of_isIndexed (ha : Progression.Advance ix p m ix' p') (hix : ix.isIndexed = false)
    (hix' : ix'.isIndexed = true) : p'.succeeded = true := by
  cases ha with
  | publish summary now => rfl
  | _ => exact absurd (hix.symm.trans hix') Bool.false_ne_true

end Index

namespace Operation

open Service (Asks Request Surroundings taskName)

variable {o o' : Operation} {e : Event} {events : List Event}

def Event.Fresh (o : Operation) : Event → Prop
  | .request around asked => Asks asked .index → ∀ t ∈ o.service.board.tasks, t.id ≠ around.freshId
  | _ => True

def Fresh (o : Operation) : List Event → Prop
  | [] => True
  | e :: events => e.Fresh o ∧ Fresh (o.step e) events

instance Event.decidableFresh (o : Operation) : (e : Event) → Decidable (e.Fresh o)
  | .request around asked =>
    inferInstanceAs (Decidable (Asks asked .index → ∀ t ∈ o.service.board.tasks, t.id ≠ around.freshId))
  | .start => isTrue trivial
  | .move _ _ => isTrue trivial
  | .contents _ _ _ => isTrue trivial
  | .report _ _ => isTrue trivial
  | .record _ _ => isTrue trivial

instance decidableFresh (o : Operation) : (events : List Event) → Decidable (o.Fresh events)
  | [] => isTrue trivial
  | e :: events =>
    have := decidableFresh (o.step e) events
    inferInstanceAs (Decidable (e.Fresh o ∧ (o.step e).Fresh events))

def Event.isRequest : Event → Bool
  | .request _ _ => true
  | _ => false

theorem fresh_of_no_request (o : Operation) (h : ∀ e ∈ events, e.isRequest = false) : o.Fresh events := by
  induction events generalizing o with
  | nil => trivial
  | cons e events ih =>
    refine ⟨?_, ih (o.step e) fun e' he' => h e' (List.mem_cons_of_mem e he')⟩
    cases e with
    | request around asked => cases h _ List.mem_cons_self
    | _ => trivial

inductive Change (o : Operation) : Event → Operation → Prop
  | idle (e : Event) : Change o e o
  | submit (around : Surroundings) (request : Request) (h : Asks request .index) :
      Change o (.request around request)
        (o.withBoard (o.service.board.step (.submit around.freshId taskName exclusiveKind around.now)))
  | cancel (around : Surroundings) (request : Request) (id : String) :
      Change o (.request around request) (o.withBoard (o.service.board.step (.cancel id)))
  | start : Change o .start (o.withBoard (o.service.board.step .start))
  | advance (job : Job) (move : Move) (index : Index) (place : Progression) (hjob : job ∈ o.service.board.active)
      (h : Progression.Advance o.service.index (o.place job.ticket) move index place) :
      Change o (.move job move) ((o.withIndex index).withPlace job place)
  | fill (job : Job) (store : Store) (taxonomy : Taxonomy) :
      Change o (.contents job store taxonomy) (o.withIndex (o.service.index.fill store taxonomy))
  | push (job : Job) (progress : Progress) :
      Change o (.report job progress) (o.withBoard (o.service.board.step (.push job.id progress)))
  | finish (job : Job) (now : String) (outcome : Except Failure Summary) (h : o.place job.ticket = .gone outcome) :
      Change o (.record job now) (o.withBoard (o.service.board.step (.finish job outcome now)))

theorem change (o : Operation) (e : Event) : Change o e (o.step e) := by
  cases e with
  | request around request =>
    rw [step]
    rcases o.service.handle_cases around request with ⟨hindex, hsubmit⟩ | ⟨id, -, hcancel⟩ | ⟨-, hsame⟩
    · rw [hsubmit]
      exact .submit around request hindex
    · rw [hcancel]
      exact .cancel around request id
    · rw [hsame]
      exact .idle _
  | start => exact .start
  | move job move =>
    rw [step]
    cases hadvance : (o.place job.ticket).advance o.service.index (o.service.board.isCancelled job.ticket) move with
    | none => exact .idle _
    | some next =>
      obtain ⟨index, place⟩ := next
      dsimp only
      split_ifs with hruns
      · exact .advance job move index place (List.contains_iff_mem.mp hruns) (Progression.advance_of_eq_some hadvance)
      · exact .idle _
  | contents job store taxonomy =>
    rw [step]
    split_ifs
    · exact .fill job store taxonomy
    · exact .idle _
  | report job progress =>
    rw [step]
    split_ifs
    · exact .push job progress
    · exact .idle _
  | record job now =>
    rw [step]
    cases hplace : o.place job.ticket with
    | gone outcome => exact .finish job now outcome hplace
    | _ => exact .idle _

/-- Between the success of a build and the end of its task, the index is built and no task tells of it. -/
structure Sound (o : Operation) : Prop where
  solitary : o.service.board.Solitary
  told : o.service.index.Told
  completed : o.service.board.HasCompleted → o.service.index.isIndexed = true
  succeeded : ∀ ticket, (o.place ticket).succeeded = true → o.service.index.isIndexed = true
  indexed : o.service.index.isIndexed = true →
    o.service.board.HasCompleted ∨ ∃ job ∈ o.service.board.active, (o.place job.ticket).succeeded = true

/-- The board may change, if its jobs end as the builds behind them have ended. -/
theorem Sound.withBoard (h : o.Sound) {be : TaskBoard.Event Progress Summary}
    (he : o.service.board.Undisturbed [be])
    (hkind : ∀ id name kind now, be = .submit id name kind now → kind = exclusiveKind)
    (hfinish : ∀ job outcome now, be = .finish job outcome now → o.place job.ticket = .gone outcome) :
    (o.withBoard (o.service.board.step be)).Sound := by
  have horderly := h.solitary.orderly
  have hcompleted := horderly.hasCompleted_step he
  refine ⟨h.solitary.step he hkind, h.told, fun hboard => ?_, h.succeeded, fun hindexed => ?_⟩
  · rcases hcompleted.mp hboard with hbefore | ⟨job, result, now, hend, -⟩
    · exact h.completed hbefore
    · refine h.succeeded job.ticket ?_
      rw [hfinish job (.ok result) now hend]
      rfl
  · rcases h.indexed hindexed with hbefore | ⟨job, hjob, hplace⟩
    · exact .inl (hcompleted.mpr (.inl hbefore))
    · rcases horderly.active_step hjob be with hactive | ⟨outcome, now, hend⟩
      · exact .inr ⟨job, hactive, hplace⟩
      · rw [hfinish job outcome now hend] at hplace
        cases outcome with
        | ok result => exact .inl (hcompleted.mpr (.inr ⟨job, result, now, hend, hjob⟩))
        | error failure => cases hplace

/-- Anything but a submission may come, if it is no end of a job whose build goes on. -/
theorem Sound.withBoard_of_quiet (h : o.Sound) {be : TaskBoard.Event Progress Summary} (hid : be.submittedId? = none)
    (hclose : be.isClose = false)
    (hfinish : ∀ job outcome now, be = .finish job outcome now → o.place job.ticket = .gone outcome) :
    (o.withBoard (o.service.board.step be)).Sound := by
  refine h.withBoard (h.solitary.orderly.undisturbed_of_quiet hid hclose) ?_ hfinish
  rintro id name kind now rfl
  cases hid

theorem Sound.submit (h : o.Sound) {id : String} (hid : ∀ t ∈ o.service.board.tasks, t.id ≠ id) (now : String) :
    (o.withBoard (o.service.board.step (.submit id taskName exclusiveKind now))).Sound := by
  refine h.withBoard (h.solitary.orderly.undisturbed_submit hid taskName exclusiveKind now) ?_ nofun
  intro other name kind now' hsubmit
  cases hsubmit
  rfl

theorem Sound.advance (h : o.Sound) {job : Job} {move : Move} {index : Index} {place : Progression}
    (hjob : job ∈ o.service.board.active)
    (ha : Progression.Advance o.service.index (o.place job.ticket) move index place) :
    ((o.withIndex index).withPlace job place).Sound := by
  have hsucceeded := h.told.isIndexed_of_succeeded ha (h.succeeded job.ticket)
  -- a job whose build has succeeded before the step has succeeded after it
  have hkept (ticket : ℕ) (hplace : (o.place ticket).succeeded = true) :
      (if ticket = job.ticket then place else o.place ticket).succeeded = true := by
    split_ifs with hticket
    · rw [hticket] at hplace
      exact ha.of_succeeded hplace
    · exact hplace
  refine ⟨h.solitary, h.told.advance ha, fun hboard => ?_, fun ticket hplace => ?_, fun hindexed => ?_⟩
  · exact Index.isIndexed_of_advance ha (h.completed hboard)
  · change (if ticket = job.ticket then place else o.place ticket).succeeded = true at hplace
    split_ifs at hplace
    · exact hsucceeded hplace
    · exact Index.isIndexed_of_advance ha (h.succeeded ticket hplace)
  · cases hbefore : o.service.index.isIndexed with
    | true => exact (h.indexed hbefore).imp_right fun ⟨i, hi, hplace⟩ => ⟨i, hi, hkept i.ticket hplace⟩
    | false =>
      refine .inr ⟨job, hjob, ?_⟩
      change (if job.ticket = job.ticket then place else o.place job.ticket).succeeded = true
      rw [if_pos rfl]
      exact Index.succeeded_of_isIndexed ha hbefore hindexed

theorem Sound.step (h : o.Sound) (he : e.Fresh o) : (o.step e).Sound := by
  have hchange := o.change e
  generalize o.step e = o' at hchange ⊢
  cases hchange with
  | idle => exact h
  | submit around request hindex => exact h.submit (he hindex) around.now
  | cancel around request id => exact h.withBoard_of_quiet rfl rfl nofun
  | start => exact h.withBoard_of_quiet rfl rfl nofun
  | advance job move index place hjob ha => exact h.advance hjob ha
  | fill job store taxonomy =>
    exact ⟨h.solitary, ⟨h.told.summarised, h.told.dated⟩, h.completed, h.succeeded, h.indexed⟩
  | push job progress => exact h.withBoard_of_quiet rfl rfl nofun
  | finish job now outcome hplace =>
    refine h.withBoard_of_quiet rfl rfl fun job' outcome' now' hend => ?_
    cases hend
    exact hplace

theorem Sound.run (h : o.Sound) (he : o.Fresh events) : (o.run events).Sound := by
  induction events generalizing o with
  | nil => exact h
  | cons e events ih => exact ih (h.step he.1) he.2

end Operation
end Catalog
