import Catalog.Proofs.Task.Refusal
import Catalog.Service.Answer

/-! A request is answered by the page that it asks for. Only requests for a build and for a cancellation change the
service, and they change nothing but its tasks. -/
namespace Catalog.Service

variable {s : Service} {around : Surroundings} {request : Request} {route other : Route}

def Asks (request : Request) (route : Route) : Prop :=
  request.method = route.method ∧ Route.ofPath (pathOf request.target) = some route

instance decidableAsks (request : Request) (route : Route) : Decidable (Asks request route) :=
  inferInstanceAs (Decidable (_ ∧ _))

theorem Asks.eq (h : Asks request route) (hother : Asks request other) : route = other :=
  Option.some.inj (h.2.symm.trans hother.2)

theorem method_ne_head (route : Route) : route.method ≠ "HEAD" := by
  cases route <;> simp [Route.method]

theorem handle_page (h : Asks request route) : s.handle around request = s.visit around request.body route := by
  have hrespond : s.respond around request = s.visit around request.body route := by
    unfold respond
    extract_lets path
    -- the page is a variable here, so that nothing tries to compute it from the target
    generalize hpage : Route.ofPath path = page
    obtain rfl : some route = page := h.2.symm.trans hpage
    exact if_pos h.1
  have hhead : request.method ≠ "HEAD" := by
    rw [h.1]
    exact method_ne_head route
  simp only [handle, hrespond]
  rw [if_neg hhead]

theorem handle_fst (s : Service) (around : Surroundings) (request : Request) :
    (s.handle around request).1 = (s.respond around request).1 := by
  unfold handle
  generalize s.respond around request = answered
  obtain ⟨s', response⟩ := answered
  rfl

/-- What asks for no page leaves the service as it is. -/
theorem handle_nowhere (h : ∀ route, ¬ Asks request route) : (s.handle around request).1 = s := by
  rw [handle_fst]
  unfold respond
  extract_lets path
  generalize hpage : Route.ofPath path = page
  cases page with
  | some route =>
    have hmethod : request.method ≠ route.method := fun hmethod => h route ⟨hmethod, hpage⟩
    dsimp only
    rw [if_neg hmethod]
  | none =>
    dsimp only
    generalize Route.isSlashed path = slashed
    cases slashed <;> rfl

/-- The board after a request for a build is that after a submission, which changes nothing if it is refused. -/
theorem buildIndex_fst (s : Service) (around : Surroundings) :
    (s.buildIndex around).1 =
      { s with board := (s.board.submit around.freshId taskName exclusiveKind around.now).1 } := by
  unfold buildIndex
  by_cases hbusy : s.board.hasRunningExclusive = true
  · rw [if_pos hbusy]
    simp [TaskBoard.submit, hbusy]
  · rw [if_neg hbusy]
    unfold requestBuild
    generalize s.board.submit around.freshId taskName exclusiveKind around.now = submission
    obtain ⟨board, job | failure⟩ := submission
    all_goals rfl

theorem buildIndex_busy (h : s.board.hasRunningExclusive = true) :
    s.buildIndex around = (s, .because 409 "An index build is already running") :=
  if_pos h

def acceptance (around : Surroundings) : Response :=
  ⟨200, .object [("task_id", .string around.freshId), ("name", .string taskName),
    ("status", .string TaskStatus.running.label)]⟩

/-- A build is accepted while no task stands in its way and the board is open. -/
theorem buildIndex_free (hfree : s.board.hasRunningExclusive = false) (hopen : s.board.closed = false) :
    (s.buildIndex around).2 = acceptance around := by
  have hcases := s.board.submission around.freshId taskName exclusiveKind around.now
  unfold buildIndex requestBuild
  rw [if_neg (by simp [hfree])]
  generalize s.board.submit around.freshId taskName exclusiveKind around.now = submission at hcases ⊢
  obtain ⟨board, answer⟩ := submission
  cases hcases with
  | blocked h =>
    have hbusy := h.2
    rw [hfree] at hbusy
    cases hbusy
  | turnedAway h hclosed =>
    rw [hopen] at hclosed
    cases hclosed
  | accepted => rfl

/-- What a request does to a service. -/
theorem handle_cases (s : Service) (around : Surroundings) (request : Request) :
    (Asks request .index ∧ (s.handle around request).1 =
        { s with board := (s.board.submit around.freshId taskName exclusiveKind around.now).1 }) ∨
      (∃ id, Asks request (.cancellation id) ∧
        (s.handle around request).1 = { s with board := (s.board.cancel id).1 }) ∨
      ¬ Asks request .index ∧ (s.handle around request).1 = s := by
  by_cases hpage : ∃ route, Asks request route
  · obtain ⟨route, hroute⟩ := hpage
    have hother (hne : route ≠ .index) : ¬ Asks request .index := fun hindex => hne (hroute.eq hindex)
    rw [handle_page hroute]
    cases route with
    | index => exact .inl ⟨hroute, s.buildIndex_fst around⟩
    | cancellation id => exact .inr (.inl ⟨id, hroute, rfl⟩)
    | health => exact .inr (.inr ⟨hother Route.noConfusion, rfl⟩)
    | tools => exact .inr (.inr ⟨hother Route.noConfusion, rfl⟩)
    | tool name => exact .inr (.inr ⟨hother Route.noConfusion, rfl⟩)
    | tasks => exact .inr (.inr ⟨hother Route.noConfusion, rfl⟩)
    | task id => exact .inr (.inr ⟨hother Route.noConfusion, rfl⟩)
  · have hnowhere : ∀ route, ¬ Asks request route := not_exists.mp hpage
    exact .inr (.inr ⟨hnowhere .index, handle_nowhere hnowhere⟩)

end Catalog.Service
