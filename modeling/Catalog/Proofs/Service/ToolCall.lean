import Catalog.Proofs.Index.Coalescing
import Catalog.Proofs.Service.Visit
import Catalog.Proofs.Tool.Outcome

/-! A call of a tool fails only in the ways that are declared, and the service tells them apart by the status of its
answer, unless the answer would tell a broken text again, which cannot be sent. Until a build has succeeded no tool
answers at all. -/
namespace Catalog

namespace Turns

open Progression

variable {t : Turns} {moves : ℕ → ℕ × Move} {n : ℕ}

/-- Whether an index is built changes only where a success is made known. -/
theorem isIndexed_after (hno : ∀ q < n, ∀ i s, ¬ t.Publishes moves q i s) :
    (t.after moves n).index.isIndexed = t.index.isIndexed := by
  induction n with
  | zero => rfl
  | succ n ih =>
    have hbefore := ih fun q hq => hno q (hq.trans n.lt_succ_self)
    rcases tick t moves n with ⟨-, hix, -⟩ | ⟨i, m, hmake, ha, -⟩
    · rw [hix, hbefore]
    · rcases ha.isIndexed_cases with ⟨summary, now, rfl, hp⟩ | hsame
      · exact absurd ⟨now, hmake, hp⟩ (hno n n.lt_succ_self i summary)
      · exact hsame.trans hbefore

end Turns

namespace Service

/-- An answer tells how the call of a tool ended: its status the way, its body the text or the reason. What is told by a
broken text is an error of the service. -/
structure Tells (name : String) (outcome : Except Failure AnyText) (response : Response) : Prop where
  answered : response.status = 200 ↔ ∃ text : String, outcome = .ok text
  unknown : response.status = 404 ↔ outcome = .error (.unknownTool name)
  fault : response.status = 400 ↔ ∃ fault, outcome = .error (.tool fault) ∧ fault.wording.IsWhole
  unbuilt : response.status = 503 ↔ outcome = .error .notBuilt
  broken : response.status = 500 ↔ ¬ (Tool.told outcome).IsWhole
  declared : response.status ∈ [200, 404, 400, 503, 500]
  text : ∀ text : String, outcome = .ok text →
    response.body = .object [("tool", .string name), ("result", .string text)]
  reason : ∀ failure (reason : String), outcome = .error failure → failure.wording = reason →
    response.body = .object [("detail", .string reason)]

/-- The status of the answer to a body at fault. The value that is told stands below three levels of the answer. -/
def BodyFault.status (deeper : ℕ) : BodyFault → ℕ
  | notJson _ => 422
  | unreadable => 400
  | notObject value => if value.isEncodable (deeper + 1) then 422 else 500
  | argumentsNotObject value => if value.isEncodable (deeper + 1) then 422 else 500

/-- The answer to the call of a tool, whose arguments are in a body. It is an error of the service only where the
arguments have a broken text that the tool tells again. A body that gives no arguments is at fault itself. -/
structure Replies (s : Service) (around : Surroundings) (name body : String) (response : Response) : Prop where
  told : ∀ arguments, argumentsOf around.nesting body = .ok arguments →
    Tells name (Tool.answer s.index name arguments) response
  declared : ∀ arguments, argumentsOf around.nesting body = .ok arguments →
    (∀ tool : ToolName, tool.text = name → arguments.Plain tool) → response.status ∈ [200, 404, 400, 503]
  refused : ∀ fault, argumentsOf around.nesting body = .error fault → response.status = fault.status around.deeper

section Sent

variable {name : String} {deeper : ℕ}

theorem sent_eq {response : Response} (h : response.body.isEncodable (deeper + Response.levels) = true) :
    response.sent deeper = response :=
  if_pos h

theorem sent_eq_error {response : Response} (h : response.body.isEncodable (deeper + Response.levels) = false) :
    response.sent deeper = ⟨500, .null⟩ :=
  if_neg (Bool.eq_false_iff.mp h)

theorem not_isWhole_broken (text : Broken) : ¬ (AnyText.broken text).IsWhole := by
  rintro ⟨characters, h⟩
  cases h

theorem tells_ok (name : String) (deeper : ℕ) (text : AnyText) :
    Tells name (.ok text) (Response.sent deeper ⟨200, .object [("tool", .string name), ("result", .ofText text)]⟩) := by
  cases text with
  | whole text =>
    rw [sent_eq (by simp [Json.isEncodable, Json.membersEncodable, Json.ofText, Response.levels])]
    constructor <;> simp [Tool.told, AnyText.isWhole_whole, Json.ofText]
  | broken text =>
    rw [sent_eq_error (by simp [Json.isEncodable, Json.membersEncodable, Json.ofText])]
    constructor <;> simp [Tool.told, not_isWhole_broken]

/-- The failures that are declared have statuses of their own. -/
theorem tells_error {failure : Failure} (deeper : ℕ)
    (h : failure = .unknownTool name ∨ (∃ fault, failure = .tool fault) ∨ failure = .notBuilt) :
    Tells name (.error failure)
      (Response.sent deeper ⟨statusOf failure, .object [("detail", .ofText failure.wording)]⟩) := by
  have hinj {other : Failure} (heq : (.error failure : Except Failure AnyText) = .error other) : failure = other :=
    Except.error.inj heq
  cases hwording : failure.wording with
  | whole reason =>
    have hwhole : failure.wording.IsWhole := ⟨reason, hwording⟩
    rw [sent_eq (by simp [Json.isEncodable, Json.membersEncodable, Json.ofText, Response.levels])]
    constructor
    case reason =>
      rintro other given heq hgiven
      obtain rfl := hinj heq
      cases hwording.symm.trans hgiven
      rfl
    all_goals
      clear hwording
      rcases h with rfl | ⟨fault, rfl⟩ | rfl
      all_goals simp_all [statusOf, Tool.told]
  | broken reason =>
    obtain ⟨fault, rfl⟩ : ∃ fault, failure = .tool fault := by
      rcases h with rfl | hfault | rfl
      · cases hwording
      · exact hfault
      · cases hwording
    have hbroken : ¬ (Failure.tool fault).wording.IsWhole := by
      rw [hwording]
      exact not_isWhole_broken reason
    rw [sent_eq_error (by simp [Json.isEncodable, Json.membersEncodable, Json.ofText])]
    constructor
    case reason =>
      rintro other given heq hgiven
      obtain rfl := hinj heq
      cases hwording.symm.trans hgiven
    case fault => simpa using hbroken
    case broken => simpa [Tool.told] using hbroken
    all_goals simp

theorem isEncodable_complaint (deeper : ℕ) (place : List Json) (message kind : String) (input : Json)
    (more : List (String × Json)) :
    (complaint place message kind input more).body.isEncodable (deeper + Response.levels) =
      (Json.areEncodable deeper place &&
        (input.isEncodable (deeper + 1) && Json.membersEncodable (deeper + 1) more)) := by
  simp [complaint, Json.isEncodable, Json.areEncodable, Json.membersEncodable, Response.levels]

/-- A complaint is sent if the value that it tells can be. -/
theorem status_complaint {place : List Json} (hplace : Json.areEncodable deeper place = true)
    (message kind : String) (value : Json) :
    ((complaint place message kind value []).sent deeper).status =
      if value.isEncodable (deeper + 1) then 422 else 500 := by
  have hbody := isEncodable_complaint deeper place message kind value []
  simp only [hplace, Json.membersEncodable, Bool.true_and, Bool.and_true] at hbody
  cases hvalue : value.isEncodable (deeper + 1) with
  | true => rw [sent_eq (hbody.trans hvalue)]; rfl
  | false => rw [sent_eq_error (hbody.trans hvalue)]; rfl

theorem status_sent (fault : BodyFault) (deeper : ℕ) :
    (fault.response.sent deeper).status = fault.status deeper := by
  cases fault with
  | notJson e =>
    refine congrArg Response.status (sent_eq ?_)
    rw [BodyFault.response, isEncodable_complaint]
    simp [Json.isEncodable, Json.areEncodable, Json.membersEncodable]
  | unreadable => rfl
  | notObject value => exact status_complaint rfl _ _ value
  | argumentsNotObject value => exact status_complaint rfl _ _ value

end Sent

theorem replies_callTool (s : Service) (around : Surroundings) (name body : String) :
    Replies s around name body ((s.callTool around.nesting name body).sent around.deeper) := by
  have htells (arguments : Arguments) (hbody : argumentsOf around.nesting body = .ok arguments) :
      Tells name (Tool.answer s.index name arguments)
        ((s.callTool around.nesting name body).sent around.deeper) := by
    have hdeclared := (Tool.concludes_answer s.index name arguments).declared
    simp only [callTool, hbody]
    cases houtcome : Tool.answer s.index name arguments with
    | ok text => exact tells_ok name around.deeper text
    | error failure =>
      rw [houtcome] at hdeclared
      exact tells_error around.deeper (by simpa using hdeclared)
  refine ⟨htells, fun arguments hbody hplain => ?_, fun fault hbody => ?_⟩
  · have htold := htells arguments hbody
    have hwhole := (Tool.concludes_answer s.index name arguments).whole hplain
    have hsent : ((s.callTool around.nesting name body).sent around.deeper).status ≠ 500 :=
      fun hstatus => htold.broken.mp hstatus hwhole
    have hdeclared := htold.declared
    simp only [List.mem_cons, List.not_mem_nil, or_false] at hdeclared ⊢
    tauto
  · simp only [callTool, hbody]
    exact status_sent fault around.deeper

/-- The answer to a request for the page of a tool, which leaves the service as it is. -/
theorem handle_tool {s : Service} {around : Surroundings} {request : Request} {name : String}
    (hmethod : request.method = "POST") (hpage : Route.ofPath (pathOf request.target) = some (.tool name)) :
    s.handle around request = (s, (s.callTool around.nesting name request.body).sent around.deeper) :=
  handle_page ⟨hmethod, hpage⟩

theorem page_of_tool (tool : ToolName) : Route.ofPath (pathOf ("/tools/" ++ tool.text)) = some (.tool tool.text) := by
  cases tool <;> decide +kernel

/-- The tools of a service fail only in the ways that are declared. An index that was not built is built once a caller
has made known that a build has succeeded; until then no tool answers, whatever builds have put into the index. -/
structure FailsAsDeclared (s : Service) : Prop where
  call : ∀ name arguments, Tool.Concludes s.index name arguments (Tool.answer s.index name arguments)
  page : ∀ tool : ToolName, Route.ofPath (pathOf ("/tools/" ++ tool.text)) = some (.tool tool.text)
  post : ∀ around request name, request.method = "POST" →
    Route.ofPath (pathOf request.target) = some (.tool name) →
    (s.handle around request).1 = s ∧ Replies s around name request.body (s.handle around request).2
  silent : s.index.isIndexed = false → ∀ flags moves n,
    (∀ q < n, ∀ i summary, ¬ (Turns.start s.index flags).Publishes moves q i summary) →
    ∀ store taxonomy name arguments text,
      Tool.answer (((Turns.start s.index flags).after moves n).index.fill store taxonomy) name arguments ≠ .ok text

theorem fails_as_declared (s : Service) : s.FailsAsDeclared where
  call := Tool.concludes_answer s.index
  page := page_of_tool
  post around request name hmethod hpage := by
    rw [handle_tool hmethod hpage]
    exact ⟨rfl, replies_callTool s around name request.body⟩
  silent hix flags moves n hno store taxonomy name arguments text hanswer := by
    have hindexed := (Tool.concludes_answer _ name arguments).built text hanswer
    have hstart : ((Turns.start s.index flags).after moves n).index.isIndexed = s.index.isIndexed :=
      Turns.isIndexed_after hno
    have hbuilt : s.index.isIndexed = true := hstart.symm.trans hindexed
    rw [hix] at hbuilt
    cases hbuilt

def builtService : Service where
  index := ({} : Index).publish ⟨0, 0, 0, 0⟩ "now"

def halved : Broken :=
  ⟨[.ofUnit 0xD800], rfl⟩

def halvedRequest : Request where
  method := "POST"
  target := "/tools/list_components"
  body := "\x7b\"arguments\": \x7b\"category\": \"\\ud800\"\x7d\x7d"

theorem argumentsOf_halvedRequest :
    argumentsOf 1000 halvedRequest.body = .ok (.named [("category", .broken halved)]) := by
  have hempty : halvedRequest.body.isEmpty = false := by decide
  have hmark : withoutMark halvedRequest.body = halvedRequest.body := by
    simp only [withoutMark, halvedRequest, String.reduceToList]
    rfl
  have hread : Json.read 1000 halvedRequest.body =
      .ok (.object [("arguments", .object [("category", .broken halved)])]) := by
    simp only [Json.read, halvedRequest, String.reduceToList]
    rfl
  simp only [argumentsOf, hempty, hmark, hread]
  rfl

/-- A category that is half a pair is told again where no component is in it, and the answer cannot be sent. -/
theorem fails_as_declared_halvedRequest :
    argumentsOf 1000 halvedRequest.body = .ok (.named [("category", .broken halved)]) ∧
      (builtService.handle ⟨"now", "id", Failure.message, 1000, 1000⟩ halvedRequest).2.status = 500 := by
  have hpage : Route.ofPath (pathOf halvedRequest.target) = some (.tool "list_components") :=
    page_of_tool .listComponents
  refine ⟨argumentsOf_halvedRequest, ?_⟩
  rw [handle_tool rfl hpage]
  simp only [callTool, argumentsOf_halvedRequest]
  decide

end Service
end Catalog
