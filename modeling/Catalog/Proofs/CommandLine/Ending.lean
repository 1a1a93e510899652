import Catalog.CommandLine.Run
import Catalog.Proofs.Index.Phases
import Catalog.Proofs.Tool.Outcome

/-! How the command line ends once the index is built: with what a tool answers, with an error that it complains of, or
with a failure that escapes, as the text of the arguments decides. -/
namespace Catalog.CommandLine

/-- The call that is chosen: a search, or a tool with the object that the text of the arguments writes, with no
arguments where it writes nothing. -/
inductive Choices.Calls (choices : Choices) (nesting : Nat) : String → Arguments → Prop
  | search {query : String} (hsearch : choices.search = some query) :
    Calls choices nesting "search_components" (.named [("query", .string query)])
  | tool {tool : String} {value : Json} {arguments : Arguments} (hsearch : choices.search = none)
    (htool : choices.tool = some tool) (hread : Json.read nesting choices.arguments = .ok value)
    (hobject : Arguments.ofJson? value = some arguments) : Calls choices nesting tool arguments
  | bare {tool : String} {value : Json} (hsearch : choices.search = none) (htool : choices.tool = some tool)
    (hread : Json.read nesting choices.arguments = .ok value) (hnothing : value.isNothing = true) :
    Calls choices nesting tool (.named [])

/-- What nothing is made of: for any tool, a number of too many digits, or arrays and objects nested too deep; for a
tool that there is, a value that is something but no object. -/
inductive Choices.Breaks (choices : Choices) (nesting : Nat) : Prop
  | number {tool : String} {e : Json.ReadError} {count : Nat} (hsearch : choices.search = none)
    (htool : choices.tool = some tool) (hread : Json.read nesting choices.arguments = .error e)
    (hdigits : e.reason = .tooManyDigits count)
  | depth {tool : String} {e : Json.ReadError} (hsearch : choices.search = none) (htool : choices.tool = some tool)
    (hread : Json.read nesting choices.arguments = .error e) (hdeep : e.reason = .tooDeep)
  | value {tool : ToolName} {value : Json} (hsearch : choices.search = none) (htool : choices.tool = some tool.text)
    (hread : Json.read nesting choices.arguments = .ok value) (hobject : value.isObject = false)
    (hsome : value.isNothing = false)

namespace Output

structure Fine (o : Output) : Prop where
  exitCode : o.exitCode = 0
  complaint : o.complaint = ""
  escaped : o.escaped = none

/-- Ends well, with the answer after a line that sets it apart from what was told before. -/
structure Answers (o told : Output) (answer : String) : Prop extends o.Fine where
  printed : o.printed = told.printed ++ "\n" ++ answer ++ "\n"

structure Refuses (o : Output) (message : String) : Prop where
  exitCode : o.exitCode = 1
  complaint : o.complaint = "Error: " ++ message ++ "\n"
  escaped : o.escaped = none

/-- Ends with a failure that escapes, without a word about it. -/
structure Escapes (o : Output) : Prop where
  complaint : o.complaint = ""
  escaped : o.escaped ≠ none

variable {told o : Output} {message answer : String}

theorem Fine.line (h : o.Fine) (text : String) : (o.line text).Fine :=
  ⟨h.exitCode, h.complaint, h.escaped⟩

theorem Fine.answers (h : told.Fine) (answer : String) : ((told.line "").line answer).Answers told answer where
  toFine := (h.line "").line answer
  printed := by
    change told.printed ++ "" ++ "\n" ++ answer ++ "\n" = _
    rw [String.append_empty]

theorem Fine.refuses (h : o.Fine) (message : String) : (o.fail message).Refuses message where
  exitCode := rfl
  complaint := by simp [fail, complain, h.complaint, String.append_assoc]
  escaped := h.escaped

theorem Fine.escapes (h : o.Fine) (failure : Failure) : (o.escape failure).Escapes where
  complaint := h.complaint
  escaped := Option.some_ne_none failure

end Output

/-! After the build. -/

variable {ix : Index} {told : Output} {choices : Choices} {nesting : Nat} {value : Json}

theorem fine_report (summary : Summary) (elapsed : String) : (report summary elapsed).Fine := by
  constructor <;> rfl

/-- How a call ends: its answer is printed, unless it is broken, and what goes wrong is complained of. An answer is
broken only where the tool tells a broken text again. -/
inductive Settles (ix : Index) (told : Output) (name : String) (arguments : Arguments) (o : Output) : Prop
  | answered {answer : String} (hcall : Tool.answer ix name arguments = .ok answer) (hend : o.Answers told answer)
  | unprintable {answer : Broken} (hcall : Tool.answer ix name arguments = .ok (.broken answer))
    (hbroken : ¬ ∀ tool : ToolName, tool.text = name → arguments.Plain tool) (hend : o.Escapes)
  | refused {failure : Failure} (hcall : Tool.answer ix name arguments = .error failure)
    (hend : o.Refuses failure.message)

theorem settles_printTool (hix : ix.isIndexed = true) (htold : told.Fine) {name : String} {arguments : Arguments}
    (hcall : callTool ix name value = Tool.answer ix name arguments) :
    Settles ix told name arguments (printTool told ix name value) := by
  have hconcludes := Tool.concludes_answer ix name arguments
  have hline := htold.line ""
  rcases hconcludes.declared with ⟨answer, h⟩ | h | ⟨fault, h⟩ | h
  · simp only [printTool, hcall, h]
    cases answer with
    | whole text => exact .answered h (htold.answers text)
    | broken text =>
      refine .unprintable h (fun hplain => ?_) (hline.escapes _)
      have hwhole := hconcludes.whole hplain
      rw [h] at hwhole
      obtain ⟨characters, heq⟩ := hwhole
      cases heq
  · simp only [printTool, hcall, h]
    exact .refused h (hline.refuses _)
  · simp only [printTool, hcall, h]
    exact .refused h (hline.refuses _)
  · -- the index is built
    rw [hconcludes.unbuilt h] at hix
    cases hix

theorem callTool_of_arguments {arguments : Arguments} (h : Arguments.ofJson? value = some arguments) (ix : Index)
    (tool : String) : callTool ix tool value = Tool.answer ix tool arguments := by
  simp only [callTool, h]

theorem ofJson?_of_isObject_eq_false (h : value.isObject = false) : Arguments.ofJson? value = none := by
  cases value with
  | object members => cases h
  | misnamed members => cases h
  | _ => rfl

theorem isObject_of_ofJson?_eq_none (h : Arguments.ofJson? value = none) : value.isObject = false := by
  cases value with
  | object members => cases h
  | misnamed members => cases h
  | _ => rfl

theorem callTool_of_isNothing (h : value.isNothing = true) (ix : Index) (tool : String) :
    callTool ix tool value = Tool.answer ix tool (.named []) := by
  cases hobject : Arguments.ofJson? value with
  | none => simp only [callTool, hobject, h, if_true]
  | some arguments =>
    rw [callTool_of_arguments hobject]
    cases value with
    | object members =>
      obtain rfl : members = [] := List.isEmpty_iff.mp h
      cases hobject
      rfl
    | misnamed members => cases h
    | _ => cases hobject

theorem callTool_of_value (hobject : value.isObject = false) (hsome : value.isNothing = false) (ix : Index)
    (tool : String) :
    callTool ix tool value =
      if (ToolName.ofText? tool).isNone then .error (.unknownTool tool) else .error .argumentsNotObject := by
  simp only [callTool, ofJson?_of_isObject_eq_false hobject, hsome, Bool.false_eq_true, if_false]

theorem runTool_of_error {text : String} {e : Json.ReadError} (hread : Json.read nesting text = .error e)
    (hdigits : ∀ count, e.reason ≠ .tooManyDigits count) (hdeep : e.reason ≠ .tooDeep) (told : Output) (ix : Index)
    (tool : String) : runTool told ix nesting tool text = told.fail ("--args is not valid JSON: " ++ e.message) := by
  cases hreason : e.reason with
  | tooManyDigits count => exact absurd hreason (hdigits count)
  | tooDeep => exact absurd hreason hdeep
  | _ => simp only [runTool, hread, hreason]

theorem escapes_runChosen (htold : told.Fine) (h : choices.Breaks nesting) :
    (runChosen told ix nesting choices).Escapes := by
  cases h with
  | number hsearch htool hread hdigits =>
    simp only [runChosen, hsearch, htool, runTool, hread, hdigits]
    exact htold.escapes _
  | depth hsearch htool hread hdeep =>
    simp only [runChosen, hsearch, htool, runTool, hread, hdeep]
    exact htold.escapes _
  | value hsearch htool hread hobject hsome =>
    simp only [runChosen, hsearch, htool, runTool, hread, printTool, callTool_of_value hobject hsome,
      ToolName.ofText?_text, Option.isNone_some, Bool.false_eq_true, if_false]
    exact (htold.line "").escapes _

theorem settles_runChosen (hix : ix.isIndexed = true) (htold : told.Fine) {name : String} {arguments : Arguments}
    (h : choices.Calls nesting name arguments) :
    Settles ix told name arguments (runChosen told ix nesting choices) := by
  cases h with
  | search hsearch =>
    simp only [runChosen, hsearch]
    exact settles_printTool hix htold rfl
  | tool hsearch htool hread hobject =>
    simp only [runChosen, hsearch, htool, runTool, hread]
    exact settles_printTool hix htold (callTool_of_arguments hobject ix name)
  | bare hsearch htool hread hnothing =>
    simp only [runChosen, hsearch, htool, runTool, hread]
    exact settles_printTool hix htold (callTool_of_isNothing hnothing ix name)

/-- What is no call and does not break is no JSON, or it is a value for a tool that there is not. -/
theorem refuses_runChosen (htold : told.Fine) (hchosen : choices.search ≠ none ∨ choices.tool ≠ none)
    (hbreaks : ¬ choices.Breaks nesting) (hcalls : ∀ name arguments, ¬ choices.Calls nesting name arguments)
    (ix : Index) : ∃ message, (runChosen told ix nesting choices).Refuses message := by
  have hsearch : choices.search = none :=
    Option.eq_none_iff_forall_ne_some.mpr fun query hquery => hcalls _ _ (.search hquery)
  obtain ⟨tool, htool⟩ := Option.ne_none_iff_exists'.mp (hchosen.resolve_left fun hne => hne hsearch)
  simp only [runChosen, hsearch, htool]
  cases hread : Json.read nesting choices.arguments with
  | error e =>
    rw [runTool_of_error hread (fun count hdigits => hbreaks (.number hsearch htool hread hdigits))
      fun hdeep => hbreaks (.depth hsearch htool hread hdeep)]
    exact ⟨_, htold.refuses _⟩
  | ok value =>
    have hsome : value.isNothing = false :=
      Bool.eq_false_iff.mpr fun hnothing => hcalls tool _ (.bare hsearch htool hread hnothing)
    have hobject : value.isObject = false :=
      isObject_of_ofJson?_eq_none (Option.eq_none_iff_forall_ne_some.mpr fun arguments harguments =>
        hcalls tool arguments (.tool hsearch htool hread harguments))
    have hunknown : ToolName.ofText? tool = none := by
      refine Option.eq_none_iff_forall_ne_some.mpr fun known hknown => ?_
      rw [← ToolName.text_of_ofText? hknown] at htool
      exact hbreaks (.value hsearch htool hread hobject hsome)
    simp only [runTool, hread, printTool, callTool_of_value hobject hsome, hunknown, Option.isNone_none, if_true]
    exact ⟨_, (htold.line "").refuses _⟩

def Choices.built (choices : Choices) (settings : Settings) (w : Workspace) (session : Git.Session) (now : String) :
    Index × Unit × Except Failure Summary :=
  let plan := planOf settings choices
  let request := ({} : Repository).ensure plan w session false
  ({} : Index).build .unattended () (fun u => (u, request.result)) (Checkout.sources request.workspace plan.path)
    plan.path now

section Run

variable {settings : Settings} {w : Workspace} {session : Git.Session} {now elapsed : String}
  {arguments : List String} {summary : Summary}

theorem run_of_built (hread : Reading.ofArguments arguments = .choices choices) (hdry : choices.dryRun = false)
    (hbuilt : (choices.built settings w session now).2.2 = .ok summary) :
    run settings w session nesting now elapsed arguments =
      runChosen (report summary elapsed) (choices.built settings w session now).1 nesting choices := by
  have htold : choices.built settings w session now =
      ((choices.built settings w session now).1, (), .ok summary) := Prod.ext rfl (Prod.ext rfl hbuilt)
  simp only [Choices.built] at htold ⊢
  simp only [run, hread, hdry, Bool.false_eq_true, if_false, build]
  rw [htold]

/-- Once the index is built, the call that is chosen ends with its answer or with an error that is complained of, and
what is no call is complained of too, but for these cases where a failure escapes: the text of the arguments has a
number of too many digits, or is nested too deep, or it writes, for a tool that there is, a value that is something but
no object; and a call is answered with a broken text, which it has been given. -/
theorem run_ends (hread : Reading.ofArguments arguments = .choices choices) (hdry : choices.dryRun = false)
    (hbuilt : (choices.built settings w session now).2.2 = .ok summary)
    (hchosen : choices.search ≠ none ∨ choices.tool ≠ none) :
    (∀ name members, choices.Calls nesting name members → Settles (choices.built settings w session now).1
      (report summary elapsed) name members (run settings w session nesting now elapsed arguments)) ∧
    (choices.Breaks nesting → (run settings w session nesting now elapsed arguments).Escapes) ∧
    (¬ choices.Breaks nesting → (∀ name members, ¬ choices.Calls nesting name members) →
      ∃ message, (run settings w session nesting now elapsed arguments).Refuses message) := by
  have hfine := fine_report summary elapsed
  have hix : (choices.built settings w session now).1.isIndexed = true := by
    obtain ⟨available, b, b', -, -, -, hix⟩ := Index.build_ok (Prod.ext rfl (Prod.ext rfl hbuilt))
    exact congrArg Index.isIndexed hix
  rw [run_of_built hread hdry hbuilt]
  exact ⟨fun name members => settles_runChosen hix hfine, escapes_runChosen hfine,
    fun hbreaks hcalls => refuses_runChosen hfine hchosen hbreaks hcalls _⟩

end Run

def emptyCheckout : Workspace where
  tree := FileTree.addFolder {} ["repo"]

def asking (tool text : String) : List String :=
  ["--repo-path", "repo", "--tool", tool, "--args", text]

def choosing (tool text : String) : Choices :=
  { repositoryPath := some ⟨"", ["repo"]⟩, tool := some tool, arguments := text }

def plainSettings : Settings :=
  (Settings.read []).toOption.get (by decide)

def categoryArguments : String :=
  "\x7b\"category\": \"icons\"\x7d"

/-- The build is the same for every tool. -/
theorem built_emptyCheckout (tool text : String) :
    ((choosing tool text).built plainSettings emptyCheckout {} "now").2.2 = .ok ⟨0, 0, 0, 0⟩ ∧
      Tool.answer ((choosing tool text).built plainSettings emptyCheckout {} "now").1 "list_components"
        (.named [("category", .string "icons")]) =
          .ok "No components found in category 'icons'. Use list_categories to see categories." := by
  have hsame : (choosing tool text).built plainSettings emptyCheckout {} "now" =
      (choosing "" "").built plainSettings emptyCheckout {} "now" := rfl
  rw [hsame]
  decide

/-- A call that is answered, and a text of arguments that is no JSON. -/
theorem run_ends_emptyCheckout :
    (run plainSettings emptyCheckout {} 1000 "now" "0.1" (asking "list_components" categoryArguments)).Answers
        (report ⟨0, 0, 0, 0⟩ "0.1") "No components found in category 'icons'. Use list_categories to see categories." ∧
      ∃ message, (run plainSettings emptyCheckout {} 1000 "now" "0.1" (asking "list_components" "icons")).Refuses
        message := by
  obtain ⟨hbuilt, hanswer⟩ := built_emptyCheckout "list_components" categoryArguments
  have hread : Reading.ofArguments (asking "list_components" categoryArguments) =
      .choices (choosing "list_components" categoryArguments) := by
    decide
  have hword : Reading.ofArguments (asking "list_components" "icons") =
      .choices (choosing "list_components" "icons") := by
    decide
  have hobject : Json.read 1000 categoryArguments = .ok (.object [("category", .string "icons")]) := by
    simp only [Json.read, categoryArguments, String.reduceToList]
    rfl
  have hfault : Json.read 1000 (choosing "list_components" "icons").arguments = .error ⟨.value, 0, 1, 1⟩ := rfl
  constructor
  · cases (run_ends hread rfl hbuilt (.inr (Option.some_ne_none _))).1 _ _ (.tool rfl rfl hobject rfl) with
    | answered hcall hend =>
      rw [hanswer] at hcall
      cases hcall
      exact hend
    | unprintable hcall =>
      rw [hanswer] at hcall
      cases hcall
    | refused hcall =>
      rw [hanswer] at hcall
      cases hcall
  · have hbuilt := (built_emptyCheckout "list_components" "icons").1
    have hnoJson (value : Json) : Json.read 1000 (choosing "list_components" "icons").arguments ≠ .ok value := by
      rw [hfault]
      rintro ⟨⟩
    refine (run_ends hword rfl hbuilt (.inr (Option.some_ne_none _))).2.2 (fun hbreaks => ?_) fun _ _ hcalls => ?_
    · cases hbreaks with
      | number _ _ hread hdigits =>
        obtain rfl := Except.error.inj (hfault.symm.trans hread)
        cases hdigits
      | depth _ _ hread hdeep =>
        obtain rfl := Except.error.inj (hfault.symm.trans hread)
        cases hdeep
      | value _ _ hread => exact hnoJson _ hread
    · cases hcalls with
      | search hsearch => cases hsearch
      | tool _ _ hread => exact hnoJson _ hread
      | bare _ _ hread => exact hnoJson _ hread

/-- An array with something in it is JSON, but no word is said about it. -/
theorem run_ends_array :
    ((choosing "list_components" "[1]").built plainSettings emptyCheckout {} "now").2.2 = .ok ⟨0, 0, 0, 0⟩ ∧
      (run plainSettings emptyCheckout {} 1000 "now" "0.1" (asking "list_components" "[1]")).Escapes := by
  have hbuilt := (built_emptyCheckout "list_components" "[1]").1
  have hread : Reading.ofArguments (asking "list_components" "[1]") = .choices (choosing "list_components" "[1]") := by
    decide
  have htool : (choosing "list_components" "[1]").tool = some ToolName.listComponents.text := rfl
  have hjson : Json.read 1000 (choosing "list_components" "[1]").arguments = .ok (.array [.int 1]) := rfl
  refine ⟨hbuilt, ?_⟩
  rw [run_of_built hread rfl hbuilt]
  exact escapes_runChosen (fine_report _ _) (.value rfl htool hjson rfl rfl)

end Catalog.CommandLine
