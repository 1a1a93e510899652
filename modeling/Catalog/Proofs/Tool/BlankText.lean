import Catalog.Proofs.Text.Blank
import Catalog.Proofs.Text.Scan
import Catalog.Proofs.Tool.Outcome
import Mathlib.Data.List.Nodup

/-! Blank texts for arguments that can be left out. A call with one of them ends as the call without it, but for the
parameters of a component that has none. -/
namespace Catalog

open Text

def ToolName.HasOptionalText (tool : ToolName) (name : String) : Prop :=
  { name := name } ∈ tool.arguments

instance (tool : ToolName) (name : String) : Decidable (tool.HasOptionalText name) :=
  inferInstanceAs (Decidable (_ ∈ tool.arguments))

section Arguments

variable {tool : ToolName} {name key w : String} {before after : List (String × Json)} {value : Json}

theorem lookup_insert_of_ne (h : key ≠ name) (before after : List (String × Json)) (value : Json) :
    (before ++ (name, value) :: after).lookup key = (before ++ after).lookup key := by
  have hne : (key == name) = false := beq_eq_false_iff_ne.mpr h
  rw [List.lookup_append, List.lookup_append, List.lookup_cons, hne]

theorem lookup_eq_none_of_notMem {arguments : List (String × Json)} (h : name ∉ arguments.map Prod.fst) :
    arguments.lookup name = none := by
  rw [List.lookup_eq_none_iff]
  intro argument hargument
  exact bne_iff_ne.mpr fun heq => h (heq ▸ List.mem_map_of_mem hargument)

theorem lookup_insert_self (h : name ∉ (before ++ after).map Prod.fst) (value : Json) :
    (before ++ (name, value) :: after).lookup name = some value := by
  have hbefore : before.lookup name = none :=
    lookup_eq_none_of_notMem fun hmem => h (by rw [List.map_append]; exact List.mem_append_left _ hmem)
  rw [List.lookup_append, hbefore, List.lookup_cons, beq_self_eq_true]
  rfl

/-- The arguments of a tool have different names. -/
theorem nodup_arguments (tool : ToolName) : (tool.arguments.map ArgumentSpec.name).Nodup := by
  cases tool <;> decide

/-- A text for an argument that can be left out is as little at fault as none. -/
theorem ToolName.problems_insert (hname : tool.HasOptionalText name) (hfree : name ∉ (before ++ after).map Prod.fst) :
    tool.problems (before ++ (name, .string w) :: after) = tool.problems (before ++ after) := by
  have hdeclared : tool.arguments.any (fun spec => spec.name = name) = true :=
    List.any_eq_true.mpr ⟨_, hname, decide_eq_true rfl⟩
  have hspec (spec : ArgumentSpec) (hspec : spec ∈ tool.arguments) :
      spec.problem? (before ++ (name, .string w) :: after) = spec.problem? (before ++ after) := by
    by_cases hsame : spec.name = name
    · obtain rfl : spec = { name := name } := List.inj_on_of_nodup_map (nodup_arguments tool) hspec hname hsame
      simp only [ArgumentSpec.problem?, lookup_insert_self hfree, lookup_eq_none_of_notMem hfree]
      rfl
    · simp only [ArgumentSpec.problem?, lookup_insert_of_ne hsame]
  simp only [problems, List.filterMap_congr hspec, List.filterMap_append, List.filterMap_cons, hdeclared, if_true]

end Arguments

/-- The second call leaves out the text `w` that the first one gives for an argument. -/
inductive Call.Omits (w : String) : Call → Call → Prop
  | category : Omits w (.listComponents (some w)) (.listComponents none)
  | parameterFilter (name : AnyText) : Omits w (.componentParameters name (some w)) (.componentParameters name none)
  | fields (query : AnyText) (limit : Int) :
    Omits w (.searchComponents query (some w) limit) (.searchComponents query none limit)
  | exampleFilter (name : AnyText) (limit : Int) :
    Omits w (.componentExamples name limit (some w)) (.componentExamples name limit none)
  | relationship (name : AnyText) : Omits w (.relatedComponents name (some w)) (.relatedComponents name none)

theorem ToolName.omits_call {tool : ToolName} {name w : String} {before after : List (String × Json)}
    (hname : tool.HasOptionalText name) (hfree : name ∉ (before ++ after).map Prod.fst) :
    Call.Omits w (tool.call (before ++ (name, .string w) :: after)) (tool.call (before ++ after)) := by
  have hgiven : textArgument? (before ++ (name, .string w) :: after) name = some (.whole w) := by
    rw [textArgument?, lookup_insert_self hfree]
    rfl
  have habsent : textArgument? (before ++ after) name = none := by
    rw [textArgument?, lookup_eq_none_of_notMem hfree]
    rfl
  have htext (key : String) (h : key ≠ name) :
      textArgument (before ++ (name, .string w) :: after) key = textArgument (before ++ after) key := by
    rw [textArgument, textArgument, textArgument?, textArgument?, lookup_insert_of_ne h]
  have hnumber (key : String) (h : key ≠ name) (default : Int) :
      integerArgument (before ++ (name, .string w) :: after) key default =
        integerArgument (before ++ after) key default := by
    rw [integerArgument, integerArgument, lookup_insert_of_ne h]
  cases tool with
  | listComponents =>
    obtain rfl : name = "category" := by simpa [HasOptionalText, arguments] using hname
    simp only [call, hgiven, habsent]
    exact .category
  | componentParameters =>
    obtain rfl : name = "filter" := by simpa [HasOptionalText, arguments] using hname
    simp only [call, hgiven, habsent, htext "component_name" (by decide)]
    exact .parameterFilter _
  | searchComponents =>
    obtain rfl : name = "fields" := by simpa [HasOptionalText, arguments] using hname
    simp only [call, hgiven, habsent, htext "query" (by decide), hnumber "max_results" (by decide)]
    exact .fields _ _
  | componentExamples =>
    obtain rfl : name = "filter" := by simpa [HasOptionalText, arguments] using hname
    simp only [call, hgiven, habsent, htext "component_name" (by decide), hnumber "max_examples" (by decide)]
    exact .exampleFilter _ _
  | relatedComponents =>
    obtain rfl : name = "relationship" := by simpa [HasOptionalText, arguments] using hname
    simp only [call, hgiven, habsent, htext "component_name" (by decide)]
    exact .relationship _
  | listCategories => simp [HasOptionalText, arguments] at hname
  | componentDetail => simp [HasOptionalText, arguments] at hname
  | exampleByName => simp [HasOptionalText, arguments] at hname
  | apiReference => simp [HasOptionalText, arguments] at hname

namespace Tool

variable {ix : Index} {w : String} {name : AnyText}

theorem givenText_blank (h : isBlankText w = true) : givenText (some (.whole w)) = none := by
  simp [givenText, h]

theorem fieldsOf_blank (h : isBlankText w = true) : fieldsOf (some (.whole w)) = fieldsOf none := by
  have hcomma : ',' ∉ w.toList := fun hmem => absurd (List.all_eq_true.mp h ',' hmem) (by decide)
  have hword : upper (trim w) = "" := by rw [trim_of_isBlankText h]; decide
  have hparts : splitOn w ',' = [w] := by
    rw [splitOn, splitChars_of_notMem hcomma, List.map_singleton, String.ofList_toList]
  simp only [fieldsOf, SearchFields.parse, hparts, SearchFields.ofParts, hword]
  rfl

theorem relationshipOf_blank (h : isBlankText w = true) :
    relationshipOf (some (.whole w)) = relationshipOf none := by
  have hword : lower (trim w) = "" := by rw [trim_of_isBlankText h]; decide
  simp [relationshipOf, Relationship.parse, hword]

/-- Only of a component without parameters it is told that they were looked through for a blank text. -/
theorem componentParameters_blank (h : isBlankText w = true) :
    componentParameters ix name (some w) = componentParameters ix name none ∨
      w ≠ "" ∧ ∃ c, requireComponent ix name = .ok c ∧ c.parameters = [] ∧
        componentParameters ix name (some w) = .ok (c.name ++ " has no parameters matching ''.") ∧
        componentParameters ix name none = .ok (c.name ++ " has no parameters.") := by
  have hgiven : givenText none = none := rfl
  simp only [componentParameters, givenText_blank h, hgiven]
  cases hc : requireComponent ix name with
  | error failure => exact .inl rfl
  | ok c =>
    simp only [bind, Except.bind]
    by_cases hnone : c.parameters = []
    · by_cases hempty : w = ""
      · subst hempty
        exact .inl rfl
      · -- whether there is a text is asked of it as it is, so it is told without what is around it
        have hkept : (some (AnyText.whole w)).filter (fun text => !text.isEmpty) = some (.whole w) := by
          simp [AnyText.isEmpty, hempty]
        refine .inr ⟨hempty, c, rfl, hnone, ?_, ?_⟩
        · simp [hnone, hkept, trim_of_isBlankText h, String.append_assoc]
        · simp [hnone]
    · left
      have hsome : c.parameters.isEmpty = false := by simpa using hnone
      simp only [hsome, Bool.false_eq_true, if_false]

theorem run_omits (ix : Index) {call call' : Call} (h : isBlankText w = true) (hcalls : Call.Omits w call call') :
    run ix call = run ix call' ∨ w ≠ "" ∧ ∃ name c, call' = .componentParameters name none ∧
      requireComponent ix name = .ok c ∧ c.parameters = [] ∧
        run ix call = .ok (c.name ++ " has no parameters matching ''.") ∧
        run ix call' = .ok (c.name ++ " has no parameters.") := by
  cases hcalls with
  | category =>
    left
    simp only [run, listComponents, givenText_blank h]
    rfl
  | parameterFilter name =>
    rcases componentParameters_blank h with heq | ⟨hne, c, hc, hnone, hblank, habsent⟩
    · exact .inl heq
    · exact .inr ⟨hne, name, c, rfl, hc, hnone, hblank, habsent⟩
  | fields query limit =>
    left
    simp only [run, searchComponents, fieldsOf_blank h]
  | exampleFilter name limit =>
    left
    simp only [run, componentExamples, givenText_blank h]
    rfl
  | relationship name =>
    left
    simp only [run, relatedComponents, relationshipOf_blank h]

theorem execute_of_fits {tool : ToolName} {arguments : List (String × Json)} (h : tool.problems arguments = []) :
    execute ix tool.text arguments = (run ix (tool.call arguments)).map truncateAny := by
  have hread : Call.read tool.text arguments = .ok (tool.call arguments) := by
    simp only [Call.read, ToolName.ofText?_text, h]
  simp only [execute, hread, bind, Except.bind, Except.map]

/-- A blank text for an argument that can be left out changes the end of a call only where it is a filter, not empty,
for the parameters of a component that has none. -/
theorem execute_blank {tool : ToolName} {name w : String} {before after : List (String × Json)}
    (hname : tool.HasOptionalText name) (hfree : name ∉ (before ++ after).map Prod.fst)
    (hblank : isBlankText w = true) :
    execute ix tool.text (before ++ (name, .string w) :: after) = execute ix tool.text (before ++ after) ∨
      tool = .componentParameters ∧ w ≠ "" ∧ tool.Takes (before ++ after) ∧
        ∃ c, requireComponent ix (textArgument (before ++ after) "component_name") = .ok c ∧ c.parameters = [] ∧
          execute ix tool.text (before ++ (name, .string w) :: after) =
            .ok (truncate (c.name ++ " has no parameters matching ''.")) ∧
          execute ix tool.text (before ++ after) = .ok (truncate (c.name ++ " has no parameters.")) := by
  cases hproblems : tool.problems (before ++ after) with
  | cons problem problems =>
    left
    have hread (arguments : List (String × Json)) (h : tool.problems arguments = problem :: problems) :
        Call.read tool.text arguments = .error (.tool (.invalidArguments tool.text (problem :: problems))) := by
      simp only [Call.read, ToolName.ofText?_text, h]
    rw [execute, execute, hread _ hproblems, hread _ ((ToolName.problems_insert hname hfree).trans hproblems)]
  | nil =>
    rw [execute_of_fits hproblems, execute_of_fits ((ToolName.problems_insert hname hfree).trans hproblems)]
    have homits : Call.Omits w _ _ := ToolName.omits_call hname hfree
    rcases run_omits ix hblank homits with heq | ⟨hne, name', c, hcall, hc, hnone, hgiven, habsent⟩
    · exact .inl (congrArg _ heq)
    · right
      have htool : tool = .componentParameters := by
        cases tool <;> first | rfl | cases hcall
      subst htool
      obtain ⟨rfl, -⟩ := Call.componentParameters.inj hcall
      exact ⟨rfl, hne, ToolName.problems_eq_nil_iff.mp hproblems, c, hc, hnone, congrArg _ hgiven, congrArg _ habsent⟩

def plainButton : Index where
  isIndexed := true
  store := { components := [{ name := "BitButton", nameSpace := "Bit.BlazorUI", summary := "A button" }] }

theorem execute_blank_plainButton :
    execute plainButton "get_component_examples" [("component_name", .string "button"), ("filter", .string "\t ")] =
        .ok "No examples available for BitButton." ∧
      execute plainButton "get_component_parameters" [("filter", .string ""), ("component_name", .string "button")] =
        .ok "BitButton has no parameters." := by
  have hexamples := @execute_blank plainButton .componentExamples "filter" "\t "
    [("component_name", .string "button")] [] (by decide) (by decide) (by decide)
  have hparameters := @execute_blank plainButton .componentParameters "filter" ""
    [] [("component_name", .string "button")] (by decide) (by decide) (by decide)
  have hnoExamples : execute plainButton "get_component_examples" [("component_name", .string "button")] =
      .ok "No examples available for BitButton." := by decide
  have hnoParameters : execute plainButton "get_component_parameters" [("component_name", .string "button")] =
      .ok "BitButton has no parameters." := by decide
  constructor
  · exact (hexamples.resolve_right fun h => absurd h.1 (by decide)).trans hnoExamples
  · exact (hparameters.resolve_right fun h => h.2.1 rfl).trans hnoParameters

/-- A component without parameters is said to have none that match where the filter is blank, and to have none where it
is left out. -/
theorem execute_blank_parameterFilter :
    execute plainButton "get_component_parameters" [("component_name", .string "button"), ("filter", .string " ")] =
        .ok "BitButton has no parameters matching ''." ∧
      execute plainButton "get_component_parameters" [("component_name", .string "button")] =
        .ok "BitButton has no parameters." := by
  decide

end Tool
end Catalog
