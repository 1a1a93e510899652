import Catalog.Proofs.Search.Fields
import Catalog.Tool.Run
import Mathlib.Tactic.Common

/-! How a call of a tool ends, whatever the index holds and whatever the arguments are: with an answer from an index
that is built, at a name of no tool, at a fault of the call, or at an index that is not built. What is told of it is
broken only where a broken text of the call is told again. -/
namespace Catalog

/-- The text is made of characters. -/
def AnyText.IsWhole (text : AnyText) : Prop :=
  ∃ characters : String, text = characters

theorem AnyText.isWhole_whole (text : String) : (whole text).IsWhole :=
  ⟨text, rfl⟩

theorem AnyText.IsWhole.trim {text : AnyText} (h : text.IsWhole) : text.trim.IsWhole := by
  obtain ⟨characters, rfl⟩ := h
  exact isWhole_whole _

theorem AnyText.IsWhole.within {text : AnyText} (h : text.IsWhole) (front back : String) :
    (text.within front back).IsWhole := by
  obtain ⟨characters, rfl⟩ := h
  exact isWhole_whole _

/-- Whether a value may stand for an argument; null may where the argument can be left out. -/
def ArgumentSpec.Allows (spec : ArgumentSpec) (value : Json) : Prop :=
  spec.type.accepts value = true ∨ spec.required = false ∧ value = .null

namespace ToolName

variable {tool : ToolName} {name : String} {arguments : List (String × Json)}

/-- The arguments are some that the tool declares, each of its type, and all that it requires are there. -/
structure Takes (tool : ToolName) (arguments : List (String × Json)) : Prop where
  required : ∀ spec ∈ tool.arguments, spec.required = true → arguments.lookup spec.name ≠ none
  typed : ∀ spec ∈ tool.arguments, ∀ value, arguments.lookup spec.name = some value → spec.Allows value
  declared : ∀ argument ∈ arguments, ∃ spec ∈ tool.arguments, spec.name = argument.1

theorem accepts_null (type : ArgumentType) : type.accepts .null = false := by
  cases type <;> rfl

theorem problem?_eq_none_iff (spec : ArgumentSpec) : spec.problem? arguments = none ↔
    (spec.required = true → arguments.lookup spec.name ≠ none) ∧
      ∀ value, arguments.lookup spec.name = some value → spec.Allows value := by
  cases h : arguments.lookup spec.name with
  | none => simp [ArgumentSpec.problem?, h]
  | some value =>
    cases value <;> simp [ArgumentSpec.problem?, ArgumentSpec.Allows, h, accepts_null]

theorem problems_eq_nil_iff : tool.problems arguments = [] ↔ tool.Takes arguments := by
  simp only [problems, List.append_eq_nil_iff, List.filterMap_eq_nil_iff, problem?_eq_none_iff]
  constructor
  · rintro ⟨hfit, hknown⟩
    refine ⟨fun spec hspec => (hfit spec hspec).1, fun spec hspec => (hfit spec hspec).2, fun argument hargument => ?_⟩
    have hdeclared := hknown argument hargument
    simpa using hdeclared
  · intro h
    refine ⟨fun spec hspec => ⟨h.required spec hspec, h.typed spec hspec⟩, fun argument hargument => ?_⟩
    have hdeclared := h.declared argument hargument
    simpa using hdeclared

theorem ofText?_eq_none_iff : ofText? name = none ↔ name ∉ all.map text := by
  simp [ofText?, List.find?_eq_none]

theorem ofText?_text (tool : ToolName) : ofText? tool.text = some tool := by
  cases tool <;> decide

theorem text_of_ofText? (h : ofText? name = some tool) : tool.text = name := by
  simpa using List.find?_some h

theorem text_injective : Function.Injective text := by
  intro tool other h
  have hsome : some tool = some other := by rw [← ofText?_text tool, h, ofText?_text]
  exact Option.some_inj.mp hsome

end ToolName

namespace Tool

variable {α β : Type} {ix : Index} {r : Except Failure α} {plain : Prop} {good : α → Prop} {good' : β → Prop}

/-! In what follows, `plain` says that no text that is told again is broken, and `good` what is so of a result then. -/

/-- A check of what the caller gave lets the call pass, or finds it at fault. -/
inductive Checks (plain : Prop) (good : α → Prop) : Except Failure α → Prop
  | passed (a : α) (h : plain → good a) : Checks plain good (.ok a)
  | fault (fault : ToolFault) (h : plain → fault.wording.IsWhole) : Checks plain good (.error (.tool fault))

/-- An index that is built answers, or the call is at fault, or the index is not built. -/
inductive Ends (ix : Index) (plain : Prop) (good : α → Prop) : Except Failure α → Prop
  | answered (a : α) (hix : ix.isIndexed = true) (h : plain → good a) : Ends ix plain good (.ok a)
  | fault (fault : ToolFault) (h : plain → fault.wording.IsWhole) : Ends ix plain good (.error (.tool fault))
  | unbuilt (hix : ix.isIndexed = false) : Ends ix plain good (.error .notBuilt)

theorem Checks.bind {f : α → Except Failure β} (hr : Checks plain good r)
    (hf : ∀ a, (plain → good a) → Ends ix plain good' (f a)) : Ends ix plain good' (r >>= f) := by
  cases hr with
  | passed a h => exact hf a h
  | fault fault h => exact .fault fault h

theorem Ends.bind {f : α → Except Failure β} (hr : Ends ix plain good r)
    (hf : ∀ a, ix.isIndexed = true → (plain → good a) → Ends ix plain good' (f a)) : Ends ix plain good' (r >>= f) := by
  cases hr with
  | answered a hix h => exact hf a hix h
  | fault fault h => exact .fault fault h
  | unbuilt hix => exact .unbuilt hix

theorem Ends.map {f : α → β} (hr : Ends ix plain good r) (hf : ∀ a, good a → good' (f a)) :
    Ends ix plain good' (r.map f) := by
  cases hr with
  | answered a hix h => exact .answered (f a) hix fun hplain => hf a (h hplain)
  | fault fault h => exact .fault fault h
  | unbuilt hix => exact .unbuilt hix

def anything (_ : α) : Prop :=
  True

theorem ends_ok (hix : ix.isIndexed = true) (a : α) : Ends ix plain anything (.ok a) :=
  .answered a hix fun _ => trivial

theorem ends_whole (hix : ix.isIndexed = true) (text : String) : Ends ix plain AnyText.IsWhole (.ok (.whole text)) :=
  .answered _ hix fun _ => AnyText.isWhole_whole text

theorem ends_mapM {f : α → Except Failure β} (hix : ix.isIndexed = true) (hf : ∀ a, Ends ix plain anything (f a))
    (l : List α) : Ends ix plain anything (l.mapM f) := by
  induction l with
  | nil => exact ends_ok hix []
  | cons a l ih =>
    rw [List.mapM_cons]
    exact (hf a).bind fun b _ _ => ih.bind fun bs _ _ => ends_ok hix (b :: bs)

/-! What is looked at before the index. -/

section Checks

variable {value : AnyText}

theorem checks_requireText (h : plain → value.IsWhole) (argument : String) :
    Checks plain AnyText.IsWhole (requireText value argument) := by
  unfold requireText
  split_ifs
  · exact .fault _ fun _ => AnyText.isWhole_whole _
  · exact .passed _ fun hplain => (h hplain).trim

theorem checks_requireRange (argument : String) (least most : Nat) (n : Int) :
    Checks plain anything (requireRange argument least most n) := by
  unfold requireRange
  split_ifs
  · exact .passed _ fun _ => trivial
  · exact .fault _ fun _ => AnyText.isWhole_whole _

/-- A list of fields is quoted where it is told again. -/
theorem checks_fieldsOf (fields : Option AnyText) : Checks plain anything (fieldsOf fields) := by
  have hfault (text : AnyText) :
      Checks plain anything (.error (.tool (.unknownField text)) : Except Failure SearchFields) :=
    .fault _ fun _ => AnyText.isWhole_whole _
  match fields with
  | none => exact .passed _ fun _ => trivial
  | some (.whole text) =>
    simp only [fieldsOf]
    cases h : SearchFields.parse (some text) with
    | ok fields => exact .passed _ fun _ => trivial
    | error failure =>
      obtain ⟨_, part, _, -, -, -, rfl⟩ := SearchFields.parse_eq_error_iff.mp h
      exact hfault (Text.trim part)
  | some (.broken text) => exact hfault _

theorem checks_relationshipOf (relationship : Option AnyText) :
    Checks plain anything (relationshipOf relationship) := by
  have hfault (text : AnyText) :
      Checks plain anything (.error (.tool (.unknownRelationship text)) : Except Failure Relationship) :=
    .fault _ fun _ => AnyText.isWhole_whole _
  match relationship with
  | none => exact .passed _ fun _ => trivial
  | some (.whole text) =>
    simp only [relationshipOf, Relationship.parse]
    split_ifs
    iterate 5 exact .passed _ fun _ => trivial
    exact hfault text
  | some (.broken text) => exact hfault _

end Checks

/-! What is asked of the index. -/

theorem ends_requireIndexed (ix : Index) : Ends ix plain anything ix.requireIndexed := by
  unfold Index.requireIndexed
  split_ifs with h
  · exact ends_ok h ()
  · exact .unbuilt (Bool.eq_false_iff.mpr h)

/-- A question is answered only by an index that is built. -/
theorem ends_question (a : α) : Ends ix plain anything (do ix.requireIndexed; .ok a) :=
  (ends_requireIndexed ix).bind fun _ hix _ => ends_ok hix a

theorem ends_ask {nothing : α} {question : String → Except Failure α}
    (h : ∀ text, Ends ix plain anything (question text)) (text : AnyText) :
    Ends ix plain anything (ix.ask nothing question text) := by
  cases text with
  | whole text => exact h text
  | broken text => exact ends_question nothing

theorem ends_search (query : String) (fields : SearchFields) (limit : Int) :
    Ends ix plain anything (ix.search query fields limit) := by
  refine (ends_requireIndexed ix).bind fun _ hix _ => ?_
  split_ifs
  · exact ends_ok hix _
  · exact ends_ok hix _

theorem ends_relatedTo (name : String) (relationship : Relationship) :
    Ends ix plain anything (ix.relatedTo name relationship) := by
  refine (ends_requireIndexed ix).bind fun _ hix _ => ?_
  cases ix.resolve name with
  | none => exact ends_ok hix _
  | some c => exact ends_ok hix _

theorem ends_requireComponent {name : AnyText} (h : plain → name.IsWhole) :
    Ends ix plain anything (requireComponent ix name) := by
  refine (checks_requireText h "component_name").bind fun name hname => ?_
  refine (ends_ask (fun _ => ends_question _) name).bind fun found hix _ => ?_
  cases found with
  | none => exact .fault _ fun hplain => (hname hplain).within _ _
  | some c => exact ends_ok hix c

/-! The tools. -/

section Tools

variable {name : AnyText}

theorem IsWhole.givenText {text : Option AnyText} (h : ∀ t ∈ text, t.IsWhole) : ∀ t ∈ givenText text, t.IsWhole := by
  intro t ht
  obtain ⟨given, hgiven, hsome⟩ := Option.bind_eq_some_iff.mp ht
  split_ifs at hsome
  cases hsome
  exact (h given hgiven).trim

theorem ends_listComponents {category : Option AnyText} (h : plain → ∀ text ∈ category, text.IsWhole) :
    Ends ix plain AnyText.IsWhole (listComponents ix category) := by
  have hgiven := fun hplain => IsWhole.givenText (h hplain)
  unfold listComponents
  cases htext : givenText category with
  | some name =>
    refine (ends_ask (fun _ => ends_question _) name).bind fun components hix _ => ?_
    split_ifs
    · exact .answered _ hix fun hplain => (hgiven hplain name htext).within _ _
    · exact ends_whole hix _
  | none =>
    refine (ends_question _).bind fun components hix _ => ?_
    split_ifs
    · exact ends_whole hix _
    · exact ends_whole hix _

theorem ends_listCategories (ix : Index) : Ends ix plain anything (listCategories ix) := by
  refine (ends_question _).bind fun categories hix _ => ?_
  refine (ends_mapM hix (fun category => ?_) categories).bind fun lines _ _ => ends_ok hix _
  exact (ends_question _).bind fun indexed _ _ => ends_ok hix _

theorem ends_componentDetail (h : plain → name.IsWhole) (withApi withExamples : Bool) :
    Ends ix plain anything (componentDetail ix name withApi withExamples) := by
  refine (ends_requireComponent h).bind fun c hix _ => ?_
  dsimp only
  split_ifs
  · exact (ends_question _).bind fun reference _ _ => ends_ok hix _
  · exact ends_ok hix _

theorem ends_componentParameters {filter : Option AnyText} (h : plain → name.IsWhole)
    (hfilter : plain → ∀ text ∈ filter, text.IsWhole) :
    Ends ix plain AnyText.IsWhole (componentParameters ix name filter) := by
  refine (ends_requireComponent h).bind fun c hix _ => ?_
  dsimp only
  split_ifs
  · cases hkept : filter.filter fun text => !text.isEmpty with
    | none => exact ends_whole hix _
    | some text =>
      have hmem : text ∈ filter := (Option.filter_eq_some_iff.mp hkept).1
      exact .answered _ hix fun hplain => (hfilter hplain text hmem).trim.within _ _
  · exact ends_whole hix _

theorem isWhole_resultPage {query : AnyText} (h : query.IsWhole) (results : List (Component × Int)) :
    (resultPage results query).IsWhole := by
  unfold resultPage
  split_ifs
  · exact h.within _ _
  · exact h.within _ _

theorem ends_searchComponents {query : AnyText} (h : plain → query.IsWhole) (fields : Option AnyText) (limit : Int) :
    Ends ix plain AnyText.IsWhole (searchComponents ix query fields limit) := by
  refine (checks_requireText h _).bind fun query hquery => ?_
  refine (checks_requireRange _ _ _ limit).bind fun _ _ => ?_
  refine (checks_fieldsOf fields).bind fun fields _ => ?_
  refine (ends_ask (fun text => ends_search text fields limit) query).bind fun results hix _ => ?_
  exact .answered _ hix fun hplain => isWhole_resultPage (hquery hplain) _

theorem ends_componentExamples {filter : Option AnyText} (h : plain → name.IsWhole) (limit : Int)
    (hfilter : plain → ∀ text ∈ filter, text.IsWhole) :
    Ends ix plain AnyText.IsWhole (componentExamples ix name limit filter) := by
  have hgiven := fun hplain => IsWhole.givenText (hfilter hplain)
  refine (checks_requireText h _).bind fun _ _ => ?_
  refine (checks_requireRange _ _ _ limit).bind fun _ _ => ?_
  refine (ends_requireComponent h).bind fun c hix _ => ?_
  cases htext : givenText filter with
  | some text =>
    dsimp only
    split_ifs
    · exact .answered _ hix fun hplain => (hgiven hplain text htext).within _ _
    · exact ends_whole hix _
  | none =>
    dsimp only
    split_ifs
    · exact ends_whole hix _
    · exact ends_whole hix _

theorem ends_exampleByName {component : AnyText} (hcomponent : plain → component.IsWhole) (h : plain → name.IsWhole) :
    Ends ix plain anything (exampleByName ix component name) := by
  refine (checks_requireText h _).bind fun name hname => ?_
  refine (ends_requireComponent hcomponent).bind fun c hix _ => ?_
  cases name.whole?.bind fun name => findExample c.examples (Text.lower name) with
  | some e => exact ends_ok hix _
  | none => exact .fault _ fun hplain => (hname hplain).within _ _

theorem ends_apiReference (h : plain → name.IsWhole) : Ends ix plain anything (apiReference ix name) := by
  refine (checks_requireText h _).bind fun name hname => ?_
  refine (ends_ask (fun _ => ends_question _) name).bind fun found hix _ => ?_
  cases found with
  | some reference => exact ends_ok hix _
  | none => exact .fault _ fun hplain => (hname hplain).within _ _

theorem ends_relatedComponents (h : plain → name.IsWhole) (relationship : Option AnyText) :
    Ends ix plain anything (relatedComponents ix name relationship) := by
  refine (checks_relationshipOf relationship).bind fun relationship _ => ?_
  refine (ends_requireComponent h).bind fun c hix _ => ?_
  refine (ends_relatedTo c.name relationship).bind fun related _ _ => ?_
  split_ifs
  · exact ends_ok hix _
  · exact ends_ok hix _

end Tools

end Tool

/-- The texts of a call that a tool can tell again as they are. -/
def Call.echoed : Call → List AnyText
  | .listComponents category => category.toList
  | .listCategories => []
  | .componentDetail name _ _ => [name]
  | .componentParameters name filter => name :: filter.toList
  | .searchComponents query _ _ => [query]
  | .componentExamples name _ filter => name :: filter.toList
  | .exampleByName component name => [component, name]
  | .apiReference typeName => [typeName]
  | .relatedComponents name _ => [name]

def ToolName.echoes : ToolName → List String
  | listComponents => ["category"]
  | listCategories => []
  | componentDetail => ["component_name"]
  | componentParameters => ["component_name", "filter"]
  | searchComponents => ["query"]
  | componentExamples => ["component_name", "filter"]
  | exampleByName => ["component_name", "example_name"]
  | apiReference => ["type_name"]
  | relatedComponents => ["component_name"]

/-- No text that the tool can tell again is broken. -/
def Arguments.Plain (tool : ToolName) : Arguments → Prop
  | .named members => ∀ name ∈ tool.echoes, ∀ text, members.lookup name ≠ some (.broken text)
  | .misnamed _ => True

section Plain

variable {members : List (String × Json)} {name : String}

theorem isWhole_of_mem_textArgument? (h : ∀ text, members.lookup name ≠ some (.broken text)) :
    ∀ text ∈ textArgument? members name, text.IsWhole := by
  intro text htext
  obtain ⟨value, hvalue, hsome⟩ := Option.bind_eq_some_iff.mp htext
  cases value with
  | string characters =>
    cases hsome
    exact AnyText.isWhole_whole characters
  | broken text => exact absurd hvalue (h text)
  | _ => cases hsome

theorem isWhole_textArgument (h : ∀ text, members.lookup name ≠ some (.broken text)) :
    (textArgument members name).IsWhole := by
  unfold textArgument
  cases htext : textArgument? members name with
  | none => exact AnyText.isWhole_whole ""
  | some text => exact isWhole_of_mem_textArgument? h text htext

/-- A text that a tool can tell again stands under one of the names that say so. -/
theorem ToolName.exists_mem_echoes {tool : ToolName} {text : AnyText} (h : text ∈ (tool.call members).echoed) :
    ∃ name ∈ tool.echoes, text ∈ textArgument? members name ∨ text = textArgument members name := by
  cases tool with
  | listCategories => cases h
  | _ =>
    simp only [call, Call.echoed, List.mem_cons, List.not_mem_nil, or_false, Option.mem_toList] at h
    simp only [echoes, List.mem_cons, List.not_mem_nil, or_false, exists_eq_or_imp, exists_eq_left]
    tauto

theorem ToolName.isWhole_of_mem_echoed {tool : ToolName} (h : (Arguments.named members).Plain tool) :
    ∀ text ∈ (tool.call members).echoed, text.IsWhole := by
  intro text htext
  obtain ⟨name, hname, hgiven | rfl⟩ := exists_mem_echoes htext
  · exact isWhole_of_mem_textArgument? (h name hname) text hgiven
  · exact isWhole_textArgument (h name hname)

end Plain

namespace Tool

variable {ix : Index} {plain : Prop}

theorem ends_run {call : Call} (h : plain → ∀ text ∈ call.echoed, text.IsWhole) :
    Ends ix plain AnyText.IsWhole (run ix call) := by
  have hfirst {text : AnyText} {texts : List AnyText} (hcall : call.echoed = text :: texts) :
      plain → text.IsWhole :=
    fun hplain => h hplain text (hcall ▸ List.mem_cons_self)
  have hgiven {text : AnyText} {given : Option AnyText} (hcall : call.echoed = text :: given.toList) :
      plain → ∀ t ∈ given, t.IsWhole :=
    fun hplain t ht => h hplain t (hcall ▸ List.mem_cons_of_mem _ (Option.mem_toList.mpr ht))
  have hmap {r : Except Failure String} (hr : Ends ix plain anything r) :
      Ends ix plain AnyText.IsWhole (r.map .whole) :=
    hr.map fun text _ => AnyText.isWhole_whole text
  cases call with
  | listComponents category =>
    exact ends_listComponents fun hplain t ht => h hplain t (Option.mem_toList.mpr ht)
  | listCategories => exact hmap (ends_listCategories ix)
  | componentDetail name withApi withExamples => exact hmap (ends_componentDetail (hfirst rfl) withApi withExamples)
  | componentParameters name filter => exact ends_componentParameters (hfirst rfl) (hgiven rfl)
  | searchComponents query fields limit => exact ends_searchComponents (hfirst rfl) fields limit
  | componentExamples name limit filter => exact ends_componentExamples (hfirst rfl) limit (hgiven rfl)
  | exampleByName component name =>
    exact hmap (ends_exampleByName (hfirst rfl) fun hplain => h hplain name (by simp [Call.echoed]))
  | apiReference typeName => exact hmap (ends_apiReference (hfirst rfl))
  | relatedComponents name relationship => exact hmap (ends_relatedComponents (hfirst rfl) relationship)

def told : Except Failure AnyText → AnyText
  | .ok answer => answer
  | .error failure => failure.wording

structure Concludes (ix : Index) (name : String) (arguments : Arguments) (outcome : Except Failure AnyText) :
    Prop where
  declared : (∃ text, outcome = .ok text) ∨ outcome = .error (.unknownTool name) ∨
    (∃ fault, outcome = .error (.tool fault)) ∨ outcome = .error .notBuilt
  unknown_iff : outcome = .error (.unknownTool name) ↔ name ∉ ToolName.all.map ToolName.text
  misfit : ∀ tool : ToolName, tool.text = name → ∀ members, arguments = .named members → ¬ tool.Takes members →
    outcome = .error (.tool (.invalidArguments name (tool.problems members)))
  misnamed : ∀ tool : ToolName, tool.text = name → ∀ members, arguments = .misnamed members →
    outcome = .error (.tool (.invalidArguments name Arguments.misnaming))
  built : ∀ text, outcome = .ok text → ix.isIndexed = true
  unbuilt : outcome = .error .notBuilt → ix.isIndexed = false
  whole : (∀ tool : ToolName, tool.text = name → arguments.Plain tool) → (told outcome).IsWhole

theorem concludes_of_unknown {name : String} {arguments : Arguments} (h : ToolName.ofText? name = none) :
    Concludes ix name arguments (.error (.unknownTool name)) := by
  have hnone (tool : ToolName) : tool.text ≠ name := by
    rintro rfl
    rw [ToolName.ofText?_text] at h
    cases h
  refine
    { declared := .inr (.inl rfl)
      unknown_iff := iff_of_true rfl (ToolName.ofText?_eq_none_iff.mp h)
      misfit := fun tool htext => absurd htext (hnone tool)
      misnamed := fun tool htext => absurd htext (hnone tool)
      built := ?_
      unbuilt := ?_
      whole := fun _ => AnyText.isWhole_whole _ }
  · rintro text ⟨⟩
  · rintro ⟨⟩

/-- A call of a tool that there is ends as its arguments or its run end. -/
theorem Ends.concludes {tool : ToolName} {arguments : Arguments} {outcome : Except Failure AnyText}
    (h : Ends ix (arguments.Plain tool) AnyText.IsWhole outcome)
    (hmisfit : ∀ members, arguments = .named members → ¬ tool.Takes members →
      outcome = .error (.tool (.invalidArguments tool.text (tool.problems members))))
    (hmisnamed : ∀ members, arguments = .misnamed members →
      outcome = .error (.tool (.invalidArguments tool.text Arguments.misnaming))) :
    Concludes ix tool.text arguments outcome where
  declared := by
    cases h with
    | answered text _ _ => exact .inl ⟨text, rfl⟩
    | fault fault _ => exact .inr (.inr (.inl ⟨fault, rfl⟩))
    | unbuilt _ => exact .inr (.inr (.inr rfl))
  unknown_iff := by
    have hknown : ¬ tool.text ∉ ToolName.all.map ToolName.text := by
      rw [← ToolName.ofText?_eq_none_iff, ToolName.ofText?_text]
      exact Option.some_ne_none tool
    refine iff_of_false ?_ hknown
    rintro rfl
    cases h
  misfit other htext := by
    obtain rfl := ToolName.text_injective htext
    exact hmisfit
  misnamed other htext := by
    obtain rfl := ToolName.text_injective htext
    exact hmisnamed
  built text heq := by
    subst heq
    cases h with
    | answered _ hix _ => exact hix
  unbuilt heq := by
    subst heq
    cases h with
    | unbuilt hix => exact hix
  whole hplain := by
    cases h with
    | answered text _ hwhole => exact hwhole (hplain tool rfl)
    | fault fault hwhole => exact hwhole (hplain tool rfl)
    | unbuilt _ => exact AnyText.isWhole_whole _

theorem isWhole_truncateAny {answer : AnyText} (h : answer.IsWhole) : (truncateAny answer).IsWhole := by
  obtain ⟨characters, rfl⟩ := h
  exact AnyText.isWhole_whole _

theorem ends_execute (ix : Index) (tool : ToolName) (members : List (String × Json)) :
    Ends ix ((Arguments.named members).Plain tool) AnyText.IsWhole (execute ix tool.text members) := by
  cases hproblems : tool.problems members with
  | nil =>
    have hread : Call.read tool.text members = .ok (tool.call members) := by
      simp only [Call.read, ToolName.ofText?_text, hproblems]
    rw [execute, hread]
    exact (ends_run ToolName.isWhole_of_mem_echoed).bind fun answer hix hwhole =>
      .answered _ hix fun hplain => isWhole_truncateAny (hwhole hplain)
  | cons problem problems =>
    have hread : Call.read tool.text members =
        .error (.tool (.invalidArguments tool.text (problem :: problems))) := by
      simp only [Call.read, ToolName.ofText?_text, hproblems]
    rw [execute, hread]
    exact .fault _ fun _ => AnyText.isWhole_whole _

theorem execute_misfit {tool : ToolName} {members : List (String × Json)} (h : ¬ tool.Takes members) (ix : Index) :
    execute ix tool.text members = .error (.tool (.invalidArguments tool.text (tool.problems members))) := by
  cases hproblems : tool.problems members with
  | nil => exact absurd (ToolName.problems_eq_nil_iff.mp hproblems) h
  | cons problem problems =>
    simp only [execute, Call.read, ToolName.ofText?_text, hproblems]
    rfl

theorem concludes_answer (ix : Index) (name : String) (arguments : Arguments) :
    Concludes ix name arguments (answer ix name arguments) := by
  cases htool : ToolName.ofText? name with
  | none =>
    have hanswer : answer ix name arguments = .error (.unknownTool name) := by
      cases arguments with
      | named members =>
        rw [answer, execute, Call.read, htool]
        rfl
      | misnamed members => rw [answer, htool]; rfl
    rw [hanswer]
    exact concludes_of_unknown htool
  | some tool =>
    obtain rfl := ToolName.text_of_ofText? htool
    cases arguments with
    | named members =>
      refine (ends_execute ix tool members).concludes ?_ (by rintro _ ⟨⟩)
      rintro _ ⟨⟩ hmisfit
      exact execute_misfit hmisfit ix
    | misnamed members =>
      have hanswer : answer ix tool.text (.misnamed members) =
          .error (.tool (.invalidArguments tool.text Arguments.misnaming)) := by
        rw [answer, htool]
        rfl
      have hends : Ends ix True AnyText.IsWhole (answer ix tool.text (.misnamed members)) := by
        rw [hanswer]
        exact .fault _ fun _ => AnyText.isWhole_whole _
      exact hends.concludes (by rintro _ ⟨⟩) fun _ _ => hanswer

end Tool
end Catalog
