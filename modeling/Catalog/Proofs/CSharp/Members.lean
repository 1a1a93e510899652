import Catalog.Entry
import Catalog.Proofs.CSharp.Callback
import Catalog.Proofs.Lists
import Mathlib.Data.List.Forall2

/-! What becomes of the members of a class: the properties that carry the attribute of a parameter become events or
parameters, methods become methods, and the flat list of members keeps all of them apart and in order. -/
namespace Catalog.CSharp

open Text

/-! Declared types -/

theorem collapse_typeText (ts : List Tree) : collapse (typeText ts) = typeText ts :=
  collapse_collapse _

mutual

/-- Whether the types of all properties in an item have their blank runs collapsed. -/
def IsNormal : Item → Prop
  | .property p => collapse p.type = p.type
  | .nameSpace _ body => AreNormal body
  | .type _ body => AreNormal body
  | .conditional items => AreNormal items
  | _ => True

def AreNormal : List Item → Prop
  | [] => True
  | item :: items => IsNormal item ∧ AreNormal items

end

theorem isNormal_of_mem {item : Item} {items : List Item} (h : AreNormal items) (hitem : item ∈ items) :
    IsNormal item := by
  induction items with
  | nil => cases hitem
  | cons first items ih =>
    rcases List.mem_cons.mp hitem with rfl | hitem
    · exact h.1
    · exact ih h.2 hitem

theorem isNormal_memberOf (attributes modifiers : List String) (ts : List Tree) :
    IsNormal (memberOf attributes modifiers ts) := by
  unfold memberOf
  dsimp only
  -- without a type, without a name, an operator or indexer, with nothing after the name; then by what comes there
  split
  · exact trivial
  split
  · exact trivial
  split
  · exact trivial
  split
  · exact trivial
  split_ifs
  · exact trivial
  · exact collapse_typeText _
  · exact collapse_typeText _
  · exact trivial

/-- A shape holds no item of its own but one member. -/
def Shape.IsNormal : Shape → Prop
  | .single item => CSharp.IsNormal item
  | _ => True

theorem isNormal_typeShape (keyword : String) (modifiers : List String) (ts : List Tree) :
    (typeShape keyword modifiers ts).IsNormal := by
  unfold typeShape
  repeat' split
  all_goals exact trivial

theorem isNormal_shapeOf (attributes modifiers : List String) (ts : List Tree) :
    (shapeOf attributes modifiers ts).IsNormal := by
  unfold shapeOf
  dsimp only
  split
  · exact trivial
  split
  · exact trivial
  split
  · exact isNormal_typeShape ..
  split
  · exact isNormal_typeShape ..
  split_ifs
  · exact isNormal_typeShape ..
  · exact isNormal_memberOf ..
  · exact trivial
  · exact isNormal_memberOf ..

theorem isNormal_declarationShape (attributes modifiers : List String) (ts : List Tree) :
    (declarationShape attributes modifiers ts).IsNormal := by
  fun_induction declarationShape attributes modifiers ts with
  | case1 => exact trivial
  | case2 _ _ _ _ _ ih => exact ih
  | case3 _ _ _ _ _ _ ih => exact ih
  | case4 _ _ _ _ _ _ _ _ ih => exact ih
  | case5 => exact isNormal_shapeOf ..

theorem areNormal_declared {read : List Tree → List Item} (hread : ∀ ts, AreNormal (read ts)) (ts : List Tree) :
    AreNormal (declared read ts) := by
  have hshape := isNormal_declarationShape [] [] (splitDeclaration false [] ts).1
  refine ⟨?_, hread _⟩
  cases h : declarationShape [] [] (splitDeclaration false [] ts).1 with
  | space name body =>
    cases body with
    | none => exact trivial
    | some body => exact hread body
  | typeOf head body => exact hread body
  | single item => rwa [h] at hshape

theorem areNormal_itemsFrom (fuel : Nat) (ts : List Tree) : AreNormal (itemsFrom fuel ts) := by
  induction fuel generalizing ts with
  | zero => exact trivial
  | succ fuel ih =>
    cases ts with
    | nil => exact trivial
    | cons t ts =>
      cases t with
      | leaf token =>
        rw [itemsFrom]
        split_ifs
        · exact ⟨trivial, ih ts⟩
        · exact ⟨trivial, ih ts⟩
        · exact ih ts
        · exact areNormal_declared ih _
      | group opening content closing =>
        rw [itemsFrom]
        split_ifs
        · exact ⟨ih content, ih ts⟩
        · exact ⟨trivial, ih ts⟩
        · exact areNormal_declared ih _

mutual

theorem areNormal_of_mem_classesOf {nested : Bool} {docs : List String} {item : Item} (h : IsNormal item) :
    ∀ found ∈ classesOf nested docs item, AreNormal found.body := by
  intro found hfound
  cases item with
  | type head body =>
    rcases List.mem_append.mp hfound with hfound | hfound
    · split_ifs at hfound
      · rw [List.mem_singleton.mp hfound]
        exact h
      · cases hfound
    · exact areNormal_of_mem_classesIn h found hfound
  | nameSpace name body => exact areNormal_of_mem_classesIn (show AreNormal body from h) found hfound
  | conditional items => exact areNormal_of_mem_classesIn (show AreNormal items from h) found hfound
  | _ => cases hfound

theorem areNormal_of_mem_classesIn {nested : Bool} {run : List String} {items : List Item} (h : AreNormal items) :
    ∀ found ∈ classesIn nested run items, AreNormal found.body := by
  intro found hfound
  cases items with
  | nil => cases hfound
  | cons item items =>
    cases item with
    | comment text => exact areNormal_of_mem_classesIn h.2 found hfound
    | _ =>
      rcases List.mem_append.mp hfound with hfound | hfound
      · exact areNormal_of_mem_classesOf h.1 found hfound
      · exact areNormal_of_mem_classesIn h.2 found hfound

end

/-! Members of a class body -/

def Item.property? : Item → Option PropertyDeclaration
  | .property p => some p
  | _ => none

def Item.method? : Item → Option MethodDeclaration
  | .method m => some m
  | _ => none

def propertiesOf (body : List Item) : List (List String × PropertyDeclaration) :=
  (withDocs [] body).filterMap fun (docs, item) => item.property?.map (docs, ·)

def methodsOf (body : List Item) : List (List String × MethodDeclaration) :=
  (withDocs [] body).filterMap fun (docs, item) => item.method?.map (docs, ·)

theorem mem_of_mem_withDocs {run docs : List String} {item : Item} {items : List Item}
    (h : (docs, item) ∈ withDocs run items) : item ∈ items := by
  fun_induction withDocs run items with
  | case1 => cases h
  | case2 run text items ih => exact List.mem_cons_of_mem _ (ih h)
  | case3 run first items hfirst ih =>
    rcases List.mem_cons.mp h with h | h
    · exact (Prod.mk.inj h).2 ▸ List.mem_cons_self
    · exact List.mem_cons_of_mem _ (ih h)

theorem mem_of_mem_propertiesOf {docs : List String} {p : PropertyDeclaration} {body : List Item}
    (h : (docs, p) ∈ propertiesOf body) : .property p ∈ body := by
  obtain ⟨⟨docs', item⟩, hitem, hp⟩ := List.mem_filterMap.mp h
  cases item with
  | property p' =>
    cases hp
    exact mem_of_mem_withDocs hitem
  | _ => cases hp

theorem mem_of_chooseClass {name : String} {classes : List FoundClass} {found : FoundClass}
    (h : chooseClass name classes = some found) : found ∈ classes := by
  rw [chooseClass] at h
  cases hnamed : classes.find? fun c => c.head.name = name with
  | some c =>
    rw [hnamed] at h
    exact Option.some.inj h ▸ List.mem_of_find?_eq_some hnamed
  | none =>
    rw [hnamed] at h
    exact List.mem_of_head? h

namespace PropertyDeclaration

/-- Carrying the attribute of a parameter. -/
def IsMarked (p : PropertyDeclaration) : Prop :=
  "Parameter" ∈ p.attributes ∨ "CascadingParameter" ∈ p.attributes

def IsEvent (p : PropertyDeclaration) : Prop :=
  p.IsMarked ∧ "CascadingParameter" ∉ p.attributes ∧ ∃ argument, IsCallback p.type argument

def IsParameter (p : PropertyDeclaration) : Prop :=
  p.IsMarked ∧ ¬ p.IsEvent

instance : DecidablePred IsMarked := fun p =>
  inferInstanceAs (Decidable ("Parameter" ∈ p.attributes ∨ "CascadingParameter" ∈ p.attributes))

instance : DecidablePred IsEvent := fun p =>
  have : Decidable (∃ argument, IsCallback p.type argument) :=
    decidable_of_iff ((callbackArgument? p.type).isSome = true) <| by
      simp only [Option.isSome_iff_exists, callbackArgument?_eq_some_iff]
  inferInstanceAs <| Decidable <|
    p.IsMarked ∧ "CascadingParameter" ∉ p.attributes ∧ ∃ argument, IsCallback p.type argument

instance : DecidablePred IsParameter := fun p =>
  inferInstanceAs (Decidable (p.IsMarked ∧ ¬ p.IsEvent))

end PropertyDeclaration

def MethodDeclaration.IsOffered (m : MethodDeclaration) : Prop :=
  "public" ∈ m.modifiers ∧ "override" ∉ m.modifiers

instance : DecidablePred MethodDeclaration.IsOffered := fun m =>
  inferInstanceAs (Decidable ("public" ∈ m.modifiers ∧ "override" ∉ m.modifiers))

def parameterOf : List String × PropertyDeclaration → Parameter
  | (docs, p) => {
      name := p.name
      type := p.type
      description := summaryOf docs
      defaultValue := p.initial
      isRequired := decide ("EditorRequired" ∈ p.attributes)
      isCascading := decide ("CascadingParameter" ∈ p.attributes) }

/-- The event hands over what the type of the property says. -/
def IsEventOf (d : List String × PropertyDeclaration) (e : Event) : Prop :=
  e.name = d.2.name ∧ e.description = summaryOf d.1 ∧
    ∀ argument, IsCallback d.2.type argument ↔ e.argumentType = argument

def methodOf : List String × MethodDeclaration → Method
  | (docs, m) => {
      name := m.name
      returnType := m.returnType
      description := summaryOf docs
      parameters := m.arguments.map fun a => { name := a.name, type := a.type }
      isAsync := m.modifiers.contains "async" || beginsWith m.returnType "Task" || beginsWith m.returnType "ValueTask" }

theorem memberOfProperty_of_not_isMarked {p : PropertyDeclaration} (h : ¬ p.IsMarked) (docs : List String) :
    memberOfProperty docs p = none := by
  obtain ⟨hplain, hcascading⟩ := not_or.mp h
  simp [memberOfProperty, hplain, hcascading]

theorem memberOfProperty_of_isMarked {p : PropertyDeclaration} (h : p.IsMarked) (docs : List String) :
    memberOfProperty docs p = some
      (match if "CascadingParameter" ∈ p.attributes then none else callbackArgument? p.type with
      | some argument => .inl { name := p.name, argumentType := argument, description := summaryOf docs }
      | none => .inr (parameterOf (docs, p))) := by
  have hmarked : (!p.attributes.contains "CascadingParameter" && !p.attributes.contains "Parameter") = false := by
    rcases h with h | h <;> simp [h]
  rw [memberOfProperty]
  dsimp only
  rw [if_neg (by rw [hmarked]; exact Bool.false_ne_true)]
  simp only [List.contains_eq_mem, decide_eq_true_eq, parameterOf]
  cases if "CascadingParameter" ∈ p.attributes then none else callbackArgument? p.type <;> rfl

theorem memberOfProperty_of_isEvent {p : PropertyDeclaration} (h : p.IsEvent) (docs : List String) :
    ∃ e, memberOfProperty docs p = some (.inl e) ∧ IsEventOf (docs, p) e := by
  obtain ⟨hmarked, hcascading, argument, hargument⟩ := h
  have hread := callbackArgument?_eq_some_iff.mpr hargument
  refine ⟨⟨p.name, argument, summaryOf docs⟩, ?_, rfl, rfl, fun other => ?_⟩
  · rw [memberOfProperty_of_isMarked hmarked, if_neg hcascading, hread]
  · rw [← callbackArgument?_eq_some_iff, hread, Option.some_inj]

theorem memberOfProperty_of_isParameter {p : PropertyDeclaration} (h : p.IsParameter) (docs : List String) :
    memberOfProperty docs p = some (.inr (parameterOf (docs, p))) := by
  obtain ⟨hmarked, hevent⟩ := h
  have hnone : (if "CascadingParameter" ∈ p.attributes then none else callbackArgument? p.type) = none := by
    split_ifs with hcascading
    · rfl
    · rw [Option.eq_none_iff_forall_ne_some]
      exact fun argument hread => hevent ⟨hmarked, hcascading, argument, callbackArgument?_eq_some_iff.mp hread⟩
  rw [memberOfProperty_of_isMarked hmarked, hnone]

theorem methodEntry_eq (docs : List String) (m : MethodDeclaration) :
    methodEntry docs m = if m.IsOffered then some (methodOf (docs, m)) else none := by
  have hoffered : (m.modifiers.contains "public" && !m.modifiers.contains "override") = true ↔ m.IsOffered := by
    simp [MethodDeclaration.IsOffered]
  rw [methodEntry, if_congr hoffered rfl rfl]
  rfl

theorem propertyMembers_withDocs (body : List Item) :
    propertyMembers (withDocs [] body) = (propertiesOf body).filterMap fun d => memberOfProperty d.1 d.2 := by
  rw [propertyMembers, propertiesOf, List.filterMap_filterMap]
  congr 1
  funext ⟨docs, item⟩
  cases item <;> rfl

theorem methodMembers_withDocs (body : List Item) :
    methodMembers (withDocs [] body) = (methodsOf body).filterMap fun d => methodEntry d.1 d.2 := by
  rw [methodMembers, methodsOf, List.filterMap_filterMap]
  congr 1
  funext ⟨docs, item⟩
  cases item <;> rfl

/-- An event callback with what it hands over in angle brackets. -/
def callbackText : Option String → String
  | none => "EventCallback"
  | some argument => "EventCallback<" ++ argument ++ ">"

theorem callbackType_of_isCallback {type : String} {argument : Option String} (h : IsCallback type argument) :
    callbackType argument = callbackText argument := by
  cases h with
  | plain => rfl
  | generic _ _ _ hne => simp [callbackType, callbackText, hne]
  | blank => simp [callbackType, callbackText]

/-- What the facts and the flat list of members tell of the members of a class body: of the marked properties the events
and the other ones, of the methods those offered, each list in the order of the body. -/
structure TellsMembers (body : List Item) (facts : SourceFacts) : Prop where
  normal : ∀ d ∈ propertiesOf body, collapse d.2.type = d.2.type
  parameters : facts.parameters = ((propertiesOf body).filter (·.2.IsParameter)).map parameterOf
  events : List.Forall₂ IsEventOf ((propertiesOf body).filter (·.2.IsEvent)) facts.events
  methods : facts.methods = ((methodsOf body).filter (·.2.IsOffered)).map methodOf
  properties_members : facts.apiReference.members.filter (·.kind = .property) = facts.parameters.map fun p =>
    { name := p.name, kind := .property, returnType := p.type, description := p.description }
  events_members : facts.apiReference.members.filter (·.kind = .event) = facts.events.map fun e =>
    { name := e.name, kind := .event, returnType := callbackText e.argumentType, description := e.description }
  methods_members : facts.apiReference.members.filter (·.kind = .method) = facts.methods.map fun m =>
    { name := m.name, kind := .method, returnType := m.returnType, description := m.description,
      signature := nonEmpty? (signatureText m.parameters) }

theorem FoundClass.parameters_facts (found : FoundClass) (filePath : String) (nameSpace : Option String) :
    (found.facts filePath nameSpace).parameters =
      ((propertiesOf found.body).filter (·.2.IsParameter)).map parameterOf := by
  change (propertyMembers (withDocs [] found.body)).filterMap Sum.getRight? = _
  rw [propertyMembers_withDocs, List.filterMap_filterMap]
  refine filterMap_eq_map_filter (fun (docs, p) hparameter => ?_) (fun (docs, p) hparameter => ?_) _
  · rw [memberOfProperty_of_isParameter hparameter]
    rfl
  · by_cases hmarked : p.IsMarked
    · obtain ⟨e, he, -⟩ := memberOfProperty_of_isEvent (not_not.mp fun hevent => hparameter ⟨hmarked, hevent⟩) docs
      rw [he]
      rfl
    · rw [memberOfProperty_of_not_isMarked hmarked]
      rfl

theorem FoundClass.events_facts (found : FoundClass) (filePath : String) (nameSpace : Option String) :
    List.Forall₂ IsEventOf ((propertiesOf found.body).filter (·.2.IsEvent))
      (found.facts filePath nameSpace).events := by
  change List.Forall₂ _ _ ((propertyMembers (withDocs [] found.body)).filterMap Sum.getLeft?)
  rw [propertyMembers_withDocs, List.filterMap_filterMap]
  refine forall₂_filter_filterMap (fun (docs, p) hevent => ?_) (fun (docs, p) hevent => ?_) _
  · obtain ⟨e, he, hof⟩ := memberOfProperty_of_isEvent hevent docs
    rw [he]
    exact ⟨e, rfl, hof⟩
  · by_cases hmarked : p.IsMarked
    · rw [memberOfProperty_of_isParameter ⟨hmarked, hevent⟩]
      rfl
    · rw [memberOfProperty_of_not_isMarked hmarked]
      rfl

theorem FoundClass.methods_facts (found : FoundClass) (filePath : String) (nameSpace : Option String) :
    (found.facts filePath nameSpace).methods = ((methodsOf found.body).filter (·.2.IsOffered)).map methodOf := by
  change methodMembers (withDocs [] found.body) = _
  rw [methodMembers_withDocs]
  refine filterMap_eq_map_filter (fun d hoffered => ?_) (fun d hoffered => ?_) _
  · rw [methodEntry_eq, if_pos hoffered]
  · rw [methodEntry_eq, if_neg hoffered]

/-- The three kinds tell the three lists apart. -/
theorem filter_members (facts : SourceFacts) :
    facts.apiReference.members.filter (·.kind = .property) = facts.parameters.map SourceFacts.parameterMember ∧
      facts.apiReference.members.filter (·.kind = .event) = facts.events.map SourceFacts.eventMember ∧
      facts.apiReference.members.filter (·.kind = .method) = facts.methods.map SourceFacts.methodMember := by
  simp [SourceFacts.apiReference, List.filter_append, List.filter_map, Function.comp_def, SourceFacts.parameterMember,
    SourceFacts.eventMember, SourceFacts.methodMember]

theorem FoundClass.tellsMembers (found : FoundClass) (hnormal : AreNormal found.body) (filePath : String)
    (nameSpace : Option String) : TellsMembers found.body (found.facts filePath nameSpace) := by
  obtain ⟨hproperties, hevents, hmethods⟩ := filter_members (found.facts filePath nameSpace)
  have hof := found.events_facts filePath nameSpace
  refine ⟨fun (docs, p) hp => ?_, found.parameters_facts .., hof, found.methods_facts .., hproperties, ?_, hmethods⟩
  · exact isNormal_of_mem hnormal (mem_of_mem_propertiesOf hp)
  · rw [hevents]
    refine List.map_congr_left fun e he => ?_
    obtain ⟨d, -, -, -, hargument⟩ := exists_of_mem_forall₂ hof he
    rw [SourceFacts.eventMember, callbackType_of_isCallback ((hargument e.argumentType).mpr rfl)]

/-- From the source of a component to the flat list of its members. -/
theorem componentClass_members {source : List Char} {filePath : String} {facts : SourceFacts}
    (h : componentClass source filePath = some facts) :
    ∃ found, chooseClass (Path.ofText filePath).stem (classesIn false [] (parse source)) = some found ∧
      facts.className = found.head.name ∧ TellsMembers found.body facts := by
  obtain ⟨found, hfound, hfacts⟩ := Option.bind_eq_some_iff.mp h
  cases Option.some.inj hfacts
  have hnormal : AreNormal found.body :=
    areNormal_of_mem_classesIn (areNormal_itemsFrom _ _) found (mem_of_chooseClass hfound)
  exact ⟨found, hfound, rfl, found.tellsMembers hnormal ..⟩

/-- A class with an event, a cascading parameter, a property without attribute and a method. -/
def deck : List Char :=
  ("public class Deck \x7b [Parameter] public EventCallback<List<int?>>? Dealt \x7b \x7d " ++
    "[Parameter, CascadingParameter] public EventCallback Turn \x7b \x7d string Name \x7b \x7d " ++
    "public Task Deal() \x7b \x7d \x7d").toList

theorem componentClass_deck : ∃ facts found, componentClass deck "Deck.cs" = some facts ∧
    chooseClass "Deck" (classesIn false [] (parse deck)) = some found ∧ TellsMembers found.body facts ∧
      facts.apiReference.members.map (fun m => (m.name, m.kind, m.returnType)) =
        [("Turn", .property, "EventCallback"), ("Dealt", .event, "EventCallback<List<int?>>"),
          ("Deal", .method, "Task")] := by
  have hmembers : (componentClass deck "Deck.cs").map (fun facts => facts.apiReference.members.map fun m =>
      (m.name, m.kind, m.returnType)) = some [("Turn", .property, "EventCallback"),
        ("Dealt", .event, "EventCallback<List<int?>>"), ("Deal", .method, "Task")] := by decide +kernel
  obtain ⟨facts, hfacts, hlist⟩ := Option.map_eq_some_iff.mp hmembers
  obtain ⟨found, hfound, -, htells⟩ := componentClass_members hfacts
  exact ⟨facts, found, hfacts, hfound, htells, hlist⟩

end Catalog.CSharp
