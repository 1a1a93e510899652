import Catalog.CSharp.ComponentClass
import Mathlib.Data.List.Find
import Mathlib.Tactic.Common

/-! Where the class stands that is described. All type declarations of a file are listed with what is around them; the
two walks over the file, for a class and for a namespace, are read off that list. -/
namespace Catalog.CSharp

open Text

/-- Where a declaration stands: the namespaces around it and the types around it, outermost first, and whether it is
directly in the body of the innermost of these types. -/
structure Place where
  spaces : List String := []
  types : List String := []
  isDirect : Bool := false
  deriving DecidableEq, Repr

namespace Place

def inSpace (p : Place) (name : String) : Place :=
  { p with spaces := p.spaces ++ [name], isDirect := false }

/-- After a namespace for the rest of a file at the place. -/
def afterSpace (p : Place) (name : String) : Place :=
  { p with spaces := p.spaces ++ [name] }

def inType (p : Place) (keyword : String) : Place :=
  { p with types := p.types ++ [keyword], isDirect := true }

def inConditional (p : Place) : Place :=
  { p with isDirect := false }

def isInClass (p : Place) : Bool :=
  p.isDirect && p.types.getLast? == some "class"

end Place

/-- A type declaration with the documentation comments before it and its place. -/
structure Declared where
  place : Place
  docs : List String
  head : TypeHead
  body : List Item

namespace Declared

def isPublicClass (d : Declared) : Bool :=
  d.head.keyword = "class" && d.head.modifiers.contains "public"

def isTopLevel (d : Declared) : Bool :=
  d.isPublicClass && d.place.types.isEmpty

def isCandidate (d : Declared) : Bool :=
  d.isPublicClass && !d.place.isInClass

def found (d : Declared) : FoundClass :=
  ⟨d.docs, d.head, d.body⟩

end Declared

mutual

def declaredOf (place : Place) (docs : List String) : Item → List Declared
  | .type head body => ⟨place, docs, head, body⟩ :: declaredIn (place.inType head.keyword) [] body
  | .nameSpace name body => declaredIn (place.inSpace name) [] body
  | .conditional items => declaredIn place.inConditional [] items
  | _ => []

/-- The type declarations among the items at the place and in them, in the order of the source. -/
def declaredIn (place : Place) (run : List String) : List Item → List Declared
  | [] => []
  | item :: items =>
    match item with
    | .comment text => declaredIn place (extendRun run text) items
    | .fileSpace name => declaredIn (place.afterSpace name) [] items
    | _ => declaredOf place run item ++ declaredIn place [] items

end

mutual

def spacesOf : Item → List String
  | .nameSpace name body => name :: spacesIn body
  | .fileSpace name => [name]
  | .conditional items => spacesIn items
  | .type _ body => spacesIn body
  | _ => []

/-- The namespaces declared among the items and in them, in the order of the source. -/
def spacesIn : List Item → List String
  | [] => []
  | item :: items => spacesOf item ++ spacesIn items

end

mutual

theorem nameSpaceIn_eq (item : Item) : nameSpaceIn item = (spacesOf item).head? := by
  cases item with
  | nameSpace name body => rfl
  | fileSpace name => rfl
  | conditional items => exact firstNameSpace_eq items
  | type head body => exact firstNameSpace_eq body
  | _ => rfl

/-- The namespace that is found is the one declared first. -/
theorem firstNameSpace_eq (items : List Item) : firstNameSpace items = (spacesIn items).head? := by
  cases items with
  | nil => rfl
  | cons item items =>
    rw [firstNameSpace, nameSpaceIn_eq item, firstNameSpace_eq items, spacesIn, List.head?_append]
    cases (spacesOf item).head? <;> rfl

end

theorem Place.isInClass_inType (p : Place) (keyword : String) :
    (p.inType keyword).isInClass = decide (keyword = "class") := by
  simp [inType, isInClass, List.getLast?_append, beq_eq_decide]

mutual

theorem classesOf_eq (place : Place) (docs : List String) (item : Item) :
    classesOf place.isInClass docs item =
      ((declaredOf place docs item).filter Declared.isCandidate).map Declared.found := by
  cases item with
  | type head body =>
    have hbody := classesIn_eq (place.inType head.keyword) [] body
    rw [place.isInClass_inType] at hbody
    rw [classesOf, declaredOf, List.filter_cons, hbody]
    change (if (Declared.mk place docs head body).isCandidate = true then _ else _) ++ _ = _
    by_cases hc : (Declared.mk place docs head body).isCandidate
    · rw [if_pos hc, if_pos hc, List.map_cons, List.singleton_append]
      rfl
    · rw [if_neg hc, if_neg hc, List.nil_append]
  | nameSpace name body => exact classesIn_eq (place.inSpace name) [] body
  | conditional items => exact classesIn_eq place.inConditional [] items
  | _ => rfl

/-- The classes from which one is chosen are those public ones that do not stand directly in a class. -/
theorem classesIn_eq (place : Place) (run : List String) (items : List Item) :
    classesIn place.isInClass run items =
      ((declaredIn place run items).filter Declared.isCandidate).map Declared.found := by
  cases items with
  | nil => rfl
  | cons item items =>
    cases item with
    | comment text => exact classesIn_eq place (extendRun run text) items
    | fileSpace name => exact classesIn_eq (place.afterSpace name) [] items
    | _ =>
      rw [classesIn, declaredIn, List.filter_append, List.map_append, ← classesOf_eq, ← classesIn_eq]
      all_goals exact fun _ h => Item.noConfusion h

end

mutual

theorem spaces_of_mem_declaredOf (place : Place) (docs : List String) (item : Item) :
    ∀ d ∈ declaredOf place docs item,
      ∃ inner, d.place.spaces = place.spaces ++ inner ∧ inner.Sublist (spacesOf item) := by
  intro d h
  cases item with
  | type head body =>
    rcases List.mem_cons.mp h with rfl | h
    · exact ⟨[], (List.append_nil _).symm, List.nil_sublist _⟩
    · exact spaces_of_mem_declaredIn (place.inType head.keyword) [] body d h
  | nameSpace name body =>
    obtain ⟨inner, hspaces, hinner⟩ := spaces_of_mem_declaredIn (place.inSpace name) [] body d h
    exact ⟨name :: inner, hspaces.trans (List.append_assoc _ [name] inner), hinner.cons_cons name⟩
  | conditional items => exact spaces_of_mem_declaredIn place.inConditional [] items d h
  | _ => cases h

/-- The namespaces around a declaration are among those that are declared, in their order. -/
theorem spaces_of_mem_declaredIn (place : Place) (run : List String) (items : List Item) :
    ∀ d ∈ declaredIn place run items,
      ∃ inner, d.place.spaces = place.spaces ++ inner ∧ inner.Sublist (spacesIn items) := by
  intro d h
  cases items with
  | nil => cases h
  | cons item items =>
    cases item with
    | comment text => exact spaces_of_mem_declaredIn place (extendRun run text) items d h
    | fileSpace name =>
      obtain ⟨inner, hspaces, hinner⟩ := spaces_of_mem_declaredIn (place.afterSpace name) [] items d h
      exact ⟨name :: inner, hspaces.trans (List.append_assoc _ [name] inner), hinner.cons_cons name⟩
    | _ =>
      rcases List.mem_append.mp h with h | h
      · obtain ⟨inner, hspaces, hinner⟩ := spaces_of_mem_declaredOf place run _ d h
        exact ⟨inner, hspaces, hinner.trans (List.sublist_append_left _ _)⟩
      · obtain ⟨inner, hspaces, hinner⟩ := spaces_of_mem_declaredIn place [] items d h
        exact ⟨inner, hspaces, hinner.trans (List.sublist_append_right _ _)⟩

end

def declarations (source : List Char) : List Declared :=
  declaredIn {} [] (parse source)

/-- Of the declarations that meet a condition the first one with the name, else the first one. -/
def chooseDeclared (p : Declared → Bool) (name : String) (ds : List Declared) : Option Declared :=
  (ds.find? fun d => p d && d.head.name = name).or (ds.find? p)

theorem chooseClass_map_found (p : Declared → Bool) (name : String) (ds : List Declared) :
    chooseClass name ((ds.filter p).map Declared.found) = (chooseDeclared p name ds).map Declared.found := by
  have hnamed : ((ds.filter p).map Declared.found).find? (fun c => c.head.name = name) =
      (ds.find? fun d => p d && d.head.name = name).map Declared.found := by
    rw [List.find?_map, List.find?_filter]
    refine congrArg _ (List.find?_congr fun d _ => ?_)
    cases p d with
    | true => simp only [Function.comp_apply, true_and, Bool.true_and, Bool.decide_eq_true]; rfl
    | false => simp
  rw [chooseClass, hnamed, List.head?_map, List.head?_filter, chooseDeclared]
  cases ds.find? (fun d => p d && d.head.name = name) <;> rfl

theorem chooseDeclared_eq_some {p : Declared → Bool} {name : String} {ds : List Declared} {d : Declared}
    (h : chooseDeclared p name ds = some d) : d ∈ ds ∧ p d = true := by
  rcases Option.or_eq_some_iff.mp h with h | ⟨-, h⟩
  · have hp := List.find?_some h
    rw [Bool.and_eq_true] at hp
    exact ⟨List.mem_of_find?_eq_some h, hp.1⟩
  · exact ⟨List.mem_of_find?_eq_some h, List.find?_some h⟩

theorem chooseDeclared_congr {p q : Declared → Bool} {ds : List Declared} (h : ∀ d ∈ ds, p d = q d) (name : String) :
    chooseDeclared p name ds = chooseDeclared q name ds := by
  rw [chooseDeclared, chooseDeclared, List.find?_congr h, List.find?_congr fun d hd => by rw [h d hd]]

/-- What stands in no type does not stand directly in a class. -/
theorem Declared.isCandidate_of_isTopLevel {d : Declared} (h : d.isTopLevel = true) : d.isCandidate = true := by
  rw [isTopLevel, Bool.and_eq_true, List.isEmpty_iff] at h
  rw [isCandidate, h.1, Place.isInClass, h.2]
  simp

/-- The class that is described is the first candidate with the name of the file, else the first one; it is in no type
as long as candidates are in none. The namespace is the one declared first, and so that of the class as long as
all namespaces in the file have one name and the class is in one of them, if there are any, and in no more. -/
theorem componentClass_chosen {source : List Char} {filePath : String} {facts : SourceFacts}
    (h : componentClass source filePath = some facts) :
    ∃ d ∈ declarations source,
      chooseDeclared Declared.isCandidate (Path.ofText filePath).stem (declarations source) = some d ∧
      facts = d.found.facts filePath ((spacesIn (parse source)).head?.bind nonEmpty?) ∧
      ((∀ e ∈ declarations source, e.isCandidate = true → e.place.types = []) →
        d.isTopLevel = true ∧
          chooseDeclared Declared.isTopLevel (Path.ofText filePath).stem (declarations source) = some d) ∧
      ((∀ a ∈ spacesIn (parse source), ∀ b ∈ spacesIn (parse source), a = b) →
        d.place.spaces.length ≤ 1 → (d.place.spaces = [] → spacesIn (parse source) = []) →
          facts.nameSpace = nonEmpty? (join "." d.place.spaces)) := by
  have hclasses : classesIn false [] (parse source) =
      ((declarations source).filter Declared.isCandidate).map Declared.found :=
    classesIn_eq {} [] (parse source)
  obtain ⟨found, hfound, hfacts⟩ := Option.bind_eq_some_iff.mp h
  rw [hclasses, chooseClass_map_found] at hfound
  obtain ⟨d, hd, rfl⟩ := Option.map_eq_some_iff.mp hfound
  obtain ⟨hmem, hcandidate⟩ := chooseDeclared_eq_some hd
  rw [firstNameSpace_eq] at hfacts
  have hfacts := (Option.some.inj hfacts).symm
  refine ⟨d, hmem, hd, hfacts, fun houter => ?_, fun hone hflat hin => ?_⟩
  · have hsame : ∀ e ∈ declarations source, e.isCandidate = e.isTopLevel := by
      intro e he
      rw [Bool.eq_iff_iff]
      refine ⟨fun hc => ?_, Declared.isCandidate_of_isTopLevel⟩
      rw [Declared.isTopLevel, houter e he hc, (Bool.and_eq_true_iff.mp hc).1]
      rfl
    rw [chooseDeclared_congr hsame] at hd
    exact ⟨hsame d hmem ▸ hcandidate, hd⟩
  · have hnameSpace : facts.nameSpace = (spacesIn (parse source)).head?.bind nonEmpty? := by rw [hfacts]; rfl
    have hsub : d.place.spaces.Sublist (spacesIn (parse source)) := by
      obtain ⟨inner, hspaces, hinner⟩ := spaces_of_mem_declaredIn {} [] (parse source) d hmem
      rwa [hspaces]
    rw [hnameSpace]
    match hspaces : d.place.spaces, hflat with
    | [], _ =>
      rw [hin hspaces]
      rfl
    | [name], _ =>
      rw [hspaces, List.singleton_sublist] at hsub
      obtain ⟨first, rest, hall⟩ := List.exists_cons_of_ne_nil (List.ne_nil_of_mem hsub)
      have hfirst : first = name := hone first (hall ▸ List.mem_cons_self) name hsub
      rw [hall, List.head?_cons, Option.bind_some, hfirst, join, String.intercalate_singleton]

/-- A namespace with two public classes of one name, of which one stands in another class. -/
def oneHome : List Char :=
  "namespace Home \x7b class Deck \x7b public class Card \x7b \x7d \x7d public class Card : Base \x7b \x7d \x7d".toList

theorem componentClass_oneHome : ∃ facts, ∃ d ∈ declarations oneHome, componentClass oneHome "Card.cs" = some facts ∧
    facts = d.found.facts "Card.cs" (some "Home") ∧ d.isTopLevel = true ∧
      chooseDeclared Declared.isTopLevel "Card" (declarations oneHome) = some d ∧
      facts.nameSpace = nonEmpty? (join "." d.place.spaces) := by
  have hplaces : (declarations oneHome).map (fun e => (e.head.name, e.isCandidate, e.place)) =
      [("Deck", false, ⟨["Home"], [], false⟩), ("Card", false, ⟨["Home"], ["class"], true⟩),
        ("Card", true, ⟨["Home"], [], false⟩)] := by decide +kernel
  have hspaces : spacesIn (parse oneHome) = ["Home"] := by decide +kernel
  have hplace (e : Declared) (he : e ∈ declarations oneHome) : e.place.spaces = ["Home"] ∧
      (e.isCandidate = true → e.place.types = []) := by
    have hmem := List.mem_map_of_mem (f := fun e : Declared => (e.head.name, e.isCandidate, e.place)) he
    rw [hplaces] at hmem
    simp only [List.mem_cons, Prod.mk.injEq, List.not_mem_nil, or_false] at hmem
    rcases hmem with ⟨-, hc, hp⟩ | ⟨-, hc, hp⟩ | ⟨-, hc, hp⟩ <;> simp [hc, hp]
  have hsome : (componentClass oneHome "Card.cs").isSome = true := by decide +kernel
  obtain ⟨facts, hfacts⟩ := Option.isSome_iff_exists.mp hsome
  obtain ⟨d, hd, -, hd', houter, hspace⟩ := componentClass_chosen hfacts
  obtain ⟨htop, hchosen⟩ := houter fun e he => (hplace e he).2
  rw [hspaces] at hd' hspace
  refine ⟨facts, d, hd, hfacts, hd', htop, hchosen, hspace (by simp) ?_ ?_⟩
  · rw [(hplace d hd).1]
    rfl
  · rw [(hplace d hd).1]
    exact nofun

/-- Two namespaces, and two public classes of one name in the second of them, of which one stands in a struct. -/
def twoHomes : List Char :=
  ("namespace A \x7b \x7d namespace B \x7b public struct Box \x7b public class Card : In \x7b \x7d \x7d " ++
    "public class Card : Out \x7b \x7d \x7d").toList

/-- The class in the struct is described, and in a namespace that neither class is in. -/
theorem componentClass_twoHomes :
    (componentClass twoHomes "Card.cs").map (fun facts => (facts.baseType, facts.nameSpace)) =
        some (some "In", some "A") ∧
      (chooseDeclared Declared.isTopLevel "Card" (declarations twoHomes)).map (fun d => (d.head.base, d.place.spaces)) =
        some (some "Out", ["B"]) := by
  constructor <;> decide +kernel

end Catalog.CSharp
