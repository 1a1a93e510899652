import Catalog.Proofs.Failure
import Catalog.Proofs.Index.LookUp
import Catalog.Proofs.Index.SingleWorker
import Catalog.Proofs.Index.Taxonomy
import Catalog.Proofs.Lists
import Catalog.Tool.Run
import Mathlib.Data.List.Sort
import Mathlib.Data.String.Basic

/-! What the listings of the tools print of an index whose components are all in known categories: each component once,
whether they are listed together or category by category. -/
namespace Catalog

theorem sorted_mergeSort {α : Type} (text : α → String) (l : List α) :
    (l.mergeSort fun a b => decide (text a ≤ text b)).Pairwise fun a b => text a ≤ text b := by
  have htrans (a b c : α) (hab : decide (text a ≤ text b) = true) (hbc : decide (text b ≤ text c) = true) :
      decide (text a ≤ text c) = true :=
    decide_eq_true (le_trans (of_decide_eq_true hab) (of_decide_eq_true hbc))
  have htotal (a b : α) : (decide (text a ≤ text b) || decide (text b ≤ text a)) = true := by
    simpa using le_total (text a) (text b)
  exact (List.pairwise_mergeSort htrans htotal l).imp of_decide_eq_true

namespace Category

def alphabetical : List Category :=
  known.mergeSort fun a b => decide (a.name ≤ b.name)

theorem alphabetical_perm : alphabetical.Perm known :=
  List.mergeSort_perm known _

theorem sorted_alphabetical_names : (alphabetical.map name).Pairwise (· ≤ ·) :=
  List.pairwise_map.mpr (sorted_mergeSort name known)

theorem nodup_alphabetical_names : (alphabetical.map name).Nodup :=
  (alphabetical_perm.map name).nodup_iff.mpr nodup_known_names

end Category

namespace Tool

variable {components own : List Component} {names : List String} {group : String}

def groups (components : List Component) : List String :=
  ((components.map groupOf).eraseDups).mergeSort fun a b => decide (a ≤ b)

def alphabetically (components : List Component) : List Component :=
  components.mergeSort fun a b => decide (Text.lower a.name ≤ Text.lower b.name)

def componentLine (c : Component) : String :=
  "- **" ++ c.name ++ "** — " ++ c.summary

def blockLines (block : String × List Component) : List String :=
  ("## " ++ block.1) :: block.2.map componentLine ++ [""]

/-- The text is a listing that has one line for each of the components, below the heading of its category. -/
def Prints (text : String) (components : List Component) : Prop :=
  ∃ blocks : List (String × List Component), (blocks.flatMap Prod.snd).Perm components ∧
    (∀ block ∈ blocks, ∀ c ∈ block.2, groupOf c = block.1) ∧
    text = page (("# Bit BlazorUI components (" ++ toString components.length ++ ")") :: "" ::
      blocks.flatMap blockLines)

def below (components : List Component) (group : String) : List Component :=
  alphabetically (components.filter fun c => groupOf c = group)

theorem groupLines_eq (components : List Component) :
    groupLines components = (groups components).flatMap fun group => blockLines (group, below components group) := rfl

theorem mem_groups : group ∈ groups components ↔ ∃ c ∈ components, groupOf c = group := by
  rw [groups, List.mem_mergeSort, List.mem_eraseDups, List.mem_map]

theorem nodup_groups (components : List Component) : (groups components).Nodup :=
  (List.mergeSort_perm _ _).nodup_iff.mpr (nodup_eraseDups _)

theorem sorted_groups (components : List Component) : (groups components).Pairwise (· ≤ ·) :=
  sorted_mergeSort (fun group => group) _

/-- A listing prints each component once. -/
theorem prints_listing (components : List Component) : Prints (listComponents.listing components) components := by
  refine ⟨(groups components).map fun group => (group, below components group), ?_, ?_, ?_⟩
  · have hbelow : (((groups components).map fun group => (group, below components group)).flatMap Prod.snd).Perm
        ((groups components).flatMap fun group => components.filter fun c => groupOf c = group) := by
      rw [List.flatMap_map]
      exact List.Perm.flatMap_left _ fun group _ => List.mergeSort_perm _ _
    refine hbelow.trans (flatMap_filter_perm groupOf (nodup_groups components) fun c hc => ?_)
    exact mem_groups.mpr ⟨c, hc, rfl⟩
  · intro block hblock c hc
    obtain ⟨group, -, rfl⟩ := List.mem_map.mp hblock
    exact of_decide_eq_true (List.mem_filter.mp (List.mem_mergeSort.mp hc)).2
  · rw [List.flatMap_map, listComponents.listing, groupLines_eq]

/-- The headings of a listing are those of sorted names that head a component. -/
theorem groups_eq_filter (hsorted : names.Pairwise (· ≤ ·)) (hnodup : names.Nodup)
    (hmem : ∀ c ∈ components, groupOf c ∈ names) :
    groups components = names.filter fun name => decide (name ∈ groups components) := by
  refine List.Perm.eq_of_pairwise (fun a b _ _ => le_antisymm) (sorted_groups components) (hsorted.filter _) ?_
  refine (List.perm_ext_iff_of_nodup (nodup_groups components) (hnodup.filter _)).mpr fun group => ?_
  rw [List.mem_filter, decide_eq_true_iff]
  refine (and_iff_right_of_imp fun hgroup => ?_).symm
  obtain ⟨c, hc, rfl⟩ := mem_groups.mp hgroup
  exact hmem c hc

/-- The components of one heading are printed as one block. -/
theorem groupLines_of_group (hgroup : ∀ c ∈ own, groupOf c = group) (hne : own ≠ []) :
    groupLines own = blockLines (group, alphabetically own) := by
  have hgroups : groups own = [group] := by
    rw [groups_eq_filter (List.pairwise_singleton _ group) (List.nodup_singleton group)
      fun c hc => List.mem_singleton.mpr (hgroup c hc)]
    obtain ⟨c, hc⟩ := List.exists_mem_of_ne_nil own hne
    have hmem : group ∈ groups own := mem_groups.mpr ⟨c, hc, hgroup c hc⟩
    simp [hmem]
  have hbelow : below own group = alphabetically own := by
    have hall : own.filter (fun c => groupOf c = group) = own :=
      List.filter_eq_self.mpr fun c hc => decide_eq_true (hgroup c hc)
    rw [below, hall]
  rw [groupLines_eq, hgroups, List.flatMap_singleton, hbelow]

/-- A listing is made of the listings of what is below each of the headings. -/
theorem groupLines_eq_flatMap (hsorted : names.Pairwise (· ≤ ·)) (hnodup : names.Nodup)
    (hmem : ∀ c ∈ components, groupOf c ∈ names) :
    groupLines components = names.flatMap fun name => groupLines (components.filter fun c => groupOf c = name) := by
  rw [groupLines_eq, groups_eq_filter hsorted hnodup hmem, flatMap_filter]
  refine List.flatMap_congr fun name _ => ?_
  by_cases hname : name ∈ groups components
  · have hne : (components.filter fun c => groupOf c = name) ≠ [] := by
      obtain ⟨c, hc, hgroup⟩ := mem_groups.mp hname
      exact List.ne_nil_of_mem (List.mem_filter.mpr ⟨hc, decide_eq_true hgroup⟩)
    rw [groupLines_of_group (fun c hc => of_decide_eq_true (List.mem_filter.mp hc).2) hne]
    simp [hname, below]
  · have hnil : (components.filter fun c => groupOf c = name) = [] := by
      rw [List.filter_eq_nil_iff]
      intro c hc hgroup
      exact hname (mem_groups.mpr ⟨c, hc, of_decide_eq_true hgroup⟩)
    rw [hnil]
    simp [hname, groupLines]

end Tool

namespace Index

variable {ix : Index} {category : Category}

def categoryLine (category : Category) (count : ℕ) : String :=
  "- **" ++ category.title ++ "** (" ++ toString count ++ " indexed) — " ++ category.description

/-- The categories of an index partition its components: each component is in one of them, the categories tell how many
they hold, and the listings print each component once. -/
structure Partitioned (ix : Index) : Prop where
  categories : ix.categories = .ok Category.known
  componentsIn : ∀ category ∈ Category.known, ix.componentsIn category.name = .ok (ix.members category)
  own : ∀ c ∈ ix.store.components, ∃! category, category ∈ Category.known ∧ c ∈ ix.members category
  once : (Category.known.flatMap ix.members).Perm ix.store.components ∧ ix.store.components.Nodup
  /-- The counts of the categories add up. -/
  counted : Tool.listCategories ix = .ok (Tool.joinLines ("# Component categories" :: "" ::
    Category.known.map fun category => categoryLine category (ix.members category).length) ++ "\n")
  total : (Category.known.map fun category => (ix.members category).length).sum = ix.store.size
  listed : ∀ category ∈ Category.known, if ix.members category = [] then
      Tool.listComponents ix (some category.name) = .ok ("No components found in category '" ++ category.name ++
        "'. Use list_categories to see categories.")
    else ∃ text : String, Tool.listComponents ix (some category.name) = .ok text ∧ Tool.Prints text (ix.members category)
  listedAll : if ix.store.components = [] then Tool.listComponents ix none = .ok "No components are indexed."
    else ∃ text : String, Tool.listComponents ix none = .ok text ∧ Tool.Prints text ix.store.components
  /-- The listing of all components is made of the listings of the categories. -/
  composed : Tool.groupLines ix.store.components =
    Category.alphabetical.flatMap fun category => Tool.groupLines (ix.members category)

/-- A listing of components that are found prints them. -/
theorem listComponents_eq {text : Option AnyText} {name : String} {components : List Component}
    (htext : Tool.givenText text = some (.whole name)) (hfound : ix.componentsIn name = .ok components) :
    if components = [] then Tool.listComponents ix text = .ok ("No components found in category '" ++ name ++
        "'. Use list_categories to see categories.")
    else ∃ answer : String, Tool.listComponents ix text = .ok answer ∧ Tool.Prints answer components := by
  unfold Tool.listComponents
  rw [htext]
  simp only [ask_whole, hfound, bind, Except.bind, List.isEmpty_iff]
  split_ifs with hnil
  · rfl
  · exact ⟨_, rfl, Tool.prints_listing components⟩

theorem givenText_known : ∀ category ∈ Category.known, Tool.givenText (some category.name) = some category.name := by
  decide +kernel

theorem groupOf_known {c : Component} (hname : c.category = some category.name) (hcategory : category ∈ Category.known) :
    Tool.groupOf c = category.name := by
  have hne : ∀ category ∈ Category.known, category.name.isEmpty = false := by decide
  simp [Tool.groupOf, hname, orElse, hne category hcategory]

/-- Below the heading of a category is what is in the category. -/
theorem filter_groupOf (hcategorised : ix.store.Categorised) (category : Category) :
    (ix.store.components.filter fun c => Tool.groupOf c = category.name) = ix.members category := by
  refine List.filter_congr fun c hc => ?_
  obtain ⟨own, hown, hname⟩ := hcategorised c hc
  rw [groupOf_known hname hown, hname]
  simp

theorem listCategories_eq (hcategories : ix.categories = .ok Category.known)
    (hmembers : ∀ category ∈ Category.known, ix.componentsIn category.name = .ok (ix.members category)) :
    Tool.listCategories ix = .ok (Tool.joinLines ("# Component categories" :: "" ::
      Category.known.map fun category => categoryLine category (ix.members category).length) ++ "\n") := by
  have hlines : (Category.known.mapM fun category => do
      let indexed ← ix.componentsIn category.name
      Except.ok (categoryLine category indexed.length)) =
      .ok (Category.known.map fun category => categoryLine category (ix.members category).length) := by
    apply mapM_eq_ok
    intro category hcategory
    rw [hmembers category hcategory]
    rfl
  unfold Tool.listCategories
  rw [hcategories]
  exact congrArg (· >>= fun lines => Except.ok (Tool.joinLines ("# Component categories" :: "" :: lines) ++ "\n"))
    hlines

/-- After any attempts to build an index that begins empty, once it is built, its categories partition it. -/
theorem Grown.partitioned (h : Grown {} ix) (hindexed : ix.isIndexed = true) : ix.Partitioned := by
  have hcategorised := h.categorised
  have hcategories : ix.categories = .ok Category.known := by
    unfold Index.categories requireIndexed
    rw [if_pos hindexed, h.taxonomy_eq hindexed]
    rfl
  have hmembers (category : Category) (hcategory : category ∈ Category.known) :
      ix.componentsIn category.name = .ok (ix.members category) :=
    componentsIn_known hindexed hcategorised hcategory
  have hperm := flatMap_members_perm hcategorised
  refine
    { categories := hcategories
      componentsIn := hmembers
      own := fun c hc => existsUnique_category hcategorised hc
      once := ⟨hperm, h.coherent.distinct.keys.of_map⟩
      counted := listCategories_eq hcategories hmembers
      total := ?_
      listed := fun category hcategory =>
        listComponents_eq (givenText_known category hcategory) (hmembers category hcategory)
      listedAll := ?_
      composed := ?_ }
  · rw [← List.length_flatMap]
    exact hperm.length_eq
  · unfold Tool.listComponents Index.allComponents requireIndexed
    simp only [Tool.givenText, Option.bind_none, if_pos hindexed, bind, Except.bind, List.isEmpty_iff]
    split_ifs with hnil
    · rfl
    · exact ⟨_, rfl, Tool.prints_listing ix.store.components⟩
  · have hgroup (c : Component) (hc : c ∈ ix.store.components) :
        Tool.groupOf c ∈ Category.alphabetical.map Category.name := by
      obtain ⟨category, hcategory, hname⟩ := hcategorised c hc
      rw [groupOf_known hname hcategory]
      exact List.mem_map_of_mem (Category.alphabetical_perm.mem_iff.mpr hcategory)
    rw [Tool.groupLines_eq_flatMap Category.sorted_alphabetical_names Category.nodup_alphabetical_names hgroup,
      List.flatMap_map]
    refine List.flatMap_congr fun category _ => ?_
    rw [filter_groupOf hcategorised]

/-- A first build over folders of which the taxonomy lists one, knows a word of the second, and nothing of the third. -/
def threeCategories : Index × Unit × Except Failure Summary :=
  ({} : Index).build Watch.unattended () (fun u => (u, .ok true)) (namedFolders ["BitButton", "BitMyCard", "Sprocket"])
    ⟨"", []⟩ "now"

theorem partitioned_threeCategories : ∃ ix, Grown {} ix ∧ ix.isIndexed = true ∧
    ix.store.components.map Component.category = [some "Buttons", some "Surfaces", some "Utilities"] ∧
    ix.Partitioned := by
  have hresult : (threeCategories.1.isIndexed, threeCategories.1.store.components.map Component.category) =
      (true, [some "Buttons", some "Surfaces", some "Utilities"]) := by decide +kernel
  obtain ⟨hindexed, hcategories⟩ := Prod.mk.inj hresult
  generalize hbuild : threeCategories = r at hindexed hcategories
  obtain ⟨ix, w, outcome⟩ := r
  obtain ⟨extent, hattempt⟩ := attempt_build hbuild
  have hgrown : Grown {} ix := .attempt .fresh hattempt
  exact ⟨ix, hgrown, hindexed, hcategories, hgrown.partitioned hindexed⟩

end Index
end Catalog
