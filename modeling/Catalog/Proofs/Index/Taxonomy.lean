import Catalog.Index.Query
import Catalog.Proofs.Index.Fusion
import Catalog.Proofs.Index.Provenance
import Catalog.Proofs.Lists

/-! The taxonomy partitions an index: after any attempts to build, every stored component is in one of the known
categories, and in no other. -/
namespace Catalog

namespace Category

/-- Whatever a name is, it suggests a known category. -/
theorem exists_guess_eq (name : String) : ∃ category ∈ known, guess name = category.name := by
  have hhints : ∀ hint ∈ hints, ∃ category ∈ known, hint.1 = category.name := by decide
  have hfallback : ∃ category ∈ known, fallback = category.name := by decide
  unfold guess
  dsimp only
  split
  · next hint category words hfound => exact hhints _ (List.mem_of_find?_eq_some hfound)
  · exact hfallback

/-- The known categories are told apart by their names, in any case and with white space around them. -/
theorem eq_of_lower_name_eq : ∀ a ∈ known, ∀ b ∈ known, Text.lower a.name = Text.lower (Text.trim b.name) → a = b := by
  decide +kernel

theorem lower_trim_name : ∀ category ∈ known, Text.lower (Text.trim category.name) = Text.lower category.name := by
  decide +kernel

theorem nodup_known_names : (known.map name).Nodup := by
  decide

end Category

/-- The taxonomy of the known categories assigns one of them. -/
theorem Taxonomy.exists_assigned {name category : String} (h : ({} : Taxonomy).fill.assign name = .ok category) :
    ∃ known ∈ Category.known, category = known.name := by
  rw [assign_eq] at h
  split_ifs at h
  have hname := Except.ok.inj h
  unfold categoryFor at hname
  rw [← hname]
  cases hlisting : ({} : Taxonomy).fill.listing? name with
  | none =>
    rw [Option.map_none, Option.getD_none]
    exact Category.exists_guess_eq name
  | some known =>
    have hmem : known ∈ ({} : Taxonomy).fill.categories.reverse := List.mem_of_find?_eq_some hlisting
    rw [Option.map_some, Option.getD_some]
    exact ⟨known, List.mem_reverse.mp hmem, rfl⟩

def Component.Categorised (c : Component) : Prop :=
  ∃ category ∈ Category.known, c.category = some category.name

theorem Sources.Gives.categorised {sources : Sources} {repository : Path} {c : Component} {r : ApiReference}
    (h : sources.Gives repository ({} : Taxonomy).fill c r) : c.Categorised := by
  obtain ⟨facts, category, path, hassign, rfl, -⟩ := h.exists_facts
  obtain ⟨known, hknown, rfl⟩ := Taxonomy.exists_assigned hassign
  exact ⟨known, hknown, rfl⟩

namespace Store

def Categorised (s : Store) : Prop :=
  ∀ c ∈ s.components, c.Categorised

end Store

namespace Index

variable {σ : Type} {watch : Watch σ} {sources : Sources} {repository : Path} {ix ix' : Index} {extent : Extent}
  {outcome : Except Failure Summary} {mapper : Taxonomy} {c : Component} {category : Category}

/-- An attempt fills the taxonomy, or it leaves the taxonomy and what is known of the builds as they were. -/
theorem Attempt.taxonomy_cases (h : ix.Attempt watch sources repository extent outcome ix') :
    ix'.taxonomy = ix.taxonomy.fill ∨ ix'.taxonomy = ix.taxonomy ∧ ix'.isIndexed = ix.isIndexed := by
  have hfilled {ix₁ : Index} {b b' : Workbench σ} {moves : List Crew.Move} {crew : Crew σ}
      (hb : ix.Prepared watch repository ix₁ b)
      (hcrew : (Crew.start sources b).run watch sources repository moves = crew)
      (hframe : Build.frame b' = Build.frame crew.bench) : b'.taxonomy = ix.taxonomy.fill := by
    have htaxonomy : b'.taxonomy = crew.bench.taxonomy := congrArg (fun f => f.2.2) hframe
    rw [htaxonomy, (Crew.sound_run hcrew).taxonomy, hb.contents_eq.2]
  cases h with
  | refused w w' _ failure hbegin =>
    rcases beginBuild_error hbegin with rfl | rfl
    · exact .inr ⟨rfl, rfl⟩
    · exact .inr ⟨rfl, rfl⟩
  | unprepared w w₁ w₂ ix₁ available failure b now hbegin hprepare =>
    rw [beginBuild_ok hbegin] at hprepare
    refine .inr ⟨congrArg Prod.snd (Build.prepare_error hprepare), ?_⟩
    rw [beginBuild_ok hbegin]
    rfl
  | interrupted ix₁ b moves crew failure now hb hcrew hlead =>
    exact .inl (hfilled hb hcrew rfl)
  | abandoned ix₁ b b' moves crew tally failure now hb hcrew hlead henrich =>
    exact .inl (hfilled hb hcrew ((Build.keeps_frame_enrich watch sources tally).error henrich))
  | completed ix₁ b b' moves crew tally summary now hb hcrew hlead henrich =>
    exact .inl (hfilled hb hcrew ((Build.keeps_frame_enrich watch sources tally).ok henrich))

/-- An index that was built has its taxonomy filled. -/
theorem Grown.taxonomy_eq (h : Grown mapper ix) (hindexed : ix.isIndexed = true) : ix.taxonomy = mapper.fill := by
  have hfilled : ix.isIndexed = true → ix.taxonomy.fill = ix.taxonomy := by
    clear hindexed
    induction h with
    | fresh => exact nofun
    | attempt _ h ih =>
      rcases h.taxonomy_cases with htaxonomy | ⟨htaxonomy, hindexed⟩
      · intro _
        rw [htaxonomy, Taxonomy.fill_fill]
      · rw [htaxonomy, hindexed]
        exact ih
  rw [← hfilled hindexed]
  exact h.coherent.taxonomy

/-- However the builds ended, every stored component is in a known category. -/
theorem Grown.categorised (h : Grown {} ix) : ix.store.Categorised := by
  induction h with
  | fresh => exact Store.each_empty _
  | attempt hix h ih =>
    refine h.each (P := Component.Categorised) ⟨fun _ _ _ hnew => hnew, fun c r hgives => ?_, fun _ _ _ _ hc => hc,
      fun _ _ _ hc => hc⟩ ih
    rw [hix.coherent.taxonomy] at hgives
    exact hgives.categorised

def members (ix : Index) (category : Category) : List Component :=
  ix.store.components.filter fun c => c.category = some category.name

/-- To ask for the components of a known category is to ask for those that have its name. -/
theorem componentsIn_known (hindexed : ix.isIndexed = true) (hcategorised : ix.store.Categorised)
    (hcategory : category ∈ Category.known) : ix.componentsIn category.name = .ok (ix.members category) := by
  have hfilter : ix.store.components.filter (isInCategory (Text.lower (Text.trim category.name))) =
      ix.members category := by
    refine List.filter_congr fun c hc => ?_
    obtain ⟨own, hown, hname⟩ := hcategorised c hc
    unfold isInCategory
    rw [hname]
    by_cases h : own = category
    · subst h
      simp [Category.lower_trim_name own hown]
    · have hlower : Text.lower own.name ≠ Text.lower (Text.trim category.name) :=
        fun e => h (Category.eq_of_lower_name_eq own hown category hcategory e)
      have hnames : own.name ≠ category.name :=
        fun e => hlower (by rw [e, Category.lower_trim_name category hcategory])
      simp [hlower, hnames]
  unfold componentsIn requireIndexed
  rw [if_pos hindexed]
  exact congrArg Except.ok hfilter

/-- A stored component is in one known category. -/
theorem existsUnique_category (hcategorised : ix.store.Categorised) (hc : c ∈ ix.store.components) :
    ∃! category, category ∈ Category.known ∧ c ∈ ix.members category := by
  obtain ⟨category, hcategory, hname⟩ := hcategorised c hc
  refine ⟨category, ⟨hcategory, List.mem_filter.mpr ⟨hc, decide_eq_true hname⟩⟩, ?_⟩
  rintro other ⟨hother, hmem⟩
  have hsame : c.category = some other.name := of_decide_eq_true (List.mem_filter.mp hmem).2
  have hnames : other.name = category.name := Option.some.inj (hsame.symm.trans hname)
  exact List.inj_on_of_nodup_map Category.nodup_known_names hother hcategory hnames

/-- The categories together hold each stored component once. -/
theorem flatMap_members_perm (hcategorised : ix.store.Categorised) :
    (Category.known.flatMap ix.members).Perm ix.store.components := by
  have hnodup : (Category.known.map fun category => some category.name).Nodup := by
    have hsome := Category.nodup_known_names.map (fun _ _ => Option.some.inj)
    rwa [List.map_map] at hsome
  have hperm := flatMap_filter_perm Component.category hnodup fun c hc => by
    obtain ⟨category, hcategory, hname⟩ := hcategorised c hc
    rw [hname]
    exact List.mem_map_of_mem (f := fun category : Category => some category.name) hcategory
  rwa [List.flatMap_map] at hperm

end Index
end Catalog
