import Catalog.Proofs.Index.Folds
import Catalog.Proofs.Text.Case

/-! What a build that nobody cancels leaves in the store: for each key that a folder gives, one component, fused from
the folders, the pages and the examples. -/
namespace Catalog

def Taxonomy.categoryFor (t : Taxonomy) (name : String) : String :=
  ((t.listing? name).map Category.name).getD (Category.guess name)

theorem Taxonomy.assign_eq (t : Taxonomy) (name : String) :
    t.assign name =
      if Text.isBlankText name then .error (.blankName "component_name") else .ok (t.categoryFor name) := by
  by_cases hb : Text.isBlankText name
  · rw [if_pos hb]
    simp [assign, categoryNameOf, categoryOf, requireName, hb, bind, Except.bind]
  · rw [if_neg hb, categoryFor]
    cases hl : t.listing? name <;>
      simp [assign, categoryNameOf, categoryOf, requireName, Category.infer, hb, hl, bind, Except.bind]

/-- Only the empty name has the empty key. -/
theorem key_ne_key_empty {name : String} (h : name ≠ "") : key name ≠ key "" :=
  mt Text.lower_eq_lower_empty_iff.mp h

namespace Sources

/-- What the source file of a folder tells, if it can be read and tells of a component. -/
def facts? (sources : Sources) (folder : Path) : Option SourceFacts := do
  let file ← sources.mainFile? folder
  let facts ← (sources.readComponent file false).toOption.join
  if Text.isBlankText facts.className then none else some facts

/-- The folders that give a component under a key, with what their sources tell, in the order of their discovery. -/
def givers (sources : Sources) (k : String) : List (Path × SourceFacts) :=
  (sources.folders.filterMap fun folder => (sources.facts? folder).map (folder, ·)).filter
    fun g => key g.2.className = k

def toldPages (sources : Sources) : List PageFacts :=
  sources.pages.filterMap sources.page?

def entry (taxonomy : Taxonomy) (repository : Path) (g : Path × SourceFacts) : Component :=
  g.2.component (some (taxonomy.categoryFor g.2.className)) (Build.relativeText repository g.1)

theorem entries?_eq (sources : Sources) (taxonomy : Taxonomy) (repository folder : Path) :
    sources.entries? taxonomy repository folder =
      (sources.facts? folder).map fun facts => (entry taxonomy repository (folder, facts), facts.apiReference) := by
  rw [entries?, Build.readFolder, facts?]
  cases sources.mainFile? folder with
  | none => rfl
  | some file =>
    cases hread : sources.readComponent file false with
    | error failure => simp [hread, bind, Except.bind, Except.toOption]
    | ok read =>
      cases read with
      | none => simp [hread, bind, Except.bind, Except.toOption]
      | some facts =>
        by_cases hb : Text.isBlankText facts.className
        · simp [hread, hb, Taxonomy.assign_eq, bind, Except.bind, Except.toOption]
        · simp [hread, hb, Taxonomy.assign_eq, entry, bind, Except.bind, Except.toOption]

/-- The entries under a key are those of its givers. -/
theorem filter_entries_eq (sources : Sources) (taxonomy : Taxonomy) (repository : Path) (k : String) :
    (sources.folders.filterMap (sources.entries? taxonomy repository)).filter (fun e => e.1.key = k) =
      (sources.givers k).map fun g => (entry taxonomy repository g, g.2.apiReference) := by
  rw [givers]
  induction sources.folders with
  | nil => rfl
  | cons folder folders ih =>
    have hentries := entries?_eq sources taxonomy repository folder
    cases hf : sources.facts? folder with
    | none =>
      rw [hf] at hentries
      rw [List.filterMap_cons_none hentries, List.filterMap_cons_none (by rw [hf]; rfl)]
      exact ih
    | some facts =>
      rw [hf] at hentries
      rw [List.filterMap_cons_some hentries, List.filterMap_cons_some (by rw [hf]; rfl)]
      have hkey : (entry taxonomy repository (folder, facts)).key = key facts.className := rfl
      by_cases hk : key facts.className = k
      · rw [List.filter_cons_of_pos (by simpa [hkey] using hk), List.filter_cons_of_pos (by simpa using hk), ih]
        rfl
      · rw [List.filter_cons_of_neg (by simpa [hkey] using hk), List.filter_cons_of_neg (by simpa using hk)]
        exact ih

theorem filter_components_eq (sources : Sources) (taxonomy : Taxonomy) (repository : Path) (k : String) :
    ((sources.folders.filterMap (sources.entries? taxonomy repository)).map Prod.fst).filter (fun c => c.key = k) =
      (sources.givers k).map (entry taxonomy repository) := by
  have hfilter := congrArg (List.map Prod.fst) (filter_entries_eq sources taxonomy repository k)
  rw [List.map_map] at hfilter
  rw [List.filter_map]
  exact hfilter

/-- The folders give entries under the keys that have givers. -/
theorem mem_keys_entries_iff (sources : Sources) (taxonomy : Taxonomy) (repository : Path) (k : String) :
    k ∈ ((sources.folders.filterMap (sources.entries? taxonomy repository)).map (·.1.name)).map key ↔
      sources.givers k ≠ [] := by
  have hfilter := filter_entries_eq sources taxonomy repository k
  generalize sources.folders.filterMap (sources.entries? taxonomy repository) = entries at hfilter ⊢
  have hmap : (entries.map (·.1.name)).map key = entries.map fun e => e.1.key := by
    rw [List.map_map]
    rfl
  rw [hmap, List.mem_map, ne_eq, ← List.map_eq_nil_iff, ← hfilter, List.filter_eq_nil_iff]
  simp only [decide_eq_true_eq, not_forall, not_not, exists_prop]

/-- Nobody gives a component under the empty key. -/
theorem ne_key_empty_of_givers {sources : Sources} {k : String} (h : sources.givers k ≠ []) : k ≠ key "" := by
  obtain ⟨g, hg⟩ := List.exists_mem_of_ne_nil _ h
  obtain ⟨hmem, hk⟩ := List.mem_filter.mp hg
  obtain ⟨folder, -, hpair⟩ := List.mem_filterMap.mp hmem
  obtain ⟨facts, hfacts, rfl⟩ := Option.map_eq_some_iff.mp hpair
  have hblank : ¬ Text.isBlankText facts.className := by
    obtain ⟨file, -, hread⟩ := Option.bind_eq_some_iff.mp hfacts
    obtain ⟨told, -, htold⟩ := Option.bind_eq_some_iff.mp hread
    split_ifs at htold with hb
    cases htold
    exact hb
  have hne : facts.className ≠ "" := fun e => hblank (by rw [e]; rfl)
  have hkey : key facts.className = k := by simpa using hk
  exact hkey ▸ key_ne_key_empty hne

end Sources

/-- What the store holds after a build: under each key for which there is a giver one component, made of what the last
giver tells, the name that the store held before or the first giver gives, the last description and the last related
names among the pages about the key, and the examples for that name. -/
structure Store.Fuses (sources : Sources) (repository : Path) (taxonomy : Taxonomy) (before after : Store) :
    Prop where
  distinct : (after.components.map Component.key).Nodup
  stored : ∀ k, (∃ c ∈ after.components, c.key = k) ↔ sources.givers k ≠ []
  fused : ∀ c ∈ after.components, ∃ first last,
    (sources.givers c.key).head? = some first ∧ (sources.givers c.key).getLast? = some last ∧
      c = { Sources.entry taxonomy repository last with
        name := ((before.componentAt? c.key).map Component.name).getD first.2.className
        description :=
          ((Store.about c.key sources.toldPages).filterMap PageFacts.description).getLast?.or last.2.remarks
        related := ((Store.about c.key sources.toldPages).getLast?.map PageFacts.related).getD []
        examples := sources.examplesOf c.name }

namespace Store

variable {sources : Sources} {repository : Path} {taxonomy : Taxonomy} {before : Store} {k : String}

def indexed (sources : Sources) (repository : Path) (taxonomy : Taxonomy) (before : Store) : Store :=
  let entries := sources.folders.filterMap (sources.entries? taxonomy repository)
  (entries.foldl install before).retain (entries.map (·.1.name))

def described (sources : Sources) (s : Store) : Store :=
  sources.toldPages.foldl complete s

theorem componentAt?_indexed (sources : Sources) (repository : Path) (taxonomy : Taxonomy) (before : Store)
    (k : String) :
    (indexed sources repository taxonomy before).componentAt? k =
      if sources.givers k = [] then none
      else ((sources.givers k).map (Sources.entry taxonomy repository)).foldl inherit (before.componentAt? k) := by
  have hfilter := Sources.filter_components_eq sources taxonomy repository k
  rw [indexed, componentAt?_retain, componentAt?_foldl_install, hfilter]
  have hmem := Sources.mem_keys_entries_iff sources taxonomy repository k
  by_cases hg : sources.givers k = []
  · rw [if_neg (mt hmem.mp (not_not.mpr hg)), if_pos hg]
  · rw [if_pos (hmem.mpr hg), if_neg hg]

theorem componentAt?_indexed_isSome :
    ((indexed sources repository taxonomy before).componentAt? k).isSome ↔ sources.givers k ≠ [] := by
  rw [componentAt?_indexed]
  split_ifs with hg
  · simp [hg]
  · obtain ⟨init, last, hl⟩ := (List.eq_nil_or_concat _).resolve_left hg
    rw [hl, List.concat_eq_append, List.map_append, List.map_singleton, foldl_inherit_concat]
    simp

/-- After phase one a key holds what its last giver gives, under the name that it had, or that its first giver
gives. -/
theorem componentAt?_indexed_eq_some {c : Component}
    (h : (indexed sources repository taxonomy before).componentAt? k = some c) :
    ∃ first last, (sources.givers k).head? = some first ∧ (sources.givers k).getLast? = some last ∧
      c = { Sources.entry taxonomy repository last with
        name := ((before.componentAt? k).map Component.name).getD first.2.className } := by
  rw [componentAt?_indexed] at h
  split_ifs at h with hg
  obtain ⟨init, last, hl⟩ := (List.eq_nil_or_concat _).resolve_left hg
  rw [List.concat_eq_append] at hl
  rw [hl, List.map_append, List.map_singleton, foldl_inherit_concat, List.head?_map] at h
  have hc := Option.some.inj h
  refine ⟨init.head?.getD last, last, ?_, ?_, hc.symm.trans ?_⟩
  · rw [hl, List.head?_append]
    cases init <;> rfl
  · rw [hl, List.getLast?_concat]
  · cases before.componentAt? k <;> cases init <;> rfl

theorem distinct_indexed (h : before.Distinct) : (indexed sources repository taxonomy before).Distinct :=
  (h.foldl (fun _ e hs => hs.install e) _).retain _

theorem Distinct.described (h : before.Distinct) (sources : Sources) : (described sources before).Distinct :=
  h.foldl (fun _ page hs => hs.complete page) _

/-- The three phases together fuse what the sources give. -/
theorem fuses_phases (h : before.Distinct) {s : Store}
    (hs : s = described sources (indexed sources repository taxonomy before)) :
    Fuses sources repository taxonomy before (s.components.foldl (illustrate sources.examplesOf) s) := by
  have hindexed : (indexed sources repository taxonomy before).Distinct := distinct_indexed h
  have hdescribed : s.Distinct := hs ▸ hindexed.described sources
  have hafter : (s.components.foldl (illustrate sources.examplesOf) s).Distinct :=
    hdescribed.foldl (fun _ c hs => hs.illustrate _ c) _
  have hkeys : (s.components.foldl (illustrate sources.examplesOf) s).keys =
      (indexed sources repository taxonomy before).keys := by
    rw [keys_foldl_illustrate fun c hc => List.mem_map_of_mem hc, hs, described, keys_foldl_complete]
  have hgiven (k : String) : k ∈ (indexed sources repository taxonomy before).keys ↔ sources.givers k ≠ [] := by
    rw [← componentAt?_isSome, componentAt?_indexed_isSome]
  -- what the later phases make of the component under a key that is given
  have hlater (k : String) (hk : sources.givers k ≠ []) :
      (s.components.foldl (illustrate sources.examplesOf) s).componentAt? k =
        ((indexed sources repository taxonomy before).componentAt? k).map fun c =>
          (c.completed (about k sources.toldPages)).illustrated sources.examplesOf := by
    rw [componentAt?_foldl_illustrate _ hdescribed, hs, described,
      componentAt?_foldl_complete _ _ (Sources.ne_key_empty_of_givers hk), Option.map_map]
    rfl
  refine ⟨hafter.keys, fun k => ?_, fun c hc => ?_⟩
  · rw [← List.mem_map, ← hgiven, ← hkeys]
    rfl
  · have hk : sources.givers c.key ≠ [] := by
      rw [← hgiven, ← hkeys]
      exact List.mem_map_of_mem hc
    have hstored := hafter.componentAt?_eq_some_iff.mpr ⟨hc, rfl⟩
    rw [hlater _ hk] at hstored
    obtain ⟨d, hd, hdc⟩ := Option.map_eq_some_iff.mp hstored
    obtain ⟨first, last, hfirst, hlast, rfl⟩ := componentAt?_indexed_eq_some hd
    have hname : c.name = ((before.componentAt? c.key).map Component.name).getD first.2.className := by
      have hillustrated := congrArg Component.name hdc
      rw [Component.name_illustrated] at hillustrated
      exact hillustrated.symm
    refine ⟨first, last, hfirst, hlast, hdc.symm.trans ?_⟩
    rw [Component.illustrated_of_examples_eq_nil rfl, hname]
    rfl

end Store

namespace Index

variable {σ : Type}

/-- A build that nobody cancels and that succeeds fuses what its sources give, whatever the store held before. -/
theorem build_fuses {ix ix' : Index} {watch : Watch σ} {w w' : σ} {ensure : σ → σ × Except Failure Bool}
    {sources : Sources} {repository : Path} {now : String} {summary : Summary} (hw : watch.Calm)
    (hd : ix.store.Distinct) (h : ix.build watch w ensure sources repository now = (ix', w', .ok summary)) :
    Store.Fuses sources repository ix.taxonomy.fill ix.store ix'.store := by
  obtain ⟨available, b, b', hstore, htaxonomy, hsync, rfl⟩ := build_ok h
  obtain ⟨b₁, tally, b₂, hstore₁, htaxonomy₁, hcomponents, henrich⟩ := Build.afterSync_eq_ok hsync
  obtain ⟨hnames, -, hindexed⟩ := Build.indexComponents_ok hw hcomponents
  obtain ⟨s, hdescribed, hafter⟩ := Build.enrich_ok hw henrich
  rw [htaxonomy₁, htaxonomy] at hnames hindexed
  rw [hstore₁, hstore, hnames] at hindexed
  change Store.Fuses sources repository ix.taxonomy.fill ix.store b'.store
  rw [hafter]
  refine Store.fuses_phases hd ?_
  rw [hdescribed, hindexed]
  rfl

/-- Two folders that spell one name differently, and a page about it. -/
def twoSpellings : Sources where
  folders := [⟨"", ["button"]⟩, ⟨"", ["BUTTON"]⟩]
  mainFile? folder := some folder
  pages := [⟨"", ["page"]⟩]
  readComponent file _ := .ok (some { className := file.name, filePath := file.text })
  readPage file _ := .ok (some { filePath := file.text, componentName := some "Button" })
  findExamples _ _ := .ok []

/-- An index whose store spells the same name in a third way. -/
def thirdSpelling : Index where
  store := Store.empty.put { name := "Button", nameSpace := "", summary := "" }

theorem build_fuses_twoSpellings :
    (thirdSpelling.build Watch.unattended () (fun u => (u, .ok true)) twoSpellings ⟨"", []⟩ "now").2.2 =
        .ok ⟨2, 1, 0, 0⟩ ∧
      Store.Fuses twoSpellings ⟨"", []⟩ thirdSpelling.taxonomy.fill thirdSpelling.store
        (thirdSpelling.build Watch.unattended () (fun u => (u, .ok true)) twoSpellings ⟨"", []⟩ "now").1.store := by
  have hsummary : (thirdSpelling.build Watch.unattended () (fun u => (u, .ok true)) twoSpellings ⟨"", []⟩ "now").2.2 =
      .ok ⟨2, 1, 0, 0⟩ := by decide +kernel
  refine ⟨hsummary, ?_⟩
  generalize hr : thirdSpelling.build Watch.unattended () (fun u => (u, .ok true)) twoSpellings ⟨"", []⟩ "now" = r
    at hsummary ⊢
  obtain ⟨ix', w', outcome⟩ := r
  cases hsummary
  exact build_fuses (fun _ => rfl) (Store.distinct_empty.put _) hr

end Index
end Catalog
