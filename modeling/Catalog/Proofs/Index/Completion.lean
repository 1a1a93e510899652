import Catalog.Proofs.Index.Fusion

/-! What a build comes to that succeeds: the store that it leaves and the summary that it gives, as functions of what
its sources give and of the store before. -/
namespace Catalog

namespace Store

variable {s : Store} {sources : Sources} {repository : Path} {taxonomy : Taxonomy} {before : Store} {k : String}

def built (sources : Sources) (repository : Path) (taxonomy : Taxonomy) (before : Store) : Store :=
  let s := described sources (indexed sources repository taxonomy before)
  s.components.foldl (illustrate sources.examplesOf) s

theorem fuses_built (h : before.Distinct) :
    Fuses sources repository taxonomy before (built sources repository taxonomy before) :=
  fuses_phases h rfl

theorem distinct_built (h : before.Distinct) : (built sources repository taxonomy before).Distinct :=
  ((distinct_indexed h).described sources).foldl (fun _ c hs => hs.illustrate _ c) _

theorem names_foldl_illustrate {examplesOf : String → List Example} {cs : List Component}
    (h : ∀ c ∈ cs, c.key ∈ s.keys) : (cs.foldl (illustrate examplesOf) s).names = s.names := by
  induction cs generalizing s with
  | nil => rfl
  | cons c cs ih =>
    have hc : c.key ∈ s.keys := h c List.mem_cons_self
    have hnames : (s.illustrate examplesOf c).names = s.names := by
      unfold illustrate
      split_ifs
      · rfl
      · exact names_put_of_mem (c := { c with examples := examplesOf c.name }) hc
    rw [List.foldl_cons, ih, hnames]
    intro d hd
    rw [keys_illustrate hc]
    exact h d (List.mem_cons_of_mem c hd)

/-- The later phases change no name. -/
theorem names_built (sources : Sources) (repository : Path) (taxonomy : Taxonomy) (before : Store) :
    (built sources repository taxonomy before).names = (indexed sources repository taxonomy before).names := by
  unfold built
  rw [names_foldl_illustrate fun c hc => List.mem_map_of_mem hc, described, names_foldl_complete]

theorem references_foldl {α : Type} {f : Store → α → Store} (hf : ∀ s a, (f s a).references = s.references)
    (l : List α) (s : Store) : (l.foldl f s).references = s.references := by
  induction l generalizing s with
  | nil => rfl
  | cons a l ih => rw [List.foldl_cons, ih, hf]

theorem references_complete (s : Store) (page : PageFacts) : (s.complete page).references = s.references := by
  unfold complete
  cases Build.subjectOf s page <;> rfl

theorem references_illustrate (examplesOf : String → List Example) (s : Store) (c : Component) :
    (s.illustrate examplesOf c).references = s.references := by
  unfold illustrate
  split_ifs <;> rfl

/-- The later phases change no reference. -/
theorem references_built (sources : Sources) (repository : Path) (taxonomy : Taxonomy) (before : Store) :
    (built sources repository taxonomy before).references =
      (indexed sources repository taxonomy before).references := by
  unfold built described
  rw [references_foldl (references_illustrate _), references_foldl references_complete]

theorem mem_keys_indexed : k ∈ (indexed sources repository taxonomy before).keys ↔ sources.givers k ≠ [] :=
  componentAt?_isSome.symm.trans componentAt?_indexed_isSome

end Store

def Sources.summary (sources : Sources) (repository : Path) (taxonomy : Taxonomy) (before : Store) : Summary :=
  let s := Store.indexed sources repository taxonomy before
  { components := (sources.folders.filterMap (sources.entries? taxonomy repository)).length
    documented := sources.pages.countP (Build.documents sources s)
    withExamples := s.names.countP (Build.illustrates sources)
    errors := (sources.folders.countP fun folder =>
          Build.fails (Build.readFolder sources taxonomy repository folder false)) +
        (sources.pages.countP fun file => Build.fails (sources.readPage file false)) +
      s.names.countP fun name => Build.fails (sources.findExamples name false) }

variable {σ : Type} {watch : Watch σ} {sources : Sources} {repository : Path}

theorem Build.afterSync_ok {b b' : Workbench σ} {available : Except Failure Bool} {summary : Summary}
    (hu : sources.Undisturbed watch) (h : afterSync watch sources repository available b = .ok summary b') :
    b'.store = Store.built sources repository b.taxonomy.fill b.store ∧ b'.taxonomy = b.taxonomy.fill ∧
      summary = sources.summary repository b.taxonomy.fill b.store := by
  obtain ⟨b₁, tally, b₂, hstore₁, htaxonomy₁, hcomponents, henrich⟩ := afterSync_eq_ok h
  obtain ⟨rfl, htaxonomy₂, hstore₂⟩ := indexComponents_eq_ok hu hcomponents
  rw [htaxonomy₁] at hstore₂ htaxonomy₂
  rw [hstore₁] at hstore₂
  have hindexed : b₂.store = Store.indexed sources repository b.taxonomy.fill b.store := hstore₂
  obtain ⟨s, hs, hstore, htaxonomy, hsummary⟩ := enrich_eq_ok hu henrich
  have hdescribed : s = Store.described sources b₂.store := hs
  have hnames : s.names = b₂.store.names := by rw [hs, Store.names_foldl_complete]
  refine ⟨?_, htaxonomy.trans htaxonomy₂, ?_⟩
  · rw [hstore, hdescribed, hindexed]
    rfl
  · rw [hsummary, hnames, hindexed, htaxonomy₁, List.length_map]
    rfl

/-- A build that succeeds leaves the store and gives the summary that its sources and the store before determine. -/
theorem Index.build_eq_ok {ix ix' : Index} {w w' : σ} {ensure : σ → σ × Except Failure Bool} {now : String}
    {summary : Summary} (hu : sources.Undisturbed watch)
    (h : ix.build watch w ensure sources repository now = (ix', w', .ok summary)) :
    ix'.store = Store.built sources repository ix.taxonomy.fill ix.store ∧
      summary = sources.summary repository ix.taxonomy.fill ix.store := by
  obtain ⟨available, b, b', hstore, htaxonomy, hsync, rfl⟩ := build_ok h
  obtain ⟨hbuilt, -, hsummary⟩ := Build.afterSync_ok hu hsync
  rw [hstore, htaxonomy] at hbuilt hsummary
  exact ⟨hbuilt, hsummary⟩

end Catalog
