import Catalog.Proofs.Index.Completion
import Catalog.Proofs.Index.Lifetime

/-! A build that succeeds leaves nothing of the past: as long as names that are equal ignoring case are equal, what it
puts into the store and what it tells depends on what its sources give and on nothing else. -/
namespace Catalog

/-- Names that are equal ignoring case are equal. -/
def SpeltAlike (names : List String) : Prop :=
  ∀ m ∈ names, ∀ n ∈ names, key m = key n → m = n

theorem SpeltAlike.subset {names names' : List String} (h : SpeltAlike names) (hsub : names' ⊆ names) :
    SpeltAlike names' :=
  fun m hm n hn => h m (hsub hm) n (hsub hn)

namespace Sources

variable {sources : Sources} {k : String} {g : Path × SourceFacts}

def classNames (sources : Sources) : List String :=
  sources.folders.filterMap fun folder => (sources.facts? folder).map SourceFacts.className

theorem className_of_mem_givers (h : g ∈ sources.givers k) :
    g.2.className ∈ sources.classNames ∧ key g.2.className = k := by
  obtain ⟨hmem, hk⟩ := List.mem_filter.mp h
  obtain ⟨folder, hfolder, hpair⟩ := List.mem_filterMap.mp hmem
  obtain ⟨facts, hfacts, rfl⟩ := Option.map_eq_some_iff.mp hpair
  exact ⟨List.mem_filterMap.mpr ⟨folder, hfolder, by rw [hfacts]; rfl⟩, of_decide_eq_true hk⟩

/-- The component that the sources give under a key with this last giver. -/
def fused (sources : Sources) (repository : Path) (taxonomy : Taxonomy) (k : String) (last : Path × SourceFacts) :
    Component :=
  { entry taxonomy repository last with
    description := ((Store.about k sources.toldPages).filterMap PageFacts.description).getLast?.or last.2.remarks
    related := ((Store.about k sources.toldPages).getLast?.map PageFacts.related).getD []
    examples := sources.examplesOf last.2.className }

end Sources

namespace Store

variable {s : Store} {sources : Sources} {repository : Path} {taxonomy : Taxonomy} {before : Store} {k : String}
  {c : Component}

/-- Where nothing is spelt differently, the name of a component is that which its last giver gives. -/
theorem eq_fused_of_mem_built (hd : before.Distinct) (hn : SpeltAlike (sources.classNames ++ before.names))
    (hc : c ∈ (built sources repository taxonomy before).components) :
    ∃ last, (sources.givers c.key).getLast? = some last ∧ c = sources.fused repository taxonomy c.key last := by
  obtain ⟨first, last, hfirst, hlast, hfused⟩ := (fuses_built hd).fused c hc
  obtain ⟨hfirstName, hfirstKey⟩ := Sources.className_of_mem_givers (List.mem_of_head? hfirst)
  obtain ⟨hlastName, hlastKey⟩ := Sources.className_of_mem_givers (List.mem_of_getLast? hlast)
  have hname : c.name = last.2.className := by
    rw [congrArg Component.name hfused]
    change ((before.componentAt? c.key).map Component.name).getD first.2.className = _
    cases hb : before.componentAt? c.key with
    | none =>
      exact hn _ (List.mem_append_left _ hfirstName) _ (List.mem_append_left _ hlastName)
        (hfirstKey.trans hlastKey.symm)
    | some d =>
      obtain ⟨hmem, hkey⟩ := hd.componentAt?_eq_some_iff.mp hb
      have hbefore : d.name ∈ sources.classNames ++ before.names :=
        List.mem_append_right _ (List.mem_map_of_mem hmem)
      exact hn _ hbefore _ (List.mem_append_left _ hlastName) (hkey.trans hlastKey.symm)
  refine ⟨last, hlast, hfused.trans ?_⟩
  have hstored : ((before.componentAt? c.key).map Component.name).getD first.2.className = last.2.className :=
    (congrArg Component.name hfused).symm.trans hname
  rw [hstored, hname]
  rfl

/-- The components after a build are those that its sources give. -/
theorem mem_built_iff (hd : before.Distinct) (hn : SpeltAlike (sources.classNames ++ before.names)) :
    c ∈ (built sources repository taxonomy before).components ↔
      ∃ k last, (sources.givers k).getLast? = some last ∧ c = sources.fused repository taxonomy k last := by
  constructor
  · intro hc
    obtain ⟨last, hlast, hfused⟩ := eq_fused_of_mem_built hd hn hc
    exact ⟨c.key, last, hlast, hfused⟩
  · rintro ⟨k, last, hlast, rfl⟩
    have hgivers : sources.givers k ≠ [] := by
      intro hnil
      rw [hnil] at hlast
      cases hlast
    have hfuses : Fuses sources repository taxonomy before (built sources repository taxonomy before) := fuses_built hd
    obtain ⟨d, hmem, rfl⟩ := (hfuses.stored k).mpr hgivers
    obtain ⟨last', hlast', hfused⟩ := eq_fused_of_mem_built hd hn hmem
    rw [hlast] at hlast'
    cases hlast'
    rw [← hfused]
    exact hmem

theorem components_built_perm {before' : Store} (hd : before.Distinct) (hd' : before'.Distinct)
    (hn : SpeltAlike (sources.classNames ++ before.names)) (hn' : SpeltAlike (sources.classNames ++ before'.names)) :
    (built sources repository taxonomy before).components.Perm
      (built sources repository taxonomy before').components := by
  have hnodup (s : Store) (hs : s.Distinct) : s.components.Nodup := hs.keys.of_map
  refine (List.perm_ext_iff_of_nodup (hnodup _ (distinct_built hd)) (hnodup _ (distinct_built hd'))).mpr fun c => ?_
  rw [mem_built_iff hd hn, mem_built_iff hd' hn']

/-- Under a key is the last of the references that are put there. -/
theorem referenceAt?_foldl_install (es : List (Component × ApiReference)) (k : String) :
    (es.foldl install s).referenceAt? k =
      ((es.map Prod.snd).filter fun r => r.key = k).getLast?.or (s.referenceAt? k) := by
  induction es using List.reverseRecOn with
  | nil => rfl
  | append_singleton es e ih =>
    rw [List.foldl_append, List.foldl_cons, List.foldl_nil, install, List.map_append, List.filter_append]
    by_cases hk : e.2.key = k
    · subst hk
      simp [referenceAt?_putReference_self]
    · rw [referenceAt?_putReference_of_ne fun e' => hk e'.symm, put_referenceAt?, ih]
      simp [hk]

/-- The references under a key are those of its givers. -/
theorem filter_references_eq (sources : Sources) (taxonomy : Taxonomy) (repository : Path) (k : String) :
    ((sources.folders.filterMap (sources.entries? taxonomy repository)).map Prod.snd).filter (fun r => r.key = k) =
      (sources.givers k).map fun g => g.2.apiReference := by
  have hfilter := congrArg (List.map Prod.snd) (Sources.filter_entries_eq sources taxonomy repository k)
  rw [List.map_map] at hfilter
  rw [List.filter_map]
  refine Eq.trans (congrArg (List.map Prod.snd) (List.filter_congr fun e he => ?_)) hfilter
  obtain ⟨folder, -, hentries⟩ := List.mem_filterMap.mp he
  rw [Sources.entries?_eq] at hentries
  obtain ⟨facts, -, rfl⟩ := Option.map_eq_some_iff.mp hentries
  rfl

/-- The references after a build are those that its sources give, if each one before was that of a component. -/
theorem referenceAt?_built (hcovered : before.Covered) (k : String) :
    (built sources repository taxonomy before).referenceAt? k =
      (sources.givers k).getLast?.map fun g => g.2.apiReference := by
  have hindexed : (built sources repository taxonomy before).referenceAt? k =
      (indexed sources repository taxonomy before).referenceAt? k := by
    rw [referenceAt?, references_built]
    rfl
  have hgiven := Sources.mem_keys_entries_iff sources taxonomy repository k
  rw [hindexed, indexed, referenceAt?_retain, referenceAt?_foldl_install, filter_references_eq, List.getLast?_map]
  by_cases hg : sources.givers k = []
  · have hstale := mt hgiven.mp (not_not.mpr hg)
    rw [hg]
    by_cases hk : k ∈ before.keys
    · have hkept : ((sources.folders.filterMap
          (sources.entries? taxonomy repository)).foldl install before).componentAt? k = before.componentAt? k := by
        rw [componentAt?_foldl_install, Sources.filter_components_eq, hg]
        rfl
      have hkeys := componentAt?_isSome.mp (hkept ▸ componentAt?_isSome.mpr hk)
      rw [if_pos ⟨hkeys, hstale⟩]
      rfl
    · have hnone : before.referenceAt? k = none := by
        rw [← Option.not_isSome_iff_eq_none, referenceAt?_isSome]
        exact mt (hcovered k) hk
      rw [hnone]
      split_ifs <;> rfl
  · rw [if_neg fun h => h.2 (hgiven.mpr hg)]
    obtain ⟨init, last, hl⟩ := (List.eq_nil_or_concat _).resolve_left hg
    rw [hl, List.concat_eq_append, List.getLast?_concat]
    rfl

theorem references_built_perm {before' : Store} (hd : before.Distinct) (hd' : before'.Distinct)
    (hcovered : before.Covered) (hcovered' : before'.Covered) :
    (built sources repository taxonomy before).references.Perm
      (built sources repository taxonomy before').references := by
  have hnodup (s : Store) (hs : s.Distinct) : s.references.Nodup := hs.referenceKeys.of_map
  have hmem (s : Store) (hs : s.Distinct) (r : ApiReference) :
      r ∈ s.references ↔ s.referenceAt? r.key = some r := by
    rw [hs.referenceAt?_eq_some_iff, and_iff_left rfl]
  refine (List.perm_ext_iff_of_nodup (hnodup _ (distinct_built hd)) (hnodup _ (distinct_built hd'))).mpr fun r => ?_
  rw [hmem _ (distinct_built hd), hmem _ (distinct_built hd'), referenceAt?_built hcovered,
    referenceAt?_built hcovered']

end Store

/-- What a build tells depends on the names that it leaves and on the keys that it gives. -/
theorem Sources.summary_eq {sources : Sources} {repository : Path} {taxonomy : Taxonomy} {before before' : Store}
    (h : (Store.built sources repository taxonomy before).names.Perm
      (Store.built sources repository taxonomy before').names) :
    sources.summary repository taxonomy before = sources.summary repository taxonomy before' := by
  rw [Store.names_built, Store.names_built] at h
  have hdocuments : Build.documents sources (Store.indexed sources repository taxonomy before) =
      Build.documents sources (Store.indexed sources repository taxonomy before') := by
    funext file
    refine Build.documents_congr (fun k => ?_) file
    rw [Store.mem_keys_indexed, Store.mem_keys_indexed]
  unfold Sources.summary
  simp only [hdocuments, h.countP_eq]

/-- Whoever asks for the cancel flag before he reads heeds it. -/
theorem heeds_of_checkCancelled {α : Type} (r : Except Failure α) :
    Heeds fun cancelled => checkCancelled cancelled >>= fun _ => r :=
  .inl ⟨.buildCancelled, rfl, rfl⟩

/-- A checkout is read as long as nobody cancels, and then as if nobody could. -/
theorem Checkout.steady_sources (w : Workspace) (repository : Path) : (Checkout.sources w repository).Steady := by
  refine ⟨fun file => heeds_of_checkCancelled _, fun file => heeds_of_checkCancelled _, fun name => ?_⟩
  change Heeds (Checkout.findExamples w repository name)
  unfold Checkout.findExamples
  -- the name is looked at before the flag
  cases requireName name "component_name" with
  | error failure => exact .inr rfl
  | ok _ => exact .inl ⟨.buildCancelled, rfl, rfl⟩

namespace Index

variable {σ τ : Type} {watch : Watch σ} {watch' : Watch τ} {sources : Sources} {repository : Path} {mapper : Taxonomy}
  {ix ix' jx jx' : Index} {w w' : σ} {v v' : τ} {ensure : σ → σ × Except Failure Bool}
  {ensure' : τ → τ × Except Failure Bool} {now now' : String} {summary summary' : Summary}

/-- Two indexes with any pasts come out of a successful build over one checkout with the same components, the same
references and the same summary; one of them may be new. -/
theorem build_forgets (hs : sources.Steady) (hi : Grown mapper ix) (hj : Grown mapper jx)
    (hn : SpeltAlike (sources.classNames ++ ix.store.names ++ jx.store.names))
    (hix : ix.build watch w ensure sources repository now = (ix', w', .ok summary))
    (hjx : jx.build watch' v ensure' sources repository now' = (jx', v', .ok summary')) :
    ix'.store.components.Perm jx'.store.components ∧ ix'.store.references.Perm jx'.store.references ∧
      summary = summary' := by
  have hci : ix.Coherent mapper := hi.coherent
  have hcj : jx.Coherent mapper := hj.coherent
  obtain ⟨hstore, rfl⟩ := build_eq_ok (.inr hs) hix
  obtain ⟨hstore', rfl⟩ := build_eq_ok (.inr hs) hjx
  rw [hci.taxonomy] at hstore ⊢
  rw [hcj.taxonomy] at hstore' ⊢
  rw [hstore, hstore']
  have hni : SpeltAlike (sources.classNames ++ ix.store.names) := hn.subset (List.subset_append_left _ _)
  have hnj : SpeltAlike (sources.classNames ++ jx.store.names) := by
    refine hn.subset fun n hmem => ?_
    simp only [List.mem_append] at hmem ⊢
    tauto
  have hcomponents : (Store.built sources repository mapper.fill ix.store).components.Perm
      (Store.built sources repository mapper.fill jx.store).components :=
    Store.components_built_perm hci.distinct hcj.distinct hni hnj
  refine ⟨hcomponents, ?_, ?_⟩
  · exact Store.references_built_perm hci.distinct hcj.distinct hci.covered hcj.covered
  · exact Sources.summary_eq (hcomponents.map Component.name)

/-- One component with a page and an example, in a checkout that is no longer read once somebody cancels. -/
def cardFolder : Sources where
  folders := [⟨"", ["card"]⟩]
  mainFile? folder := some folder
  pages := [⟨"", ["page"]⟩]
  readComponent file cancelled :=
    checkCancelled cancelled >>= fun _ => .ok (some { className := file.name, filePath := file.text })
  readPage file cancelled :=
    checkCancelled cancelled >>= fun _ => .ok (some { filePath := file.text, componentName := some "Card" })
  findExamples name cancelled :=
    checkCancelled cancelled >>= fun _ =>
      .ok [{ name := name, description := none, markup := none, code := none, sourceFile := "" }]

/-- An index that an interrupted build over another checkout has left is built anew. -/
theorem build_forgets_interrupted :
    ∃ ix summary, Grown ⟨[], true⟩ ix ∧ ix.store.names = ["button"] ∧
      (ix.build Watch.unattended () (fun u => (u, .ok true)) cardFolder ⟨"", []⟩ "now").2.2 = .ok summary ∧
      (ix.build Watch.unattended () (fun u => (u, .ok true)) cardFolder ⟨"", []⟩ "now").1.store.components.Perm
        (build { taxonomy := ⟨[], true⟩ } Watch.unattended () (fun u => (u, .ok true)) cardFolder ⟨"", []⟩
          "later").1.store.components := by
  have hprepared : Prepared { taxonomy := ⟨[], true⟩ } stumbling ⟨"", []⟩ _ _ := ⟨(), (), (), .ok true, rfl, rfl⟩
  have hattempt : Attempt { taxonomy := ⟨[], true⟩ } stumbling oneFolder ⟨"", []⟩ _ _ _ :=
    .interrupted _ _ [.lead, .lead, .work 0, .work 0, .work 0, .work 0, .gather [0], .lead, .lead] _ _ "now" hprepared
      rfl rfl
  have hsteady : cardFolder.Steady :=
    ⟨fun _ => heeds_of_checkCancelled _, fun _ => heeds_of_checkCancelled _, fun _ => heeds_of_checkCancelled _⟩
  have hgrown := Grown.fresh.attempt hattempt
  generalize hix : Index.settle _ _ _ _ _ = ix at hgrown
  have hnames : ix.store.names = ["button"] := by
    rw [← hix]
    decide +kernel
  have hsummary : (ix.build Watch.unattended () (fun u => (u, .ok true)) cardFolder ⟨"", []⟩ "now").2.2 =
      .ok ⟨1, 1, 1, 0⟩ := by
    rw [← hix]
    decide +kernel
  have hsummary' : (build { taxonomy := ⟨[], true⟩ } Watch.unattended () (fun u => (u, .ok true)) cardFolder ⟨"", []⟩
      "later").2.2 = .ok ⟨1, 1, 1, 0⟩ := by decide +kernel
  have hspelt : SpeltAlike
      (cardFolder.classNames ++ ix.store.names ++ (Index.store { taxonomy := ⟨[], true⟩ }).names) := by
    rw [hnames]
    unfold SpeltAlike
    decide +kernel
  refine ⟨ix, _, hgrown, hnames, hsummary, ?_⟩
  generalize hr : ix.build Watch.unattended () (fun u => (u, .ok true)) cardFolder ⟨"", []⟩ "now" = r at hsummary ⊢
  generalize hr' : build { taxonomy := ⟨[], true⟩ } Watch.unattended () (fun u => (u, .ok true)) cardFolder ⟨"", []⟩
    "later" = r' at hsummary' ⊢
  obtain ⟨ix', w, outcome⟩ := r
  obtain ⟨jx', v, outcome'⟩ := r'
  cases hsummary
  cases hsummary'
  exact (build_forgets hsteady hgrown .fresh hspelt hr hr').1

end Index
end Catalog
