import Catalog.Proofs.Index.Fusion
import Catalog.Proofs.Index.Lifetime
import Catalog.Proofs.Index.SingleWorker
import Catalog.Proofs.Lists

/-! What the summary of a build tells of the store that the build leaves: its components are as many as phase one has
put, its documented ones as many as pages were about a stored component, and those with examples as many as there
are. -/
namespace Catalog

namespace Crew

variable {σ : Type} {watch : Watch σ} {sources : Sources} {repository : Path} {b : Workbench σ} {crew crew' : Crew σ}

def putNames (crew : Crew σ) : List String :=
  (crew.written.filterMap Store.Change.component?).map Component.name

/-- Each component that was put is kept for its folder or was heard, once. -/
def Balanced (crew : Crew σ) : Prop :=
  (crew.tally.names ++ crew.errands.filterMap Errand.placed?).Perm crew.putNames

/-- A folder for which the same is kept as before. -/
theorem placed_set_perm {errands : List Errand} {i : ℕ} {e e' : Errand} (hi : errands[i]? = some e)
    (he : e'.placed? = e.placed?) :
    ((errands.set i e').filterMap Errand.placed?).Perm (errands.filterMap Errand.placed?) := by
  obtain ⟨rest, hold, hnew⟩ := filterMap_set_perm Errand.placed? hi e'
  rw [he] at hnew
  exact hnew.trans hold.symm

theorem Balanced.step (hb : crew.Balanced) (h : Step sources repository crew crew') : crew'.Balanced := by
  have hsame {errands : List Errand} (hperm : (errands.filterMap Errand.placed?).Perm
      (crew.errands.filterMap Errand.placed?)) :
      (crew.tally.names ++ errands.filterMap Errand.placed?).Perm crew.putNames :=
    (hperm.append_left _).trans hb
  cases h with
  | send next b' _ hlead hnext => exact hsame (placed_set_perm hnext rfl)
  | drop i hlead hi => exact hsame (placed_set_perm hi rfl)
  | pause => exact hb
  | finish => exact hb
  | hear i outcome batch b' _ hlead hi =>
    -- the name goes from the folder to the leader
    obtain ⟨rest, hold, hnew⟩ := filterMap_set_perm Errand.placed? hi .heard
    have hnames : (crew.tally.add outcome).names = crew.tally.names ++ (Errand.done (.ok outcome)).placed?.toList := by
      rw [Build.Tally.add_eq]
      cases outcome <;> rfl
    have hperm : ((crew.tally.add outcome).names ++ (crew.errands.set i .heard).filterMap Errand.placed?).Perm
        (crew.tally.names ++ crew.errands.filterMap Errand.placed?) := by
      rw [hnames, List.append_assoc]
      exact (hnew.append_left _ |>.trans hold.symm).append_left _
    exact hperm.trans hb
  | work i folder e e' b' changes hfolder hi hwork =>
    have hquiet (he : e'.placed? = e.placed?) (hchanges : changes.filterMap Store.Change.component? = []) :
        (crew.tally.names ++ (crew.errands.set i e').filterMap Errand.placed?).Perm
          (((crew.written ++ changes).filterMap Store.Change.component?).map Component.name) := by
      rw [List.filterMap_append, hchanges, List.append_nil]
      exact hsame (placed_set_perm hi he)
    cases hwork with
    | start => exact hquiet rfl rfl
    | refuse => exact hquiet rfl rfl
    | find => exact hquiet rfl rfl
    | miss _ _ result hresult =>
      refine hquiet ?_ rfl
      match result with
      | .ok (.found name) => exact absurd rfl (hresult name)
      | .ok .nothing => rfl
      | .ok .failed => rfl
      | .error failure => rfl
    | complete name r => exact hquiet rfl rfl
    | write c r =>
      obtain ⟨rest, hold, hnew⟩ := filterMap_set_perm Errand.placed? hi (.completing c.name r)
      have hold' : (crew.tally.names ++ rest).Perm crew.putNames := (hold.symm.append_left _).trans hb
      have hput : ((crew.written ++ [Store.Change.put c]).filterMap Store.Change.component?).map Component.name =
          crew.putNames ++ [c.name] := by
        rw [List.filterMap_append, List.map_append]
        rfl
      change (crew.tally.names ++ _).Perm (((crew.written ++ [Store.Change.put c]).filterMap Store.Change.component?).map _)
      rw [hput]
      refine (hnew.append_left _).trans ?_
      refine List.perm_middle.trans ?_
      exact (hold'.cons c.name).trans (List.perm_append_singleton c.name crew.putNames).symm

theorem balanced_run (watch : Watch σ) (sources : Sources) (repository : Path) (b : Workbench σ) (moves : List Move) :
    ((start sources b).run watch sources repository moves).Balanced := by
  have hstart : (start sources b).Balanced := by
    have hnone : (start sources b).errands.filterMap Errand.placed? = [] := by
      rw [List.filterMap_eq_nil_iff]
      intro e he
      obtain ⟨folder, -, rfl⟩ := List.mem_map.mp he
      rfl
    unfold Balanced
    rw [hnone]
    exact List.Perm.refl _
  exact run_induction hstart (fun _ _ hb h => hb.step h) moves

/-- At the end the leader has heard of every component that was put. -/
theorem names_perm_of_ended {moves : List Move} {tally : Build.Tally}
    (hcrew : (start sources b).run watch sources repository moves = crew) (hlead : crew.lead = .ended (.ok tally)) :
    tally.names.Perm crew.putNames := by
  obtain ⟨rfl, hheard, -⟩ := (sound_run hcrew).ended tally (by rw [hlead]; rfl)
  have hnone : crew.errands.filterMap Errand.placed? = [] := by
    rw [List.filterMap_eq_nil_iff]
    intro e he
    rw [hheard e he]
    rfl
  have hbalanced := balanced_run watch sources repository b moves
  rw [hcrew, Balanced, hnone, List.append_nil] at hbalanced
  exact hbalanced

end Crew

namespace Store

variable {s : Store} {c : Component} {k : String} {l : List Change}

/-- Where something was put under a key, there is the last of what was put, however it is spelt. -/
theorem exists_put_of_componentAt?_replay (hl : ∀ ch ∈ l, ch.IsWrite) (hk : ∃ d, .put d ∈ l ∧ d.key = k)
    (hc : (s.replay l).componentAt? k = some c) : ∃ d, .put d ∈ l ∧ d.key = k ∧ c = { d with name := c.name } := by
  induction l using List.reverseRecOn with
  | nil =>
    obtain ⟨d, hd, -⟩ := hk
    cases hd
  | append_singleton l ch ih =>
    obtain ⟨hl, hch⟩ := List.forall_mem_append.mp hl
    rw [replay_concat] at hc
    -- what the last change does not put was put before
    have hbefore (hne : ∀ d, d.key = k → ch ≠ .put d) (hsame : (s.replay l).componentAt? k = some c) :
        ∃ d, .put d ∈ l ++ [ch] ∧ d.key = k ∧ c = { d with name := c.name } := by
      obtain ⟨d, hd, hdk⟩ := hk
      have hmem : .put d ∈ l := by
        rcases List.mem_append.mp hd with hd | hd
        · exact hd
        · exact absurd (List.mem_singleton.mp hd).symm (hne d hdk)
      obtain ⟨e, he, hek, hce⟩ := ih hl ⟨d, hmem, hdk⟩ hsame
      exact ⟨e, List.mem_append_left _ he, hek, hce⟩
    cases ch with
    | put d =>
      by_cases hd : d.key = k
      · refine ⟨d, List.mem_append_right _ List.mem_cons_self, hd, ?_⟩
        rw [← hd, change, componentAt?_put_self] at hc
        cases hold : (s.replay l).componentAt? d.key <;> rw [hold] at hc <;> cases hc <;> rfl
      · rw [change, componentAt?_put_of_ne fun e => hd e.symm] at hc
        exact hbefore (fun e he hput => hd (by cases hput; exact he)) hc
    | putReference r => exact hbefore (fun _ _ => nofun) hc
    | retain names => exact (hch _ List.mem_cons_self).elim
    | clear => exact (hch _ List.mem_cons_self).elim

end Store

namespace Sources

/-- The pages that the reading of files gives, each with cancellation asked for or not. -/
def pagesRead (sources : Sources) (readings : List (Path × Bool)) : List PageFacts :=
  readings.filterMap fun reading => (sources.readPage reading.1 reading.2).toOption.join

theorem pagesRead_cons (sources : Sources) (reading : Path × Bool) (readings : List (Path × Bool)) :
    sources.pagesRead (reading :: readings) =
      (sources.readPage reading.1 reading.2).toOption.join.toList ++ sources.pagesRead readings := by
  unfold pagesRead
  cases h : (sources.readPage reading.1 reading.2).toOption.join <;> simp [h]

end Sources

namespace Build

variable {σ α : Type} {watch : Watch σ} {sources : Sources} {b b' : Workbench σ}

/-- An item is read with cancellation asked for or not. -/
theorem readItem_eq_ok {read : Taxonomy → Bool → Except Failure (Option α)} {outcome : Outcome α}
    (h : readItem watch read b = .ok outcome b') : ∃ cancelled, settle (read b.taxonomy cancelled) = .ok outcome := by
  obtain ⟨cancelled, b₁, hlook, h⟩ := bind_eq_ok.mp h
  rw [get_bind] at h
  cases hlook
  exact ⟨_, (lift_eq_ok h).1⟩

/-- Phase two reads each file once, and counts the pages that are about a stored component. -/
theorem exists_readings {total current : ℕ} {files : List Path} {count count' : Count}
    (h : indexPages watch sources total current files count b = .ok count' b') :
    ∃ readings : List (Path × Bool), readings.map Prod.fst = files ∧
      count'.changed =
        count.changed + (sources.pagesRead readings).countP (fun page => (subjectOf b.store page).isSome) ∧
      b'.store = (sources.pagesRead readings).foldl Store.complete b.store := by
  induction files generalizing current count b with
  | nil =>
    cases h
    exact ⟨[], rfl, rfl, rfl⟩
  | cons file files ih =>
    obtain ⟨b₁, hb₁, h⟩ := check_report_ok h
    obtain ⟨count₁, b₂, hpage, h⟩ := bind_eq_ok.mp h
    have hstore₁ : b₁.store = b.store := congrArg Prod.fst hb₁
    obtain ⟨read, b₃, hread, hcount₂, -, hstore₂⟩ := indexPage_eq_ok hpage
    obtain ⟨cancelled, hsettle⟩ := readItem_eq_ok hread
    obtain ⟨readings, hfiles, hcount, hstore⟩ := ih h
    rw [hstore₁, settle_value? hsettle] at hcount₂ hstore₂
    refine ⟨(file, cancelled) :: readings, ?_, ?_, ?_⟩
    · rw [List.map_cons, hfiles]
    · have hkeys : b₂.store.keys = b.store.keys := by
        rw [hstore₂]
        cases (sources.readPage file cancelled).toOption.join with
        | none => rfl
        | some page => exact Store.keys_complete b.store page
      have hsubject (page : PageFacts) : (subjectOf b₂.store page).isSome = (subjectOf b.store page).isSome :=
        isSome_subjectOf_congr (fun k => by rw [hkeys]) page
      simp only [hsubject] at hcount
      rw [hcount, hcount₂, Sources.pagesRead_cons, List.countP_append]
      cases (sources.readPage file cancelled).toOption.join with
      | none => simp [Count.add]
      | some page => cases hs : (subjectOf b.store page).isSome <;> simp [Count.add, hs, Nat.add_assoc]
    · rw [hstore, hstore₂, Sources.pagesRead_cons]
      cases (sources.readPage file cancelled).toOption.join <;> simp

def IsIllustrated (c d : Component) : Prop :=
  d = { c with examples := d.examples }

/-- Phase three gives a stored component its examples in its place, and counts it if there are any. -/
theorem illustrates_one {before rest : List Component} {c : Component} {count count' : Count}
    (hkeys : b.store.keys.Nodup) (hstore : b.store.components = before ++ c :: rest) (hplain : c.examples = [])
    (h : indexExample watch sources c count b = .ok count' b') :
    ∃ d, IsIllustrated c d ∧ b'.store.components = before ++ d :: rest ∧
      count'.changed = count.changed + if d.examples ≠ [] then 1 else 0 := by
  obtain ⟨read, b₁, hread, hcount, -, hstore'⟩ := indexExample_eq_ok h
  obtain ⟨cancelled, hsettle⟩ := readItem_eq_ok hread
  have hvalue := settle_value? hsettle
  cases hv : read.value? with
  | none =>
    rw [hv] at hcount hstore'
    refine ⟨c, rfl, ?_, ?_⟩
    · rw [hstore']
      exact hstore
    · simp [hcount, Count.add, hplain]
  | some examples =>
    rw [hv] at hcount hstore' hvalue
    have hne : examples ≠ [] := by
      rintro rfl
      cases hfound : sources.findExamples c.name cancelled with
      | error failure => simp [hfound, Except.map, Except.toOption] at hvalue
      | ok found => cases found <;> simp [hfound, Except.map, Except.toOption, someExamples] at hvalue
    have hbefore : c.key ∉ before.map Component.key := by
      rw [Store.keys, hstore, List.map_append, List.map_cons] at hkeys
      intro hmem
      exact List.disjoint_of_nodup_append hkeys hmem List.mem_cons_self
    refine ⟨{ c with examples := examples }, rfl, ?_, ?_⟩
    · rw [hstore']
      exact (congrArg _ hstore).trans (Keyed.insert_append_cons hbefore rfl)
    · simp [hcount, Count.add, hne]

/-- Phase three gives the stored components that are left to do their examples, each in its place, and counts those
that get any. -/
theorem illustrates_each {total current : ℕ} {before components : List Component} {count count' : Count}
    (hkeys : b.store.keys.Nodup) (hstore : b.store.components = before ++ components)
    (hplain : ∀ c ∈ components, c.examples = [])
    (h : indexExamples watch sources total current components count b = .ok count' b') :
    ∃ after, b'.store.components = before ++ after ∧ (∀ d ∈ after, ∃ c ∈ components, IsIllustrated c d) ∧
      count'.changed = count.changed + after.countP fun d => d.examples ≠ [] := by
  induction components generalizing before current count b with
  | nil =>
    cases h
    exact ⟨[], hstore, fun d hd => absurd hd List.not_mem_nil, rfl⟩
  | cons c components ih =>
    obtain ⟨b₁, hb₁, h⟩ := check_report_ok h
    obtain ⟨count₁, b₂, hexample, h⟩ := bind_eq_ok.mp h
    have hstore₁ : b₁.store = b.store := congrArg Prod.fst hb₁
    obtain ⟨hc, hplain⟩ := List.forall_mem_cons.mp hplain
    rw [← hstore₁] at hkeys hstore
    obtain ⟨d, hd, hcomponents, hcount⟩ := illustrates_one hkeys hstore hc hexample
    have hkeys₂ : b₂.store.keys.Nodup := by
      have hkey : d.key = c.key := by rw [hd]; rfl
      rw [Store.keys, hstore, List.map_append, List.map_cons] at hkeys
      rwa [Store.keys, hcomponents, List.map_append, List.map_cons, hkey]
    have hcomponents₂ : b₂.store.components = (before ++ [d]) ++ components := by
      rw [hcomponents, List.append_assoc, List.singleton_append]
    obtain ⟨after, hafter, heach, hcount'⟩ := ih hkeys₂ hcomponents₂ hplain h
    refine ⟨d :: after, ?_, List.forall_mem_cons.mpr ⟨⟨c, List.mem_cons_self, hd⟩, fun e he => ?_⟩, ?_⟩
    · rw [hafter, List.append_assoc, List.singleton_append]
    · obtain ⟨a, ha, hae⟩ := heach e he
      exact ⟨a, List.mem_cons_of_mem c ha, hae⟩
    · rw [hcount', hcount, List.countP_cons]
      simp only [decide_eq_true_eq]
      omega

/-- What the later phases come to: pages complete the components, and examples are added to them. -/
theorem exists_enrichment {tally : Tally} {summary : Summary} (hd : b.store.Distinct)
    (hplain : ∀ c ∈ b.store.components, c.examples = []) (hnamed : key "" ∉ b.store.keys)
    (h : enrich watch sources tally b = .ok summary b') :
    ∃ readings : List (Path × Bool), readings.map Prod.fst = sources.pages ∧
      (∀ d ∈ b'.store.components, ∃ c ∈ b.store.components, c.key = d.key ∧
        IsIllustrated (c.completed (Store.about d.key (sources.pagesRead readings))) d) ∧
      summary.components = tally.names.length ∧
      summary.documented = (sources.pagesRead readings).countP (fun page => (subjectOf b.store page).isSome) ∧
      summary.withExamples = b'.store.components.countP fun d => d.examples ≠ [] := by
  obtain ⟨pages, b₁, hpages, h⟩ := bind_eq_ok.mp h
  rw [get_bind] at h
  obtain ⟨examples, b₂, hexamples, h⟩ := bind_eq_ok.mp h
  cases h
  obtain ⟨readings, hfiles, hdocumented, hstore₁⟩ := exists_readings hpages
  have hd₁ : b₁.store.Distinct := by
    rw [hstore₁]
    exact hd.foldl (fun _ page hs => hs.complete page) _
  -- each component after phase two is one of those before
  have hcompleted (c : Component) (hc : c ∈ b₁.store.components) : ∃ e ∈ b.store.components, e.key = c.key ∧
      c = e.completed (Store.about c.key (sources.pagesRead readings)) := by
    have hkeys : b₁.store.keys = b.store.keys := by rw [hstore₁, Store.keys_foldl_complete]
    have hne : c.key ≠ key "" := by
      intro he
      apply hnamed
      rw [← he, ← hkeys]
      exact List.mem_map_of_mem hc
    have hstored := hd₁.componentAt?_eq_some_iff.mpr ⟨hc, rfl⟩
    rw [hstore₁, Store.componentAt?_foldl_complete _ _ hne] at hstored
    obtain ⟨e, he, hec⟩ := Option.map_eq_some_iff.mp hstored
    obtain ⟨hmem, hkey⟩ := hd.componentAt?_eq_some_iff.mp he
    exact ⟨e, hmem, hkey, hec.symm⟩
  have hplain₁ (c : Component) (hc : c ∈ b₁.store.components) : c.examples = [] := by
    obtain ⟨e, he, -, hce⟩ := hcompleted c hc
    rw [hce]
    exact hplain e he
  obtain ⟨after, hafter, heach, hcount⟩ := illustrates_each hd₁.keys (List.nil_append _).symm hplain₁ hexamples
  rw [List.nil_append] at hafter
  refine ⟨readings, hfiles, fun d hd => ?_, rfl, ?_, ?_⟩
  · rw [hafter] at hd
    obtain ⟨c, hc, hillustrated⟩ := heach d hd
    obtain ⟨e, he, hkey, hce⟩ := hcompleted c hc
    have hdc : d.key = c.key := by rw [hillustrated]; rfl
    refine ⟨e, he, hkey.trans hdc.symm, ?_⟩
    rw [hdc, ← hce]
    exact hillustrated
  · exact hdocumented.trans (Nat.zero_add _)
  · rw [hafter]
    exact hcount.trans (Nat.zero_add _)

/-- A page is about a stored component if its name is one of the keys. -/
theorem isSome_subjectOf {s : Store} (hnamed : key "" ∉ s.keys) (page : PageFacts) :
    (subjectOf s page).isSome = (page.componentName.map key).any (· ∈ s.keys) := by
  unfold subjectOf
  cases page.componentName with
  | none => rfl
  | some name =>
    by_cases hname : name = ""
    · subst hname
      simp [hnamed]
    · have hget : (s.get? name).isSome = decide (key name ∈ s.keys) :=
        Bool.eq_iff_iff.mpr (Store.componentAt?_isSome.trans decide_eq_true_iff.symm)
      simpa [hname] using hget

end Build

/-- What the sources give has a name, and no examples. -/
theorem Sources.Gives.plain {sources : Sources} {repository : Path} {taxonomy : Taxonomy} {c : Component}
    {r : ApiReference} (h : sources.Gives repository taxonomy c r) : c.examples = [] ∧ c.key ≠ key "" := by
  obtain ⟨facts, category, path, hassign, rfl, -⟩ := h.exists_facts
  refine ⟨rfl, key_ne_key_empty ?_⟩
  intro hname
  change facts.className = "" at hname
  rw [hname, Taxonomy.assign_eq] at hassign
  cases hassign

/-- After phase one each component is the last that was put under its key, however it is spelt. -/
theorem Crew.Sound.exists_put {σ : Type} {sources : Sources} {repository : Path} {b : Workbench σ} {crew : Crew σ}
    {tally : Build.Tally} {c : Component} (hs : Sound sources repository b crew) (hd : b.store.Distinct)
    (hlead : crew.lead.tally? = some tally) (hc : c ∈ crew.bench.store.components) :
    ∃ given, .put given ∈ crew.written ∧ given.key = c.key ∧ c = { given with name := c.name } := by
  have hkey : c.key ∈ crew.bench.store.keys := List.mem_map_of_mem hc
  have hput := ((hs.leaves_enrichment hlead).1 c.key).mp hkey
  obtain ⟨rfl, -, hstore⟩ := hs.ended tally hlead
  have hmem : c ∈ (b.store.replay crew.written).components := by
    rw [hstore, Store.retain_components] at hc
    exact List.mem_of_mem_filter hc
  have hstored := (hd.replay crew.written).componentAt?_eq_some_iff.mpr ⟨hmem, rfl⟩
  exact Store.exists_put_of_componentAt?_replay hs.isWrite hput hstored

def Extent.timesPut (extent : Extent) (k : String) : ℕ :=
  (extent.written.filterMap Store.Change.component?).countP fun c => c.key = k

def Store.enriched (s : Store) (pages : List PageFacts) : ℕ :=
  s.components.countP fun c => Store.about c.key pages ≠ []

namespace Store

variable {s : Store}

/-- What was put is counted under the keys of the store, if it has them all. -/
theorem sum_timesPut (extent : Extent) (hd : s.Distinct)
    (hstored : ∀ c, .put c ∈ extent.written → c.key ∈ s.keys) :
    (s.components.map fun c => extent.timesPut c.key).sum =
      (extent.written.filterMap Change.component?).length := by
  have hsum := sum_countP_of_nodup hd.keys (fun c : Component => some c.key)
    (extent.written.filterMap Change.component?)
  have hmap : (s.components.map fun c => extent.timesPut c.key) = s.keys.map extent.timesPut := by
    rw [keys, List.map_map]
    rfl
  rw [hmap]
  unfold Extent.timesPut
  simp only [Option.some.injEq, Option.any_some] at hsum
  rw [hsum, List.countP_eq_length]
  intro c hc
  exact decide_eq_true (hstored c (mem_filterMap_component?.mp hc))

/-- The pages about stored components are counted under their keys. -/
theorem sum_about (hd : s.Distinct) (hnamed : key "" ∉ s.keys) (pages : List PageFacts) :
    (s.components.map fun c => (about c.key pages).length).sum =
      pages.countP fun page => (Build.subjectOf s page).isSome := by
  have hsum := sum_countP_of_nodup hd.keys (fun page : PageFacts => page.componentName.map key) pages
  have hmap : (s.components.map fun c => (about c.key pages).length) =
      s.keys.map fun k => pages.countP fun page => page.componentName.map key = some k := by
    rw [keys, List.map_map]
    simp only [about, List.countP_eq_length_filter, Function.comp_def]
  rw [hmap, hsum]
  simp only [Build.isSome_subjectOf hnamed]

end Store

namespace Index

/-- How the summary of a build stands to the store that the build leaves, with what phase one wrote and the pages that
phase two read: each component is counted as often as it was put and as often as a page is about it. -/
structure Accounts (extent : Extent) (pages : List PageFacts) (after : Store) (summary : Summary) : Prop where
  completed : ∀ c ∈ after.components, ∃ given, .put given ∈ extent.written ∧ given.key = c.key ∧
    c = { given.completed (Store.about c.key pages) with name := c.name, examples := c.examples }
  components : summary.components = (after.components.map fun c => extent.timesPut c.key).sum
  size_le : after.size ≤ summary.components
  size_eq_iff : summary.components = after.size ↔ ∀ c ∈ after.components, extent.timesPut c.key = 1
  documented : summary.documented = (after.components.map fun c => (Store.about c.key pages).length).sum
  enriched_le : after.enriched pages ≤ summary.documented ∧ after.enriched pages ≤ after.size
  enriched_eq_iff : summary.documented = after.enriched pages ↔
    ∀ c ∈ after.components, (Store.about c.key pages).length ≤ 1
  withExamples : summary.withExamples = after.components.countP fun c => c.examples ≠ []

variable {σ : Type} {watch : Watch σ} {sources : Sources} {repository : Path} {ix ix' : Index} {extent : Extent}
  {summary : Summary}

/-- The inequalities follow from the sums. -/
theorem Accounts.of_sums {pages : List PageFacts} {after : Store}
    (hcompleted : ∀ c ∈ after.components, ∃ given, .put given ∈ extent.written ∧ given.key = c.key ∧
      c = { given.completed (Store.about c.key pages) with name := c.name, examples := c.examples })
    (hcomponents : summary.components = (after.components.map fun c => extent.timesPut c.key).sum)
    (hdocumented : summary.documented = (after.components.map fun c => (Store.about c.key pages).length).sum)
    (hexamples : summary.withExamples = after.components.countP fun c => c.examples ≠ []) :
    Accounts extent pages after summary := by
  have hput (c : Component) (hc : c ∈ after.components) : 0 < extent.timesPut c.key := by
    obtain ⟨given, hgiven, hkey, -⟩ := hcompleted c hc
    exact List.countP_pos_iff.mpr ⟨given, Store.mem_filterMap_component?.mpr hgiven, decide_eq_true hkey⟩
  have hsize : after.components.countP (fun c => 0 < extent.timesPut c.key) = after.size := by
    rw [Store.size, List.countP_eq_length]
    exact fun c hc => decide_eq_true (hput c hc)
  have henriched : after.components.countP (fun c => 0 < (Store.about c.key pages).length) = after.enriched pages := by
    unfold Store.enriched
    simp only [List.length_pos_iff]
  have hle := countP_pos_le_sum (fun c : Component => extent.timesPut c.key) after.components
  have hle' := countP_pos_le_sum (fun c : Component => (Store.about c.key pages).length) after.components
  rw [hsize, ← hcomponents] at hle
  rw [henriched, ← hdocumented] at hle'
  refine
    { completed := hcompleted
      components := hcomponents
      size_le := hle
      size_eq_iff := ?_
      documented := hdocumented
      enriched_le := ⟨hle', List.countP_le_length⟩
      enriched_eq_iff := ?_
      withExamples := hexamples }
  · rw [hcomponents, ← hsize, sum_eq_countP_pos_iff]
    refine forall₂_congr fun c hc => ?_
    have hpos := hput c hc
    omega
  · rw [hdocumented, ← henriched]
    exact sum_eq_countP_pos_iff

/-- What the summary of a build tells, whatever the store held before, whatever could be read of the checkout, and with
any number of workers. -/
theorem summary_accounts (hd : ix.store.Distinct)
    (h : ix.Attempt watch sources repository extent (.ok summary) ix') :
    ∃ readings : List (Path × Bool), readings.map Prod.fst = sources.pages ∧
      Accounts extent (sources.pagesRead readings) ix'.store summary := by
  cases h with
  | completed ix₁ b b' moves crew tally _ now hb hcrew hlead henrich =>
    have hs := Crew.sound_run hcrew
    have hended : crew.lead.tally? = some tally := by rw [hlead]; rfl
    have hstore : b.store.Distinct := by
      rw [hb.contents_eq.1]
      exact hd
    have hbench : crew.bench.store.Distinct := by
      rw [(hs.ended tally hended).2.2]
      exact (hstore.replay _).retain _
    have hplain (c : Component) (hc : c ∈ crew.bench.store.components) : c.examples = [] ∧ c.key ≠ key "" := by
      obtain ⟨given, hput, hkey, hgiven⟩ := hs.exists_put hstore hended hc
      obtain ⟨d, r, hgives, hd | hd⟩ := hs.gives _ hput
      · cases hd
        rw [← hkey, hgiven]
        exact hgives.plain
      · cases hd
    have hnamed : key "" ∉ crew.bench.store.keys := by
      intro hmem
      obtain ⟨c, hc, hkey⟩ := List.mem_map.mp hmem
      exact (hplain c hc).2 hkey
    obtain ⟨readings, hfiles, heach, hcomponents, hdocumented, hexamples⟩ :=
      Build.exists_enrichment hbench (fun c hc => (hplain c hc).1) hnamed henrich
    obtain ⟨hkeys, hrest⟩ := Prod.mk.inj ((Build.keeps_frame_enrich watch sources tally).ok henrich)
    have hafter : b'.store.Distinct := hbench.congr hkeys (Prod.mk.inj hrest).1
    refine ⟨readings, hfiles, .of_sums (fun d hd => ?_) ?_ ?_ hexamples⟩
    · obtain ⟨c, hc, hkey, hillustrated⟩ := heach d hd
      obtain ⟨given, hput, hkey', hgiven⟩ := hs.exists_put hstore hended hc
      refine ⟨given, hput, hkey'.trans hkey, ?_⟩
      have hname : d.name = c.name := by rw [hillustrated]; rfl
      rw [hname]
      refine hillustrated.trans ?_
      rw [hgiven]
      rfl
    · have hnames := (Crew.names_perm_of_ended hcrew hlead).length_eq
      have hsum := Store.sum_timesPut (.enrichment crew.written) hafter fun c hc => by
        rw [hkeys]
        exact ((hs.leaves_enrichment hended).1 c.key).mpr ⟨c, hc, rfl⟩
      change summary.components = (b'.store.components.map fun c => _).sum
      rw [hsum, hcomponents, hnames, Crew.putNames, List.length_map]
      rfl
    · change summary.documented = (b'.store.components.map fun c => _).sum
      have hnamed' : key "" ∉ b'.store.keys := by
        rw [hkeys]
        exact hnamed
      rw [Store.sum_about hafter hnamed', hdocumented]
      refine List.countP_congr fun page _ => ?_
      rw [Build.isSome_subjectOf_congr (fun k => by rw [hkeys])]

/-- Two folders that give one component, three pages about it, and an example. -/
def overlapping : Sources where
  folders := [⟨"", ["button"]⟩, ⟨"", ["BUTTON"]⟩]
  mainFile? folder := some folder
  pages := [⟨"", ["page"]⟩, ⟨"", ["notes"]⟩, ⟨"", ["old page"]⟩]
  readComponent file _ := .ok (some { className := file.name, filePath := file.text })
  readPage file _ := .ok (some { filePath := file.text, componentName := some "Button" })
  findExamples _ _ := .ok [{ name := "Basic", description := none, markup := none, code := none, sourceFile := "" }]

def overlappingBuild : Index × Unit × Except Failure Summary :=
  ({} : Index).build Watch.unattended () (fun u => (u, .ok true)) overlapping ⟨"", []⟩ "now"

theorem overlappingBuild_tells : overlappingBuild.2.2 = .ok ⟨2, 3, 1, 0⟩ ∧ overlappingBuild.1.store.size = 1 := by
  decide +kernel

theorem summary_accounts_overlapping : ∃ extent readings, overlappingBuild.2.2 = .ok ⟨2, 3, 1, 0⟩ ∧
    Accounts extent (overlapping.pagesRead readings) overlappingBuild.1.store ⟨2, 3, 1, 0⟩ := by
  have hsummary := overlappingBuild_tells.1
  generalize hbuild : overlappingBuild = r at hsummary ⊢
  obtain ⟨ix', w', outcome⟩ := r
  cases hsummary
  obtain ⟨extent, hattempt⟩ := attempt_build hbuild
  obtain ⟨readings, -, haccounts⟩ := summary_accounts Store.distinct_empty hattempt
  exact ⟨extent, readings, rfl, haccounts⟩

/-- The summary tells of more components than there are, and of more documented ones still. -/
theorem summary_outnumbers_store : ∃ summary, overlappingBuild.2.2 = .ok summary ∧
    overlappingBuild.1.store.size = 1 ∧ summary.components = 2 ∧ summary.documented = 3 :=
  ⟨⟨2, 3, 1, 0⟩, overlappingBuild_tells.1, overlappingBuild_tells.2, rfl, rfl⟩

end Index
end Catalog
