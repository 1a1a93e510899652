import Catalog.Proofs.Index.Folds
import Catalog.Proofs.Index.Lifetime
import Catalog.Proofs.Index.LookUp
import Catalog.Proofs.Index.SingleWorker

/-! Components and references of an index whose builds have a single worker: each key has one of both or of neither, and
they tell the same of one type. Phase one installs them in pairs, and what the later phases change of a component is
not in its reference. -/
namespace Catalog

/-- The component and the reference tell the same of one type. -/
structure Mirrors (c : Component) (r : ApiReference) : Prop where
  name : key r.typeName = key c.name
  nameSpace : r.nameSpace = c.nameSpace
  baseType : r.baseType = c.baseType
  members : r.members = c.parameters.map SourceFacts.parameterMember ++ c.events.map SourceFacts.eventMember ++
    c.methods.map SourceFacts.methodMember
  summary : c.summary = orElse r.summary (r.typeName ++ " component")

theorem Sources.Gives.mirrors {sources : Sources} {repository : Path} {taxonomy : Taxonomy} {c : Component}
    {r : ApiReference} (h : sources.Gives repository taxonomy c r) : Mirrors c r := by
  obtain ⟨facts, category, path, -, rfl, rfl⟩ := h.exists_facts
  exact ⟨rfl, rfl, rfl, rfl, rfl⟩

namespace Component

/-- What the later phases leave of a component. -/
def core (c : Component) : Component :=
  { c with description := none, related := [], examples := [] }

end Component

namespace Mirrors

variable {c d : Component} {r : ApiReference}

theorem named (h : Mirrors c r) (hkey : d.key = c.key) : Mirrors (d.named c) r :=
  ⟨h.name.trans hkey.symm, h.nameSpace, h.baseType, h.members, h.summary⟩

theorem of_core_eq (h : Mirrors c r) (hcore : d.core = c.core) : Mirrors d r := by
  have hfields {α : Type} (f : Component → α) : f d.core = f c.core := congrArg f hcore
  refine ⟨?_, ?_, ?_, ?_, ?_⟩
  · exact h.name.trans (hfields fun c => key c.name).symm
  · exact h.nameSpace.trans (hfields Component.nameSpace).symm
  · exact h.baseType.trans (hfields Component.baseType).symm
  · refine h.members.trans (hfields fun c => c.parameters.map SourceFacts.parameterMember ++
      c.events.map SourceFacts.eventMember ++ c.methods.map SourceFacts.methodMember).symm
  · exact (hfields Component.summary).trans h.summary

end Mirrors

namespace Store

variable {s t : Store} {c : Component} {r : ApiReference}

/-- Under each key are a component and a reference that tell the same, or neither. -/
def Mirrored (s : Store) : Prop :=
  ∀ k, Option.Rel Mirrors (s.componentAt? k) (s.referenceAt? k)

theorem mirrored_empty : empty.Mirrored :=
  fun _ => .none

theorem Mirrored.install (h : s.Mirrored) (hcr : Mirrors c r) : (s.install (c, r)).Mirrored := by
  have hkey : r.key = c.key := hcr.name
  intro k
  rw [componentAt?_install]
  by_cases hk : c.key = k
  · subst hk
    rw [if_pos rfl, Store.install, ← hkey, referenceAt?_putReference_self, inherit]
    refine .some ?_
    cases hold : s.componentAt? r.key with
    | none => exact hcr
    | some old => exact hcr.named ((key_of_componentAt? hold).trans hkey)
  · rw [if_neg hk, Store.install, referenceAt?_putReference_of_ne fun e => hk (hkey.symm.trans e.symm),
      put_referenceAt?]
    exact h k

theorem Mirrored.retain (h : s.Mirrored) (names : List String) : (s.retain names).Mirrored := by
  intro k
  have hk := h k
  rw [componentAt?_retain, referenceAt?_retain]
  by_cases hkeep : k ∈ names.map key
  · rw [if_pos hkeep, if_neg fun hstale => hstale.2 hkeep]
    exact hk
  · rw [if_neg hkeep]
    by_cases hstored : k ∈ s.keys
    · rw [if_pos ⟨hstored, hkeep⟩]
      exact .none
    · -- where there is no component there was no reference
      have hnone : s.componentAt? k = none := by
        rw [← Option.not_isSome_iff_eq_none, componentAt?_isSome]
        exact hstored
      rw [hnone] at hk
      rw [if_neg fun hstale => hstored hstale.1]
      exact hk

theorem componentAt?_map_core (s : Store) (k : String) :
    (s.componentAt? k).map Component.core = Keyed.find? Component.key k (s.components.map Component.core) := by
  rw [Keyed.find?, List.find?_map]
  rfl

theorem map_key_core (s : Store) :
    (s.components.map Component.core).map Component.key = s.components.map Component.key :=
  List.map_map

/-- What the later phases change of a store leaves it mirrored. -/
theorem Mirrored.congr (h : s.Mirrored) (hcores : t.components.map Component.core = s.components.map Component.core)
    (hreferences : t.references = s.references) : t.Mirrored := by
  intro k
  have hk := h k
  have hmap : (t.componentAt? k).map Component.core = (s.componentAt? k).map Component.core := by
    rw [componentAt?_map_core, componentAt?_map_core, hcores]
  have hreference : t.referenceAt? k = s.referenceAt? k := by rw [referenceAt?, hreferences, referenceAt?]
  rw [hreference]
  generalize s.referenceAt? k = found at hk ⊢
  cases hs : s.componentAt? k with
  | none =>
    rw [hs] at hk hmap
    rw [Option.map_eq_none_iff.mp hmap]
    exact hk
  | some c =>
    rw [hs] at hk hmap
    obtain ⟨d, hd, hcore⟩ := Option.map_eq_some_iff.mp hmap
    rw [hd]
    cases hk with
    | some hcr => exact .some (hcr.of_core_eq hcore)

/-- A component that is put in the place of one with the same core leaves all cores as they are. -/
theorem map_core_put {d : Component} (hc : s.componentAt? c.key = some d) (hcore : (d.named c).core = d.core) :
    (s.put c).components.map Component.core = s.components.map Component.core :=
  Keyed.map_insert_of_find? hc hcore

end Store

namespace Build

variable {σ : Type}

def cores (b : Workbench σ) : List Component × List ApiReference :=
  (b.store.components.map Component.core, b.store.references)

/-- Phases two and three change no core and no reference. -/
theorem keepsIf_cores_enrich (watch : Watch σ) (sources : Sources) (tally : Tally) :
    KeepsIf (fun v => (v.1.map Component.key).Nodup) cores (enrich watch sources tally) := by
  have hunwatched : Unwatched (cores (σ := σ)) := fun _ _ => rfl
  have hkeys (b : Workbench σ) : (cores b).1.map Component.key = b.store.keys := b.store.map_key_core
  refine hunwatched.keepsIf_enrich (fun b page c hb _ hs => ?_) (fun b hb c hc b' examples hb' _ => ?_) tally
  · obtain ⟨name, -, hname⟩ := Option.bind_eq_some_iff.mp hs
    split_ifs at hname
    have hstored : b.store.componentAt? (documented c page).key = some c := by
      rw [hkeys] at hb
      exact (Keyed.find?_eq_some_iff hb).mpr ⟨(Keyed.mem_of_find? hname).1, rfl⟩
    exact Prod.ext (Store.map_core_put hstored rfl) rfl
  · -- the component is still stored with the core that it had when phase three began
    have hcores : b'.store.components.map Component.core = b.store.components.map Component.core :=
      congrArg Prod.fst hb'
    have hmem : c.core ∈ b'.store.components.map Component.core := hcores ▸ List.mem_map_of_mem hc
    obtain ⟨d, hd, hcore⟩ := List.mem_map.mp hmem
    have hname : d.core.name = c.core.name := congrArg Component.name hcore
    change d.name = c.name at hname
    have hstored : b'.store.componentAt? { c with examples := examples }.key = some d := by
      rw [← hb', hkeys] at hb
      exact (Keyed.find?_eq_some_iff hb).mpr ⟨hd, congrArg key hname⟩
    refine Prod.ext (Store.map_core_put hstored ?_) rfl
    rw [hcore]
    simp [Component.core, Component.named, hname]

end Build

namespace Index

variable {σ : Type} {watch : Watch σ} {sources : Sources} {repository : Path} {ix ix' : Index} {extent : Extent}
  {outcome : Except Failure Summary} {mapper : Taxonomy} {past : List Sources}

/-- An attempt keeps of a store what holds after phase one has written, is kept where entries are dropped, and does not
depend on that which the later phases change. -/
theorem Attempt.keeps_of_replay {P : Store → Prop} (h : ix.Attempt watch sources repository extent outcome ix')
    (hd : ix.store.Distinct) (hreplay : P (ix.store.replay extent.written))
    (hretain : ∀ s names, P s → P (s.retain names))
    (hcongr : ∀ s t : Store, t.components.map Component.core = s.components.map Component.core →
      t.references = s.references → P s → P t) : P ix'.store := by
  refine (h.keeps_store (P := fun s => s.Distinct ∧ P s) ⟨hd.replay _, hreplay⟩ ?_ fun tally => ?_).2
  · exact fun s names hs => ⟨hs.1.retain names, hretain s names hs.2⟩
  · refine Build.keepsIf_id.mpr fun b hb => ?_
    have hkeys := hb.1.keys
    rw [Store.keys, ← Store.map_key_core] at hkeys
    obtain ⟨hcores, hreferences⟩ := Prod.mk.inj (Build.keepsIf_cores_enrich watch sources tally b hkeys)
    have hsame : (Build.left (Build.enrich watch sources tally b)).store.keys = b.store.keys := by
      rw [Store.keys, ← Store.map_key_core, hcores, Store.map_key_core, Store.keys]
    exact ⟨hb.1.congr hsame hreferences, hcongr _ _ hcores hreferences hb.2⟩

/-- An attempt that writes the entries of folders in pairs keeps of a store what installing and dropping entries keep,
and what does not depend on that which the later phases change. -/
theorem Attempt.keeps {P : Store → Prop} (h : ix.Attempt watch sources repository extent outcome ix')
    (hd : ix.store.Distinct) {pairs : List (Component × ApiReference)}
    (hpairs : extent.written = pairs.flatMap Crew.changesOf) (hinstall : ∀ s, ∀ e ∈ pairs, P s → P (s.install e))
    (hretain : ∀ s names, P s → P (s.retain names))
    (hcongr : ∀ s t : Store, t.components.map Component.core = s.components.map Component.core →
      t.references = s.references → P s → P t) (hP : P ix.store) : P ix'.store := by
  refine h.keeps_of_replay hd ?_ hretain hcongr
  rw [hpairs, Crew.replay_changesOf]
  clear hpairs hd
  generalize ix.store = s at hP
  induction pairs generalizing s with
  | nil => exact hP
  | cons e pairs ih =>
    refine ih (fun s e' he' => hinstall s e' (List.mem_cons_of_mem e he')) _ ?_
    exact hinstall s e List.mem_cons_self hP

/-- An index in the course of its life: it began empty with this taxonomy, and builds with a single worker followed one
after another, each over a checkout of its own. -/
inductive Tended (mapper : Taxonomy) : List Sources → Index → Prop
  | fresh : Tended mapper [] { taxonomy := mapper }
  | build {σ : Type} {past : List Sources} {ix ix' : Index} {watch : Watch σ} {w w' : σ}
      {ensure : σ → σ × Except Failure Bool} {sources : Sources} {repository : Path} {now : String}
      {moves : List Crew.Move} {outcome : Except Failure Summary} (hix : Tended mapper past ix)
      (h : ix.buildWith 1 watch w ensure sources repository now moves = some (ix', w', outcome)) :
      Tended mapper (past ++ [sources]) ix'

theorem Tended.grown (h : Tended mapper past ix) : Grown mapper ix := by
  induction h with
  | fresh => exact .fresh
  | build _ h ih =>
    obtain ⟨extent, hattempt, -⟩ := attempt_buildWith h
    exact ih.attempt hattempt

/-- A build with a single worker writes the entries of folders in pairs. -/
theorem exists_pairs_of_buildWith {w w' : σ} {ensure : σ → σ × Except Failure Bool} {now : String}
    {moves : List Crew.Move}
    (h : ix.buildWith 1 watch w ensure sources repository now moves = some (ix', w', outcome)) :
    ∃ (extent : Extent) (pairs : List (Component × ApiReference)),
      ix.Attempt watch sources repository extent outcome ix' ∧ extent.written = pairs.flatMap Crew.changesOf ∧
        ∀ e ∈ pairs, sources.Gives repository ix.taxonomy.fill e.1 e.2 := by
  obtain ⟨extent, hattempt, hnone | ⟨b, result, htaxonomy, hlead, hwritten⟩⟩ := attempt_buildWith h
  · exact ⟨extent, [], hattempt, hnone, fun e he => absurd he List.not_mem_nil⟩
  · obtain ⟨pairs, hgives, hpairs⟩ := Crew.exists_pairs_of_ended hlead
    rw [htaxonomy] at hgives
    exact ⟨extent, pairs, hattempt, hwritten.trans hpairs, hgives⟩

theorem keeps_buildWith {P : Store → Prop} {w w' : σ} {ensure : σ → σ × Except Failure Bool} {now : String}
    {moves : List Crew.Move}
    (h : ix.buildWith 1 watch w ensure sources repository now moves = some (ix', w', outcome))
    (hd : ix.store.Distinct)
    (hinstall : ∀ s c r, sources.Gives repository ix.taxonomy.fill c r → P s → P (s.install (c, r)))
    (hretain : ∀ s names, P s → P (s.retain names))
    (hcongr : ∀ s t : Store, t.components.map Component.core = s.components.map Component.core →
      t.references = s.references → P s → P t) (hP : P ix.store) : P ix'.store := by
  obtain ⟨extent, pairs, hattempt, hpairs, hgives⟩ := exists_pairs_of_buildWith h
  exact hattempt.keeps hd hpairs (fun s e he hs => hinstall s e.1 e.2 (hgives e he) hs) hretain hcongr hP

/-- However the builds ended, components and references mirror each other. -/
theorem Tended.mirrored (h : Tended mapper past ix) : ix.store.Distinct ∧ ix.store.Mirrored := by
  refine ⟨h.grown.coherent.distinct, ?_⟩
  induction h with
  | fresh => exact Store.mirrored_empty
  | build hix h ih =>
    refine keeps_buildWith h hix.grown.coherent.distinct ?_ ?_ ?_ ih
    · exact fun s c r hgives hs => hs.install hgives.mirrors
    · exact fun s names hs => hs.retain names
    · exact fun s t hcores hreferences hs => hs.congr hcores hreferences

/-- Two folders, of which one spells its name in a new way, and one has members. -/
def membered : Sources :=
  { namedFolders ["Card", "deck"] with
    readComponent := fun file _ => .ok (some
      { className := file.name, filePath := file.text, summary := some ""
        parameters := [{ name := "Size", type := "int" }]
        events := [{ name := "OnClick", argumentType := some "MouseEventArgs" }]
        methods := [{ name := "Close", returnType := "void", parameters := [{ name := "force", type := "bool" }] }] }) }

def bothFolders : List Crew.Move :=
  [.lead, .lead, .lead, .work 0, .work 0, .work 0, .work 0, .work 1, .work 1, .work 1, .work 1]

/-- A build that fails at the report of the first folder, when the worker is through both, and then a good one. -/
def twoBuilds : Option (Index × Unit × Except Failure Summary) :=
  (buildWith 1 { taxonomy := ⟨[], true⟩ } stumbling () (fun u => (u, .ok true)) (namedFolders ["button", "card"])
    ⟨"", []⟩ "now" (bothFolders ++ [.gather [0], .lead, .lead])).bind fun r =>
      r.1.buildWith 1 Watch.unattended () (fun u => (u, .ok true)) membered ⟨"", []⟩ "later"
        (bothFolders ++ [.gather [0, 1], .lead, .lead, .lead, .lead])

theorem mirrored_twoBuilds :
    ∃ past ix, Tended ⟨[], true⟩ past ix ∧ ix.store.names = ["card", "deck"] ∧
      ix.store.references.map ApiReference.typeName = ["Card", "deck"] ∧ ix.store.Distinct ∧ ix.store.Mirrored := by
  have hresult : twoBuilds.map (fun r => (r.1.store.names, r.1.store.references.map ApiReference.typeName)) =
      some (["card", "deck"], ["Card", "deck"]) := by decide +kernel
  obtain ⟨⟨ix', w', outcome⟩, hbuilds, hstored⟩ := Option.map_eq_some_iff.mp hresult
  obtain ⟨hnames, htypes⟩ := Prod.mk.inj hstored
  obtain ⟨⟨ix, w, failure⟩, hfirst, hsecond⟩ := Option.bind_eq_some_iff.mp hbuilds
  have htended := (Tended.fresh.build hfirst).build hsecond
  exact ⟨_, ix', htended, hnames, htypes, htended.mirrored⟩

end Index

end Catalog
