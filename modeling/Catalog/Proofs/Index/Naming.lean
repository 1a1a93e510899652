import Catalog.Proofs.Index.Fusion
import Catalog.Proofs.Index.Mirror

/-! The names of components and of their references. A component keeps the spelling under which it was first stored, its
reference has that of the latest one, and they are the same where all checkouts spell the name alike. -/
namespace Catalog

open Text

def Named (past : List Sources) (name : String) : Prop :=
  ∃ sources ∈ past, ∃ repository taxonomy c r, sources.Gives repository taxonomy c r ∧ c.name = name

theorem Named.ne_empty {past : List Sources} {name : String} (h : Named past name) : name ≠ "" := by
  obtain ⟨sources, -, repository, taxonomy, c, r, hgives, rfl⟩ := h
  obtain ⟨facts, category, path, hassign, rfl, -⟩ := hgives.exists_facts
  rw [taxonomy.assign_eq] at hassign
  split_ifs at hassign with hblank
  exact fun hempty => hblank (by rw [show facts.className = "" from hempty]; rfl)

namespace Store

variable {s t : Store} {past : List Sources} {c : Component} {r : ApiReference}

structure NamedBy (past : List Sources) (s : Store) : Prop where
  components : ∀ c ∈ s.components, Named past c.name
  references : ∀ r ∈ s.references, Named past r.typeName

theorem NamedBy.install (h : s.NamedBy past) (hc : Named past c.name) (hr : Named past r.typeName) :
    (s.install (c, r)).NamedBy past := by
  refine ⟨fun d hd => ?_, fun d hd => ?_⟩
  · rcases Keyed.eq_or_mem_of_mem_insert hd with rfl | hd | ⟨old, hold, -, rfl⟩
    · exact hc
    · exact h.components d hd
    · exact h.components old hold
  · rcases Keyed.eq_or_mem_of_mem_insert hd with rfl | hd | ⟨old, -, -, rfl⟩
    · exact hr
    · exact h.references d hd
    · exact hr

theorem NamedBy.retain (h : s.NamedBy past) (names : List String) : (s.retain names).NamedBy past :=
  ⟨fun c hc => h.components c (List.mem_of_mem_filter hc), fun r hr => h.references r (List.mem_of_mem_filter hr)⟩

theorem NamedBy.congr (h : s.NamedBy past)
    (hcores : t.components.map Component.core = s.components.map Component.core)
    (hreferences : t.references = s.references) : t.NamedBy past := by
  refine ⟨fun c hc => ?_, hreferences ▸ h.references⟩
  have hmem : c.core ∈ s.components.map Component.core := hcores ▸ List.mem_map_of_mem hc
  obtain ⟨d, hd, hcore⟩ := List.mem_map.mp hmem
  have hname : d.core.name = c.core.name := congrArg Component.name hcore
  change d.name = c.name at hname
  exact hname ▸ h.components d hd

theorem NamedBy.mono {past' : List Sources} (h : s.NamedBy past) (hsub : past ⊆ past') : s.NamedBy past' := by
  have hnamed {name : String} : Named past name → Named past' name := by
    rintro ⟨sources, hmem, hgives⟩
    exact ⟨sources, hsub hmem, hgives⟩
  exact ⟨fun c hc => hnamed (h.components c hc), fun r hr => hnamed (h.references r hr)⟩

end Store

namespace Index

variable {ix : Index} {mapper : Taxonomy} {past : List Sources} {c : Component}

theorem Tended.named (h : Tended mapper past ix) : ix.store.Mirrored ∧ ix.store.NamedBy past := by
  induction h with
  | fresh =>
    refine ⟨Store.mirrored_empty, ?_, ?_⟩
    · exact fun c hc => absurd hc List.not_mem_nil
    · exact fun r hr => absurd hr List.not_mem_nil
  | @build σ past ix ix' watch w w' ensure sources repository now moves outcome hix h ih =>
    obtain ⟨hmirrored, hnamed⟩ := ih
    have hbefore := hnamed.mono (List.subset_append_left past [sources])
    refine keeps_buildWith (P := fun s => s.Mirrored ∧ s.NamedBy (past ++ [sources])) h hix.grown.coherent.distinct
      (fun s c r hgives hs => ?_) (fun s names hs => ?_) (fun s t hcores hreferences hs => ?_) ⟨hmirrored, hbefore⟩
    · have hgiven : Named (past ++ [sources]) c.name :=
        ⟨sources, List.mem_append_right _ (List.mem_singleton_self _), repository, _, c, r, hgives, rfl⟩
      exact ⟨hs.1.install hgives.mirrors, hs.2.install hgiven (hgives.name_eq ▸ hgiven)⟩
    · exact ⟨hs.1.retain names, hs.2.retain names⟩
    · exact ⟨hs.1.congr hcores hreferences, hs.2.congr hcores hreferences⟩

/-- Where all checkouts have spelt the name of a component alike, its reference has that very name. -/
theorem reference_of_spelt_alike (h : Tended mapper past ix) (hix : ix.isIndexed = true)
    (hc : c ∈ ix.store.components) (ht : trim c.name = c.name)
    (halike : ∀ name, Named past name → key name = c.key → name = c.name) :
    ∃ r, ix.apiReference? c.name = .ok (some r) ∧ r.typeName = c.name := by
  have hdistinct := h.grown.coherent.distinct
  obtain ⟨hmirrored, hnamed⟩ := h.named
  have hne := (hnamed.components c hc).ne_empty
  have hpair := hmirrored c.key
  rw [hdistinct.componentAt?_eq_some_iff.mpr ⟨hc, rfl⟩] at hpair
  generalize hfound : ix.store.referenceAt? c.key = found at hpair
  cases hpair with
  | @some _ r hmirrors =>
    obtain ⟨hmem, hkey⟩ := hdistinct.referenceAt?_eq_some_iff.mp hfound
    have hlookUp : lookUp ix.store.reference? c.name = some r := by
      rw [lookUp_eq (reference?_congr _) (spells_self _) ht hne, show ix.store.reference? c.name = some r from hfound]
      rfl
    refine ⟨r, ?_, halike r.typeName (hnamed.references r hmem) hkey⟩
    rw [apiReference?_eq hix, hlookUp]

/-- Folders of the name of their component give no other name. -/
theorem mem_of_named_namedFolders {names : List String} {name : String} (h : Named [namedFolders names] name) :
    name ∈ names := by
  obtain ⟨sources, hmem, repository, taxonomy, c, r, ⟨folder, hfolder, cancelled, hread⟩, rfl⟩ := h
  rw [List.mem_singleton.mp hmem] at hfolder hread
  obtain ⟨name, hname, rfl⟩ := List.mem_map.mp hfolder
  unfold Build.readFolder namedFolders at hread
  simp only [bind, Except.bind] at hread
  split at hread
  · cases hread
  · cases hread
    exact hname

def speltAlike : Sources :=
  namedFolders ["BitButton", "BitCard"]

theorem reference_of_spelt_alike_card :
    ∃ ix, Tended {} [speltAlike] ix ∧ ∃ r, ix.apiReference? "BitCard" = .ok (some r) ∧ r.typeName = "BitCard" := by
  obtain ⟨moves, hmoves⟩ :=
    exists_buildWith_eq {} Watch.unattended () (fun u => (u, .ok true)) speltAlike ⟨"", []⟩ "now"
  generalize hbuild : build {} Watch.unattended () (fun u => (u, .ok true)) speltAlike ⟨"", []⟩ "now" = built at hmoves
  obtain ⟨hindexed, hstored⟩ : built.1.isIndexed = true ∧ ∃ c ∈ built.1.store.components, c.name = "BitCard" := by
    rw [← hbuild]
    decide +kernel
  obtain ⟨ix, w, outcome⟩ := built
  obtain ⟨c, hc, hname⟩ := hstored
  have htended : Tended {} [speltAlike] ix := Tended.fresh.build hmoves
  have halike (name : String) (hnamed : Named [speltAlike] name) (hkey : key name = c.key) : name = c.name := by
    have hspellings : ∀ name ∈ ["BitButton", "BitCard"], key name = key "BitCard" → name = "BitCard" := by
      decide +kernel
    rw [hname]
    exact hspellings name (mem_of_named_namedFolders hnamed) (hkey.trans (congrArg key hname))
  have hreference := reference_of_spelt_alike htended hindexed hc (by rw [hname]; decide +kernel) halike
  rw [hname] at hreference
  exact ⟨ix, htended, hreference⟩

/-- After one good build of an empty index, over two folders that spell a name differently, the component has the first
spelling and its reference the second. -/
theorem reference_of_spelt_differently :
    ∃ ix c r, Tended {} [namedFolders ["BitButton", "BITBUTTON"]] ix ∧ ix.isIndexed = true ∧
      c ∈ ix.store.components ∧ c.name = "BitButton" ∧ ix.apiReference? c.name = .ok (some r) ∧
      r.typeName = "BITBUTTON" := by
  obtain ⟨moves, hmoves⟩ := exists_buildWith_eq {} Watch.unattended () (fun u => (u, .ok true))
    (namedFolders ["BitButton", "BITBUTTON"]) ⟨"", []⟩ "now"
  generalize hbuild : build {} Watch.unattended () (fun u => (u, .ok true)) (namedFolders ["BitButton", "BITBUTTON"])
    ⟨"", []⟩ "now" = built at hmoves
  obtain ⟨hindexed, hstored, hanswer⟩ : built.1.isIndexed = true ∧
      (∃ c ∈ built.1.store.components, c.name = "BitButton") ∧
      (built.1.apiReference? "BitButton").map (Option.map ApiReference.typeName) = .ok (some "BITBUTTON") := by
    rw [← hbuild]
    decide +kernel
  obtain ⟨ix, w, outcome⟩ := built
  obtain ⟨c, hc, hname⟩ := hstored
  cases hfound : ix.apiReference? "BitButton" with
  | error failure =>
    rw [hfound] at hanswer
    cases hanswer
  | ok found =>
    rw [hfound] at hanswer
    obtain ⟨r, rfl, htype⟩ := Option.map_eq_some_iff.mp (Except.ok.inj hanswer)
    exact ⟨ix, c, r, Tended.fresh.build hmoves, hindexed, hc, hname, hname ▸ hfound, htype⟩

end Index
end Catalog
