import Catalog.Proofs.Index.Lifetime
import Catalog.Proofs.Index.SingleWorker

/-! Where the components of a store come from: what every entry of a folder has, and keeps when a page completes it,
when it gets examples and when it takes over a stored spelling, is had by every component that builds put into a
store. -/
namespace Catalog

namespace Store

variable {s : Store} {c : Component} {P : Component → Prop}

def Each (P : Component → Prop) (s : Store) : Prop :=
  ∀ c ∈ s.components, P c

theorem each_empty (P : Component → Prop) : empty.Each P :=
  fun _ hc => absurd hc List.not_mem_nil

/-- A component that is put may take over the spelling of its name that is stored already. -/
theorem Each.put (h : s.Each P) (hc : P c) (hnamed : ∀ old : Component, old.key = c.key → P (old.named c)) :
    (s.put c).Each P := by
  intro d hd
  rcases Keyed.eq_or_mem_of_mem_insert hd with rfl | hd | ⟨old, -, hkey, rfl⟩
  · exact hc
  · exact h d hd
  · exact hnamed old hkey

theorem Each.retain (h : s.Each P) (names : List String) : (s.retain names).Each P :=
  fun c hc => h c (List.mem_of_mem_filter hc)

end Store

/-- What these sources tell of components, to a taxonomy about a checkout, has the property and keeps it. -/
structure Sources.Maintains (sources : Sources) (repository : Path) (taxonomy : Taxonomy) (P : Component → Prop) :
    Prop where
  /-- The property does not depend on the spelling of the name. -/
  named : ∀ old new : Component, old.key = new.key → P new → P (old.named new)
  given : ∀ c r, sources.Gives repository taxonomy c r → P c
  documented : ∀ c page, sources.GivesPage page → page.componentName.map key = some c.key → P c →
    P (Build.documented c page)
  illustrated : ∀ c examples, sources.GivesExamples c.name examples → P c → P { c with examples := examples }

namespace Sources.Maintains

variable {σ : Type} {watch : Watch σ} {sources : Sources} {repository : Path} {taxonomy : Taxonomy}
  {P : Component → Prop} {s : Store}

theorem put {c : Component} (h : sources.Maintains repository taxonomy P) (hs : s.Each P) (hc : P c) :
    (s.put c).Each P :=
  hs.put hc fun old hkey => h.named old c hkey hc

/-- What phase one writes keeps the property of all components. -/
theorem replay (h : sources.Maintains repository taxonomy P) (hs : s.Each P) {l : List Store.Change}
    (hl : ∀ ch ∈ l, ∃ c r, sources.Gives repository taxonomy c r ∧ (ch = .put c ∨ ch = .putReference r)) :
    (s.replay l).Each P := by
  induction l generalizing s with
  | nil => exact hs
  | cons ch l ih =>
    obtain ⟨hfirst, hrest⟩ := List.forall_mem_cons.mp hl
    obtain ⟨c, r, hgives, rfl | rfl⟩ := hfirst
    · exact ih (h.put hs (h.given c r hgives)) hrest
    · exact ih hs hrest

/-- Phases two and three keep the property of all components. -/
theorem enrich (h : sources.Maintains repository taxonomy P) (watch : Watch σ) (tally : Build.Tally) :
    Build.KeepsIf id (fun b : Workbench σ => b.store.Each P) (Build.enrich watch sources tally) := by
  have hunwatched : Build.Unwatched (fun b : Workbench σ => b.store.Each P) := fun _ _ => rfl
  refine hunwatched.keepsIf_enrich (fun b page c hb hgives hs => ?_) (fun b hb c hc b' examples hb' hgives => ?_) tally
  · obtain ⟨hc, hkey⟩ := Build.mem_of_subjectOf hs
    exact propext (iff_of_true (h.put hb (h.documented c page hgives hkey (hb c hc))) hb)
  · have hput : P { c with examples := examples } := h.illustrated c examples hgives (hb c hc)
    have heach : b'.store.Each P := hb'.mpr hb
    exact propext (iff_of_true (h.put heach hput) heach)

end Sources.Maintains

namespace Index

variable {σ : Type} {watch : Watch σ} {sources : Sources} {repository : Path} {ix ix' : Index} {extent : Extent}
  {outcome : Except Failure Summary} {mapper : Taxonomy} {P : Component → Prop} {kind : Sources → Prop}

/-- What phase one writes was given by folders. -/
theorem Attempt.gives (h : ix.Attempt watch sources repository extent outcome ix') :
    ∀ ch ∈ extent.written, ∃ c r, sources.Gives repository ix.taxonomy.fill c r ∧
      (ch = .put c ∨ ch = .putReference r) := by
  have hcrew {ix₁ : Index} {b : Workbench σ} {moves : List Crew.Move} {crew : Crew σ}
      (hb : ix.Prepared watch repository ix₁ b)
      (hcrew : (Crew.start sources b).run watch sources repository moves = crew) :
      ∀ ch ∈ crew.written, ∃ c r, sources.Gives repository ix.taxonomy.fill c r ∧
        (ch = .put c ∨ ch = .putReference r) := by
    have hgives := (Crew.sound_run hcrew).gives
    rwa [hb.contents_eq.2] at hgives
  cases h with
  | refused => exact fun ch hch => absurd hch List.not_mem_nil
  | unprepared => exact fun ch hch => absurd hch List.not_mem_nil
  | interrupted ix₁ b moves crew failure now hb hrun hlead => exact hcrew hb hrun
  | abandoned ix₁ b b' moves crew tally failure now hb hrun hlead henrich => exact hcrew hb hrun
  | completed ix₁ b b' moves crew tally summary now hb hrun hlead henrich => exact hcrew hb hrun

/-- However an attempt ends, every component has the property afterwards that its sources maintain. -/
theorem Attempt.each (h : ix.Attempt watch sources repository extent outcome ix')
    (hmaintains : sources.Maintains repository ix.taxonomy.fill P) (hix : ix.store.Each P) : ix'.store.Each P :=
  h.keeps_store (hmaintains.replay hix h.gives) (fun _ names hs => hs.retain names) (hmaintains.enrich watch)

/-- An index in the course of its life: it began empty with this taxonomy, and attempts to build followed one after
another, each over a checkout of its own, all read by sources of one kind. -/
inductive FilledFrom (kind : Sources → Prop) (mapper : Taxonomy) : Index → Prop
  | fresh : FilledFrom kind mapper { taxonomy := mapper }
  | attempt {σ : Type} {watch : Watch σ} {sources : Sources} {repository : Path} {ix ix' : Index} {extent : Extent}
      {outcome : Except Failure Summary} (hix : FilledFrom kind mapper ix) (hkind : kind sources)
      (h : ix.Attempt watch sources repository extent outcome ix') : FilledFrom kind mapper ix'

theorem FilledFrom.grown (h : FilledFrom kind mapper ix) : Grown mapper ix := by
  induction h with
  | fresh => exact .fresh
  | attempt _ _ h ih => exact ih.attempt h

theorem FilledFrom.build (hix : FilledFrom kind mapper ix) (hkind : kind sources) (watch : Watch σ) (w : σ)
    (ensure : σ → σ × Except Failure Bool) (repository : Path) (now : String) :
    FilledFrom kind mapper (ix.build watch w ensure sources repository now).1 := by
  generalize hbuild : ix.build watch w ensure sources repository now = built
  obtain ⟨ix', w', outcome⟩ := built
  obtain ⟨extent, h⟩ := attempt_build hbuild
  exact .attempt hix hkind h

/-- However the builds ended, every component has the property that sources of this kind maintain. -/
theorem FilledFrom.each (h : FilledFrom kind mapper ix)
    (hmaintains : ∀ sources repository taxonomy, kind sources → sources.Maintains repository taxonomy P) :
    ix.store.Each P := by
  induction h with
  | fresh => exact Store.each_empty P
  | attempt _ hkind h ih => exact h.each (hmaintains _ _ _ hkind) ih

end Index

end Catalog
