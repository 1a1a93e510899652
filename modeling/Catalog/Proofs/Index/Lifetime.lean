import Catalog.Proofs.Index.Abort

/-! The life of an index that begins empty: after any attempts to build, whether they succeeded, failed or were
cancelled, no key is there twice, every reference is that of a component, and the taxonomy is the one it was. -/
namespace Catalog

namespace Store

variable {s t : Store}

def Covered (s : Store) : Prop :=
  ∀ k ∈ s.referenceKeys, k ∈ s.keys

theorem covered_empty : empty.Covered :=
  fun _ hk => by cases hk

theorem Covered.congr (h : s.Covered) (hkeys : t.keys = s.keys) (hreferences : t.references = s.references) :
    t.Covered := by
  intro k hk
  rw [referenceKeys, hreferences] at hk
  rw [hkeys]
  exact h k hk

theorem Distinct.congr (h : s.Distinct) (hkeys : t.keys = s.keys) (hreferences : t.references = s.references) :
    t.Distinct := by
  constructor
  · rw [hkeys]
    exact h.keys
  · rw [Store.referenceKeys, hreferences]
    exact h.referenceKeys

/-- A component takes its reference with it. -/
theorem Covered.retain (h : s.Covered) (names : List String) : (s.retain names).Covered := by
  intro k hk
  obtain ⟨hreference, hkept⟩ := mem_referenceKeys_retain.mp hk
  have hs : k ∈ s.keys := h k hreference
  by_cases hn : k ∈ names.map key
  · exact mem_keys_retain.mpr ⟨hs, hn⟩
  · exact absurd ⟨hs, hn⟩ hkept

end Store

theorem Errand.placed?_of_finished? {e : Errand} {name : String} (h : e.finished? = some name) :
    e.placed? = some name := by
  unfold Errand.finished? at h
  split at h
  · exact h
  · cases h

namespace Crew

variable {σ : Type} {sources : Sources} {repository : Path} {b : Workbench σ} {crew : Crew σ}

/-- A worker puts the component first and its reference afterwards. -/
theorem Sound.covered_replay (hs : Sound sources repository b crew) (hb : b.store.Covered) :
    (b.store.replay crew.written).Covered := by
  intro k hk
  rcases (Store.mem_referenceKeys_replay_of_writes hs.isWrite).mp hk with hk | ⟨r, hr, rfl⟩
  · exact (Store.mem_keys_replay_of_writes hs.isWrite).mpr (.inl (hb k hk))
  · have hfinished := (hs.putReference_iff r.typeName).mpr ⟨r, hr, rfl⟩
    have hplaced : Has Errand.placed? crew.errands crew.tally r.typeName :=
      hfinished.imp_right fun ⟨e, he, hname⟩ => ⟨e, he, Errand.placed?_of_finished? hname⟩
    obtain ⟨c, hc, hname⟩ := (hs.put_iff r.typeName).mp hplaced
    exact (Store.mem_keys_replay_of_writes hs.isWrite).mpr (.inr ⟨c, hc, congrArg key hname⟩)

end Crew

namespace Build

variable {σ : Type} {watch : Watch σ} {repository : Path} {b b' : Workbench σ}

/-- What fails before the phases has changed nothing. -/
theorem prepare_error {available : Except Failure Bool} {failure : Failure}
    (h : prepare watch repository available b = .error failure b') : contents b' = contents b := by
  unfold prepare at h
  cases available with
  | error _ => cases h; rfl
  | ok isThere =>
    have hcheck := unwatched_contents.check watch
    rw [bind_of_ok (show (lift (.ok isThere) : BuildM σ Bool) b = .ok isThere b from rfl)] at h
    cases hc : check watch b with
    | error _ b₁ =>
      rw [bind_of_error hc] at h
      cases h
      exact hcheck.error hc
    | ok _ b₁ =>
      rw [bind_of_ok hc] at h
      cases isThere with
      | false => cases h; exact hcheck.ok hc
      | true =>
        cases hr : report watch (.synced repository.text) b₁ with
        | error _ b₂ =>
          have hreport := ((unwatched_contents.report watch _).error hr).trans (hcheck.ok hc)
          cases (bind_of_error hr).symm.trans h
          exact hreport
        | ok _ b₂ => cases (bind_of_ok hr).symm.trans h

end Build

theorem Taxonomy.fill_fill (t : Taxonomy) : t.fill.fill = t.fill := by
  unfold fill
  split_ifs <;> simp_all

namespace Index

variable {σ : Type} {watch : Watch σ} {sources : Sources} {repository : Path} {ix ix' : Index} {extent : Extent}
  {outcome : Except Failure Summary} {mapper : Taxonomy}

/-- An index in the course of its life: it began empty with this taxonomy, and attempts to build followed one after
another, each over a checkout of its own. -/
inductive Grown (mapper : Taxonomy) : Index → Prop
  | fresh : Grown mapper { taxonomy := mapper }
  | attempt {σ : Type} {watch : Watch σ} {sources : Sources} {repository : Path} {ix ix' : Index} {extent : Extent}
      {outcome : Except Failure Summary} (hix : Grown mapper ix)
      (h : ix.Attempt watch sources repository extent outcome ix') : Grown mapper ix'

structure Coherent (mapper : Taxonomy) (ix : Index) : Prop where
  distinct : ix.store.Distinct
  covered : ix.store.Covered
  taxonomy : ix.taxonomy.fill = mapper.fill

theorem Coherent.attempt (hix : ix.Coherent mapper) (h : ix.Attempt watch sources repository extent outcome ix') :
    ix'.Coherent mapper := by
  -- phases two and three keep what phase one has left
  have henriched {ix₁ : Index} {b b' : Workbench σ} {moves : List Crew.Move} {crew : Crew σ} {tally : Build.Tally}
      (hb : ix.Prepared watch repository ix₁ b)
      (hcrew : (Crew.start sources b).run watch sources repository moves = crew)
      (hlead : crew.lead = .ended (.ok tally)) (hframe : Build.frame b' = Build.frame crew.bench) :
      b'.store.Distinct ∧ b'.store.Covered ∧ b'.taxonomy.fill = mapper.fill := by
    have hs := Crew.sound_run hcrew
    obtain ⟨hstore, htaxonomy⟩ := hb.contents_eq
    obtain ⟨-, -, hretain⟩ := hs.ended tally (by rw [hlead]; rfl)
    obtain ⟨hkeys, hrest⟩ := Prod.mk.inj hframe
    obtain ⟨hreferences, htaxonomy'⟩ := Prod.mk.inj hrest
    have hcovered := hs.covered_replay (by rw [hstore]; exact hix.covered)
    rw [hretain] at hkeys hreferences
    rw [hstore] at hkeys hreferences hcovered
    refine ⟨?_, ?_, ?_⟩
    · exact ((hix.distinct.replay _).retain _).congr hkeys hreferences
    · exact (hcovered.retain _).congr hkeys hreferences
    · rw [htaxonomy', hs.taxonomy, htaxonomy, Taxonomy.fill_fill]
      exact hix.taxonomy
  cases h with
  | refused w w' _ failure hbegin =>
    rcases beginBuild_error hbegin with rfl | rfl
    · exact hix
    · exact ⟨hix.distinct, hix.covered, hix.taxonomy⟩
  | unprepared w w₁ w₂ ix₁ available failure b now hbegin hprepare =>
    rw [beginBuild_ok hbegin] at hprepare
    obtain ⟨hstore, htaxonomy⟩ := Prod.mk.inj (Build.prepare_error hprepare)
    refine ⟨?_, ?_, ?_⟩
    · exact (congrArg Store.Distinct hstore).mpr hix.distinct
    · exact (congrArg Store.Covered hstore).mpr hix.covered
    · exact (congrArg Taxonomy.fill htaxonomy).trans hix.taxonomy
  | interrupted ix₁ b moves crew failure now hb hcrew hlead =>
    have hs := Crew.sound_run hcrew
    obtain ⟨hstore, htaxonomy⟩ := hb.contents_eq
    have hopen : crew.bench.store = b.store.replay crew.written := hs.open_store (by rw [hlead]; rfl)
    have hcovered := hs.covered_replay (by rw [hstore]; exact hix.covered)
    rw [hstore] at hopen hcovered
    refine ⟨?_, ?_, ?_⟩
    · exact (congrArg Store.Distinct hopen).mpr (hix.distinct.replay _)
    · exact (congrArg Store.Covered hopen).mpr hcovered
    · change crew.bench.taxonomy.fill = mapper.fill
      rw [hs.taxonomy, htaxonomy, Taxonomy.fill_fill]
      exact hix.taxonomy
  | abandoned ix₁ b b' moves crew tally failure now hb hcrew hlead henrich =>
    obtain ⟨hd, hc, ht⟩ := henriched hb hcrew hlead ((Build.keeps_frame_enrich watch sources tally).error henrich)
    exact ⟨hd, hc, ht⟩
  | completed ix₁ b b' moves crew tally summary now hb hcrew hlead henrich =>
    obtain ⟨hd, hc, ht⟩ := henriched hb hcrew hlead ((Build.keeps_frame_enrich watch sources tally).ok henrich)
    exact ⟨hd, hc, ht⟩

theorem Grown.coherent (h : Grown mapper ix) : ix.Coherent mapper := by
  induction h with
  | fresh => exact ⟨Store.distinct_empty, Store.covered_empty, rfl⟩
  | attempt _ h ih => exact ih.attempt h

end Index
end Catalog
