import Catalog.Index.Turn
import Catalog.Proofs.Index.Crew
import Catalog.Proofs.Index.Phases

/-! Builds that fail: whatever the reason and wherever it happens, the index counts no build, is free again, and has
lost nothing of its store before phase one was through. -/
namespace Catalog

def Sources.GivesPage (sources : Sources) (page : PageFacts) : Prop :=
  ∃ file cancelled, sources.readPage file cancelled = .ok (some page)

def Sources.GivesExamples (sources : Sources) (name : String) (examples : List Example) : Prop :=
  ∃ cancelled, sources.findExamples name cancelled = .ok examples

namespace Build

variable {σ : Type} {watch : Watch σ} {sources : Sources} {b : Workbench σ}

theorem eq_ok_of_map_someExamples {r : Except Failure (List Example)} {examples : List Example}
    (h : r.map someExamples = .ok (some examples)) : r = .ok examples := by
  match r with
  | .ok (e :: l) => cases h; rfl

section Enrichment

variable {γ : Type} {view : Workbench σ → γ} {p : γ → Prop}

/-- Where the component that a page is about is put again, what is seen stays as it is. -/
theorem Unwatched.keepsIf_indexPage (hv : Unwatched view)
    (hput : ∀ b page c, p (view b) → sources.GivesPage page → subjectOf b.store page = some c →
      view { b with store := b.store.put (documented c page) } = view b) (file : Path) (count : Count) :
    KeepsIf p view (indexPage watch sources file count) := by
  refine ((hv.readItem watch _).keepsIf p).bind_of_ok fun read b₀ b₁ hread => ?_
  cases read with
  | found page =>
    have hgives : sources.GivesPage page := ⟨file, readItem_found hread⟩
    intro b hb
    simp only [get_bind]
    cases hs : subjectOf b.store page with
    | some c => exact hput b page c hb hgives hs
    | none => rfl
  | nothing => exact (Keeps.pure count).keepsIf _
  | failed => exact (Keeps.pure _).keepsIf _

/-- Where a component gets examples, what is seen stays as it is. -/
theorem Unwatched.keepsIf_indexExample (hv : Unwatched view) {c : Component}
    (hput : ∀ b examples, p (view b) → sources.GivesExamples c.name examples →
      view { b with store := b.store.put { c with examples := examples } } = view b) (count : Count) :
    KeepsIf p view (indexExample watch sources c count) := by
  refine ((hv.readItem watch _).keepsIf p).bind_of_ok fun read b₀ b₁ hread => ?_
  cases read with
  | found examples =>
    have hgives : sources.GivesExamples c.name examples := by
      obtain ⟨cancelled, hfound⟩ := readItem_found hread
      exact ⟨cancelled, eq_ok_of_map_someExamples hfound⟩
    exact fun b hb => hput b examples hb hgives
  | nothing => exact (Keeps.pure count).keepsIf _
  | failed => exact (Keeps.pure _).keepsIf _

theorem Unwatched.keepsIf_indexPages (hv : Unwatched view)
    (hpage : ∀ file count, KeepsIf p view (indexPage watch sources file count)) (total current : ℕ)
    (files : List Path) (count : Count) : KeepsIf p view (indexPages watch sources total current files count) := by
  induction files generalizing current count with
  | nil => exact (Keeps.pure count).keepsIf _
  | cons file files ih =>
    refine ((hv.check watch).keepsIf _).bind fun _ => ?_
    refine ((hv.report watch _).keepsIf _).bind fun _ => ?_
    exact (hpage file count).bind fun count => ih (current + 1) count

theorem Unwatched.keepsIf_indexExamples (hv : Unwatched view) {components : List Component}
    (hexample : ∀ c ∈ components, ∀ count, KeepsIf p view (indexExample watch sources c count)) (total current : ℕ)
    (count : Count) : KeepsIf p view (indexExamples watch sources total current components count) := by
  induction components generalizing current count with
  | nil => exact (Keeps.pure count).keepsIf _
  | cons c components ih =>
    refine ((hv.check watch).keepsIf _).bind fun _ => ?_
    refine ((hv.report watch _).keepsIf _).bind fun _ => ?_
    refine (hexample c List.mem_cons_self count).bind fun count => ?_
    exact ih (fun d hd => hexample d (List.mem_cons_of_mem c hd)) (current + 1) count

/-- Phases two and three keep what each page keeps, and what each component keeps that was stored when phase three
began. -/
theorem Unwatched.keepsIf_enrich (hv : Unwatched view)
    (hpage : ∀ b page c, p (view b) → sources.GivesPage page → subjectOf b.store page = some c →
      view { b with store := b.store.put (documented c page) } = view b)
    (hexample : ∀ b, p (view b) → ∀ c ∈ b.store.components, ∀ b' examples, view b' = view b →
      sources.GivesExamples c.name examples →
      view { b' with store := b'.store.put { c with examples := examples } } = view b') (tally : Tally) :
    KeepsIf p view (enrich watch sources tally) := by
  refine (hv.keepsIf_indexPages (hv.keepsIf_indexPage hpage) _ _ _ _).bind fun pages => ?_
  intro b hb
  rw [get_bind]
  have hexamples : KeepsIf (fun v => v = view b) view
      (indexExamples watch sources b.store.components.length 1 b.store.components {} >>= fun examples =>
        pure (⟨tally.names.length, pages.changed, examples.changed,
          tally.errors + pages.errors + examples.errors⟩ : Summary)) :=
    (hv.keepsIf_indexExamples (fun c hc => hv.keepsIf_indexExample (hexample b hb c hc)) _ _ _).bind
      fun examples => (Keeps.pure _).keepsIf _
  exact hexamples b rfl

end Enrichment

/-- What the later phases leave alone: the keys of the store, its references, and the taxonomy. -/
def frame (b : Workbench σ) : List String × List ApiReference × Taxonomy :=
  (b.store.keys, b.store.references, b.taxonomy)

theorem unwatched_frame : Unwatched (frame (σ := σ)) :=
  fun _ _ => rfl

theorem frame_put {c : Component} (h : c.key ∈ b.store.keys) : frame { b with store := b.store.put c } = frame b :=
  Prod.ext (Store.keys_put_of_mem h) rfl

/-- Phases two and three keep the frame. -/
theorem keeps_frame_enrich (watch : Watch σ) (sources : Sources) (tally : Tally) :
    Keeps frame (enrich watch sources tally) := by
  refine (unwatched_frame.keepsIf_enrich (fun b page c _ _ hs => ?_) (fun b _ c hc b' examples hb' _ => ?_) tally).keeps
  · have hk : c.key ∈ b.store.keys := mem_keys_of_subjectOf hs
    exact frame_put hk
  · have hkeys : b'.store.keys = b.store.keys := congrArg Prod.fst hb'
    have hk : c.key ∈ b'.store.keys := hkeys ▸ List.mem_map_of_mem hc
    exact frame_put hk

def skeleton (b : Workbench σ) : List String × List ApiReference :=
  (b.store.keys, b.store.references)

theorem keeps_enrich (watch : Watch σ) (sources : Sources) (tally : Tally) :
    Keeps skeleton (enrich watch sources tally) :=
  fun b => congrArg (fun f => (f.1, f.2.1)) (keeps_frame_enrich watch sources tally b)

/-- What comes before the phases leaves the store alone. -/
theorem keeps_prepare (watch : Watch σ) (repository : Path) (available : Except Failure Bool) :
    Keeps Workbench.store (prepare watch repository available) := by
  have hv : Unwatched (Workbench.store (σ := σ)) := fun _ _ => rfl
  refine (Keeps.lift available).bind fun isThere => (hv.check watch).bind fun _ => ?_
  cases isThere with
  | false => exact fun b => rfl
  | true => exact (hv.report watch _).bind fun _ b => rfl

end Build

/-- How far an attempt to build came, with what phase one wrote. -/
inductive Extent where
  | preparation
  | components (written : List Store.Change)
  | enrichment (written : List Store.Change)

namespace Extent

def written : Extent → List Store.Change
  | preparation => []
  | components written => written
  | enrichment written => written

def keys (extent : Extent) : Set String :=
  { k | ∃ c, .put c ∈ extent.written ∧ c.key = k }

def referenceKeys (extent : Extent) : Set String :=
  { k | ∃ r, .putReference r ∈ extent.written ∧ r.key = k }

/-- What a failed attempt of this extent makes of a store. -/
def Leaves (extent : Extent) (before after : Store) : Prop :=
  match extent with
  | preparation => after = before
  | components _ =>
    (∀ k ∈ before.keys, k ∈ after.keys) ∧ (∀ k ∈ before.referenceKeys, k ∈ after.referenceKeys) ∧
      (∀ (n : ℕ) (c : Component), c.key ∉ extent.keys →
        (after.components[n]? = some c ↔ before.components[n]? = some c)) ∧
      ∀ (n : ℕ) (r : ApiReference), r.key ∉ extent.referenceKeys →
        (after.references[n]? = some r ↔ before.references[n]? = some r)
  | enrichment _ =>
    (∀ k, k ∈ after.keys ↔ k ∈ extent.keys) ∧
      ∀ k, k ∈ after.referenceKeys ↔ k ∈ extent.keys ∨ (k ∈ before.referenceKeys ∧ k ∉ before.keys)

/-- After phase one only the keys of a store and its references count. -/
theorem Leaves.congr {l : List Store.Change} {before s s' : Store} (h : (enrichment l).Leaves before s)
    (hkeys : s'.keys = s.keys) (hreferences : s'.references = s.references) : (enrichment l).Leaves before s' := by
  have hreferenceKeys : s'.referenceKeys = s.referenceKeys := congrArg (List.map ApiReference.key) hreferences
  refine ⟨fun k => ?_, fun k => ?_⟩
  · rw [hkeys]
    exact h.1 k
  · rw [hreferenceKeys]
    exact h.2 k

end Extent

namespace Index

variable {σ : Type} {watch : Watch σ} {sources : Sources} {repository : Path} {ix ix' ix₁ : Index} {b : Workbench σ}
  {extent : Extent} {outcome : Except Failure Summary}

/-- The repository is there, and the phases of a build can begin on a workbench. -/
def Prepared (ix : Index) (watch : Watch σ) (repository : Path) (ix₁ : Index) (b : Workbench σ) : Prop :=
  ∃ w w₁ w₂ available, ix.beginBuild watch w = (ix₁, w₁, .ok ()) ∧
    Build.prepare watch repository available (ix₁.workbench w₂) = .ok () b

/-- An attempt to build an index, with any number of workers in phase one who make their steps in any order. -/
inductive Attempt (ix : Index) (watch : Watch σ) (sources : Sources) (repository : Path) :
    Extent → Except Failure Summary → Index → Prop
  | refused (w w' : σ) (ix' : Index) (failure : Failure)
      (hbegin : ix.beginBuild watch w = (ix', w', .error failure)) :
      Attempt ix watch sources repository .preparation (.error failure) ix'
  | unprepared (w w₁ w₂ : σ) (ix₁ : Index) (available : Except Failure Bool) (failure : Failure) (b : Workbench σ)
      (now : String) (hbegin : ix.beginBuild watch w = (ix₁, w₁, .ok ()))
      (hprepare : Build.prepare watch repository available (ix₁.workbench w₂) = .error failure b) :
      Attempt ix watch sources repository .preparation (.error failure)
        (ix₁.settle b.store b.taxonomy now (.error failure))
  | interrupted (ix₁ : Index) (b : Workbench σ) (moves : List Crew.Move) (crew : Crew σ) (failure : Failure)
      (now : String) (hb : ix.Prepared watch repository ix₁ b)
      (hcrew : (Crew.start sources b).run watch sources repository moves = crew)
      (hlead : crew.lead = .ended (.error failure)) :
      Attempt ix watch sources repository (.components crew.written) (.error failure)
        (ix₁.settle crew.bench.store crew.bench.taxonomy now (.error failure))
  | abandoned (ix₁ : Index) (b b' : Workbench σ) (moves : List Crew.Move) (crew : Crew σ) (tally : Build.Tally)
      (failure : Failure) (now : String) (hb : ix.Prepared watch repository ix₁ b)
      (hcrew : (Crew.start sources b).run watch sources repository moves = crew)
      (hlead : crew.lead = .ended (.ok tally))
      (henrich : Build.enrich watch sources tally crew.bench = .error failure b') :
      Attempt ix watch sources repository (.enrichment crew.written) (.error failure)
        (ix₁.settle b'.store b'.taxonomy now (.error failure))
  | completed (ix₁ : Index) (b b' : Workbench σ) (moves : List Crew.Move) (crew : Crew σ) (tally : Build.Tally)
      (summary : Summary) (now : String) (hb : ix.Prepared watch repository ix₁ b)
      (hcrew : (Crew.start sources b).run watch sources repository moves = crew)
      (hlead : crew.lead = .ended (.ok tally))
      (henrich : Build.enrich watch sources tally crew.bench = .ok summary b') :
      Attempt ix watch sources repository (.enrichment crew.written) (.ok summary)
        (ix₁.settle b'.store b'.taxonomy now (.ok summary))

/-- The states of an index between builds: it begins with a store of any history, and attempts to build follow one
after another, each by another caller over another checkout. -/
inductive Reached : Index → Prop
  | fresh (history : List Store.Change) (taxonomy : Taxonomy) :
      Reached { store := Store.empty.replay history, taxonomy := taxonomy }
  | attempt {σ : Type} {watch : Watch σ} {sources : Sources} {repository : Path} {ix ix' : Index} {extent : Extent}
      {outcome : Except Failure Summary} (hix : Reached ix)
      (h : ix.Attempt watch sources repository extent outcome ix') : Reached ix'

theorem beginBuild_error {w w' : σ} {failure : Failure} (h : ix.beginBuild watch w = (ix', w', .error failure)) :
    ix' = ix ∨ ix' = ix.release := by
  unfold beginBuild at h
  split at h
  · cases h; exact .inl rfl
  · split at h
    · cases h
    · cases h; exact .inr rfl

theorem Prepared.index_eq (h : ix.Prepared watch repository ix₁ b) : ix₁ = ix.take.enter := by
  obtain ⟨w, w₁, w₂, available, hbegin, -⟩ := h
  exact beginBuild_ok hbegin

theorem Prepared.contents_eq (h : ix.Prepared watch repository ix₁ b) :
    b.store = ix.store ∧ b.taxonomy = ix.taxonomy.fill := by
  obtain ⟨w, w₁, w₂, available, hbegin, hprepare⟩ := h
  rw [beginBuild_ok hbegin] at hprepare
  exact Build.prepare_ok hprepare

/-- An attempt gives the turn back, however it ends. -/
theorem Attempt.free (h : ix.Attempt watch sources repository extent outcome ix')
    (hix : ix.isBuilding = false ∧ ix.isTaken = false) : ix'.isBuilding = false ∧ ix'.isTaken = false := by
  cases h with
  | refused w w' _ failure hbegin =>
    rcases beginBuild_error hbegin with rfl | rfl
    · exact hix
    · exact ⟨rfl, rfl⟩
  | _ => exact ⟨rfl, rfl⟩

theorem Reached.free (h : ix.Reached) : ix.isBuilding = false ∧ ix.isTaken = false := by
  induction h with
  | fresh history taxonomy => exact ⟨rfl, rfl⟩
  | attempt _ h ih => exact h.free ih

/-- What a failed attempt leaves behind. -/
structure Aborted (sources : Sources) (repository : Path) (extent : Extent) (ix ix' : Index) : Prop where
  isIndexed : ix'.isIndexed = ix.isIndexed
  lastIndexed : ix'.lastIndexed = ix.lastIndexed
  generation : ix'.generation = ix.generation
  lastSummary : ix'.lastSummary = ix.lastSummary
  isBuilding : ix'.isBuilding = false
  isTaken : ix'.isTaken = false
  /-- Whoever waits for his turn can take it. -/
  takeable : ∀ observed cancelled, ((Progression.waiting observed).advance ix' cancelled .take).isSome = true
  gives : ∀ ch ∈ extent.written, ∃ c r, sources.Gives repository ix.taxonomy.fill c r ∧
    (ch = .put c ∨ ch = .putReference r)
  leaves : extent.Leaves ix.store ix'.store

theorem takeable_of_free (h : ix.isTaken = false) (observed : ℕ) (cancelled : Bool) :
    ((Progression.waiting observed).advance ix cancelled .take).isSome = true := by
  simp [Progression.advance, h]

end Index

namespace Crew

variable {σ : Type} {sources : Sources} {repository : Path} {b : Workbench σ} {crew : Crew σ}

theorem Sound.isWrite (hs : Sound sources repository b crew) : ∀ ch ∈ crew.written, ch.IsWrite := by
  intro ch hch
  obtain ⟨c, r, -, rfl | rfl⟩ := hs.gives ch hch
  · trivial
  · trivial

/-- In phase one nothing disappears, and what is not written stays as and where it is. -/
theorem Sound.leaves_components (hs : Sound sources repository b crew) (hlead : crew.lead.tally? = none) :
    (Extent.components crew.written).Leaves b.store crew.bench.store := by
  rw [hs.open_store hlead]
  refine ⟨fun k hk => ?_, fun k hk => ?_, fun n c hc => ?_, fun n r hr => ?_⟩
  · exact (Store.mem_keys_replay_of_writes hs.isWrite).mpr (.inl hk)
  · exact (Store.mem_referenceKeys_replay_of_writes hs.isWrite).mpr (.inl hk)
  · exact Store.getElem?_components_replay hs.isWrite (fun d hd e => hc ⟨d, hd, e⟩) n
  · exact Store.getElem?_references_replay hs.isWrite (fun d hd e => hr ⟨d, hd, e⟩) n

theorem has_iff_of_heard {f : Errand → Option String} {errands : List Errand} {tally : Build.Tally} {name : String}
    (hheard : ∀ e ∈ errands, e = .heard) (hf : f .heard = none) : Has f errands tally name ↔ name ∈ tally.names := by
  refine ⟨?_, Or.inl⟩
  rintro (hname | ⟨e, he, hname⟩)
  · exact hname
  · rw [hheard e he, hf] at hname
    cases hname

/-- After phase one the store has the keys that were put, and the references of these and of keys that never had a
component. -/
theorem Sound.leaves_enrichment (hs : Sound sources repository b crew) {tally : Build.Tally}
    (hlead : crew.lead.tally? = some tally) :
    (Extent.enrichment crew.written).Leaves b.store crew.bench.store := by
  obtain ⟨rfl, hheard, hstore⟩ := hs.ended tally hlead
  have hput (k : String) : k ∈ crew.tally.names.map key ↔ ∃ c, .put c ∈ crew.written ∧ c.key = k := by
    rw [List.mem_map]
    constructor
    · rintro ⟨name, hname, rfl⟩
      obtain ⟨c, hc, rfl⟩ := (hs.put_iff name).mp ((has_iff_of_heard hheard rfl).mpr hname)
      exact ⟨c, hc, rfl⟩
    · rintro ⟨c, hc, rfl⟩
      exact ⟨c.name, (has_iff_of_heard hheard rfl).mp ((hs.put_iff c.name).mpr ⟨c, hc, rfl⟩), rfl⟩
  have hputReference (k : String) :
      k ∈ crew.tally.names.map key ↔ ∃ r, .putReference r ∈ crew.written ∧ r.key = k := by
    rw [List.mem_map]
    constructor
    · rintro ⟨name, hname, rfl⟩
      obtain ⟨r, hr, rfl⟩ := (hs.putReference_iff name).mp ((has_iff_of_heard hheard rfl).mpr hname)
      exact ⟨r, hr, rfl⟩
    · rintro ⟨r, hr, rfl⟩
      exact ⟨r.typeName, (has_iff_of_heard hheard rfl).mp ((hs.putReference_iff r.typeName).mpr ⟨r, hr, rfl⟩), rfl⟩
  rw [hstore]
  refine ⟨fun k => ?_, fun k => ?_⟩
  · rw [Store.mem_keys_retain, Store.mem_keys_replay_of_writes hs.isWrite, ← hput]
    exact and_iff_right_of_imp Or.inr |>.trans (hput k)
  · rw [Store.mem_referenceKeys_retain, Store.mem_keys_replay_of_writes hs.isWrite,
      Store.mem_referenceKeys_replay_of_writes hs.isWrite, ← hput, ← hputReference]
    have hkeys : k ∈ (Extent.enrichment crew.written).keys ↔ k ∈ crew.tally.names.map key := (hput k).symm
    rw [hkeys]
    tauto

end Crew

namespace Index

variable {σ : Type} {watch : Watch σ} {sources : Sources} {repository : Path} {ix ix' : Index} {extent : Extent}
  {outcome : Except Failure Summary} {failure : Failure}

/-- An attempt keeps of a store what holds after phase one has written, and is kept where entries are dropped and in the
later phases. -/
theorem Attempt.keeps_store {P : Store → Prop} (h : ix.Attempt watch sources repository extent outcome ix')
    (hreplay : P (ix.store.replay extent.written)) (hretain : ∀ s names, P s → P (s.retain names))
    (henrich : ∀ tally, Build.KeepsIf id (fun b : Workbench σ => P b.store) (Build.enrich watch sources tally)) :
    P ix'.store := by
  have henriched {b b' : Workbench σ} {ix₁ : Index} {moves : List Crew.Move} {crew : Crew σ} {tally : Build.Tally}
      (hb : ix.Prepared watch repository ix₁ b)
      (hcrew : (Crew.start sources b).run watch sources repository moves = crew)
      (hlead : crew.lead = .ended (.ok tally)) (hP : P (ix.store.replay crew.written))
      (hleft : Build.left (Build.enrich watch sources tally crew.bench) = b') : P b'.store := by
    obtain ⟨-, -, hstore⟩ := (Crew.sound_run hcrew).ended tally (by rw [hlead]; rfl)
    rw [hb.contents_eq.1] at hstore
    rw [← hleft]
    refine Build.keepsIf_id.mp (henrich tally) crew.bench ?_
    rw [hstore]
    exact hretain _ _ hP
  cases h with
  | refused w w' _ failure hbegin =>
    rcases beginBuild_error hbegin with rfl | rfl
    · exact hreplay
    · exact hreplay
  | unprepared w w₁ w₂ ix₁ available failure b now hbegin hprepare =>
    have hstore : b.store = ix₁.store := (Build.keeps_prepare watch repository available).error hprepare
    rw [beginBuild_ok hbegin] at hstore
    exact (congrArg P hstore).mpr hreplay
  | interrupted ix₁ b moves crew failure now hb hcrew hlead =>
    have hopen : crew.bench.store = b.store.replay crew.written :=
      (Crew.sound_run hcrew).open_store (by rw [hlead]; rfl)
    rw [hb.contents_eq.1] at hopen
    exact (congrArg P hopen).mpr hreplay
  | abandoned ix₁ b b' moves crew tally failure now hb hcrew hlead henrich =>
    exact henriched hb hcrew hlead hreplay (congrArg Build.left henrich)
  | completed ix₁ b b' moves crew tally summary now hb hcrew hlead henrich =>
    exact henriched hb hcrew hlead hreplay (congrArg Build.left henrich)

/-- Whatever ends an attempt to build, and wherever: no build is counted, the index is free, and the store has lost
nothing as long as phase one was not through. -/
theorem Reached.aborted (hix : ix.Reached)
    (h : ix.Attempt watch sources repository extent (.error failure) ix') :
    Aborted sources repository extent ix ix' := by
  obtain ⟨hbuilding, htaken⟩ := h.free hix.free
  have htakeable := takeable_of_free htaken
  cases h with
  | refused w w' _ _ hbegin =>
    have hnone (ch : Store.Change) (hch : ch ∈ Extent.preparation.written) : False := by cases hch
    rcases beginBuild_error hbegin with rfl | rfl
    · exact ⟨rfl, rfl, rfl, rfl, hbuilding, htaken, htakeable, fun ch hch => (hnone ch hch).elim, rfl⟩
    · exact ⟨rfl, rfl, rfl, rfl, hbuilding, htaken, htakeable, fun ch hch => (hnone ch hch).elim, rfl⟩
  | unprepared w w₁ w₂ ix₁ available _ b now hbegin hprepare =>
    have hnone (ch : Store.Change) (hch : ch ∈ Extent.preparation.written) : False := by cases hch
    have hstore : b.store = ix₁.store := (Build.keeps_prepare watch repository available).error hprepare
    rw [beginBuild_ok hbegin] at hstore htakeable ⊢
    exact ⟨rfl, rfl, rfl, rfl, rfl, rfl, htakeable, fun ch hch => (hnone ch hch).elim, hstore⟩
  | interrupted ix₁ b moves crew _ now hb hcrew hlead =>
    have hs := Crew.sound_run hcrew
    have hleaves := hs.leaves_components (by rw [hlead]; rfl)
    obtain ⟨hstore, htaxonomy⟩ := hb.contents_eq
    have hgives := hs.gives
    rw [htaxonomy] at hgives
    rw [hstore] at hleaves
    rw [hb.index_eq] at htakeable ⊢
    exact ⟨rfl, rfl, rfl, rfl, rfl, rfl, htakeable, hgives, hleaves⟩
  | abandoned ix₁ b b' moves crew tally _ now hb hcrew hlead henrich =>
    have hs := Crew.sound_run hcrew
    have hended : crew.lead.tally? = some tally := by rw [hlead]; rfl
    obtain ⟨hkeys, hreferences⟩ := Prod.mk.inj ((Build.keeps_enrich watch sources tally).error henrich)
    have hleaves := (hs.leaves_enrichment hended).congr hkeys hreferences
    obtain ⟨hstore, htaxonomy⟩ := hb.contents_eq
    have hgives := hs.gives
    rw [htaxonomy] at hgives
    rw [hstore] at hleaves
    rw [hb.index_eq] at htakeable ⊢
    exact ⟨rfl, rfl, rfl, rfl, rfl, rfl, htakeable, hgives, hleaves⟩

def oneFolder : Sources where
  folders := [⟨"", ["button"]⟩]
  mainFile? folder := some folder
  pages := []
  readComponent file _ := .ok (some { className := file.name, filePath := file.text })
  readPage _ _ := .ok none
  findExamples _ _ := .ok []

/-- One who fails when he hears of a component. -/
def stumbling : Watch Unit where
  look u := (u, false)
  report progress u :=
    match progress with
    | .component _ _ _ => (u, some (.foreign "RuntimeError" "stumbled"))
    | _ => (u, none)

def otherComponent : Index where
  store := Store.empty.replay [.put { name := "card", nameSpace := "", summary := "" }]
  taxonomy := ⟨[], true⟩

theorem aborted_stumbling :
    ∃ extent ix', extent.written ≠ [] ∧ Aborted oneFolder ⟨"", []⟩ extent otherComponent ix' := by
  have hreached : otherComponent.Reached := .fresh _ _
  have hprepared : otherComponent.Prepared stumbling ⟨"", []⟩ otherComponent.take.enter
      (otherComponent.workbench ()) := ⟨(), (), (), .ok true, rfl, rfl⟩
  have hattempt : otherComponent.Attempt stumbling oneFolder ⟨"", []⟩ _ _ _ :=
    .interrupted _ _ [.lead, .lead, .work 0, .work 0, .work 0, .work 0, .gather [0], .lead, .lead] _ _ "now" hprepared
      rfl rfl
  refine ⟨_, _, ?_, hreached.aborted hattempt⟩
  exact List.cons_ne_nil _ _

end Index
end Catalog
