import Catalog.Proofs.Index.Steps
import Catalog.Proofs.Store.Contents

/-! What each phase of a build makes of the store if nobody cancels it and it comes to its end: it goes through what
its sources give one by one. -/
namespace Catalog

namespace Sources

def entries? (sources : Sources) (taxonomy : Taxonomy) (repository folder : Path) :
    Option (Component × ApiReference) :=
  (Build.readFolder sources taxonomy repository folder false).toOption.join

def page? (sources : Sources) (file : Path) : Option PageFacts :=
  (sources.readPage file false).toOption.join

/-- The examples of a component; none if they cannot be read. -/
def examplesOf (sources : Sources) (name : String) : List Example :=
  (sources.findExamples name false).toOption.getD []

end Sources

namespace Store

def install (s : Store) (entries : Component × ApiReference) : Store :=
  (s.put entries.1).putReference entries.2

def complete (s : Store) (page : PageFacts) : Store :=
  (Build.subjectOf s page).elim s fun c => s.put (Build.documented c page)

def illustrate (examplesOf : String → List Example) (s : Store) (c : Component) : Store :=
  if examplesOf c.name = [] then s else s.put { c with examples := examplesOf c.name }

end Store

/-- A reader heeds the cancel flag by giving up, and in no other way. -/
def Heeds {α : Type} (read : Bool → Except Failure α) : Prop :=
  (∃ failure, read true = .error failure ∧ failure.isCancellation = true) ∨ read true = read false

/-- All that the sources read depends on the item alone, cancellation apart. -/
structure Sources.Steady (sources : Sources) : Prop where
  readComponent : ∀ file, Heeds (sources.readComponent file)
  readPage : ∀ file, Heeds (sources.readPage file)
  findExamples : ∀ name, Heeds (sources.findExamples name)

/-- The cancel flag changes nothing that is read: nobody sets it, or the sources heed it by giving up only. -/
def Sources.Undisturbed {σ : Type} (sources : Sources) (watch : Watch σ) : Prop :=
  watch.Calm ∨ sources.Steady

namespace Build

variable {σ : Type} {watch : Watch σ} {sources : Sources} {repository folder file : Path} {b b' : Workbench σ}

def fails {α : Type} : Except Failure α → Bool
  | .ok _ => false
  | .error _ => true

def Outcome.isFailed {α : Type} : Outcome α → Bool
  | failed => true
  | _ => false

theorem settle_value? {α : Type} {r : Except Failure (Option α)} {outcome : Outcome α} (h : settle r = .ok outcome) :
    outcome.value? = r.toOption.join := by
  match r with
  | .ok (some x) => cases h; rfl
  | .ok none => cases h; rfl
  | .error failure =>
    simp only [settle] at h
    split_ifs at h
    cases h; rfl

theorem settle_isFailed {α : Type} {r : Except Failure (Option α)} {outcome : Outcome α} (h : settle r = .ok outcome) :
    outcome.isFailed = fails r := by
  match r with
  | .ok (some x) => cases h; rfl
  | .ok none => cases h; rfl
  | .error failure =>
    simp only [settle] at h
    split_ifs at h
    cases h; rfl

/-- What is read while the cancel flag is set is no cancellation, and so is what is read without it. -/
theorem settle_of_heeds {α : Type} {read : Bool → Except Failure (Option α)} {outcome : Outcome α} (hr : Heeds read)
    (h : settle (read true) = .ok outcome) : settle (read false) = .ok outcome := by
  rcases hr with ⟨failure, hread, hcancel⟩ | hread
  · rw [hread, settle, if_pos hcancel] at h
    cases h
  · rw [← hread]
    exact h

/-- The folder is read as its source file is. -/
theorem heeds_readFolder (hs : sources.Steady) (taxonomy : Taxonomy) (repository folder : Path) :
    Heeds (readFolder sources taxonomy repository folder) := by
  unfold readFolder
  cases sources.mainFile? folder with
  | none => exact .inr rfl
  | some file =>
    rcases hs.readComponent file with ⟨failure, hread, hcancel⟩ | hread
    · refine .inl ⟨failure, ?_, hcancel⟩
      simp only [hread]
      rfl
    · refine .inr ?_
      simp only [hread]

theorem heeds_someExamples (hs : sources.Steady) (name : String) :
    Heeds fun cancelled => (sources.findExamples name cancelled).map someExamples := by
  rcases hs.findExamples name with ⟨failure, hread, hcancel⟩ | hread
  · refine .inl ⟨failure, ?_, hcancel⟩
    simp only [hread]
    rfl
  · refine .inr ?_
    simp only [hread]

/-- An item is read as if nobody were there. -/
theorem readItem_ok {α : Type} {read : Taxonomy → Bool → Except Failure (Option α)} {outcome : Outcome α}
    (hr : watch.Calm ∨ Heeds (read b.taxonomy)) (h : readItem watch read b = .ok outcome b') :
    settle (read b.taxonomy false) = .ok outcome ∧ contents b' = contents b := by
  obtain ⟨cancelled, b₁, hlook, h⟩ := bind_eq_ok.mp h
  have hcontents : contents b₁ = contents b := (unwatched_contents.look watch).ok hlook
  have htaxonomy : b₁.taxonomy = b.taxonomy := congrArg Prod.snd hcontents
  rw [get_bind, htaxonomy] at h
  obtain ⟨hread, rfl⟩ := lift_eq_ok h
  refine ⟨?_, hcontents⟩
  cases cancelled with
  | false => exact hread
  | true =>
    rcases hr with hcalm | hheeds
    · rw [look_apply, hcalm b.watcher] at hlook
      cases hlook
    · exact settle_of_heeds hheeds hread

theorem indexFolder_ok {outcome : Outcome String} (hu : sources.Undisturbed watch)
    (h : indexFolder watch sources repository folder b = .ok outcome b') :
    outcome.value? = (sources.entries? b.taxonomy repository folder).map (·.1.name) ∧
      outcome.isFailed = fails (readFolder sources b.taxonomy repository folder false) ∧
      b'.taxonomy = b.taxonomy ∧
      b'.store = (sources.entries? b.taxonomy repository folder).elim b.store b.store.install := by
  obtain ⟨_, b₁, hcheck, h⟩ := bind_eq_ok.mp h
  obtain ⟨read, b₂, hread, h⟩ := bind_eq_ok.mp h
  obtain ⟨hstore₁, htaxonomy₁⟩ := Prod.mk.inj ((unwatched_contents.check watch).ok hcheck)
  obtain ⟨hsettle, hcontents⟩ := readItem_ok (hu.imp_right fun hs => heeds_readFolder hs _ repository folder) hread
  obtain ⟨hstore, htaxonomy⟩ := Prod.mk.inj hcontents
  rw [hstore₁] at hstore
  rw [htaxonomy₁] at hsettle htaxonomy
  rw [Sources.entries?, ← settle_value? hsettle, ← settle_isFailed hsettle]
  cases read with
  | found entries => cases h; exact ⟨rfl, rfl, htaxonomy, congrArg (·.install entries) hstore⟩
  | nothing => cases h; exact ⟨rfl, rfl, htaxonomy, hstore⟩
  | failed => cases h; exact ⟨rfl, rfl, htaxonomy, hstore⟩

/-- The reports and checks around an item change nothing that it works on. -/
theorem check_report_ok {α : Type} {progress : Progress} {k : BuildM σ α} {x : α}
    (h : (check watch >>= fun _ => report watch progress >>= fun _ => k) b = .ok x b') :
    ∃ b₁, contents b₁ = contents b ∧ k b₁ = .ok x b' := by
  obtain ⟨_, b₁, hcheck, h⟩ := bind_eq_ok.mp h
  obtain ⟨_, b₂, hreport, h⟩ := bind_eq_ok.mp h
  exact ⟨b₂, ((unwatched_contents.report watch _).ok hreport).trans ((unwatched_contents.check watch).ok hcheck), h⟩

theorem Tally.add_eq (tally : Tally) (outcome : Outcome String) :
    tally.add outcome = ⟨tally.names ++ outcome.value?.toList, tally.errors + if outcome.isFailed then 1 else 0⟩ := by
  cases outcome with
  | found name => rfl
  | nothing => exact congrArg (Tally.mk · _) (List.append_nil _).symm
  | failed => exact congrArg (Tally.mk · _) (List.append_nil _).symm

/-- Phase one goes through the entries that the folders give, in order, and counts the folders that fail. -/
theorem indexFolders_ok {total current : ℕ} {folders : List Path} {tally tally' : Tally}
    (hu : sources.Undisturbed watch)
    (h : indexFolders watch sources repository total current folders tally b = .ok tally' b') :
    tally' = ⟨tally.names ++ (folders.filterMap (sources.entries? b.taxonomy repository)).map (·.1.name),
        tally.errors + folders.countP fun folder => fails (readFolder sources b.taxonomy repository folder false)⟩ ∧
      b'.taxonomy = b.taxonomy ∧
      b'.store = (folders.filterMap (sources.entries? b.taxonomy repository)).foldl Store.install b.store := by
  induction folders generalizing current tally b with
  | nil => cases h; simp
  | cons folder folders ih =>
    obtain ⟨outcome, b₁, hfolder, h⟩ := bind_eq_ok.mp h
    obtain ⟨_, b₂, hreport, h⟩ := bind_eq_ok.mp h
    obtain ⟨_, b₃, hcheck, h⟩ := bind_eq_ok.mp h
    obtain ⟨hvalue, hfailed, htaxonomy, hstore⟩ := indexFolder_ok hu hfolder
    obtain ⟨hstore₃, htaxonomy₃⟩ := Prod.mk.inj
      (((unwatched_contents.check watch).ok hcheck).trans ((unwatched_contents.report watch _).ok hreport))
    obtain ⟨htally, htaxonomy', hstore'⟩ := ih h
    rw [htaxonomy₃, htaxonomy] at htally htaxonomy' hstore'
    rw [hstore₃, hstore] at hstore'
    rw [Tally.add_eq, hvalue, hfailed] at htally
    refine ⟨?_, htaxonomy', ?_⟩
    · rw [htally, List.countP_cons, Nat.add_assoc, Nat.add_comm (List.countP _ _)]
      cases he : sources.entries? b.taxonomy repository folder <;> simp [he]
    · rw [hstore']
      cases he : sources.entries? b.taxonomy repository folder <;> simp [he]

/-- Handing out the folders changes nothing. -/
theorem keeps_forM_check (watch : Watch σ) (folders : List Path) :
    Keeps contents (folders.forM fun _ => check watch) := by
  induction folders with
  | nil => exact Keeps.pure PUnit.unit
  | cons folder folders ih => exact (unwatched_contents.check watch).bind fun _ => ih

theorem indexComponents_eq_ok {tally : Tally} (hu : sources.Undisturbed watch)
    (h : indexComponents watch sources repository b = .ok tally b') :
    tally = ⟨(sources.folders.filterMap (sources.entries? b.taxonomy repository)).map (·.1.name),
        sources.folders.countP fun folder => fails (readFolder sources b.taxonomy repository folder false)⟩ ∧
      b'.taxonomy = b.taxonomy ∧
      b'.store = ((sources.folders.filterMap (sources.entries? b.taxonomy repository)).foldl Store.install
        b.store).retain tally.names := by
  obtain ⟨_, b₁, hhand, h⟩ := bind_eq_ok.mp h
  obtain ⟨tally', b₂, hfolders, h⟩ := bind_eq_ok.mp h
  obtain ⟨_, b₃, hretain, h⟩ := bind_eq_ok.mp h
  cases h
  cases hretain
  obtain ⟨hstore₁, htaxonomy₁⟩ := Prod.mk.inj ((keeps_forM_check watch _).ok hhand)
  obtain ⟨htally, htaxonomy, hstore⟩ := indexFolders_ok hu hfolders
  rw [htaxonomy₁] at htally htaxonomy hstore
  rw [hstore₁] at hstore
  exact ⟨by simpa using htally, htaxonomy, congrArg (·.retain tally.names) hstore⟩

theorem indexComponents_ok {tally : Tally} (hw : watch.Calm)
    (h : indexComponents watch sources repository b = .ok tally b') :
    tally.names = (sources.folders.filterMap (sources.entries? b.taxonomy repository)).map (·.1.name) ∧
      b'.taxonomy = b.taxonomy ∧
      b'.store = ((sources.folders.filterMap (sources.entries? b.taxonomy repository)).foldl Store.install
        b.store).retain tally.names := by
  obtain ⟨htally, hrest⟩ := indexComponents_eq_ok (.inl hw) h
  exact ⟨congrArg Tally.names htally, hrest⟩

/-- A page is about a stored component that has its name. -/
theorem mem_of_subjectOf {s : Store} {page : PageFacts} {c : Component} (h : subjectOf s page = some c) :
    c ∈ s.components ∧ page.componentName.map key = some c.key := by
  obtain ⟨name, hname, hfound⟩ := Option.bind_eq_some_iff.mp h
  split_ifs at hfound
  obtain ⟨hc, hkey⟩ := Keyed.mem_of_find? hfound
  exact ⟨hc, by rw [hname, Option.map_some, hkey]⟩

theorem mem_keys_of_subjectOf {s : Store} {page : PageFacts} {c : Component} (h : subjectOf s page = some c) :
    c.key ∈ s.keys :=
  List.mem_map_of_mem (mem_of_subjectOf h).1

/-- Whether a page is about a stored component depends on the keys of the store alone. -/
theorem isSome_subjectOf_congr {s t : Store} (h : ∀ k, k ∈ s.keys ↔ k ∈ t.keys) (page : PageFacts) :
    (subjectOf s page).isSome = (subjectOf t page).isSome := by
  have hget (name : String) : (s.get? name).isSome = (t.get? name).isSome :=
    Bool.eq_iff_iff.mpr (Store.componentAt?_isSome.trans ((h _).trans Store.componentAt?_isSome.symm))
  unfold subjectOf
  cases page.componentName with
  | none => rfl
  | some name =>
    simp only [Option.bind_eq_bind, Option.bind_some]
    split_ifs
    · rfl
    · exact hget name

end Build

namespace Store

variable {s : Store} {c : Component}

theorem names_complete (s : Store) (page : PageFacts) : (s.complete page).names = s.names := by
  unfold complete
  cases hs : Build.subjectOf s page with
  | none => rfl
  | some c =>
    have hk : (Build.documented c page).key ∈ s.keys := Build.mem_keys_of_subjectOf (c := c) hs
    exact names_put_of_mem hk

theorem names_foldl_complete (s : Store) (pages : List PageFacts) : (pages.foldl complete s).names = s.names := by
  induction pages generalizing s with
  | nil => rfl
  | cons page pages ih => rw [List.foldl_cons, ih, names_complete]

/-- A page adds no key. -/
theorem keys_complete (s : Store) (page : PageFacts) : (s.complete page).keys = s.keys := by
  rw [keys_eq_map_names, names_complete, ← keys_eq_map_names]

theorem keys_foldl_complete (s : Store) (pages : List PageFacts) : (pages.foldl complete s).keys = s.keys := by
  rw [keys_eq_map_names, names_foldl_complete, ← keys_eq_map_names]

end Store

namespace Build

variable {σ : Type} {watch : Watch σ} {sources : Sources} {repository folder file : Path} {b b' : Workbench σ}

def Count.add (count : Count) (changed failed : Bool) : Count :=
  ⟨count.changed + if changed then 1 else 0, count.errors + if failed then 1 else 0⟩

def documents (sources : Sources) (s : Store) (file : Path) : Bool :=
  ((sources.page? file).bind (subjectOf s)).isSome

theorem documents_congr {s t : Store} (h : ∀ k, k ∈ s.keys ↔ k ∈ t.keys) (file : Path) :
    documents sources s file = documents sources t file := by
  unfold documents
  cases sources.page? file with
  | none => rfl
  | some page => exact isSome_subjectOf_congr h page

/-- What a page does to the store and to the count once its file is read. -/
theorem indexPage_eq_ok {count count' : Count} (h : indexPage watch sources file count b = .ok count' b') :
    ∃ read b₁, readItem watch (fun _ => sources.readPage file) b = .ok read b₁ ∧
      count' = count.add (read.value?.bind (subjectOf b.store)).isSome read.isFailed ∧
      b'.taxonomy = b.taxonomy ∧ b'.store = read.value?.elim b.store b.store.complete := by
  obtain ⟨read, b₁, hread, h⟩ := bind_eq_ok.mp h
  obtain ⟨hstore, htaxonomy⟩ := Prod.mk.inj ((unwatched_contents.readItem watch _).ok hread)
  refine ⟨read, b₁, hread, ?_⟩
  rw [← hstore, ← htaxonomy]
  cases read with
  | found page =>
    simp only [get_bind] at h
    cases hs : subjectOf b₁.store page with
    | some component =>
      simp only [hs] at h
      cases h
      exact ⟨by simp [Outcome.value?, Outcome.isFailed, Count.add, hs], rfl,
        by simp [Outcome.value?, Store.complete, hs]⟩
    | none =>
      simp only [hs] at h
      cases h
      exact ⟨by simp [Outcome.value?, Outcome.isFailed, Count.add, hs], rfl,
        by simp [Outcome.value?, Store.complete, hs]⟩
  | nothing => cases h; exact ⟨rfl, rfl, rfl⟩
  | failed => cases h; exact ⟨rfl, rfl, rfl⟩

theorem indexPage_ok {count count' : Count} (hu : sources.Undisturbed watch)
    (h : indexPage watch sources file count b = .ok count' b') :
    count' = count.add (documents sources b.store file) (fails (sources.readPage file false)) ∧
      b'.taxonomy = b.taxonomy ∧ b'.store = (sources.page? file).elim b.store b.store.complete := by
  obtain ⟨read, b₁, hread, hpage⟩ := indexPage_eq_ok h
  have hsettle := (readItem_ok (hu.imp_right fun hs => hs.readPage file) hread).1
  rwa [documents, Sources.page?, ← settle_value? hsettle, ← settle_isFailed hsettle]

/-- Phase two goes through the pages that the files give, in order. -/
theorem indexPages_ok {total current : ℕ} {files : List Path} {count count' : Count} (hu : sources.Undisturbed watch)
    (h : indexPages watch sources total current files count b = .ok count' b') :
    count' = ⟨count.changed + files.countP (documents sources b.store),
        count.errors + files.countP fun file => fails (sources.readPage file false)⟩ ∧
      b'.taxonomy = b.taxonomy ∧ b'.store = (files.filterMap sources.page?).foldl Store.complete b.store := by
  induction files generalizing current count b with
  | nil => cases h; simp
  | cons file files ih =>
    obtain ⟨b₁, hb₁, h⟩ := check_report_ok h
    obtain ⟨count₁, b₂, hpage, h⟩ := bind_eq_ok.mp h
    obtain ⟨hstore₁, htaxonomy₁⟩ := Prod.mk.inj hb₁
    obtain ⟨hcount₂, htaxonomy₂, hstore₂⟩ := indexPage_ok hu hpage
    obtain ⟨hcount, htaxonomy, hstore⟩ := ih h
    rw [hstore₁] at hcount₂ hstore₂
    have hkeys : b₂.store.keys = b.store.keys := by
      rw [hstore₂]
      cases sources.page? file with
      | none => rfl
      | some page => exact Store.keys_complete b.store page
    have hdocuments : documents sources b₂.store = documents sources b.store :=
      funext fun file => documents_congr (fun k => by rw [hkeys]) file
    refine ⟨?_, htaxonomy.trans (htaxonomy₂.trans htaxonomy₁), ?_⟩
    · rw [hcount, hcount₂, hdocuments, List.countP_cons, List.countP_cons]
      simp only [Count.add, Count.mk.injEq]
      omega
    · rw [hstore, hstore₂]
      cases hp : sources.page? file <;> simp [hp]

def illustrates (sources : Sources) (name : String) : Bool :=
  sources.examplesOf name ≠ []

/-- What the examples of a component do to the store and to the count once they are found. -/
theorem indexExample_eq_ok {c : Component} {count count' : Count}
    (h : indexExample watch sources c count b = .ok count' b') :
    ∃ read b₁,
      readItem watch (fun _ cancelled => (sources.findExamples c.name cancelled).map someExamples) b = .ok read b₁ ∧
      count' = count.add read.value?.isSome read.isFailed ∧ b'.taxonomy = b.taxonomy ∧
      b'.store = read.value?.elim b.store fun examples => b.store.put { c with examples := examples } := by
  obtain ⟨read, b₁, hread, h⟩ := bind_eq_ok.mp h
  obtain ⟨hstore, htaxonomy⟩ := Prod.mk.inj ((unwatched_contents.readItem watch _).ok hread)
  refine ⟨read, b₁, hread, ?_⟩
  rw [← hstore, ← htaxonomy]
  cases read with
  | found examples => cases h; exact ⟨rfl, rfl, rfl⟩
  | nothing => cases h; exact ⟨rfl, rfl, rfl⟩
  | failed => cases h; exact ⟨rfl, rfl, rfl⟩

theorem indexExample_ok {c : Component} {count count' : Count} (hu : sources.Undisturbed watch)
    (h : indexExample watch sources c count b = .ok count' b') :
    count' = count.add (illustrates sources c.name) (fails (sources.findExamples c.name false)) ∧
      b'.taxonomy = b.taxonomy ∧ b'.store = b.store.illustrate sources.examplesOf c := by
  obtain ⟨read, b₁, hread, rfl, htaxonomy, hstore⟩ := indexExample_eq_ok h
  have hsettle := (readItem_ok (hu.imp_right fun hs => heeds_someExamples hs c.name) hread).1
  have hvalue : read.value? = someExamples (sources.examplesOf c.name) := by
    rw [settle_value? hsettle, Sources.examplesOf]
    cases sources.findExamples c.name false <;> rfl
  have hfailed : read.isFailed = fails (sources.findExamples c.name false) := by
    rw [settle_isFailed hsettle]
    cases sources.findExamples c.name false <;> rfl
  rw [hstore, hvalue, hfailed, Store.illustrate, illustrates]
  cases hx : sources.examplesOf c.name with
  | nil => exact ⟨rfl, htaxonomy, rfl⟩
  | cons first rest => exact ⟨rfl, htaxonomy, rfl⟩

/-- Phase three goes through the components, in order. -/
theorem indexExamples_ok {total current : ℕ} {components : List Component} {count count' : Count}
    (hu : sources.Undisturbed watch)
    (h : indexExamples watch sources total current components count b = .ok count' b') :
    count' = ⟨count.changed + (components.map Component.name).countP (illustrates sources),
        count.errors + (components.map Component.name).countP fun name => fails (sources.findExamples name false)⟩ ∧
      b'.taxonomy = b.taxonomy ∧ b'.store = components.foldl (Store.illustrate sources.examplesOf) b.store := by
  induction components generalizing current count b with
  | nil => cases h; simp
  | cons c components ih =>
    obtain ⟨b₁, hb₁, h⟩ := check_report_ok h
    obtain ⟨count₁, b₂, hexample, h⟩ := bind_eq_ok.mp h
    obtain ⟨hstore₁, htaxonomy₁⟩ := Prod.mk.inj hb₁
    obtain ⟨hcount₂, htaxonomy₂, hstore₂⟩ := indexExample_ok hu hexample
    obtain ⟨hcount, htaxonomy, hstore⟩ := ih h
    refine ⟨?_, htaxonomy.trans (htaxonomy₂.trans htaxonomy₁), by rw [hstore, hstore₂, hstore₁, List.foldl_cons]⟩
    rw [hcount, hcount₂, List.map_cons, List.countP_cons, List.countP_cons]
    simp only [Count.add, Count.mk.injEq]
    omega

/-- The later phases go through the pages and then through the components, and tell how many of them there were. -/
theorem enrich_eq_ok {tally : Tally} {summary : Summary} (hu : sources.Undisturbed watch)
    (h : enrich watch sources tally b = .ok summary b') :
    ∃ s, s = (sources.pages.filterMap sources.page?).foldl Store.complete b.store ∧
      b'.store = s.components.foldl (Store.illustrate sources.examplesOf) s ∧ b'.taxonomy = b.taxonomy ∧
      summary =
        { components := tally.names.length
          documented := sources.pages.countP (documents sources b.store)
          withExamples := s.names.countP (illustrates sources)
          errors := tally.errors + sources.pages.countP (fun file => fails (sources.readPage file false)) +
            s.names.countP fun name => fails (sources.findExamples name false) } := by
  obtain ⟨pages, b₁, hpages, h⟩ := bind_eq_ok.mp h
  rw [get_bind] at h
  obtain ⟨examples, b₂, hexamples, h⟩ := bind_eq_ok.mp h
  cases h
  obtain ⟨rfl, htaxonomy₁, hstore₁⟩ := indexPages_ok hu hpages
  obtain ⟨rfl, htaxonomy₂, hstore₂⟩ := indexExamples_ok hu hexamples
  refine ⟨b₁.store, hstore₁, hstore₂, htaxonomy₂.trans htaxonomy₁, ?_⟩
  simp [Store.names]

theorem enrich_ok {tally : Tally} {summary : Summary} (hw : watch.Calm)
    (h : enrich watch sources tally b = .ok summary b') :
    ∃ s, s = (sources.pages.filterMap sources.page?).foldl Store.complete b.store ∧
      b'.store = s.components.foldl (Store.illustrate sources.examplesOf) s := by
  obtain ⟨s, hs, hstore, -⟩ := enrich_eq_ok (.inl hw) h
  exact ⟨s, hs, hstore⟩

/-- What comes before the phases fills the taxonomy, and leaves the store alone. -/
theorem prepare_ok {available : Except Failure Bool} {x : PUnit}
    (h : prepare watch repository available b = .ok x b') : b'.store = b.store ∧ b'.taxonomy = b.taxonomy.fill := by
  obtain ⟨isThere, b₁, hlift, h⟩ := bind_eq_ok.mp h
  obtain ⟨_, b₂, hcheck, h⟩ := bind_eq_ok.mp h
  obtain ⟨-, rfl⟩ := lift_eq_ok hlift
  obtain ⟨hstore, htaxonomy⟩ := Prod.mk.inj ((unwatched_contents.check watch).ok hcheck)
  cases isThere with
  | false => cases h
  | true =>
    obtain ⟨_, b₃, hreport, h⟩ := bind_eq_ok.mp h
    obtain ⟨hstore₃, htaxonomy₃⟩ := Prod.mk.inj ((unwatched_contents.report watch _).ok hreport)
    cases h
    exact ⟨hstore₃.trans hstore, congrArg Taxonomy.fill (htaxonomy₃.trans htaxonomy)⟩

/-- A build that succeeds has come through its three phases. -/
theorem afterSync_eq_ok {available : Except Failure Bool} {summary : Summary}
    (h : afterSync watch sources repository available b = .ok summary b') :
    ∃ b₁ tally b₂, b₁.store = b.store ∧ b₁.taxonomy = b.taxonomy.fill ∧
      indexComponents watch sources repository b₁ = .ok tally b₂ ∧
      enrich watch sources tally b₂ = .ok summary b' := by
  obtain ⟨_, b₁, hprepare, h⟩ := bind_eq_ok.mp h
  obtain ⟨tally, b₂, hcomponents, h⟩ := bind_eq_ok.mp h
  exact ⟨b₁, tally, b₂, (prepare_ok hprepare).1, (prepare_ok hprepare).2, hcomponents, h⟩

end Build

namespace Index

variable {σ : Type} {ix ix' : Index} {watch : Watch σ} {w w' : σ}

theorem beginBuild_ok (h : ix.beginBuild watch w = (ix', w', .ok ())) : ix' = ix.take.enter := by
  unfold beginBuild at h
  split at h
  · cases h
  · split at h
    · cases h; rfl
    · cases h

theorem endBuild_ok {sources : Sources} {repository : Path} {available : Except Failure Bool} {now : String}
    {summary : Summary} (h : ix.endBuild watch w sources repository available now = (ix', w', .ok summary)) :
    ∃ b, Build.afterSync watch sources repository available (ix.workbench w) = .ok summary b ∧
      ix' = ix.settle b.store b.taxonomy now (.ok summary) := by
  unfold endBuild at h
  split at h
  · next told b hsync =>
    cases h
    exact ⟨b, hsync, rfl⟩
  · cases h

/-- A build that succeeds leaves the contents that it made. -/
theorem build_ok {ensure : σ → σ × Except Failure Bool} {sources : Sources} {repository : Path} {now : String}
    {summary : Summary} (h : ix.build watch w ensure sources repository now = (ix', w', .ok summary)) :
    ∃ available b b', b.store = ix.store ∧ b.taxonomy = ix.taxonomy ∧
      Build.afterSync watch sources repository available b = .ok summary b' ∧
      ix' = ix.take.enter.settle b'.store b'.taxonomy now (.ok summary) := by
  unfold build at h
  split at h
  · cases h
  · next ix₁ w₁ hbegin =>
    obtain ⟨b', hsync, hix⟩ := endBuild_ok h
    rw [beginBuild_ok hbegin] at hsync hix
    exact ⟨(ensure w₁).2, _, b', rfl, rfl, hsync, hix⟩

end Index
end Catalog
