import Catalog.Proofs.Index.Completion

/-! An item that cannot be read is as good as one that is not there: it is counted, and the build goes on. The first
item that cancels ends the build. -/
namespace Catalog

/-- Nobody cancels the build, and nobody who hears a report makes it fail. -/
structure Watch.Quiet {σ : Type} (watch : Watch σ) : Prop where
  calm : watch.Calm
  silent : ∀ progress w, (watch.report progress w).2 = none

def failure? {α : Type} : Except Failure α → Option Failure
  | .ok _ => none
  | .error failure => some failure

def cancellation? {α : Type} (r : Except Failure α) : Option Failure :=
  (failure? r).filter Failure.isCancellation

/-- A result, or `nothing` in the place of any failure but cancellation. -/
def mute {α : Type} (nothing : α) : Except Failure α → Except Failure α
  | .ok value => .ok value
  | .error failure => if failure.isCancellation then .error failure else .ok nothing

theorem toOption_mute {α : Type} (nothing : α) (r : Except Failure α) :
    (mute nothing r).toOption.getD nothing = r.toOption.getD nothing := by
  cases r with
  | ok value => rfl
  | error failure =>
    rw [mute]
    split_ifs <;> rfl

inductive Item where
  | folder (folder : Path)
  | page (file : Path)
  | examples (name : String)

namespace Sources

variable (sources : Sources) (repository : Path) (taxonomy : Taxonomy)

/-- The sources where whatever fails finds nothing instead. -/
def muted : Sources where
  folders := sources.folders
  mainFile? := sources.mainFile?
  pages := sources.pages
  readComponent file cancelled := mute none (sources.readComponent file cancelled)
  readPage file cancelled := mute none (sources.readPage file cancelled)
  findExamples name cancelled := mute [] (sources.findExamples name cancelled)

/-- The items that a build comes to, in order, unless it ends before. -/
def items (before : Store) : List Item :=
  sources.folders.map .folder ++ sources.pages.map .page ++
    (Store.indexed sources repository taxonomy before).names.map .examples

def itemFailure? : Item → Option Failure
  | .folder folder => failure? (Build.readFolder sources taxonomy repository folder false)
  | .page file => failure? (sources.readPage file false)
  | .examples name => failure? (sources.findExamples name false)

def itemCancellation? (item : Item) : Option Failure :=
  (sources.itemFailure? repository taxonomy item).filter Failure.isCancellation

variable {sources repository taxonomy}

theorem join_toOption_mute {α : Type} (r : Except Failure (Option α)) :
    (mute none r).toOption.join = r.toOption.join := by
  have hmute := toOption_mute none r
  cases hr : r.toOption <;> cases hm : (mute none r).toOption <;> simp_all

theorem facts?_muted (folder : Path) : sources.muted.facts? folder = sources.facts? folder := by
  unfold facts?
  change (sources.mainFile? folder >>= fun file =>
    (mute none (sources.readComponent file false)).toOption.join >>= _) = _
  simp only [join_toOption_mute]

theorem page?_muted : sources.muted.page? = sources.page? :=
  funext fun file => join_toOption_mute (sources.readPage file false)

theorem examplesOf_muted : sources.muted.examplesOf = sources.examplesOf :=
  funext fun name => toOption_mute [] (sources.findExamples name false)

theorem entries?_muted : sources.muted.entries? taxonomy repository = sources.entries? taxonomy repository := by
  funext folder
  rw [entries?_eq, entries?_eq, facts?_muted]

theorem indexed_muted (before : Store) :
    Store.indexed sources.muted repository taxonomy before = Store.indexed sources repository taxonomy before := by
  unfold Store.indexed
  rw [entries?_muted]
  rfl

/-- What cannot be read is missing from a build as if it had not been found. -/
theorem built_muted (before : Store) :
    Store.built sources.muted repository taxonomy before = Store.built sources repository taxonomy before := by
  unfold Store.built Store.described toldPages
  rw [indexed_muted, page?_muted, examplesOf_muted]
  rfl

theorem summary_muted (before : Store) :
    (sources.muted.summary repository taxonomy before).components =
        (sources.summary repository taxonomy before).components ∧
      (sources.muted.summary repository taxonomy before).documented =
        (sources.summary repository taxonomy before).documented ∧
      (sources.muted.summary repository taxonomy before).withExamples =
        (sources.summary repository taxonomy before).withExamples := by
  have hdocuments (s : Store) : Build.documents sources.muted s = Build.documents sources s := by
    funext file
    rw [Build.documents, Build.documents, page?_muted]
  have hillustrates : Build.illustrates sources.muted = Build.illustrates sources := by
    funext name
    rw [Build.illustrates, Build.illustrates, examplesOf_muted]
  unfold summary
  simp only [indexed_muted, entries?_muted, hdocuments, hillustrates]
  exact ⟨rfl, rfl, trivial⟩

theorem cancellation?_of_not {α : Type} {failure : Failure} (h : ¬ failure.isCancellation) :
    cancellation? (.error failure : Except Failure α) = none := by
  simp [cancellation?, failure?, Option.filter, h]

/-- What cancels goes on to do so, if what follows does not cancel where nothing is found. -/
theorem cancellation?_mute_bind {α β : Type} {nothing : α} {g : α → Except Failure β}
    (hg : cancellation? (g nothing) = none) (r : Except Failure α) :
    cancellation? (mute nothing r >>= g) = cancellation? (r >>= g) := by
  cases r with
  | ok value => rfl
  | error failure =>
    rw [mute]
    split_ifs with h
    · rfl
    · exact hg.trans (cancellation?_of_not h).symm

theorem cancellation?_mute {α : Type} (nothing : α) (r : Except Failure α) :
    cancellation? (mute nothing r) = cancellation? r := by
  have hbind : cancellation? (mute nothing r >>= pure) = cancellation? (r >>= pure) := cancellation?_mute_bind rfl r
  rwa [bind_pure, bind_pure] at hbind

theorem itemCancellation?_muted :
    sources.muted.itemCancellation? repository taxonomy = sources.itemCancellation? repository taxonomy := by
  funext item
  cases item with
  | folder folder =>
    change cancellation? (Build.readFolder sources.muted taxonomy repository folder false) =
      cancellation? (Build.readFolder sources taxonomy repository folder false)
    unfold Build.readFolder
    have hmain : sources.muted.mainFile? folder = sources.mainFile? folder := rfl
    rw [hmain]
    cases sources.mainFile? folder with
    | none => rfl
    | some file => exact cancellation?_mute_bind rfl (sources.readComponent file false)
  | page file => exact cancellation?_mute none (sources.readPage file false)
  | examples name => exact cancellation?_mute [] (sources.findExamples name false)

theorem items_muted (before : Store) :
    sources.muted.items repository taxonomy before = sources.items repository taxonomy before := by
  unfold items
  rw [indexed_muted]
  rfl

/-- The errors that a build tells of are the items that fail. -/
theorem errors_summary (before : Store) :
    (sources.summary repository taxonomy before).errors =
      (sources.items repository taxonomy before).countP fun item =>
        (sources.itemFailure? repository taxonomy item).isSome := by
  have hfails {α : Type} (r : Except Failure α) : (failure? r).isSome = Build.fails r := by
    cases r <;> rfl
  unfold items
  rw [List.countP_append, List.countP_append, List.countP_map, List.countP_map, List.countP_map]
  simp only [Function.comp_def, itemFailure?, hfails]
  rfl

end Sources

namespace Build

variable {σ α β : Type} {watch : Watch σ} {sources : Sources} {repository folder file : Path} {b : Workbench σ}

def ending? : EStateM.Result Failure (Workbench σ) α → Option Failure
  | .ok _ _ => none
  | .error failure _ => some failure

theorem ending?_eq_none {r : EStateM.Result Failure (Workbench σ) α} (h : ending? r = none) : ∃ x b, r = .ok x b := by
  cases r with
  | ok x b => exact ⟨x, b, rfl⟩
  | error failure b => cases h

theorem ending?_eq_some {r : EStateM.Result Failure (Workbench σ) α} {failure : Failure}
    (h : ending? r = some failure) : ∃ b, r = .error failure b := by
  cases r with
  | ok x b => cases h
  | error failure b => cases h; exact ⟨b, rfl⟩

/-- A step comes to what its first part comes to, if that fails. -/
theorem ending?_bind {m : BuildM σ α} {f : α → BuildM σ β} {failure rest : Option Failure}
    (hm : ending? (m b) = failure) (hf : ∀ x b', m b = .ok x b' → ending? (f x b') = rest) :
    ending? ((m >>= f) b) = failure.or rest := by
  cases h : m b with
  | ok x b' =>
    rw [h] at hm
    rw [bind_of_ok h, hf x b' h, ← hm]
    rfl
  | error failure b' =>
    rw [h] at hm
    rw [bind_of_error h, ← hm]
    rfl

theorem ending?_bind_of_none {m : BuildM σ α} {f : α → BuildM σ β} {rest : Option Failure}
    (hm : ending? (m b) = none) (hf : ∀ x b', m b = .ok x b' → ending? (f x b') = rest) :
    ending? ((m >>= f) b) = rest :=
  (ending?_bind hm hf).trans Option.none_or

theorem ending?_bind_total {m : BuildM σ α} {f : α → BuildM σ β} {failure : Option Failure}
    (hm : ending? (m b) = failure) (hf : ∀ x b', ending? (f x b') = none) : ending? ((m >>= f) b) = failure :=
  (ending?_bind hm fun x b' _ => hf x b').trans Option.or_none

theorem ending?_check (hw : watch.Quiet) : ending? (check watch b) = none := by
  rw [check_apply, hw.calm]
  rfl

theorem ending?_report (hw : watch.Quiet) (progress : Progress) : ending? (report watch progress b) = none := by
  rw [report_apply, hw.silent]
  rfl

theorem ending?_settle (r : Except Failure (Option α)) : failure? (settle r) = cancellation? r := by
  match r with
  | .ok (some value) => rfl
  | .ok none => rfl
  | .error failure =>
    unfold settle cancellation? failure?
    cases h : failure.isCancellation <;> simp [h, Option.filter]

theorem ending?_readItem (hw : watch.Quiet) (read : Taxonomy → Bool → Except Failure (Option α)) :
    ending? (readItem watch read b) = cancellation? (read b.taxonomy false) := by
  rw [readItem, bind_of_ok (look_apply watch b), get_bind, hw.calm, ← ending?_settle]
  cases settle (read b.taxonomy false) <;> rfl

theorem ending?_indexFolder (hw : watch.Quiet) :
    ending? (indexFolder watch sources repository folder b) =
      cancellation? (readFolder sources b.taxonomy repository folder false) := by
  refine ending?_bind_of_none (ending?_check hw) fun _ b₁ hcheck => ?_
  have htaxonomy : b₁.taxonomy = b.taxonomy := congrArg Prod.snd ((unwatched_contents.check watch).ok hcheck)
  rw [← htaxonomy]
  refine ending?_bind_total (ending?_readItem hw _) fun outcome _ => ?_
  cases outcome <;> rfl

theorem or_findSome? {f : α → Option β} {a : α} {l : List α} :
    (f a).or (l.findSome? f) = (a :: l).findSome? f := by
  cases h : f a <;> simp [h]

theorem ending?_indexFolders (hw : watch.Quiet) {total current : ℕ} {folders : List Path} {tally : Tally} :
    ending? (indexFolders watch sources repository total current folders tally b) =
      folders.findSome? fun folder => cancellation? (readFolder sources b.taxonomy repository folder false) := by
  induction folders generalizing current tally b with
  | nil => rfl
  | cons folder folders ih =>
    rw [← or_findSome?]
    refine ending?_bind (ending?_indexFolder hw) fun outcome b₁ hfolder => ?_
    refine ending?_bind_of_none (ending?_report hw _) fun _ b₂ hreport => ?_
    refine ending?_bind_of_none (ending?_check hw) fun _ b₃ hcheck => ?_
    -- the next folder is read with the same taxonomy
    obtain ⟨-, -, htaxonomy₁, -⟩ := indexFolder_ok (.inl hw.calm) hfolder
    have htaxonomy₂ : b₂.taxonomy = b₁.taxonomy := congrArg Prod.snd ((unwatched_contents.report watch _).ok hreport)
    have htaxonomy₃ : b₃.taxonomy = b₂.taxonomy := congrArg Prod.snd ((unwatched_contents.check watch).ok hcheck)
    rw [ih, htaxonomy₃, htaxonomy₂, htaxonomy₁]

theorem ending?_forM_check (hw : watch.Quiet) (folders : List Path) :
    ending? ((folders.forM fun _ => check watch) b) = none := by
  induction folders generalizing b with
  | nil => rfl
  | cons folder folders ih => exact ending?_bind_of_none (ending?_check hw) fun _ _ _ => ih

theorem ending?_indexComponents (hw : watch.Quiet) :
    ending? (indexComponents watch sources repository b) =
      sources.folders.findSome? fun folder =>
        cancellation? (readFolder sources b.taxonomy repository folder false) := by
  refine ending?_bind_of_none (ending?_forM_check hw _) fun _ b₁ hhand => ?_
  have htaxonomy : b₁.taxonomy = b.taxonomy := congrArg Prod.snd ((keeps_forM_check watch _).ok hhand)
  rw [← htaxonomy]
  exact ending?_bind_total (ending?_indexFolders hw) fun _ _ => rfl

theorem ending?_indexPage (hw : watch.Quiet) {count : Count} :
    ending? (indexPage watch sources file count b) = cancellation? (sources.readPage file false) := by
  refine ending?_bind_total (ending?_readItem hw _) fun outcome b₁ => ?_
  cases outcome with
  | found page =>
    simp only [get_bind]
    cases h : subjectOf b₁.store page <;> rfl
  | nothing => rfl
  | failed => rfl

theorem ending?_indexPages (hw : watch.Quiet) {total current : ℕ} {files : List Path} {count : Count} :
    ending? (indexPages watch sources total current files count b) =
      files.findSome? fun file => cancellation? (sources.readPage file false) := by
  induction files generalizing current count b with
  | nil => rfl
  | cons file files ih =>
    rw [← or_findSome?]
    refine ending?_bind_of_none (ending?_check hw) fun _ b₁ _ => ?_
    refine ending?_bind_of_none (ending?_report hw _) fun _ b₂ _ => ?_
    exact ending?_bind (ending?_indexPage hw) fun _ _ _ => ih

theorem ending?_indexExample (hw : watch.Quiet) {c : Component} {count : Count} :
    ending? (indexExample watch sources c count b) = cancellation? (sources.findExamples c.name false) := by
  have hread : cancellation? ((sources.findExamples c.name false).map someExamples) =
      cancellation? (sources.findExamples c.name false) := by
    cases sources.findExamples c.name false <;> rfl
  rw [← hread]
  refine ending?_bind_total (ending?_readItem hw _) fun outcome _ => ?_
  cases outcome <;> rfl

theorem ending?_indexExamples (hw : watch.Quiet) {total current : ℕ} {components : List Component} {count : Count} :
    ending? (indexExamples watch sources total current components count b) =
      (components.map Component.name).findSome? fun name => cancellation? (sources.findExamples name false) := by
  induction components generalizing current count b with
  | nil => rfl
  | cons c components ih =>
    rw [List.map_cons, ← or_findSome?]
    refine ending?_bind_of_none (ending?_check hw) fun _ b₁ _ => ?_
    refine ending?_bind_of_none (ending?_report hw _) fun _ b₂ _ => ?_
    exact ending?_bind (ending?_indexExample hw) fun _ _ _ => ih

theorem ending?_enrich (hw : watch.Quiet) {tally : Tally} :
    ending? (enrich watch sources tally b) =
      (sources.pages.findSome? fun file => cancellation? (sources.readPage file false)).or
        (b.store.names.findSome? fun name => cancellation? (sources.findExamples name false)) := by
  refine ending?_bind (ending?_indexPages hw) fun pages b₁ hpages => ?_
  obtain ⟨-, -, hstore⟩ := indexPages_ok (.inl hw.calm) hpages
  have hnames : b₁.store.names = b.store.names := by rw [hstore, Store.names_foldl_complete]
  rw [get_bind, ← hnames]
  exact ending?_bind_total (ending?_indexExamples hw) fun _ _ => rfl

theorem ending?_prepare (hw : watch.Quiet) : ending? (prepare watch repository (.ok true) b) = none := by
  refine ending?_bind_of_none rfl fun available b₁ hlift => ?_
  cases hlift
  refine ending?_bind_of_none (ending?_check hw) fun _ b₂ _ => ?_
  exact ending?_bind_of_none (ending?_report hw _) fun _ _ _ => rfl

/-- The first item that cancels ends the build, and nothing else does. -/
theorem ending?_afterSync (hw : watch.Quiet) :
    ending? (afterSync watch sources repository (.ok true) b) =
      (sources.items repository b.taxonomy.fill b.store).findSome?
        (sources.itemCancellation? repository b.taxonomy.fill) := by
  rw [Sources.items, List.findSome?_append, List.findSome?_append, List.findSome?_map, List.findSome?_map,
    List.findSome?_map, Option.or_assoc]
  -- the phases come to their own items one after another; the names of the third are those that the first has left
  refine ending?_bind_of_none (ending?_prepare hw) fun _ b₁ hprepare => ?_
  obtain ⟨hstore, htaxonomy⟩ := prepare_ok hprepare
  rw [← htaxonomy, ← hstore]
  refine ending?_bind (ending?_indexComponents hw) fun tally b₂ hcomponents => ?_
  obtain ⟨htally, -, hindexed⟩ := indexComponents_eq_ok (.inl hw.calm) hcomponents
  rw [htally] at hindexed
  have hnames : b₂.store.names = (Store.indexed sources repository b₁.taxonomy b₁.store).names := by
    rw [hindexed]
    rfl
  rw [← hnames]
  exact ending?_enrich hw

end Build

namespace Index

variable {σ : Type} {watch : Watch σ} {w : σ} {ensure : σ → σ × Except Failure Bool} {sources : Sources}
  {repository : Path} {now : String} {ix : Index} {failure : Failure}

/-- How a build that nobody disturbs deals with items that fail; `quiet` is the build where these find nothing. -/
structure Isolates (ix : Index) (sources : Sources) (repository : Path)
    (run quiet : Index × σ × Except Failure Summary) : Prop where
  /-- Failures that are no cancellations are counted and make no other difference. -/
  goesOn :
    (∀ item ∈ sources.items repository ix.taxonomy.fill ix.store,
      sources.itemCancellation? repository ix.taxonomy.fill item = none) →
    ∃ summary told, run.2.2 = .ok summary ∧ quiet.2.2 = .ok told ∧ run.1.store = quiet.1.store ∧
      summary.components = told.components ∧ summary.documented = told.documented ∧
      summary.withExamples = told.withExamples ∧
      summary.errors = (sources.items repository ix.taxonomy.fill ix.store).countP fun item =>
        (sources.itemFailure? repository ix.taxonomy.fill item).isSome
  /-- The first cancellation that is reached ends the build, which does not count as one. -/
  ends : ∀ first item rest failure,
    sources.items repository ix.taxonomy.fill ix.store = first ++ item :: rest →
    (∀ i ∈ first, sources.itemCancellation? repository ix.taxonomy.fill i = none) →
    sources.itemCancellation? repository ix.taxonomy.fill item = some failure →
    run.2.2 = .error failure ∧ failure.isCancellation ∧ run.1.isIndexed = ix.isIndexed ∧
      run.1.lastIndexed = ix.lastIndexed ∧ run.1.generation = ix.generation ∧ run.1.lastSummary = ix.lastSummary

theorem build_eq_endBuild (ix : Index) (w : σ) (sources : Sources) (repository : Path) (now : String)
    (hw : watch.Quiet) (hensure : ∀ w, (ensure w).2 = .ok true) :
    ∃ w₁, ix.build watch w ensure sources repository now =
      ix.take.enter.endBuild watch w₁ sources repository (.ok true) now := by
  have hbegin : ∃ w₁, ix.beginBuild watch w = (ix.take.enter, w₁, .ok ()) := by
    have hcalm := hw.calm w
    unfold beginBuild
    split
    · next hlook => rw [hlook] at hcalm; cases hcalm
    · next w' hlook =>
      obtain ⟨_, b, hreport⟩ := Build.ending?_eq_none
        (Build.ending?_report (b := ix.workbench w') hw .syncing)
      rw [hreport]
      exact ⟨b.watcher, rfl⟩
  obtain ⟨w₁, hbegin⟩ := hbegin
  refine ⟨(ensure w₁).1, ?_⟩
  rw [build, hbegin]
  change endBuild _ _ _ _ _ (ensure w₁).2 _ = _
  rw [hensure]

theorem build_of_none (ix : Index) (w : σ) (now : String) (hw : watch.Quiet) (hensure : ∀ w, (ensure w).2 = .ok true)
    (h : (sources.items repository ix.taxonomy.fill ix.store).findSome?
      (sources.itemCancellation? repository ix.taxonomy.fill) = none) :
    ∃ ix' w' summary, ix.build watch w ensure sources repository now = (ix', w', .ok summary) := by
  obtain ⟨w₁, hbuild⟩ := build_eq_endBuild ix w sources repository now hw hensure
  have hending : Build.ending? (Build.afterSync watch sources repository (.ok true) (ix.take.enter.workbench w₁)) = _ :=
    Build.ending?_afterSync hw
  obtain ⟨summary, b, hsync⟩ := Build.ending?_eq_none (hending.trans h)
  rw [hbuild, endBuild, hsync]
  exact ⟨_, _, summary, rfl⟩

theorem build_of_some (ix : Index) (w : σ) (now : String) (hw : watch.Quiet) (hensure : ∀ w, (ensure w).2 = .ok true)
    (h : (sources.items repository ix.taxonomy.fill ix.store).findSome?
      (sources.itemCancellation? repository ix.taxonomy.fill) = some failure) :
    ∃ w' store taxonomy, ix.build watch w ensure sources repository now =
      (ix.take.enter.settle store taxonomy now (.error failure), w', .error failure) := by
  obtain ⟨w₁, hbuild⟩ := build_eq_endBuild ix w sources repository now hw hensure
  have hending : Build.ending? (Build.afterSync watch sources repository (.ok true) (ix.take.enter.workbench w₁)) = _ :=
    Build.ending?_afterSync hw
  obtain ⟨b, hsync⟩ := Build.ending?_eq_some (hending.trans h)
  rw [hbuild, endBuild, hsync]
  exact ⟨_, _, _, rfl⟩

/-- In a build that nobody disturbs, items that fail are counted and are otherwise as good as not there, and the first
one that cancels ends the build. -/
theorem build_isolates (hw : watch.Quiet) (hensure : ∀ w, (ensure w).2 = .ok true) :
    ix.Isolates sources repository (ix.build watch w ensure sources repository now)
      (ix.build watch w ensure sources.muted repository now) := by
  constructor
  · intro hnone
    have hfirst := List.findSome?_eq_none_iff.mpr hnone
    have hmuted : (sources.muted.items repository ix.taxonomy.fill ix.store).findSome?
        (sources.muted.itemCancellation? repository ix.taxonomy.fill) = none := by
      rw [Sources.items_muted, Sources.itemCancellation?_muted]
      exact hfirst
    obtain ⟨ix', w', summary, hrun⟩ := build_of_none ix w now hw hensure hfirst
    obtain ⟨jx', v', told, hquiet⟩ := build_of_none ix w now hw hensure hmuted
    obtain ⟨hstore, rfl⟩ := build_eq_ok (.inl hw.calm) hrun
    obtain ⟨hstore', rfl⟩ := build_eq_ok (.inl hw.calm) hquiet
    obtain ⟨hcomponents, hdocumented, hillustrated⟩ := Sources.summary_muted ix.store
    rw [hrun, hquiet]
    refine ⟨_, _, rfl, rfl, ?_, hcomponents.symm, hdocumented.symm, hillustrated.symm, Sources.errors_summary ix.store⟩
    rw [hstore, hstore', Sources.built_muted]
  · intro first item rest failure hitems hfirst hitem
    have hsome := List.findSome?_eq_some_iff.mpr ⟨first, item, rest, hitems, hitem, hfirst⟩
    obtain ⟨w', store, taxonomy, hrun⟩ := build_of_some ix w now hw hensure hsome
    rw [hrun]
    refine ⟨rfl, ?_, rfl, rfl, rfl, rfl⟩
    exact (Option.filter_eq_some_iff.mp hitem).2

/-- Of two components one cannot be read, and neither can the page nor the examples of the other. -/
def faulty (failure : Failure) : Sources where
  folders := [⟨"", ["broken"]⟩, ⟨"", ["card"]⟩]
  mainFile? folder := some folder
  pages := [⟨"", ["page"]⟩]
  readComponent file _ :=
    if file.name = "broken" then .error (.file .missing)
    else .ok (some { className := file.name, filePath := file.text })
  readPage _ _ := .error (.foreign "ValueError" "unreadable")
  findExamples _ _ := .error failure

def blank : Index where
  taxonomy := ⟨[], true⟩

theorem build_isolates_faulty :
    (∃ summary, (blank.build Watch.unattended () (fun u => (u, .ok true)) (faulty .strayStars) ⟨"", []⟩ "now").2.2 =
        .ok summary ∧ summary.errors = 3) ∧
      (blank.build Watch.unattended () (fun u => (u, .ok true)) (faulty .strayStars) ⟨"", []⟩ "now").1.store =
        (blank.build Watch.unattended () (fun u => (u, .ok true)) (faulty .strayStars).muted ⟨"", []⟩ "now").1.store ∧
      (blank.build Watch.unattended () (fun u => (u, .ok true)) (faulty .buildCancelled) ⟨"", []⟩ "now").2.2 =
        .error .buildCancelled := by
  have hquiet : Watch.unattended.Quiet := ⟨fun _ => rfl, fun _ _ => rfl⟩
  have hisolates (failure : Failure) : blank.Isolates (faulty failure) ⟨"", []⟩
      (blank.build Watch.unattended () (fun u => (u, .ok true)) (faulty failure) ⟨"", []⟩ "now")
      (blank.build Watch.unattended () (fun u => (u, .ok true)) (faulty failure).muted ⟨"", []⟩ "now") :=
    build_isolates hquiet fun _ => rfl
  have hgoesOn := (hisolates .strayStars).goesOn (by decide +kernel)
  obtain ⟨summary, told, hsummary, -, hstore, -, -, -, herrors⟩ := hgoesOn
  refine ⟨⟨summary, hsummary, ?_⟩, hstore, ?_⟩
  · rw [herrors]
    decide +kernel
  · have hitems : (faulty .buildCancelled).items ⟨"", []⟩ blank.taxonomy.fill blank.store =
        [.folder ⟨"", ["broken"]⟩, .folder ⟨"", ["card"]⟩, .page ⟨"", ["page"]⟩] ++ [.examples "card"] := rfl
    exact ((hisolates .buildCancelled).ends _ _ _ _ hitems (by decide +kernel) rfl).1

end Index
end Catalog
