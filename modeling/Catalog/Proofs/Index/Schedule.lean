import Catalog.Proofs.Index.Reports
import Catalog.Proofs.Index.Summary

/-! The reports of a build come in one order, however many workers there are and however the build ends: the
repository, the folders in the order in which they are heard of, the pages, and the components that are stored. Only
the leader reports in phase one, and he numbers the folders as he hears of them. -/
namespace Catalog

open Build (Tally Outcome)

variable {σ : Type} {watch : Watch σ} {sources : Sources} {repository : Path} {heard : σ → List Progress}

/-- Workers look at the cancel flag and report nothing. -/
theorem Errand.heard_work (hdiary : watch.Diary heard) {folder : Path} {e e' : Errand} {b b' : Workbench σ}
    {changes : List Store.Change} (h : e.work watch sources repository folder b = some (b', e', changes)) :
    heard b'.watcher = heard b.watcher ∧ e.isHeard = false ∧ e'.isHeard = false := by
  unfold work at h
  split at h
  · have hcheck := Build.keeps_check hdiary b
    split at h
    · next h' => cases h; rw [h'] at hcheck; exact ⟨hcheck, rfl, rfl⟩
    · next h' => cases h; rw [h'] at hcheck; exact ⟨hcheck, rfl, rfl⟩
  · have hread := Build.keeps_readItem hdiary
      (fun taxonomy => Build.readFolder sources taxonomy repository folder) b
    split at h <;> next h' => cases h; rw [h'] at hread; exact ⟨hread, rfl, rfl⟩
  · cases h; exact ⟨rfl, rfl, rfl⟩
  · cases h; exact ⟨rfl, rfl, rfl⟩
  · cases h

/-- Whether the phase has failed or is being closed because it does. -/
def Lead.isFailing : Lead → Bool
  | closing _ => true
  | ended (.error _) => true
  | _ => false

theorem Build.components_enrich {tally : Tally} {summary : Summary} {b b' : Workbench σ}
    (h : enrich watch sources tally b = .ok summary b') : summary.components = tally.names.length := by
  obtain ⟨pages, b₁, -, h⟩ := bind_eq_ok.mp h
  rw [get_bind] at h
  obtain ⟨examples, b₂, -, h⟩ := bind_eq_ok.mp h
  cases h
  rfl

namespace Crew

variable {crew crew' : Crew σ} {b : Workbench σ} {before : List Progress} {found : List (Option String)}

section Counting

variable {errands : List Errand} {i : ℕ} {e e' : Errand}

theorem countP_isHeard_set (hi : errands[i]? = some e) (he : e.isHeard = false) (he' : e'.isHeard = false) :
    (errands.set i e').countP Errand.isHeard = errands.countP Errand.isHeard := by
  obtain ⟨hlt, rfl⟩ := List.getElem?_eq_some_iff.mp hi
  simp [List.countP_set hlt, he, he']

theorem countP_isHeard_hear (hi : errands[i]? = some e) (he : e.isHeard = false) :
    (errands.set i .heard).countP Errand.isHeard = errands.countP Errand.isHeard + 1 := by
  obtain ⟨hlt, rfl⟩ := List.getElem?_eq_some_iff.mp hi
  simp [List.countP_set hlt, he, show Errand.heard.isHeard = true from rfl]

end Counting

/-- What the leader has reported: each folder that he has heard of and, if his own report made the phase fail, the
one he was at. -/
structure Recounts (heard : σ → List Progress) (before : List Progress) (found : List (Option String))
    (crew : Crew σ) : Prop where
  heard_eq : heard crew.bench.watcher =
    before ++ numbered (fun number name => .component number crew.errands.length name) 1 found
  few : found.length ≤ crew.errands.length
  told : crew.told = crew.errands.countP Errand.isHeard
  counted : crew.lead.isFailing = false → found.length = crew.told
  names : crew.lead.isFailing = false → crew.tally.names = found.filterMap id

theorem recounts_start (heard : σ → List Progress) (sources : Sources) (b : Workbench σ) :
    Recounts heard (heard b.watcher) [] (start sources b) where
  heard_eq := (List.append_nil _).symm
  few := Nat.zero_le _
  told := by
    refine (List.countP_eq_zero.mpr fun e he => ?_).symm
    obtain ⟨folder, -, rfl⟩ := List.mem_map.mp he
    exact Bool.false_ne_true
  counted _ := rfl
  names _ := rfl

/-- A step that reports nothing, and in which the leader hears of no folder. -/
theorem Recounts.quiet (h : Recounts heard before found crew) {b' : Workbench σ} {errands : List Errand} {lead : Lead}
    {written : List Store.Change} (hheard : heard b'.watcher = heard crew.bench.watcher)
    (hlength : errands.length = crew.errands.length)
    (hcount : errands.countP Errand.isHeard = crew.errands.countP Errand.isHeard)
    (hlead : lead.isFailing = false → crew.lead.isFailing = false) :
    Recounts heard before found { crew with bench := b', errands := errands, lead := lead, written := written } where
  heard_eq := by rw [hheard, h.heard_eq, hlength]
  few := le_of_le_of_eq h.few hlength.symm
  told := h.told.trans hcount.symm
  counted hfailing := h.counted (hlead hfailing)
  names hfailing := h.names (hlead hfailing)

/-- The number of a folder that the leader is about to hear of is not above the number of all folders. -/
theorem Recounts.told_lt (h : Recounts heard before found crew) {i : ℕ} {e : Errand} (hi : crew.errands[i]? = some e)
    (he : e.isHeard = false) : crew.told < crew.errands.length := by
  have hle : (crew.errands.set i .heard).countP Errand.isHeard ≤ (crew.errands.set i .heard).length :=
    List.countP_le_length
  rw [countP_isHeard_hear hi he, List.length_set, ← h.told] at hle
  exact hle

/-- The leader reports the folder that he hears of, whether the report fails or not. -/
theorem Recounts.heard_report (h : Recounts heard before found crew) (hdiary : watch.Diary heard)
    (hlead : crew.lead.isFailing = false) (outcome : Outcome String) :
    heard (Build.left (Build.report watch (.component (crew.told + 1) crew.errands.length outcome.value?)
      crew.bench)).watcher = before ++ numbered (fun number name => .component number crew.errands.length name) 1
        (found ++ [outcome.value?]) := by
  rw [Build.heard_report hdiary, h.heard_eq, numbered_append, h.counted hlead, List.append_assoc, Nat.add_comm 1]
  rfl

theorem names_add (tally : Tally) (outcome : Outcome String) :
    (tally.add outcome).names = tally.names ++ [outcome.value?].filterMap id := by
  cases outcome <;> simp [Tally.add, Outcome.value?]

theorem Recounts.act (h : Recounts heard before found crew) (hdiary : watch.Diary heard)
    (hact : Act watch sources repository crew crew') : ∃ found', Recounts heard before found' crew' := by
  have hcheck := Build.keeps_check hdiary
  cases hact with
  | send next b' hlead hnext hok =>
    exact ⟨found, h.quiet (hcheck.ok hok) List.length_set (countP_isHeard_set hnext rfl rfl)
      fun _ => by rw [hlead]; rfl⟩
  | sent next hlead => exact ⟨found, h.quiet rfl rfl rfl fun _ => by rw [hlead]; rfl⟩
  | gather batch hlead => exact ⟨found, h.quiet rfl rfl rfl fun _ => by rw [hlead]; rfl⟩
  | rest b' hlead hok => exact ⟨found, h.quiet (hcheck.ok hok) rfl rfl fun _ => by rw [hlead]; rfl⟩
  | stop failure b' hlead herror => exact ⟨found, h.quiet (hcheck.error herror) rfl rfl nofun⟩
  | hear i batch outcome b' hlead hi hreport =>
    have hopen : crew.lead.isFailing = false := by rw [hlead]; rfl
    have hheard := h.heard_report hdiary hopen outcome
    rw [hreport] at hheard
    have htold := h.told_lt hi rfl
    have hcount := h.counted hopen
    refine ⟨found ++ [outcome.value?], ?_, ?_, ?_, fun _ => ?_, fun _ => ?_⟩
    · rw [List.length_set]
      exact hheard
    · simp only [List.length_append, List.length_singleton, List.length_set]
      omega
    · exact (congrArg (· + 1) h.told).trans (countP_isHeard_hear hi rfl).symm
    · simp only [List.length_append, List.length_singleton, hcount]
    · rw [names_add, h.names hopen, List.filterMap_append]
  | interrupt i batch outcome failure b' hlead hi hreport =>
    have hopen : crew.lead.isFailing = false := by rw [hlead]; rfl
    have hheard := h.heard_report hdiary hopen outcome
    rw [hreport] at hheard
    have htold := h.told_lt hi rfl
    have hcount := h.counted hopen
    refine ⟨found ++ [outcome.value?], hheard, ?_, h.told, nofun, nofun⟩
    simp only [List.length_append, List.length_singleton]
    omega
  | refuse i batch failure => exact ⟨found, h.quiet rfl rfl rfl nofun⟩
  | finish hlead => exact ⟨found, h.quiet rfl rfl rfl fun _ => by rw [hlead]; rfl⟩
  | fail failure hlead => exact ⟨found, h.quiet rfl rfl rfl nofun⟩
  | drop i failure hlead hi =>
    exact ⟨found, h.quiet rfl List.length_set (countP_isHeard_set hi rfl rfl) id⟩
  | work i folder e e' b' changes hfolder hi hwork =>
    obtain ⟨hheard, he, he'⟩ := Errand.heard_work hdiary hwork
    exact ⟨found, h.quiet hheard List.length_set (countP_isHeard_set hi he he') id⟩

theorem recounts_runWith (hdiary : watch.Diary heard) (workers : ℕ) (sources : Sources) (repository : Path)
    (b : Workbench σ) (moves : List Move) :
    ∃ found, Recounts heard (heard b.watcher) found
      ((start sources b).runWith workers watch sources repository moves) := by
  refine runWith_induction (P := fun crew => ∃ found, Recounts heard (heard b.watcher) found crew)
    ⟨[], recounts_start heard sources b⟩ ?_ moves
  rintro crew crew' move ⟨found, h⟩ hstep
  exact h.act hdiary (act_of_eq_some (stepWith_eq_some_iff.mp hstep).1)

theorem length_errands_runWith (workers : ℕ) (watch : Watch σ) (sources : Sources) (repository : Path)
    (b : Workbench σ) (moves : List Move) :
    ((start sources b).runWith workers watch sources repository moves).errands.length = sources.folders.length := by
  refine runWith_induction (P := fun crew => crew.errands.length = sources.folders.length)
    (List.length_map _) ?_ moves
  intro crew crew' move h hstep
  cases step_of_stepWith hstep with
  | pause | finish => exact h
  | _ => exact List.length_set.trans h

/-- Where the phase ends well, every folder was reported. -/
theorem Recounts.ended (h : Recounts heard before found crew) (hs : Sound sources repository b crew) {tally : Tally}
    (hlead : crew.lead = .ended (.ok tally)) :
    found.length = crew.errands.length ∧ tally.names = found.filterMap id := by
  obtain ⟨rfl, hall, -⟩ := hs.ended tally (by rw [hlead]; rfl)
  have hgood : crew.lead.isFailing = false := by rw [hlead]; rfl
  refine ⟨?_, h.names hgood⟩
  rw [h.counted hgood, h.told, List.countP_eq_length]
  exact fun e he => isHeard_iff.mpr (hall e he)

end Crew

namespace Index

variable {ix ix' : Index} {w w' : σ} {ensure : σ → σ × Except Failure Bool} {now : String} {workers : ℕ}
  {moves : List Crew.Move} {outcome : Except Failure Summary}

/-- The reports of a build that finds these components in its folders, and has the components with the `stored` names
after phase one. -/
def schedule (sources : Sources) (repository : Path) (found : List (Option String)) (stored : List String) :
    List Progress :=
  [.syncing, .synced repository.text] ++
    (numbered (fun number name => .component number sources.folders.length name) 1 found ++
      (numbered (fun number file => .page number sources.pages.length file.name) 1 sources.pages ++
        numbered (fun number name => .examples number stored.length name) 1 stored))

/-- No report comes twice. -/
theorem nodup_schedule (sources : Sources) (repository : Path) (found : List (Option String)) (stored : List String) :
    (schedule sources repository found stored).Nodup := by
  have hfolders : (numbered (fun number name => Progress.component number sources.folders.length name) 1 found).Nodup :=
    nodup_numbered (fun _ _ _ _ h => (Progress.component.inj h).1) found
  have hpages : (numbered (fun number (file : Path) => Progress.page number sources.pages.length file.name) 1
      sources.pages).Nodup :=
    nodup_numbered (fun _ _ _ _ h => (Progress.page.inj h).1) sources.pages
  have hstored : (numbered (fun number name => Progress.examples number stored.length name) 1 stored).Nodup :=
    nodup_numbered (fun _ _ _ _ h => (Progress.examples.inj h).1) stored
  refine List.Nodup.append (by simp) (hfolders.append (hpages.append hstored ?_) ?_) ?_
  · intro p hp hp'
    obtain ⟨_, _, -, rfl⟩ := mem_numbered hp
    obtain ⟨_, _, -, heq⟩ := mem_numbered hp'
    cases heq
  · intro p hp hp'
    obtain ⟨_, _, -, rfl⟩ := mem_numbered hp
    rcases List.mem_append.mp hp' with hp' | hp'
    all_goals
      obtain ⟨_, _, -, heq⟩ := mem_numbered hp'
      cases heq
  · intro p hp hp'
    rcases List.mem_append.mp hp' with hp' | hp'
    · obtain ⟨_, _, -, rfl⟩ := mem_numbered hp'
      simp at hp
    · rcases List.mem_append.mp hp' with hp' | hp'
      all_goals
        obtain ⟨_, _, -, rfl⟩ := mem_numbered hp'
        simp at hp

/-- A build that does not begin has asked for the repository at most. -/
theorem heard_beginBuild (hdiary : watch.Diary heard) {answer : Except Failure Unit}
    (h : ix.beginBuild watch w = (ix', w', answer)) :
    heard w' <+: heard w ++ [.syncing] ∧ (answer = .ok () → heard w' = heard w ++ [.syncing]) := by
  unfold beginBuild at h
  split at h
  · next w₁ hlook =>
    cases h
    have hw : heard w' = heard w := by simpa only [hlook] using hdiary.look w
    exact ⟨⟨[.syncing], by rw [hw]⟩, nofun⟩
  · next w₁ hlook =>
    have hw : heard w₁ = heard w := by simpa only [hlook] using hdiary.look w
    have hreport := Build.heard_report hdiary .syncing (ix.workbench w₁)
    rw [show (ix.workbench w₁).watcher = w₁ from rfl, hw] at hreport
    split at h
    · next hok =>
      cases h
      rw [hok] at hreport
      exact ⟨hreport ▸ List.prefix_rfl, fun _ => hreport⟩
    · next herror =>
      cases h
      rw [herror] at hreport
      exact ⟨hreport ▸ List.prefix_rfl, nofun⟩

section Preparation

variable {ix₁ : Index} {w₁ : σ} (hdiary : watch.Diary heard) (hensure : ∀ w, heard (ensure w).1 = heard w)
  (hw : heard w = []) (hbegin : ix.beginBuild watch w = (ix₁, w₁, .ok ()))
include hdiary hensure hw hbegin

/-- What comes before the phases is reported once it is known that the repository is there. -/
theorem reports_preparation (repository : Path) :
    Build.Reports heard (Build.prepare watch repository (ensure w₁).2) (ix₁.workbench (ensure w₁).1)
      [.synced repository.text] ∧ heard (ix₁.workbench (ensure w₁).1).watcher = [.syncing] := by
  refine ⟨Build.reports_prepare hdiary _ _ _, (hensure w₁).trans ?_⟩
  rw [(heard_beginBuild hdiary hbegin).2 rfl, hw, List.nil_append]

/-- Where the phases begin, the repository was reported twice. -/
theorem heard_prepared {b : Workbench σ}
    (hprepare : Build.prepare watch repository (ensure w₁).2 (ix₁.workbench (ensure w₁).1) = .ok () b) :
    heard b.watcher = [.syncing, .synced repository.text] := by
  obtain ⟨hreports, hasked⟩ := reports_preparation hdiary hensure hw hbegin repository
  simp only [Build.Reports, hprepare, hasked] at hreports
  exact hreports

theorem heard_unprepared {b : Workbench σ} {failure : Failure}
    (hprepare : Build.prepare watch repository (ensure w₁).2 (ix₁.workbench (ensure w₁).1) = .error failure b) :
    heard b.watcher <+: [.syncing, .synced repository.text] := by
  obtain ⟨hreports, hasked⟩ := reports_preparation hdiary hensure hw hbegin repository
  simp only [Build.Reports, hprepare, hasked] at hreports
  obtain ⟨told, hfront, htold⟩ := hreports
  rw [htold]
  exact (List.prefix_append_right_inj [.syncing]).mpr hfront

end Preparation

/-- What is heard of fewer folders begins what is heard of all. -/
theorem prefix_schedule_padded (found : List (Option String)) (stored : List String) :
    [.syncing, .synced repository.text] ++
        numbered (fun number name => .component number sources.folders.length name) 1 found <+:
      schedule sources repository (found ++ List.replicate (sources.folders.length - found.length) none) stored := by
  rw [schedule, numbered_append, List.append_assoc, ← List.append_assoc]
  exact List.prefix_append _ _

def storeAfterComponents (workers : ℕ) (ix : Index) (watch : Watch σ) (w : σ) (ensure : σ → σ × Except Failure Bool)
    (sources : Sources) (repository : Path) (moves : List Crew.Move) : Option Store :=
  match ix.beginBuild watch w with
  | (ix, w, .ok ()) =>
    match Build.prepare watch repository (ensure w).2 (ix.workbench (ensure w).1) with
    | .ok _ bench =>
      let crew := (Crew.start sources bench).runWith workers watch sources repository moves
      crew.lead.tally?.map fun _ => crew.bench.store
    | .error _ _ => none
  | _ => none

/-- Phases two and three change no name in the store. -/
theorem names_storeAfterComponents {s : Store}
    (h : ix.buildWith workers watch w ensure sources repository now moves = some (ix', w', outcome))
    (hs : storeAfterComponents workers ix watch w ensure sources repository moves = some s) :
    ix'.store.names = s.names := by
  cases course_of_buildWith h with
  | refused _ _ failure hbegin => simp [storeAfterComponents, hbegin] at hs
  | unprepared ix₁ w₁ failure b hbegin hprepare => simp [storeAfterComponents, hbegin, hprepare] at hs
  | interrupted ix₁ w₁ failure b crew hbegin hprepare hcrew hlead =>
    simp [storeAfterComponents, hbegin, hprepare, hcrew, hlead, Lead.tally?] at hs
  | enriched ix₁ w₁ b crew tally r hbegin hprepare hcrew hlead henrich =>
    simp only [storeAfterComponents, hbegin, hprepare, hcrew, hlead, Lead.tally?, Option.map_some,
      Option.some.injEq] at hs
    have hnames : (Build.left r).store.names = s.names := by
      rw [← henrich, ← hs]
      exact Build.keeps_names_enrich watch sources tally crew.bench
    rw [← hnames]
    cases r <;> rfl

/-- The reports of every build with any number of workers, however it ends, begin its schedule, and those of a build
that succeeds are the whole of it, with the components that it counts among those found. The components at the end are
those after phase one. -/
theorem heard_prefix_schedule (hdiary : watch.Diary heard) (hensure : ∀ w, heard (ensure w).1 = heard w)
    (hw : heard w = [])
    (h : ix.buildWith workers watch w ensure sources repository now moves = some (ix', w', outcome)) :
    (∀ s, storeAfterComponents workers ix watch w ensure sources repository moves = some s →
      ix'.store.names = s.names) ∧
    ∃ found : List (Option String), found.length = sources.folders.length ∧
      heard w' <+: schedule sources repository found ix'.store.names ∧
      (schedule sources repository found ix'.store.names).Nodup ∧
      ∀ summary, outcome = .ok summary →
        heard w' = schedule sources repository found ix'.store.names ∧
          summary.components = (found.filterMap id).length := by
  refine ⟨fun s hs => names_storeAfterComponents h hs, ?_⟩
  have hnone : ∃ found : List (Option String), found.length = sources.folders.length :=
    ⟨List.replicate sources.folders.length none, List.length_replicate⟩
  cases course_of_buildWith h with
  | refused _ _ failure hbegin =>
    obtain ⟨found, hlength⟩ := hnone
    have hheard := (heard_beginBuild hdiary hbegin).1
    rw [hw] at hheard
    exact ⟨found, hlength, hheard.trans ⟨_, rfl⟩, nodup_schedule _ _ _ _, fun _ hok => by cases hok⟩
  | unprepared ix₁ w₁ failure b hbegin hprepare =>
    obtain ⟨found, hlength⟩ := hnone
    have hheard := heard_unprepared hdiary hensure hw hbegin hprepare
    exact ⟨found, hlength, hheard.trans (List.prefix_append _ _), nodup_schedule _ _ _ _, fun _ hok => by cases hok⟩
  | interrupted ix₁ w₁ failure b crew hbegin hprepare hcrew hlead =>
    obtain ⟨found, hfound⟩ := Crew.recounts_runWith hdiary workers sources repository b moves
    have hall := Crew.length_errands_runWith workers watch sources repository b moves
    rw [hcrew] at hfound hall
    have hfew := hfound.few
    have hheard := hfound.heard_eq
    rw [heard_prepared hdiary hensure hw hbegin hprepare, hall] at hheard
    rw [hall] at hfew
    refine ⟨found ++ List.replicate (sources.folders.length - found.length) none, ?_, ?_, nodup_schedule _ _ _ _,
      fun _ hok => by cases hok⟩
    · rw [List.length_append, List.length_replicate, Nat.add_sub_cancel' hfew]
    · rw [hheard]
      exact prefix_schedule_padded found _
  | enriched ix₁ w₁ b crew tally r hbegin hprepare hcrew hlead henrich =>
    obtain ⟨found, hfound⟩ := Crew.recounts_runWith hdiary workers sources repository b moves
    have hall := Crew.length_errands_runWith workers watch sources repository b moves
    obtain ⟨moves', hmoves⟩ := Crew.exists_run_eq_runWith workers watch sources repository (Crew.start sources b) moves
    rw [hcrew] at hfound hall hmoves
    obtain ⟨hlength, hnames⟩ := hfound.ended (Crew.sound_run hmoves) hlead
    have hheard := hfound.heard_eq
    rw [heard_prepared hdiary hensure hw hbegin hprepare, hall] at hheard
    have hstored : (Build.left r).store.names = crew.bench.store.names := by
      rw [← henrich]
      exact Build.keeps_names_enrich watch sources tally crew.bench
    have hreports := Build.reports_enrich hdiary sources tally crew.bench
    rw [← hstored] at hreports
    cases r with
    | error failure b' =>
      simp only [Build.Reports, henrich, hheard] at hreports
      obtain ⟨told, hfront, htold⟩ := hreports
      refine ⟨found, hlength.trans hall, ?_, nodup_schedule _ _ _ _, fun _ hok => by cases hok⟩
      change heard b'.watcher <+: _
      rw [htold, schedule, ← List.append_assoc]
      exact (List.prefix_append_right_inj _).mpr hfront
    | ok summary b' =>
      simp only [Build.Reports, henrich, hheard] at hreports
      have hwhole : heard b'.watcher = schedule sources repository found b'.store.names := by
        rw [hreports, schedule, List.append_assoc]
        rfl
      refine ⟨found, hlength.trans hall, hwhole ▸ List.prefix_rfl, nodup_schedule _ _ _ _, ?_⟩
      rintro _ ⟨⟩
      exact ⟨hwhole, (Build.components_enrich henrich).trans (congrArg List.length hnames)⟩

/-- Two workers index the two folders of one component, the later one first, and a diary is kept. -/
def overlappingRun : Option (Index × (Unit × List Progress) × Except Failure Summary) :=
  buildWith 2 {} Watch.unattended.recorded ((), []) (fun w => (w, .ok true)) overlapping ⟨"", []⟩ "now"
    [.lead, .lead, .lead, .work 1, .work 0, .work 1, .work 0, .work 1, .work 0, .work 1, .work 0, .gather [1, 0],
      .lead, .lead, .lead, .lead]

theorem heard_overlappingRun : ∃ ix' w' found, overlappingRun = some (ix', w', .ok ⟨2, 3, 1, 0⟩) ∧
    w'.2 = [.syncing, .synced ".", .component 1 2 (some "BUTTON"), .component 2 2 (some "button"), .page 1 3 "page",
      .page 2 3 "notes", .page 3 3 "old page", .examples 1 1 "BUTTON"] ∧
    found.length = 2 ∧ w'.2 = schedule overlapping ⟨"", []⟩ found ix'.store.names := by
  have hresult : overlappingRun.map (fun r => (r.2.1.2, r.2.2)) =
      some ([.syncing, .synced ".", .component 1 2 (some "BUTTON"), .component 2 2 (some "button"), .page 1 3 "page",
        .page 2 3 "notes", .page 3 3 "old page", .examples 1 1 "BUTTON"], .ok ⟨2, 3, 1, 0⟩) := by decide +kernel
  obtain ⟨⟨ix', w', outcome⟩, hrun, hr⟩ := Option.map_eq_some_iff.mp hresult
  obtain ⟨hheard, rfl⟩ := Prod.mk.inj hr
  obtain ⟨-, found, hlength, -, -, hok⟩ :=
    heard_prefix_schedule (Watch.diary_recorded Watch.unattended) (fun _ => rfl) rfl hrun
  exact ⟨ix', w', found, hrun, hheard, hlength, (hok _ rfl).1⟩

end Index
end Catalog
