import Catalog.Proofs.Index.Schedule

/-! A cancellation that is asked for at a report ends the build, as long as the cancel flag is looked at once more. It
is after every report but one: where a checkout has neither folders nor pages, nothing is left to do once the
repository is there, and the build succeeds. -/
namespace Catalog

open Build (Tally Outcome)

variable {σ : Type} {watch : Watch σ} {sources : Sources} {repository : Path} {heard : σ → List Progress}
  {asked : σ → Prop} {event : Progress}

/-- The watcher asks for cancellation when he hears of the event, if not before, and does not take it back. He keeps a
diary, and makes a build fail in no other way. -/
structure Watch.CancelsAt (watch : Watch σ) (heard : σ → List Progress) (asked : σ → Prop) (event : Progress) :
    Prop where
  diary : watch.Diary heard
  look : ∀ w, asked w → (watch.look w).2 = true ∧ asked (watch.look w).1
  keeps : ∀ progress w, asked w → asked (watch.report progress w).1
  asks : ∀ w, asked (watch.report event w).1
  raises : ∀ progress w failure, (watch.report progress w).2 = some failure → failure = .buildCancelled

def Watch.cancelling (event : Progress) : Watch (Bool × List Progress) where
  look v := (v, v.1)
  report progress v := ((v.1 || progress = event, v.2 ++ [progress]), none)

theorem Watch.cancelsAt_cancelling (event : Progress) :
    (Watch.cancelling event).CancelsAt Prod.snd (fun v => v.1 = true) event where
  diary := ⟨fun _ => rfl, fun _ _ => rfl⟩
  look _ h := ⟨h, h⟩
  keeps _ v h := by simp [Watch.cancelling, h]
  asks v := by simp [Watch.cancelling]
  raises _ _ _ h := by cases h

/-- The sources read no further item once cancellation is asked for, and know no other cancellation. -/
structure Sources.Obedient (sources : Sources) : Prop where
  readComponent : ∀ file cancelled failure, sources.readComponent file cancelled = .error failure →
    failure.isCancellation = true → failure = .buildCancelled
  readPage : ∀ file, sources.readPage file true = .error .buildCancelled
  findExamples : ∀ name, Text.isBlankText name = false → sources.findExamples name true = .error .buildCancelled

theorem Workspace.exists_fault {w : Workspace} {p : Path} {failure : Failure} (h : w.readBytes p = .error failure) :
    ∃ fault, failure = .file fault := by
  unfold readBytes at h
  split_ifs at h
  · cases h; exact ⟨_, rfl⟩
  · split at h
    · cases h; exact ⟨_, rfl⟩
    · split at h
      · cases h
      · cases h; exact ⟨_, rfl⟩

/-- The sources of every checkout are. -/
theorem Checkout.obedient_sources (w : Workspace) (repository : Path) :
    (Checkout.sources w repository).Obedient := by
  refine ⟨fun file cancelled failure h hcancel => ?_, fun file => rfl, fun name hname => ?_⟩
  · change Checkout.readComponent w file cancelled = .error failure at h
    cases cancelled with
    | true => exact (Except.error.inj h).symm
    | false =>
      unfold Checkout.readComponent at h
      simp only [checkCancelled, Bool.false_eq_true, if_false, bind, Except.bind] at h
      split_ifs at h
      cases hbytes : w.readBytes file with
      | ok bytes => simp [hbytes] at h
      | error fault =>
        -- what cannot be read of a file is no cancellation
        obtain ⟨fault, rfl⟩ := Workspace.exists_fault hbytes
        simp only [hbytes, Except.error.injEq] at h
        rw [← h] at hcancel
        cases hcancel
  · change Checkout.findExamples w repository name true = .error .buildCancelled
    simp [Checkout.findExamples, requireName, hname, bind, Except.bind, checkCancelled]

namespace Build

variable {α β : Type} {b : Workbench σ} {m : BuildM σ α} {f : α → BuildM σ β}

def Stops (m : BuildM σ α) (b : Workbench σ) : Prop :=
  result (m b) = .error .buildCancelled

theorem Stops.bind (h : Stops m b) (f : α → BuildM σ β) : Stops (m >>= f) b := by
  unfold Stops at h ⊢
  cases hm : m b with
  | ok x b' => rw [hm] at h; cases h
  | error failure b' =>
    rw [hm] at h
    rw [bind_of_error hm]
    exact congrArg Except.error (Except.error.inj h)

/-- If the event is heard in this step, the step ends with the cancellation of the build. -/
def Attends (heard : σ → List Progress) (event : Progress) (m : BuildM σ α) (b : Workbench σ) : Prop :=
  event ∉ heard b.watcher → event ∈ heard (left (m b)).watcher → Stops m b

theorem Attends.of_keeps (h : Keeps (fun b => heard b.watcher) m) (b : Workbench σ) : Attends heard event m b := by
  intro hnew hheard
  have hsame : heard (left (m b)).watcher = heard b.watcher := h b
  exact absurd (hsame ▸ hheard) hnew

theorem Attends.bind (hm : Attends heard event m b) (hf : ∀ x b', m b = .ok x b' → Attends heard event (f x) b') :
    Attends heard event (m >>= f) b := by
  intro hnew hheard
  cases h : m b with
  | error failure b' =>
    rw [bind_of_error h] at hheard
    exact (hm hnew (by rw [h]; exact hheard)).bind f
  | ok x b' =>
    by_cases hfirst : event ∈ heard b'.watcher
    · exact (hm hnew (by rw [h]; exact hfirst)).bind f
    · rw [bind_of_ok h] at hheard
      unfold Stops
      rw [bind_of_ok h]
      exact hf x b' h hfirst hheard

theorem check_error {failure : Failure} {b' : Workbench σ} (h : check watch b = .error failure b') :
    failure = .buildCancelled := by
  rw [check_apply] at h
  split_ifs at h
  cases h
  rfl

theorem watcher_report (watch : Watch σ) (progress : Progress) (b : Workbench σ) :
    (left (report watch progress b)).watcher = (watch.report progress b.watcher).1 := by
  rw [report_apply]
  cases (watch.report progress b.watcher).2 <;> rfl

theorem report_error {progress : Progress} {failure : Failure} {b' : Workbench σ}
    (h : report watch progress b = .error failure b') : (watch.report progress b.watcher).2 = some failure := by
  rw [report_apply] at h
  split at h
  · next hraise => cases h; exact hraise
  · cases h

/-- Only a cancellation makes the reading of an item fail as a step of the build. -/
theorem readItem_error {read : Taxonomy → Bool → Except Failure (Option α)} {failure : Failure} {b' : Workbench σ}
    (h : readItem watch read b = .error failure b') :
    (∃ cancelled, read b.taxonomy cancelled = .error failure) ∧ failure.isCancellation = true := by
  unfold readItem at h
  rw [bind_of_ok (look_apply watch b), get_bind] at h
  cases hread : read b.taxonomy (watch.look b.watcher).2 with
  | ok value => simp only [hread] at h; cases value <;> cases h
  | error failure' =>
    simp only [hread, settle] at h
    split_ifs at h with hcancel
    · cases h; exact ⟨⟨_, hread⟩, hcancel⟩
    · cases h

theorem readFolder_cancelled (hs : sources.Obedient) {taxonomy : Taxonomy} {folder : Path} {cancelled : Bool}
    {failure : Failure} (h : readFolder sources taxonomy repository folder cancelled = .error failure)
    (hcancel : failure.isCancellation = true) : failure = .buildCancelled := by
  unfold readFolder at h
  split at h
  · cases h
  · next file hfile =>
    cases hread : sources.readComponent file cancelled with
    | error failure' =>
      rw [hread] at h
      cases h
      exact hs.readComponent file cancelled failure hread hcancel
    | ok facts? =>
      cases facts? with
      | none => rw [hread] at h; cases h
      | some facts =>
        simp only [hread, taxonomy.assign_eq, bind, Except.bind] at h
        split_ifs at h
        cases h
        cases hcancel

section Cancelling

variable (hwatch : watch.CancelsAt heard asked event)
include hwatch

theorem stops_check (hasked : asked b.watcher) : Stops (check watch) b := by
  unfold Stops
  rw [check_apply, if_pos (hwatch.look _ hasked).1]
  rfl

theorem keepsAsked_look : KeepsIf id (fun b => asked b.watcher) (look watch) :=
  keepsIf_id.mpr fun _ hasked => (hwatch.look _ hasked).2

theorem keepsAsked_check : KeepsIf id (fun b => asked b.watcher) (check watch) := by
  refine (keepsAsked_look hwatch).bind fun cancelled => ?_
  cases cancelled with
  | true => exact fun _ _ => rfl
  | false => exact (Keeps.pure ()).keepsIf _

theorem keepsAsked_readItem (read : Taxonomy → Bool → Except Failure (Option α)) :
    KeepsIf id (fun b => asked b.watcher) (readItem watch read) :=
  (keepsAsked_look hwatch).bind fun _ => (Keeps.get_bind fun _ => Keeps.lift _).keepsIf _

theorem stops_readItem {read : Taxonomy → Bool → Except Failure (Option α)}
    (hread : ∀ taxonomy, read taxonomy true = .error .buildCancelled) (hasked : asked b.watcher) :
    Stops (readItem watch read) b := by
  unfold Stops readItem
  rw [bind_of_ok (look_apply watch b), get_bind, (hwatch.look _ hasked).1, hread]
  rfl

/-- A report is attended to if what comes after it stops where cancellation is asked for. -/
theorem attends_report_bind {progress : Progress} {f : Unit → BuildM σ β}
    (hstop : ∀ b', asked b'.watcher → Stops (f ()) b') (hf : ∀ b', Attends heard event (f ()) b') :
    Attends heard event (report watch progress >>= f) b := by
  intro hnew hheard
  have hreport := report_apply watch progress b
  cases hraise : (watch.report progress b.watcher).2 with
  | some failure =>
    simp only [hraise] at hreport
    unfold Stops
    rw [bind_of_error hreport, hwatch.raises _ _ _ hraise]
    rfl
  | none =>
    simp only [hraise] at hreport
    rw [bind_of_ok hreport] at hheard
    unfold Stops
    rw [bind_of_ok hreport]
    by_cases he : progress = event
    · subst he
      exact hstop _ (hwatch.asks b.watcher)
    · refine hf _ (fun hfirst => ?_) hheard
      rcases List.mem_append.mp (hwatch.diary.report progress b.watcher ▸ hfirst) with hfirst | hfirst
      · exact hnew hfirst
      · exact he (List.mem_singleton.mp hfirst).symm

variable (hs : sources.Obedient)
include hs

theorem attends_indexPages (total current : ℕ) (files : List Path) (count : Count) (b : Workbench σ) :
    Attends heard event (indexPages watch sources total current files count) b := by
  induction files generalizing current count b with
  | nil => exact Attends.of_keeps (Keeps.pure count) b
  | cons file files ih =>
    refine (Attends.of_keeps (keeps_check hwatch.diary) b).bind fun _ b₁ _ => ?_
    refine attends_report_bind hwatch (fun b₂ hasked => ?_) fun b₂ => ?_
    · exact ((stops_readItem hwatch (fun _ => hs.readPage file) hasked).bind _).bind _
    · exact (Attends.of_keeps (keeps_indexPage hwatch.diary file count) b₂).bind fun count b₃ _ =>
        ih (current + 1) count b₃

theorem attends_indexExamples (total current : ℕ) {components : List Component}
    (hnamed : ∀ c ∈ components, Text.isBlankText c.name = false) (count : Count) (b : Workbench σ) :
    Attends heard event (indexExamples watch sources total current components count) b := by
  induction components generalizing current count b with
  | nil => exact Attends.of_keeps (Keeps.pure count) b
  | cons c components ih =>
    have hread (taxonomy : Taxonomy) :
        (sources.findExamples c.name true).map someExamples = .error .buildCancelled := by
      rw [hs.findExamples c.name (hnamed c List.mem_cons_self)]
      rfl
    refine (Attends.of_keeps (keeps_check hwatch.diary) b).bind fun _ b₁ _ => ?_
    refine attends_report_bind hwatch (fun b₂ hasked => ?_) fun b₂ => ?_
    · exact ((stops_readItem hwatch hread hasked).bind _).bind _
    · exact (Attends.of_keeps (keeps_indexExample hwatch.diary c count) b₂).bind fun count b₃ _ =>
        ih (current + 1) (fun d hd => hnamed d (List.mem_cons_of_mem c hd)) count b₃

/-- Every report of the later phases is attended to. -/
theorem attends_enrich (tally : Tally) (hnamed : ∀ c ∈ b.store.components, Text.isBlankText c.name = false) :
    Attends heard event (enrich watch sources tally) b := by
  refine (attends_indexPages hwatch hs _ _ _ _ b).bind fun pages b₁ hpages => ?_
  have hnames : b₁.store.names = b.store.names := (keeps_names_indexPages watch sources _ _ _ _).ok hpages
  have hnamed₁ (c : Component) (hc : c ∈ b₁.store.components) : Text.isBlankText c.name = false := by
    have hmem : c.name ∈ b.store.names := hnames ▸ List.mem_map_of_mem hc
    obtain ⟨d, hd, hname⟩ := List.mem_map.mp hmem
    exact hname ▸ hnamed d hd
  change Attends heard event (indexExamples watch sources b₁.store.components.length 1 b₁.store.components {} >>= _) b₁
  exact (attends_indexExamples hwatch hs _ _ hnamed₁ _ b₁).bind fun examples b₂ _ => Attends.of_keeps (Keeps.pure _) b₂

omit hs in
/-- Where cancellation is asked for, what comes before the phases does not come to its end, whatever the answer about
the repository is, if that is not another failure. -/
theorem stops_prepare (repository : Path) {available : Except Failure Bool}
    (havailable : ∀ failure, available = .error failure → failure = .buildCancelled) (hasked : asked b.watcher) :
    Stops (prepare watch repository available) b := by
  cases available with
  | error failure =>
    rw [havailable failure rfl]
    rfl
  | ok isThere => exact (stops_check hwatch hasked).bind _

omit hs in
/-- Where cancellation is asked for, no page is begun. -/
theorem stops_enrich (tally : Tally) (hpages : sources.pages ≠ []) (hasked : asked b.watcher) :
    Stops (enrich watch sources tally) b := by
  unfold enrich
  cases hfiles : sources.pages with
  | nil => exact absurd hfiles hpages
  | cons file files => exact ((stops_check hwatch hasked).bind _).bind _

omit hs in
/-- What comes before the phases fails as cancelled, if the event was heard. -/
theorem prepare_error_heard {available : Except Failure Bool} {failure : Failure} {b' : Workbench σ}
    (havailable : ∀ failure, available = .error failure → failure = .buildCancelled)
    (hasked : event ∈ heard b.watcher → asked b.watcher)
    (h : prepare watch repository available b = .error failure b') (he : event ∈ heard b'.watcher) :
    failure = .buildCancelled := by
  by_cases hearlier : event ∈ heard b.watcher
  · have hstops := stops_prepare hwatch repository havailable (hasked hearlier)
    rw [Stops, h] at hstops
    exact Except.error.inj hstops
  · cases available with
    | error failure' => cases h; exact havailable _ rfl
    | ok isThere =>
      change (check watch >>= _) b = _ at h
      cases hcheck : check watch b with
      | error failure' b₁ =>
        rw [bind_of_error hcheck] at h
        cases h
        exact check_error hcheck
      | ok x b₁ =>
        rw [bind_of_ok hcheck] at h
        have hheard : heard b₁.watcher = heard b.watcher := (keeps_check hwatch.diary).ok hcheck
        cases isThere with
        | false => cases h; exact absurd (hheard ▸ he) hearlier
        | true =>
          change (report watch (.synced repository.text) >>= _) b₁ = _ at h
          cases hreport : report watch (.synced repository.text) b₁ with
          | ok x b₂ => rw [bind_of_ok hreport] at h; cases h
          | error failure' b₂ =>
            rw [bind_of_error hreport] at h
            cases h
            exact hwatch.raises _ _ _ (report_error hreport)

omit hs in
/-- Where the phases begin after the event was heard, the event is that the repository is there. -/
theorem prepare_ok_heard {available : Except Failure Bool} {b' : Workbench σ}
    (havailable : ∀ failure, available = .error failure → failure = .buildCancelled)
    (hasked : event ∈ heard b.watcher → asked b.watcher)
    (h : prepare watch repository available b = .ok () b') (he : event ∈ heard b'.watcher) :
    event = .synced repository.text ∧ asked b'.watcher := by
  have hearlier : event ∉ heard b.watcher := by
    intro hearlier
    have hstops := stops_prepare hwatch repository havailable (hasked hearlier)
    rw [Stops, h] at hstops
    cases hstops
  have hreports := reports_prepare hwatch.diary repository available b
  simp only [Reports, h] at hreports
  have hevent : event = .synced repository.text := by
    rcases List.mem_append.mp (hreports ▸ he) with he | he
    · exact absurd he hearlier
    · exact List.mem_singleton.mp he
  subst hevent
  refine ⟨rfl, ?_⟩
  obtain ⟨isThere, b₁, -, h⟩ := bind_eq_ok.mp h
  obtain ⟨_, b₂, -, h⟩ := bind_eq_ok.mp h
  cases isThere with
  | false => cases h
  | true =>
    obtain ⟨_, b₃, hreport, h⟩ := bind_eq_ok.mp h
    cases h
    have hwatcher := watcher_report watch (.synced repository.text) b₂
    rw [hreport] at hwatcher
    exact (congrArg asked hwatcher).mpr (hwatch.asks _)

end Cancelling

end Build

/-- With neither pages nor components the later phases look at nothing and report nothing. -/
theorem Build.result_enrich_idle (watch : Watch σ) {b : Workbench σ} (hpages : sources.pages = [])
    (hcomponents : b.store.components = []) : result (enrich watch sources {} b) = .ok ⟨0, 0, 0, 0⟩ := by
  obtain ⟨⟨components, references⟩, taxonomy, watcher⟩ := b
  cases hcomponents
  unfold enrich
  rw [hpages]
  rfl

/-- What the sources give has a name. -/
theorem Sources.Gives.isBlankText_name {taxonomy : Taxonomy} {c : Component} {r : ApiReference}
    (h : sources.Gives repository taxonomy c r) : Text.isBlankText c.name = false := by
  obtain ⟨facts, category, path, hassign, rfl, -⟩ := h.exists_facts
  rw [taxonomy.assign_eq] at hassign
  split_ifs at hassign with hblank
  exact Bool.eq_false_iff.mpr hblank

/-- The leader will look at the cancel flag before phase one with so many folders ends well, or it fails anyway. -/
def Lead.Owes (folders : ℕ) : Lead → Prop
  | sending next => next < folders
  | waiting => False
  | hearing _ => True
  | closing _ => True
  | ended (.ok _) => False
  | ended (.error _) => True

/-- What a worker does with the watcher, and how he fails. -/
theorem Errand.cancels_work (hwatch : watch.CancelsAt heard asked event) (hs : sources.Obedient) {folder : Path}
    {e e' : Errand} {b b' : Workbench σ} {changes : List Store.Change}
    (h : e.work watch sources repository folder b = some (b', e', changes)) :
    (asked b.watcher → asked b'.watcher) ∧ ∀ failure, e' = .done (.error failure) → failure = .buildCancelled := by
  unfold work at h
  split at h
  · have hcheck := Build.keepsAsked_check hwatch b
    split at h
    · next h' => cases h; rw [h'] at hcheck; exact ⟨fun hb => (hcheck hb).mpr hb, nofun⟩
    · next h' =>
      cases h
      rw [h'] at hcheck
      refine ⟨fun hb => (hcheck hb).mpr hb, ?_⟩
      rintro _ ⟨⟩
      exact Build.check_error h'
  · have hread := Build.keepsAsked_readItem hwatch
      (fun taxonomy => Build.readFolder sources taxonomy repository folder) b
    split at h
    · next h' => cases h; rw [h'] at hread; exact ⟨fun hb => (hread hb).mpr hb, nofun⟩
    · next h' => cases h; rw [h'] at hread; exact ⟨fun hb => (hread hb).mpr hb, nofun⟩
    · next h' => cases h; rw [h'] at hread; exact ⟨fun hb => (hread hb).mpr hb, nofun⟩
    · next h' =>
      cases h
      rw [h'] at hread
      refine ⟨fun hb => (hread hb).mpr hb, ?_⟩
      rintro _ ⟨⟩
      obtain ⟨⟨cancelled, hfailed⟩, hcancel⟩ := Build.readItem_error h'
      exact Build.readFolder_cancelled hs hfailed hcancel
  · cases h; exact ⟨id, nofun⟩
  · cases h; exact ⟨id, nofun⟩
  · cases h

namespace Crew

variable {crew crew' : Crew σ} {b : Workbench σ}

/-- Where phase one fails, it is cancelled; and if the event was heard, it will not end well. -/
structure Mindful (heard : σ → List Progress) (asked : σ → Prop) (event : Progress) (crew : Crew σ) : Prop where
  errands : ∀ e ∈ crew.errands, ∀ failure, e = .done (.error failure) → failure = .buildCancelled
  failing : ∀ failure, crew.lead = .closing failure ∨ crew.lead = .ended (.error failure) → failure = .buildCancelled
  asked : event ∈ heard crew.bench.watcher → asked crew.bench.watcher
  owes : event ∈ heard crew.bench.watcher → crew.lead.Owes crew.errands.length

theorem mindful_start (hasked : event ∈ heard b.watcher → asked b.watcher)
    (hfolders : event ∈ heard b.watcher → sources.folders ≠ []) : (start sources b).Mindful heard asked event where
  errands e he failure h := by
    obtain ⟨folder, -, rfl⟩ := List.mem_map.mp he
    cases h
  failing failure h := by rcases h with h | h <;> cases h
  asked := hasked
  owes h := by
    change 0 < (start sources b).errands.length
    rw [start, List.length_map]
    exact List.length_pos_iff.mpr (hfolders h)

/-- A step in which nothing is reported. -/
theorem Mindful.quiet (h : crew.Mindful heard asked event) {b' : Workbench σ} {errands : List Errand} {lead : Lead}
    {written : List Store.Change} (hheard : heard b'.watcher = heard crew.bench.watcher)
    (hasked : asked crew.bench.watcher → asked b'.watcher)
    (herrands : ∀ e ∈ errands, ∀ failure, e = .done (.error failure) → failure = .buildCancelled)
    (hfailing : ∀ failure, lead = .closing failure ∨ lead = .ended (.error failure) → failure = .buildCancelled)
    (howes : event ∈ heard crew.bench.watcher → crew.lead.Owes crew.errands.length → lead.Owes errands.length) :
    Mindful heard asked event
      { crew with bench := b', errands := errands, lead := lead, written := written } where
  errands := herrands
  failing := hfailing
  asked he := hasked (h.asked (hheard ▸ he))
  owes he := howes (hheard ▸ he) (h.owes (hheard ▸ he))

/-- The leader who may go on after a check has not heard of the event. -/
theorem Mindful.unheard (h : crew.Mindful heard asked event) (hwatch : watch.CancelsAt heard asked event)
    {b' : Workbench σ} (hcheck : Build.check watch crew.bench = .ok () b') : event ∉ heard crew.bench.watcher := by
  intro he
  have hstops := Build.stops_check hwatch (h.asked he)
  rw [Build.Stops, hcheck] at hstops
  cases hstops

/-- The leader reports a folder, and cancellation is asked for if that is the event. -/
theorem Mindful.asked_report (h : crew.Mindful heard asked event) (hwatch : watch.CancelsAt heard asked event)
    (progress : Progress) : event ∈ heard (Build.left (Build.report watch progress crew.bench)).watcher →
      asked (Build.left (Build.report watch progress crew.bench)).watcher := by
  rw [Build.watcher_report]
  intro he
  rcases List.mem_append.mp (hwatch.diary.report progress crew.bench.watcher ▸ he) with he | he
  · exact hwatch.keeps _ _ (h.asked he)
  · rw [← List.mem_singleton.mp he]
    exact hwatch.asks _

theorem Mindful.act (h : crew.Mindful heard asked event) (hwatch : watch.CancelsAt heard asked event)
    (hs : sources.Obedient) (hact : Act watch sources repository crew crew') : crew'.Mindful heard asked event := by
  have hcheck := Build.keeps_check hwatch.diary
  have hasked := Build.keepsAsked_check hwatch crew.bench
  cases hact with
  | send next b' hlead hnext hok =>
    have hunheard := h.unheard hwatch hok
    rw [hok] at hasked
    exact h.quiet (hcheck.ok hok) (fun hb => (hasked hb).mpr hb) (forall_mem_set h.errands nofun) nofun
      fun he => absurd he hunheard
  | sent next hlead hnext =>
    refine h.quiet rfl id h.errands nofun fun _ howes => ?_
    rw [hlead] at howes
    exact (List.getElem?_eq_none_iff.mp hnext).not_gt howes
  | gather batch hlead => exact h.quiet rfl id h.errands nofun fun _ _ => trivial
  | rest b' hlead hok =>
    have hunheard := h.unheard hwatch hok
    rw [hok] at hasked
    exact h.quiet (hcheck.ok hok) (fun hb => (hasked hb).mpr hb) h.errands nofun fun he => absurd he hunheard
  | stop failure b' hlead herror =>
    rw [herror] at hasked
    refine h.quiet (hcheck.error herror) (fun hb => (hasked hb).mpr hb) h.errands ?_ fun _ _ => trivial
    rintro _ (⟨⟨⟩⟩ | ⟨⟨⟩⟩)
    exact Build.check_error herror
  | hear i batch outcome b' hlead hi hreport =>
    have hreported := h.asked_report hwatch (.component (crew.told + 1) crew.errands.length outcome.value?)
    rw [hreport] at hreported
    exact ⟨forall_mem_set h.errands nofun, nofun, hreported, fun _ => trivial⟩
  | interrupt i batch outcome failure b' hlead hi hreport =>
    have hreported := h.asked_report hwatch (.component (crew.told + 1) crew.errands.length outcome.value?)
    rw [hreport] at hreported
    refine ⟨h.errands, ?_, hreported, fun _ => trivial⟩
    rintro _ (⟨⟨⟩⟩ | ⟨⟨⟩⟩)
    exact hwatch.raises _ _ _ (Build.report_error hreport)
  | refuse i batch failure hlead hi =>
    refine h.quiet rfl id h.errands ?_ fun _ _ => trivial
    rintro _ (⟨⟨⟩⟩ | ⟨⟨⟩⟩)
    exact h.errands _ (List.mem_of_getElem? hi) _ rfl
  | finish hlead hheard =>
    refine h.quiet rfl id h.errands nofun fun _ howes => ?_
    rw [hlead] at howes
    exact howes
  | fail failure hlead =>
    refine h.quiet rfl id h.errands ?_ fun _ _ => trivial
    rintro _ (⟨⟨⟩⟩ | ⟨⟨⟩⟩)
    exact h.failing _ (.inl hlead)
  | drop i failure hlead hi =>
    refine h.quiet rfl id (forall_mem_set h.errands nofun) h.failing fun _ howes => ?_
    rwa [List.length_set]
  | work i folder e e' b' changes hfolder hi hwork =>
    obtain ⟨hasked, hfails⟩ := Errand.cancels_work hwatch hs hwork
    refine h.quiet (Errand.heard_work hwatch.diary hwork).1 hasked (forall_mem_set h.errands hfails) h.failing
      fun _ howes => ?_
    rwa [List.length_set]

theorem mindful_runWith (hwatch : watch.CancelsAt heard asked event) (hs : sources.Obedient)
    (hasked : event ∈ heard b.watcher → asked b.watcher) (hfolders : event ∈ heard b.watcher → sources.folders ≠ [])
    (workers : ℕ) (repository : Path) (moves : List Move) :
    ((start sources b).runWith workers watch sources repository moves).Mindful heard asked event :=
  runWith_induction (P := fun crew => crew.Mindful heard asked event) (mindful_start hasked hfolders)
    (fun _ _ _ h hstep => h.act hwatch hs (act_of_eq_some (stepWith_eq_some_iff.mp hstep).1)) moves

/-- With no folders the leader has nothing to do, and keeps no component. -/
structure Vacant (b : Workbench σ) (crew : Crew σ) : Prop where
  errands : crew.errands = []
  tally : crew.tally = {}
  watcher : crew.bench.watcher = b.watcher
  lead : (∃ next, crew.lead = .sending next) ∨ crew.lead = .waiting ∨
    crew.lead = .ended (.ok {}) ∧ crew.bench.store.components = []

theorem vacant_start (hfolders : sources.folders = []) (b : Workbench σ) : (start sources b).Vacant b where
  errands := by rw [start, hfolders, List.map_nil]
  tally := rfl
  watcher := rfl
  lead := .inl ⟨0, rfl⟩

theorem Vacant.act (h : crew.Vacant b) (hact : Act watch sources repository crew crew') : crew'.Vacant b := by
  have hnone (i : ℕ) : crew.errands[i]? = none := by rw [h.errands, List.getElem?_nil]
  have hlead := h.lead
  cases hact with
  | sent next => exact ⟨h.errands, h.tally, h.watcher, .inr (.inl rfl)⟩
  | finish =>
    refine ⟨h.errands, h.tally, h.watcher, .inr (.inr ⟨by rw [h.tally], ?_⟩)⟩
    rw [h.tally]
    exact List.filter_eq_nil_iff.mpr fun _ _ => Bool.false_ne_true
  | gather batch hwaiting hleft =>
    obtain ⟨e, he, -⟩ := hleft
    rw [h.errands] at he
    cases he
  | send next b' _ hi => rw [hnone] at hi; cases hi
  | rest b' hhearing => simp [hhearing] at hlead
  | stop failure b' hlooking =>
    rcases hlooking with ⟨next, -, hi⟩ | hhearing
    · rw [hnone] at hi; cases hi
    · simp [hhearing] at hlead
  | hear i batch outcome b' _ hi => rw [hnone] at hi; cases hi
  | interrupt i batch outcome failure b' _ hi => rw [hnone] at hi; cases hi
  | refuse i batch failure _ hi => rw [hnone] at hi; cases hi
  | fail failure hclosing => simp [hclosing] at hlead
  | drop i failure _ hi => rw [hnone] at hi; cases hi
  | work i folder e e' b' changes _ hi => rw [hnone] at hi; cases hi

theorem vacant_runWith (hfolders : sources.folders = []) (workers : ℕ) (watch : Watch σ) (repository : Path)
    (b : Workbench σ) (moves : List Move) :
    ((start sources b).runWith workers watch sources repository moves).Vacant b :=
  runWith_induction (P := fun crew => crew.Vacant b) (vacant_start hfolders b)
    (fun _ _ _ h hstep => h.act (act_of_eq_some (stepWith_eq_some_iff.mp hstep).1)) moves

/-- Where phase one ends well, every component has a name. -/
theorem Sound.named (hs : Sound sources repository b crew) {tally : Tally} (hlead : crew.lead = .ended (.ok tally)) :
    ∀ c ∈ crew.bench.store.components, Text.isBlankText c.name = false := by
  obtain ⟨rfl, -, hstore⟩ := hs.ended tally (by rw [hlead]; rfl)
  intro c hc
  rw [hstore, Store.retain_components, List.mem_filter, List.contains_iff_mem] at hc
  obtain ⟨name, hname, hkey⟩ := List.mem_map.mp hc.2
  obtain ⟨given, hgiven, rfl⟩ := (hs.put_iff name).mp (.inl hname)
  obtain ⟨d, r, hgives, hput⟩ := hs.gives _ hgiven
  simp only [Store.Change.put.injEq, reduceCtorEq, or_false] at hput
  rw [← Text.isBlankText_congr hkey, hput]
  exact hgives.isBlankText_name

end Crew

namespace Index

variable {ix ix' : Index} {w w' : σ} {ensure : σ → σ × Except Failure Bool} {now : String} {workers : ℕ}
  {moves : List Crew.Move} {outcome : Except Failure Summary}

/-- The repository service keeps the watcher's diary and his request as they are, and fails only as cancelled. -/
structure Passes (heard : σ → List Progress) (asked : σ → Prop) (ensure : σ → σ × Except Failure Bool) : Prop where
  heard_eq : ∀ w, heard (ensure w).1 = heard w
  asked : ∀ w, asked w → asked (ensure w).1
  fails : ∀ w failure, (ensure w).2 = .error failure → failure = .buildCancelled

/-- A build that fails counts nowhere. -/
theorem unchanged_of_error {failure : Failure}
    (h : ix.buildWith workers watch w ensure sources repository now moves = some (ix', w', .error failure)) :
    ix'.isIndexed = ix.isIndexed ∧ ix'.lastIndexed = ix.lastIndexed ∧ ix'.generation = ix.generation := by
  generalize houtcome : Except.error failure = outcome at h
  cases course_of_buildWith h with
  | refused _ _ failure' hbegin =>
    rcases beginBuild_error hbegin with rfl | rfl
    · exact ⟨rfl, rfl, rfl⟩
    · exact ⟨rfl, rfl, rfl⟩
  | unprepared ix₁ w₁ failure' b hbegin => rw [beginBuild_ok hbegin]; exact ⟨rfl, rfl, rfl⟩
  | interrupted ix₁ w₁ failure' b crew hbegin => rw [beginBuild_ok hbegin]; exact ⟨rfl, rfl, rfl⟩
  | enriched ix₁ w₁ b crew tally r hbegin =>
    rw [← houtcome, beginBuild_ok hbegin]
    exact ⟨rfl, rfl, rfl⟩

section Cancelled

variable (hwatch : watch.CancelsAt heard asked event) (hensure : Passes heard asked ensure) (hw : heard w = [])
include hwatch

theorem beginBuild_cancelled {failure : Failure} (h : ix.beginBuild watch w = (ix', w', .error failure)) :
    failure = .buildCancelled := by
  unfold beginBuild at h
  split at h
  · cases h; rfl
  · split at h
    · cases h
    · next hreport => cases h; exact hwatch.raises _ _ _ (Build.report_error hreport)

include hensure hw

theorem asked_of_begun {w₁ : σ} (hbegin : ix.beginBuild watch w = (ix', w₁, .ok ())) :
    event ∈ heard (ix'.workbench (ensure w₁).1).watcher → asked (ix'.workbench (ensure w₁).1).watcher := by
  change event ∈ heard (ensure w₁).1 → asked (ensure w₁).1
  intro he
  refine hensure.asked w₁ ?_
  rw [hensure.heard_eq, (heard_beginBuild hwatch.diary hbegin).2 rfl, hw, List.nil_append, List.mem_singleton] at he
  unfold beginBuild at hbegin
  split at hbegin
  · cases hbegin
  · next w₀ hlook =>
    have hreported := Build.watcher_report watch .syncing (ix.workbench w₀)
    split at hbegin
    · next hreport =>
      cases hbegin
      rw [hreport] at hreported
      subst he
      exact (congrArg asked hreported).mpr (hwatch.asks _)
    · cases hbegin

/-- A build in which the event is heard ends as cancelled, unless it is the last one and there is nothing to do. -/
theorem cancelled_or_idle (hs : sources.Obedient)
    (h : ix.buildWith workers watch w ensure sources repository now moves = some (ix', w', outcome))
    (hevent : event ∈ heard w') :
    outcome = .error .buildCancelled ∨
      event = .synced repository.text ∧ sources.folders = [] ∧ sources.pages = [] ∧ outcome = .ok ⟨0, 0, 0, 0⟩ := by
  cases course_of_buildWith h with
  | refused _ _ failure hbegin => exact .inl (congrArg Except.error (beginBuild_cancelled hwatch hbegin))
  | unprepared ix₁ w₁ failure b hbegin hprepare =>
    have hasked := asked_of_begun hwatch hensure hw hbegin
    exact .inl (congrArg Except.error (Build.prepare_error_heard hwatch (hensure.fails w₁) hasked hprepare hevent))
  | interrupted ix₁ w₁ failure b crew hbegin hprepare hcrew hlead =>
    have hasked := asked_of_begun hwatch hensure hw hbegin
    have hprepared := Build.prepare_ok_heard hwatch (hensure.fails w₁) hasked hprepare
    by_cases hfolders : sources.folders = []
    · have hvacant := Crew.vacant_runWith hfolders workers watch repository b moves
      rw [hcrew] at hvacant
      simpa [hlead] using hvacant.lead
    · have hmindful := Crew.mindful_runWith hwatch hs (fun he => (hprepared he).2) (fun _ => hfolders) workers
        repository moves
      rw [hcrew] at hmindful
      exact .inl (congrArg Except.error (hmindful.failing failure (.inr hlead)))
  | enriched ix₁ w₁ b crew tally r hbegin hprepare hcrew hlead henrich =>
    have hasked := asked_of_begun hwatch hensure hw hbegin
    have hprepared := Build.prepare_ok_heard hwatch (hensure.fails w₁) hasked hprepare
    obtain ⟨moves', hmoves⟩ := Crew.exists_run_eq_runWith workers watch sources repository (Crew.start sources b) moves
    rw [hcrew] at hmoves
    by_cases hearlier : event ∈ heard crew.bench.watcher
    · -- the event was heard before phase one, or the leader would not have ended that well
      by_cases hfolders : sources.folders = []
      · have hvacant := Crew.vacant_runWith hfolders workers watch repository b moves
        rw [hcrew] at hvacant
        obtain ⟨htally, hcomponents⟩ : tally = {} ∧ crew.bench.store.components = [] := by
          simpa [hlead] using hvacant.lead
        obtain ⟨hsynced, hasked⟩ := hprepared (hvacant.watcher ▸ hearlier)
        by_cases hpages : sources.pages = []
        · refine .inr ⟨hsynced, hfolders, hpages, ?_⟩
          rw [← henrich, htally]
          exact Build.result_enrich_idle watch hpages hcomponents
        · have hstops := Build.stops_enrich hwatch tally hpages (b := crew.bench) (hvacant.watcher ▸ hasked)
          rw [Build.Stops, henrich] at hstops
          exact .inl hstops
      · have hmindful := Crew.mindful_runWith hwatch hs (fun he => (hprepared he).2) (fun _ => hfolders) workers
          repository moves
        rw [hcrew] at hmindful
        have howes := hmindful.owes hearlier
        rw [hlead] at howes
        exact howes.elim
    · have hattends := Build.attends_enrich hwatch hs tally ((Crew.sound_run hmoves).named hlead)
      rw [← henrich] at hevent ⊢
      exact .inl (hattends hearlier hevent)

end Cancelled

/-- Over every checkout, a build in which cancellation is asked for at some report ends as cancelled and counts
nowhere. The one exception is the report that the repository is there, over a checkout with neither folders nor pages:
no look at the cancel flag comes after it, and the build succeeds. -/
theorem cancelled_at_report (workspace : Workspace) (repository : Path) (hwatch : watch.CancelsAt heard asked event)
    (hensure : Passes heard asked ensure) (hw : heard w = [])
    (h : ix.buildWith workers watch w ensure (Checkout.sources workspace repository) repository now moves =
      some (ix', w', outcome))
    (hevent : event ∈ heard w') :
    (outcome = .error .buildCancelled ∧ ix'.isIndexed = ix.isIndexed ∧ ix'.lastIndexed = ix.lastIndexed ∧
      ix'.generation = ix.generation) ∨
    (event = .synced repository.text ∧ Checkout.componentFolders workspace repository = [] ∧
      Checkout.documentationPages workspace repository = [] ∧ outcome = .ok ⟨0, 0, 0, 0⟩) := by
  rcases cancelled_or_idle hwatch hensure hw (Checkout.obedient_sources workspace repository) h hevent with rfl | hidle
  · exact .inl ⟨rfl, unchanged_of_error h⟩
  · exact .inr hidle

def onePage : Workspace where
  tree := FileTree.write {} ("repo" :: Checkout.demoRoot.parts ++ ["BitCardDemo.razor"]) []

/-- A build over one page that is cancelled when the page is reported. -/
def onePageRun : Option (Index × (Bool × List Progress) × Except Failure Summary) :=
  buildWith 1 {} (Watch.cancelling (.page 1 1 "BitCardDemo.razor")) (false, []) (fun w => (w, .ok true))
    (Checkout.sources onePage ⟨"", ["repo"]⟩) ⟨"", ["repo"]⟩ "now" [.lead, .lead]

theorem cancelled_onePageRun : ∃ ix' w' outcome, onePageRun = some (ix', w', outcome) ∧
    .page 1 1 "BitCardDemo.razor" ∈ w'.2 ∧ outcome = .error .buildCancelled ∧ ix'.isIndexed = false := by
  have hresult : onePageRun.map (fun r => r.2.1) =
      some (true, [.syncing, .synced "repo", .page 1 1 "BitCardDemo.razor"]) := by decide +kernel
  obtain ⟨⟨ix', w', outcome⟩, hrun, rfl⟩ := Option.map_eq_some_iff.mp hresult
  have hpasses : Passes Prod.snd (fun v : Bool × List Progress => v.1 = true) fun w => (w, .ok true) :=
    ⟨fun _ => rfl, fun _ => id, nofun⟩
  have hheard : Progress.page 1 1 "BitCardDemo.razor" ∈
      [.syncing, .synced "repo", .page 1 1 "BitCardDemo.razor"] := by decide
  refine ⟨ix', _, outcome, hrun, hheard, ?_⟩
  rcases cancelled_at_report onePage ⟨"", ["repo"]⟩ (Watch.cancelsAt_cancelling _) hpasses rfl hrun hheard with
    ⟨houtcome, hindexed, -⟩ | ⟨hevent, -⟩
  · exact ⟨houtcome, hindexed⟩
  · cases hevent

/-- A build over a checkout with nothing in it that is cancelled when the repository is there. -/
def emptyRun : Option (Index × (Bool × List Progress) × Except Failure Summary) :=
  buildWith 1 {} (Watch.cancelling (.synced "repo")) (false, []) (fun w => (w, .ok true))
    (Checkout.sources ⟨FileTree.addFolder {} ["repo"], []⟩ ⟨"", ["repo"]⟩) ⟨"", ["repo"]⟩ "now" [.lead, .lead]

/-- Cancellation is asked for, and the build succeeds nevertheless. -/
theorem succeeded_emptyRun :
    emptyRun.map (fun r => (r.2.1, r.2.2)) = some ((true, [.syncing, .synced "repo"]), .ok ⟨0, 0, 0, 0⟩) ∧
      emptyRun.map (fun r => (r.1.isIndexed, r.1.lastIndexed, r.1.generation)) = some (true, some "now", 1) := by
  constructor <;> decide +kernel

end Index
end Catalog
