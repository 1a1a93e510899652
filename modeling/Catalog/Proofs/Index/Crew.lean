import Catalog.Index.Crew
import Catalog.Proofs.Failure
import Catalog.Proofs.Index.Steps
import Catalog.Proofs.Store.Contents

/-! What the leader and the workers of phase one do step by step, and what that means for the store: up to the end it
is what the changes made so far make of it, and these come from folders that were read. -/
namespace Catalog

open Build (Outcome Tally contents)

variable {σ : Type} {watch : Watch σ} {sources : Sources} {repository folder : Path}

def Sources.Gives (sources : Sources) (repository : Path) (taxonomy : Taxonomy) (c : Component)
    (r : ApiReference) : Prop :=
  ∃ folder ∈ sources.folders, ∃ cancelled,
    Build.readFolder sources taxonomy repository folder cancelled = .ok (some (c, r))

/-- The entries of a folder are made of the same facts. -/
theorem Sources.Gives.exists_facts {taxonomy : Taxonomy} {c : Component} {r : ApiReference}
    (h : sources.Gives repository taxonomy c r) :
    ∃ (facts : SourceFacts) (category path : String), taxonomy.assign facts.className = .ok category ∧
      c = facts.component (some category) path ∧ r = facts.apiReference := by
  obtain ⟨folder, -, cancelled, h⟩ := h
  unfold Build.readFolder at h
  split at h
  · cases h
  · next file hfile =>
    obtain ⟨read, -, h⟩ := except_bind_eq_ok.mp h
    cases read with
    | none => cases h
    | some facts =>
      obtain ⟨category, hassign, h⟩ := except_bind_eq_ok.mp h
      cases h
      exact ⟨facts, category, _, hassign, rfl, rfl⟩

/-- The reference of a component has its name. -/
theorem Sources.Gives.name_eq {taxonomy : Taxonomy} {c : Component} {r : ApiReference}
    (h : sources.Gives repository taxonomy c r) : c.name = r.typeName := by
  obtain ⟨facts, category, path, -, rfl, rfl⟩ := h.exists_facts
  rfl

namespace Errand

/-- The name of the component that was put into the store for a folder, until the leader hears of it. -/
def placed? : Errand → Option String
  | completing name _ => some name
  | done (.ok (.found name)) => some name
  | _ => none

/-- The name of the component whose reference was put into the store too. -/
def finished? : Errand → Option String
  | done (.ok (.found name)) => some name
  | _ => none

inductive Work (sources : Sources) (repository folder : Path) (b : Workbench σ) :
    Errand → Workbench σ → Errand → List Store.Change → Prop
  | start (b' : Workbench σ) (hb : contents b' = contents b) : Work sources repository folder b queued b' reading []
  | refuse (b' : Workbench σ) (hb : contents b' = contents b) (failure : Failure) :
      Work sources repository folder b queued b' (done (.error failure)) []
  | find (b' : Workbench σ) (hb : contents b' = contents b) (cancelled : Bool) (c : Component) (r : ApiReference)
      (hread : Build.readFolder sources b.taxonomy repository folder cancelled = .ok (some (c, r))) :
      Work sources repository folder b reading b' (writing c r) []
  | miss (b' : Workbench σ) (hb : contents b' = contents b) (result : Except Failure (Outcome String))
      (hresult : ∀ name, result ≠ .ok (.found name)) : Work sources repository folder b reading b' (done result) []
  | write (c : Component) (r : ApiReference) :
      Work sources repository folder b (writing c r) { b with store := b.store.put c } (completing c.name r) [.put c]
  | complete (name : String) (r : ApiReference) :
      Work sources repository folder b (completing name r) { b with store := b.store.putReference r }
        (done (.ok (.found name))) [.putReference r]

theorem work_of_eq_some {b b' : Workbench σ} {e e' : Errand} {changes : List Store.Change}
    (h : e.work watch sources repository folder b = some (b', e', changes)) :
    Work sources repository folder b e b' e' changes := by
  unfold work at h
  split at h
  · split at h
    · next hcheck => cases h; exact .start _ ((Build.unwatched_contents.check watch).ok hcheck)
    · next hcheck => cases h; exact .refuse _ ((Build.unwatched_contents.check watch).error hcheck) _
  · have hkeeps := Build.unwatched_contents.readItem watch fun taxonomy =>
      Build.readFolder sources taxonomy repository folder
    split at h
    · next c r b₁ hread =>
      obtain ⟨cancelled, hfound⟩ := Build.readItem_found hread
      cases h
      exact .find _ (hkeeps.ok hread) cancelled c r hfound
    · next hread => cases h; exact .miss _ (hkeeps.ok hread) _ (fun _ => by simp)
    · next hread => cases h; exact .miss _ (hkeeps.ok hread) _ (fun _ => by simp)
    · next hread => cases h; exact .miss _ (hkeeps.error hread) _ (fun _ => by simp)
  · cases h; exact .write _ _
  · cases h; exact .complete _ _
  · cases h

def Told (sources : Sources) (repository : Path) (taxonomy : Taxonomy) : Errand → Prop
  | writing c r => sources.Gives repository taxonomy c r
  | completing name r => ∃ c, sources.Gives repository taxonomy c r ∧ c.name = name
  | _ => True

end Errand

def Lead.isEnded : Lead → Bool
  | ended _ => true
  | _ => false

def Lead.tally? : Lead → Option Tally
  | ended (.ok tally) => some tally
  | _ => none

theorem Lead.tally?_of_not_isEnded {lead : Lead} (h : lead.isEnded = false) : lead.tally? = none := by
  cases lead with
  | ended result => cases h
  | _ => rfl

namespace Crew

variable {crew crew' : Crew σ} {b : Workbench σ}

/-- Everything that can happen in phase one, with what the leader or the worker asks for and what comes back. -/
inductive Act (watch : Watch σ) (sources : Sources) (repository : Path) (crew : Crew σ) : Crew σ → Prop
  | send (next : ℕ) (b' : Workbench σ) (hlead : crew.lead = .sending next) (hnext : crew.errands[next]? = some .unsent)
      (hcheck : Build.check watch crew.bench = .ok () b') :
      Act watch sources repository crew
        { crew with bench := b', errands := crew.errands.set next .queued, lead := .sending (next + 1) }
  | sent (next : ℕ) (hlead : crew.lead = .sending next) (hnext : crew.errands[next]? = none) :
      Act watch sources repository crew { crew with lead := .waiting }
  | gather (batch : List ℕ) (hlead : crew.lead = .waiting) (hleft : ∃ e ∈ crew.errands, e ≠ .heard) :
      Act watch sources repository crew { crew with lead := .hearing batch }
  | rest (b' : Workbench σ) (hlead : crew.lead = .hearing []) (hcheck : Build.check watch crew.bench = .ok () b') :
      Act watch sources repository crew { crew with bench := b', lead := .waiting }
  | stop (failure : Failure) (b' : Workbench σ)
      (hlead : (∃ next, crew.lead = .sending next ∧ crew.errands[next]? = some .unsent) ∨ crew.lead = .hearing [])
      (hcheck : Build.check watch crew.bench = .error failure b') :
      Act watch sources repository crew { crew with bench := b', lead := .closing failure }
  | hear (i : ℕ) (batch : List ℕ) (outcome : Outcome String) (b' : Workbench σ)
      (hlead : crew.lead = .hearing (i :: batch))
      (hi : crew.errands[i]? = some (.done (.ok outcome)))
      (hreport : Build.report watch (.component (crew.told + 1) crew.errands.length outcome.value?) crew.bench =
        .ok () b') :
      Act watch sources repository crew
        { crew with
          bench := b'
          errands := crew.errands.set i .heard
          lead := .hearing batch
          tally := crew.tally.add outcome
          told := crew.told + 1 }
  | interrupt (i : ℕ) (batch : List ℕ) (outcome : Outcome String) (failure : Failure) (b' : Workbench σ)
      (hlead : crew.lead = .hearing (i :: batch)) (hi : crew.errands[i]? = some (.done (.ok outcome)))
      (hreport : Build.report watch (.component (crew.told + 1) crew.errands.length outcome.value?) crew.bench =
        .error failure b') :
      Act watch sources repository crew { crew with bench := b', lead := .closing failure }
  | refuse (i : ℕ) (batch : List ℕ) (failure : Failure) (hlead : crew.lead = .hearing (i :: batch))
      (hi : crew.errands[i]? = some (.done (.error failure))) :
      Act watch sources repository crew { crew with lead := .closing failure }
  | finish (hlead : crew.lead = .waiting) (hheard : ∀ e ∈ crew.errands, e = .heard) :
      Act watch sources repository crew
        { crew with
          bench := { crew.bench with store := crew.bench.store.retain crew.tally.names }
          lead := .ended (.ok crew.tally) }
  | fail (failure : Failure) (hlead : crew.lead = .closing failure) (hidle : ∀ e ∈ crew.errands, e.isOpen = false) :
      Act watch sources repository crew { crew with lead := .ended (.error failure) }
  | drop (i : ℕ) (failure : Failure) (hlead : crew.lead = .closing failure) (hi : crew.errands[i]? = some .queued) :
      Act watch sources repository crew { crew with errands := crew.errands.set i .dropped }
  | work (i : ℕ) (folder : Path) (e e' : Errand) (b' : Workbench σ) (changes : List Store.Change)
      (hfolder : folder ∈ sources.folders) (hi : crew.errands[i]? = some e)
      (hwork : e.work watch sources repository folder crew.bench = some (b', e', changes)) :
      Act watch sources repository crew
        { crew with bench := b', errands := crew.errands.set i e', written := crew.written ++ changes }

theorem isHeard_iff {e : Errand} : e.isHeard = true ↔ e = .heard := by
  cases e <;> simp [Errand.isHeard]

theorem act_of_guide (h : crew.guide watch = some crew') : Act watch sources repository crew crew' := by
  unfold guide at h
  split at h
  · next next hlead =>
    split at h
    · next hnext =>
      cases h
      unfold checked
      cases hcheck : Build.check watch crew.bench with
      | ok x b' => exact .send next b' hlead hnext hcheck
      | error failure b' => exact .stop failure b' (.inl ⟨next, hlead, hnext⟩) hcheck
    · cases h
    · next hnext => cases h; exact .sent next hlead hnext
  · next hlead =>
    split_ifs at h with hall
    cases h
    rw [List.all_eq_true] at hall
    exact .finish hlead fun e he => isHeard_iff.mp (hall e he)
  · next hlead =>
    cases h
    unfold checked
    cases hcheck : Build.check watch crew.bench with
    | ok x b' => exact .rest b' hlead hcheck
    | error failure b' => exact .stop failure b' (.inr hlead) hcheck
  · next i batch hlead =>
    split at h
    · next outcome hi =>
      cases h
      unfold hear
      split
      · next hreport => exact .hear i batch outcome _ hlead hi hreport
      · next hreport => exact .interrupt i batch outcome _ _ hlead hi hreport
    · next failure hi => cases h; exact .refuse i batch failure hlead hi
    · cases h
  · next failure hlead =>
    split_ifs at h with hany
    cases h
    exact .fail failure hlead fun e he => Bool.eq_false_iff.mpr fun h => hany (List.any_eq_true.mpr ⟨e, he, h⟩)
  · cases h

theorem act_of_gather {batch : List ℕ} (h : crew.gather batch = some crew') :
    Act watch sources repository crew crew' := by
  unfold gather at h
  split at h
  · next hlead =>
    split_ifs at h with hgather
    cases h
    simp only [Bool.and_eq_true, Bool.not_eq_true', List.all_eq_false, isHeard_iff] at hgather
    exact .gather batch hlead hgather.1.1
  · cases h

/-- Whatever is done in phase one is one of these. -/
theorem act_of_eq_some {move : Move} (h : crew.step watch sources repository move = some crew') :
    Act watch sources repository crew crew' := by
  cases move with
  | lead => exact act_of_guide h
  | gather batch => exact act_of_gather h
  | work i =>
    obtain ⟨folder, hfolder, h⟩ := Option.bind_eq_some_iff.mp h
    obtain ⟨e, hi, h⟩ := Option.bind_eq_some_iff.mp h
    obtain ⟨⟨b', e', changes⟩, hwork, h⟩ := Option.bind_eq_some_iff.mp h
    cases h
    exact .work i folder e e' b' changes (List.mem_of_getElem? hfolder) hi hwork
  | drop i =>
    change crew.drop i = some crew' at h
    unfold drop at h
    split at h
    · next failure hlead hi => cases h; exact .drop i failure hlead hi
    · cases h

/-- What the steps of phase one do to folders and store, whatever the watcher says. -/
inductive Step (sources : Sources) (repository : Path) (crew : Crew σ) : Crew σ → Prop
  | send (next : ℕ) (b' : Workbench σ) (hb : contents b' = contents crew.bench) (hlead : crew.lead.isEnded = false)
      (hnext : crew.errands[next]? = some .unsent) :
      Step sources repository crew
        { crew with bench := b', errands := crew.errands.set next .queued, lead := .sending (next + 1) }
  | drop (i : ℕ) (hlead : crew.lead.isEnded = false) (hi : crew.errands[i]? = some .queued) :
      Step sources repository crew { crew with errands := crew.errands.set i .dropped }
  | pause (lead : Lead) (b' : Workbench σ) (hb : contents b' = contents crew.bench) (hlead : crew.lead.isEnded = false)
      (hlead' : lead.tally? = none) (hclosed : lead.isEnded = true → ∀ e ∈ crew.errands, e.isOpen = false) :
      Step sources repository crew { crew with bench := b', lead := lead }
  | hear (i : ℕ) (outcome : Outcome String) (batch : List ℕ) (b' : Workbench σ)
      (hb : contents b' = contents crew.bench) (hlead : crew.lead.isEnded = false)
      (hi : crew.errands[i]? = some (.done (.ok outcome))) :
      Step sources repository crew
        { crew with
          bench := b'
          errands := crew.errands.set i .heard
          lead := .hearing batch
          tally := crew.tally.add outcome
          told := crew.told + 1 }
  | finish (hlead : crew.lead.isEnded = false) (hheard : ∀ e ∈ crew.errands, e = .heard) :
      Step sources repository crew
        { crew with
          bench := { crew.bench with store := crew.bench.store.retain crew.tally.names }
          lead := .ended (.ok crew.tally) }
  | work (i : ℕ) (folder : Path) (e e' : Errand) (b' : Workbench σ) (changes : List Store.Change)
      (hfolder : folder ∈ sources.folders) (hi : crew.errands[i]? = some e)
      (hwork : Errand.Work sources repository folder crew.bench e b' e' changes) :
      Step sources repository crew
        { crew with bench := b', errands := crew.errands.set i e', written := crew.written ++ changes }

theorem Act.step (h : Act watch sources repository crew crew') : Step sources repository crew crew' := by
  have hopen {lead : Lead} (hlead : crew.lead = lead) (hended : lead.isEnded = false) : crew.lead.isEnded = false := by
    rw [hlead, hended]
  have hcheck {b' : Workbench σ} (h : Build.check watch crew.bench = .ok () b') : contents b' = contents crew.bench :=
    (Build.unwatched_contents.check watch).ok h
  cases h with
  | send next b' hlead hnext h => exact .send next b' (hcheck h) (hopen hlead rfl) hnext
  | sent next hlead => exact .pause .waiting crew.bench rfl (hopen hlead rfl) rfl nofun
  | gather batch hlead => exact .pause (.hearing batch) crew.bench rfl (hopen hlead rfl) rfl nofun
  | rest b' hlead h => exact .pause .waiting b' (hcheck h) (hopen hlead rfl) rfl nofun
  | stop failure b' hlead h =>
    have hended : crew.lead.isEnded = false := by
      rcases hlead with ⟨next, hlead, -⟩ | hlead
      · exact hopen hlead rfl
      · exact hopen hlead rfl
    exact .pause (.closing failure) b' ((Build.unwatched_contents.check watch).error h) hended rfl nofun
  | hear i batch outcome b' hlead hi h =>
    exact .hear i outcome batch b' ((Build.unwatched_contents.report watch _).ok h) (hopen hlead rfl) hi
  | interrupt i batch outcome failure b' hlead hi h =>
    exact .pause (.closing failure) b' ((Build.unwatched_contents.report watch _).error h) (hopen hlead rfl) rfl nofun
  | refuse i batch failure hlead => exact .pause (.closing failure) crew.bench rfl (hopen hlead rfl) rfl nofun
  | finish hlead hheard => exact .finish (hopen hlead rfl) hheard
  | fail failure hlead hidle =>
    exact .pause (.ended (.error failure)) crew.bench rfl (hopen hlead rfl) rfl fun _ => hidle
  | drop i failure hlead hi => exact .drop i (hopen hlead rfl) hi
  | work i folder e e' b' changes hfolder hi h =>
    exact .work i folder e e' b' changes hfolder hi (Errand.work_of_eq_some h)

theorem step_of_eq_some {move : Move} (h : crew.step watch sources repository move = some crew') :
    Step sources repository crew crew' :=
  (act_of_eq_some h).step

/-- A name under which something is kept for a folder, or that the leader has heard. -/
def Has (f : Errand → Option String) (errands : List Errand) (tally : Tally) (name : String) : Prop :=
  name ∈ tally.names ∨ ∃ e ∈ errands, f e = some name

/-- What phase one has made of a workbench so far. -/
structure Sound (sources : Sources) (repository : Path) (b : Workbench σ) (crew : Crew σ) : Prop where
  taxonomy : crew.bench.taxonomy = b.taxonomy
  open_store : crew.lead.tally? = none → crew.bench.store = b.store.replay crew.written
  ended : ∀ tally, crew.lead.tally? = some tally → tally = crew.tally ∧ (∀ e ∈ crew.errands, e = .heard) ∧
    crew.bench.store = (b.store.replay crew.written).retain tally.names
  gives : ∀ ch ∈ crew.written, ∃ c r, sources.Gives repository b.taxonomy c r ∧ (ch = .put c ∨ ch = .putReference r)
  told : ∀ e ∈ crew.errands, e.Told sources repository b.taxonomy
  put_iff : ∀ name, Has Errand.placed? crew.errands crew.tally name ↔ ∃ c, .put c ∈ crew.written ∧ c.name = name
  putReference_iff : ∀ name,
    Has Errand.finished? crew.errands crew.tally name ↔ ∃ r, .putReference r ∈ crew.written ∧ r.typeName = name

theorem exists_mem_iff {α : Type} {l : List α} {i : ℕ} {a : α} {p : α → Prop} (hi : l[i]? = some a) :
    (∃ x ∈ l, p x) ↔ p a ∨ ∃ x ∈ l.eraseIdx i, p x := by
  induction l generalizing i with
  | nil => cases hi
  | cons y l ih =>
    cases i with
    | zero =>
      have hy : y = a := Option.some.inj hi
      simp only [hy, List.eraseIdx_zero, List.tail_cons, List.mem_cons, exists_eq_or_imp]
    | succ i =>
      have hl : l[i]? = some a := hi
      simp only [List.eraseIdx_cons_succ, List.mem_cons, exists_eq_or_imp, ih hl]
      exact or_left_comm

theorem exists_mem_set_iff {α : Type} {l : List α} {i : ℕ} {a b : α} {p : α → Prop} (hi : l[i]? = some a) :
    (∃ x ∈ l.set i b, p x) ↔ p b ∨ ∃ x ∈ l.eraseIdx i, p x := by
  have hlt : i < l.length := (List.getElem?_eq_some_iff.mp hi).1
  rw [exists_mem_iff (a := b) (List.getElem?_set_self hlt), List.eraseIdx_set_eq]

/-- A folder for which nothing else is kept than before changes no name. -/
theorem has_set_iff {f : Errand → Option String} {errands : List Errand} {tally : Tally} {i : ℕ} {e e' : Errand}
    (hi : errands[i]? = some e) (he : f e' = f e) (name : String) :
    Has f (errands.set i e') tally name ↔ Has f errands tally name := by
  rw [Has, Has, exists_mem_set_iff hi, exists_mem_iff hi, he]

/-- A folder for which a name is kept from now on adds that name. -/
theorem has_set_some_iff {f : Errand → Option String} {errands : List Errand} {tally : Tally} {i : ℕ} {e e' : Errand}
    {new : String} (hi : errands[i]? = some e) (he : f e = none) (he' : f e' = some new) (name : String) :
    Has f (errands.set i e') tally name ↔ Has f errands tally name ∨ new = name := by
  rw [Has, Has, exists_mem_set_iff hi, exists_mem_iff hi, he, he']
  simp only [Option.some.injEq, reduceCtorEq, false_or]
  exact or_assoc.symm.trans or_right_comm

/-- What the leader hears he keeps. -/
theorem has_hear_iff {f : Errand → Option String} {errands : List Errand} {tally : Tally} {i : ℕ}
    {outcome : Outcome String} (hi : errands[i]? = some (.done (.ok outcome)))
    (hf : f (.done (.ok outcome)) = outcome.value?) (hheard : f .heard = none) (name : String) :
    Has f (errands.set i .heard) (tally.add outcome) name ↔ Has f errands tally name := by
  rw [Has, Has, exists_mem_set_iff hi, exists_mem_iff hi, hf, hheard]
  cases outcome with
  | found new => simp only [Tally.add, Outcome.value?, List.mem_append, List.mem_singleton, Option.some.injEq,
      reduceCtorEq, false_or, eq_comm (a := name), or_assoc]
  | nothing => simp [Tally.add, Outcome.value?]
  | failed => simp [Tally.add, Outcome.value?]

theorem forall_mem_set {α : Type} {l : List α} {i : ℕ} {b : α} {p : α → Prop} (hl : ∀ x ∈ l, p x) (hb : p b) :
    ∀ x ∈ l.set i b, p x := by
  intro x hx
  rcases List.mem_or_eq_of_mem_set hx with h | rfl
  · exact hl x h
  · exact hb

theorem sound_start (sources : Sources) (repository : Path) (b : Workbench σ) :
    Sound sources repository b (start sources b) := by
  have hunsent (e : Errand) (he : e ∈ (start sources b).errands) : e = .unsent := by
    obtain ⟨folder, -, rfl⟩ := List.mem_map.mp he
    rfl
  have hnone (f : Errand → Option String) (hf : f .unsent = none) (name : String) :
      ¬ Has f (start sources b).errands (start sources b).tally name := by
    rintro (hname | ⟨e, he, hname⟩)
    · cases hname
    · rw [hunsent e he, hf] at hname
      cases hname
  refine
    { taxonomy := rfl
      open_store := fun _ => rfl
      ended := fun tally h => by cases h
      gives := fun ch hch => by cases hch
      told := fun e he => by rw [hunsent e he]; trivial
      put_iff := fun name => iff_of_false (hnone _ rfl name) ?_
      putReference_iff := fun name => iff_of_false (hnone _ rfl name) ?_ }
  · rintro ⟨c, hc, -⟩
    cases hc
  · rintro ⟨r, hr, -⟩
    cases hr

/-- A step that changes neither the store nor the names that are kept. -/
theorem Sound.quiet (hs : Sound sources repository b crew) (lead : Lead) {b' : Workbench σ}
    (hb : contents b' = contents crew.bench) (hlead : crew.lead.tally? = none) (hlead' : lead.tally? = none) :
    Sound sources repository b { crew with bench := b', lead := lead } := by
  obtain ⟨hstore, htaxonomy⟩ := Prod.mk.inj hb
  exact
    { taxonomy := htaxonomy.trans hs.taxonomy
      open_store := fun _ => hstore.trans (hs.open_store hlead)
      ended := fun tally h => by rw [hlead'] at h; cases h
      gives := hs.gives
      told := hs.told
      put_iff := hs.put_iff
      putReference_iff := hs.putReference_iff }

/-- A folder whose names stay as they are. -/
theorem Sound.set (hs : Sound sources repository b crew) {i : ℕ} {e : Errand} (e' : Errand)
    (hi : crew.errands[i]? = some e) (hlead : crew.lead.tally? = none) (hplaced : e'.placed? = e.placed?)
    (hfinished : e'.finished? = e.finished?) (htold : e'.Told sources repository b.taxonomy) :
    Sound sources repository b { crew with errands := crew.errands.set i e' } where
  taxonomy := hs.taxonomy
  open_store := hs.open_store
  ended tally h := by rw [hlead] at h; cases h
  gives := hs.gives
  told := forall_mem_set hs.told htold
  put_iff name := (has_set_iff hi hplaced name).trans (hs.put_iff name)
  putReference_iff name := (has_set_iff hi hfinished name).trans (hs.putReference_iff name)

theorem Sound.hear (hs : Sound sources repository b crew) {i : ℕ} {outcome : Outcome String} (batch : List ℕ)
    (hlead : crew.lead.tally? = none) (hi : crew.errands[i]? = some (.done (.ok outcome))) :
    Sound sources repository b
      { crew with
        errands := crew.errands.set i .heard
        lead := .hearing batch
        tally := crew.tally.add outcome
        told := crew.told + 1 } where
  taxonomy := hs.taxonomy
  open_store _ := hs.open_store hlead
  ended tally h := by cases h
  gives := hs.gives
  told := forall_mem_set hs.told trivial
  put_iff name := (has_hear_iff hi (by cases outcome <;> rfl) rfl name).trans (hs.put_iff name)
  putReference_iff name := (has_hear_iff hi (by cases outcome <;> rfl) rfl name).trans (hs.putReference_iff name)

theorem Sound.finish (hs : Sound sources repository b crew) (hlead : crew.lead.tally? = none)
    (hheard : ∀ e ∈ crew.errands, e = .heard) :
    Sound sources repository b
      { crew with
        bench := { crew.bench with store := crew.bench.store.retain crew.tally.names }
        lead := .ended (.ok crew.tally) } where
  taxonomy := hs.taxonomy
  open_store h := by cases h
  ended tally h := by
    cases h
    exact ⟨rfl, hheard, congrArg (·.retain crew.tally.names) (hs.open_store hlead)⟩
  gives := hs.gives
  told := hs.told
  put_iff := hs.put_iff
  putReference_iff := hs.putReference_iff

/-- A worker puts the component that he has read. -/
theorem Sound.write (hs : Sound sources repository b crew) {i : ℕ} {c : Component} {r : ApiReference}
    (hlead : crew.lead.tally? = none) (hi : crew.errands[i]? = some (.writing c r)) :
    Sound sources repository b
      { crew with
        bench := { crew.bench with store := crew.bench.store.put c }
        errands := crew.errands.set i (.completing c.name r)
        written := crew.written ++ [.put c] } := by
  have hgives : sources.Gives repository b.taxonomy c r := hs.told _ (List.mem_of_getElem? hi)
  refine
    { taxonomy := hs.taxonomy
      open_store := fun _ => ?_
      ended := fun tally h => by rw [hlead] at h; cases h
      gives := fun ch hch => ?_
      told := forall_mem_set hs.told ⟨c, hgives, rfl⟩
      put_iff := fun name => ?_
      putReference_iff := fun name => ?_ }
  · rw [hs.open_store hlead, Store.replay_concat]
    rfl
  · rcases List.mem_append.mp hch with hch | hch
    · exact hs.gives ch hch
    · exact ⟨c, r, hgives, .inl (List.mem_singleton.mp hch)⟩
  · rw [has_set_some_iff hi rfl rfl, hs.put_iff]
    simp only [List.mem_append, List.mem_singleton, Store.Change.put.injEq, or_and_right, exists_or, exists_eq_left]
  · refine (has_set_iff hi ?_ name).trans ((hs.putReference_iff name).trans ?_)
    · rfl
    · simp only [List.mem_append, List.mem_singleton, reduceCtorEq, or_false]

/-- A worker puts the reference of the component that he has put. -/
theorem Sound.complete (hs : Sound sources repository b crew) {i : ℕ} {name : String} {r : ApiReference}
    (hlead : crew.lead.tally? = none) (hi : crew.errands[i]? = some (.completing name r)) :
    Sound sources repository b
      { crew with
        bench := { crew.bench with store := crew.bench.store.putReference r }
        errands := crew.errands.set i (.done (.ok (.found name)))
        written := crew.written ++ [.putReference r] } := by
  obtain ⟨c, hgives, hname⟩ : ∃ c, sources.Gives repository b.taxonomy c r ∧ c.name = name :=
    hs.told _ (List.mem_of_getElem? hi)
  have htype : r.typeName = name := hgives.name_eq.symm.trans hname
  refine
    { taxonomy := hs.taxonomy
      open_store := fun _ => ?_
      ended := fun tally h => by rw [hlead] at h; cases h
      gives := fun ch hch => ?_
      told := forall_mem_set hs.told trivial
      put_iff := fun name => ?_
      putReference_iff := fun name => ?_ }
  · rw [hs.open_store hlead, Store.replay_concat]
    rfl
  · rcases List.mem_append.mp hch with hch | hch
    · exact hs.gives ch hch
    · exact ⟨c, r, hgives, .inr (List.mem_singleton.mp hch)⟩
  · refine (has_set_iff hi ?_ name).trans ((hs.put_iff name).trans ?_)
    · rfl
    · simp only [List.mem_append, List.mem_singleton, reduceCtorEq, or_false]
  · rw [has_set_some_iff hi rfl rfl, hs.putReference_iff, ← htype]
    simp only [List.mem_append, List.mem_singleton, Store.Change.putReference.injEq, or_and_right, exists_or,
      exists_eq_left]

theorem Sound.step (hs : Sound sources repository b crew) (h : Step sources repository crew crew') :
    Sound sources repository b crew' := by
  cases h with
  | send next b' hb hlead hnext =>
    have hlead := Lead.tally?_of_not_isEnded hlead
    exact (hs.set .queued hnext hlead rfl rfl trivial).quiet (.sending (next + 1)) hb hlead rfl
  | drop i hlead hi => exact hs.set .dropped hi (Lead.tally?_of_not_isEnded hlead) rfl rfl trivial
  | pause lead b' hb hlead hlead' hclosed => exact hs.quiet lead hb (Lead.tally?_of_not_isEnded hlead) hlead'
  | hear i outcome batch b' hb hlead hi =>
    exact (hs.hear batch (Lead.tally?_of_not_isEnded hlead) hi).quiet (.hearing batch) hb rfl rfl
  | finish hlead hheard => exact hs.finish (Lead.tally?_of_not_isEnded hlead) hheard
  | work i folder e e' b' changes hfolder hi hwork =>
    -- nobody works any more once the leader has ended well
    have hlead : crew.lead.tally? = none := by
      cases htally : crew.lead.tally? with
      | none => rfl
      | some tally =>
        have he := (hs.ended tally htally).2.1 e (List.mem_of_getElem? hi)
        subst he
        cases hwork
    cases hwork with
    | start _ hb => simpa using (hs.set .reading hi hlead rfl rfl trivial).quiet crew.lead hb hlead hlead
    | refuse _ hb failure =>
      simpa using (hs.set (.done (.error failure)) hi hlead rfl rfl trivial).quiet crew.lead hb hlead hlead
    | find _ hb cancelled c r hread =>
      rw [hs.taxonomy] at hread
      have htold : (Errand.writing c r).Told sources repository b.taxonomy := ⟨folder, hfolder, cancelled, hread⟩
      simpa using (hs.set (.writing c r) hi hlead rfl rfl htold).quiet crew.lead hb hlead hlead
    | miss _ hb result hresult =>
      have hnone : (Errand.done result).placed? = none ∧ (Errand.done result).finished? = none := by
        match result with
        | .ok (.found name) => exact absurd rfl (hresult name)
        | .ok .nothing => exact ⟨rfl, rfl⟩
        | .ok .failed => exact ⟨rfl, rfl⟩
        | .error failure => exact ⟨rfl, rfl⟩
      simpa using (hs.set (.done result) hi hlead hnone.1 hnone.2 trivial).quiet crew.lead hb hlead hlead
    | write c r => exact hs.write hlead hi
    | complete name r => exact hs.complete hlead hi

/-- What holds of a crew and is kept by each step holds after all of them. -/
theorem run_induction {P : Crew σ → Prop} (hcrew : P crew)
    (hstep : ∀ crew crew', P crew → Step sources repository crew crew' → P crew') (moves : List Move) :
    P (crew.run watch sources repository moves) := by
  induction moves generalizing crew with
  | nil => exact hcrew
  | cons move moves ih =>
    cases h : crew.step watch sources repository move with
    | none => simpa [run, h] using ih hcrew
    | some crew' => simpa [run, h] using ih (hstep crew crew' hcrew (step_of_eq_some h))

theorem Sound.run (hs : Sound sources repository b crew) (watch : Watch σ) (moves : List Move) :
    Sound sources repository b (crew.run watch sources repository moves) :=
  run_induction hs (fun _ _ hs h => hs.step h) moves

/-- Whatever steps the leader and the workers have made. -/
theorem sound_run {moves : List Move} (h : (start sources b).run watch sources repository moves = crew) :
    Sound sources repository b crew := by
  rw [← h]
  exact (sound_start sources repository b).run watch moves

end Crew
end Catalog
