import Catalog.Proofs.Index.Abort
import Catalog.Proofs.Index.Workers

/-! The build with a single worker who never gets ahead of his leader is one of those that a crew with one worker can
make: the leader hands out all folders, and then waits for each folder in turn. -/
namespace Catalog

open Build (Tally Outcome)

variable {σ : Type} {watch : Watch σ} {sources : Sources} {repository : Path}

namespace Build

def result {α : Type} : EStateM.Result Failure (Workbench σ) α → Except Failure α
  | .ok x _ => .ok x
  | .error failure _ => .error failure

theorem indexFolders_cons {α : Type} (total current : ℕ) (folder : Path) (folders : List Path) (tally : Tally)
    (k : Tally → BuildM σ α) :
    indexFolders watch sources repository total current (folder :: folders) tally >>= k =
      indexFolder watch sources repository folder >>= fun outcome =>
        report watch (.component current total outcome.value?) >>= fun _ => check watch >>= fun _ =>
          indexFolders watch sources repository total (current + 1) folders (tally.add outcome) >>= k := by
  rw [indexFolders]
  simp only [bind_assoc]

end Build

namespace Crew

variable {crew crew' crew'' : Crew σ} {b b' : Workbench σ} {lead : Lead} {tally : Tally} {told : ℕ}
  {written : List Store.Change} {failure : Failure}

/-- Some steps of a crew with one worker lead from one state to another. -/
def Leads (watch : Watch σ) (sources : Sources) (repository : Path) (crew crew' : Crew σ) : Prop :=
  ∃ moves, crew.runWith 1 watch sources repository moves = crew'

theorem Leads.trans (h : Leads watch sources repository crew crew')
    (h' : Leads watch sources repository crew' crew'') : Leads watch sources repository crew crew'' := by
  obtain ⟨moves, rfl⟩ := h
  obtain ⟨moves', rfl⟩ := h'
  exact ⟨moves ++ moves', List.foldl_append⟩

theorem Leads.of_step (move : Move) (h : crew.step watch sources repository move = some crew')
    (hfew : crew'.underWay ≤ 1) : Leads watch sources repository crew crew' := by
  refine ⟨[move], ?_⟩
  simp [runWith, stepWith_eq_some_iff.mpr ⟨h, hfew⟩]

def Idle (errands : List Errand) : Prop :=
  ∀ e ∈ errands, e.isBegun = false

theorem idle_replicate (n : ℕ) {e : Errand} (h : e.isBegun = false) : Idle (List.replicate n e) := by
  intro e' he'
  rw [List.eq_of_mem_replicate he', h]

theorem Idle.countP_eq_zero {errands : List Errand} (h : Idle errands) : errands.countP Errand.isBegun = 0 := by
  rw [List.countP_eq_zero]
  intro e he hbegun
  rw [h e he] at hbegun
  cases hbegun

theorem Idle.countP_le_one {errands : List Errand} (h : Idle errands) : errands.countP Errand.isBegun ≤ 1 := by
  rw [h.countP_eq_zero]
  exact Nat.zero_le 1

theorem Idle.countP_append_le_one {first rest : List Errand} (hfirst : Idle first) (hrest : Idle rest) (e : Errand) :
    (first ++ e :: rest).countP Errand.isBegun ≤ 1 := by
  rw [List.countP_append, List.countP_cons, hfirst.countP_eq_zero, hrest.countP_eq_zero]
  split_ifs <;> omega

theorem isBegun_of_not_isOpen {e : Errand} (h : e.isOpen = false) : e.isBegun = false := by
  cases e with
  | reading | writing | completing => cases h
  | _ => rfl

def Ends (watch : Watch σ) (sources : Sources) (repository : Path) (crew : Crew σ)
    (r : EStateM.Result Failure (Workbench σ) Tally) : Prop :=
  ∃ crew', Leads watch sources repository crew crew' ∧ crew'.lead = .ended (Build.result r) ∧
    crew'.bench = Build.left r

theorem Ends.of_leads {r : EStateM.Result Failure (Workbench σ) Tally}
    (h : Leads watch sources repository crew crew') (hr : Ends watch sources repository crew' r) :
    Ends watch sources repository crew r := by
  obtain ⟨crew'', hleads, hlead, hbench⟩ := hr
  exact ⟨crew'', h.trans hleads, hlead, hbench⟩

/-- A leader who closes the phase ends it once the queue is dropped. -/
theorem ends_closing (first rest : List Errand) (hfirst : ∀ e ∈ first, e.isOpen = false)
    (hrest : ∀ e ∈ rest, e.isOpen = true → e = .queued) :
    Ends watch sources repository ⟨b, first ++ rest, .closing failure, tally, told, written⟩ (.error failure b) := by
  induction rest generalizing first with
  | nil =>
    have hopen : (first ++ []).any Errand.isOpen = false := by
      rw [List.append_nil, List.any_eq_false]
      intro e he
      rw [hfirst e he]
      exact Bool.false_ne_true
    refine ⟨⟨b, first ++ [], .ended (.error failure), tally, told, written⟩, ?_, rfl, rfl⟩
    have hidle : Idle (first ++ []) := by
      rw [List.append_nil]
      exact fun e he => isBegun_of_not_isOpen (hfirst e he)
    refine Leads.of_step .lead ?_ hidle.countP_le_one
    simp only [step, guide, hopen, Bool.false_eq_true, if_false]
  | cons e rest ih =>
    have hnext (e' : Errand) (he' : e'.isOpen = false) :
        Ends watch sources repository ⟨b, first ++ e' :: rest, .closing failure, tally, told, written⟩
          (.error failure b) := by
      have h := ih (first ++ [e']) (fun x hx => ?_) fun x hx => hrest x (List.mem_cons_of_mem e hx)
      · rwa [List.append_assoc] at h
      · rcases List.mem_append.mp hx with hx | hx
        · exact hfirst x hx
        · rw [List.mem_singleton.mp hx]
          exact he'
    cases he : e.isOpen with
    | false => exact hnext e he
    | true =>
      have hqueued := hrest e List.mem_cons_self he
      subst hqueued
      have hidle : Idle rest := by
        intro x hx
        cases hopen : x.isOpen with
        | false => exact isBegun_of_not_isOpen hopen
        | true =>
          rw [hrest x (List.mem_cons_of_mem _ hx) hopen]
          rfl
      have hbefore : Idle first := fun x hx => isBegun_of_not_isOpen (hfirst x hx)
      refine Ends.of_leads (Leads.of_step (.drop first.length) ?_ ?_) (hnext .dropped rfl)
      · simp [step, drop]
      · exact hbefore.countP_append_le_one hidle .dropped

section Worker

variable {before after : List Path} {folder : Path} {first rest : List Errand}

theorem leads_work {e e' : Errand} {changes : List Store.Change}
    (hfolders : sources.folders = before ++ folder :: after) (hfirst : first.length = before.length)
    (hidle : Idle first) (hidle' : Idle rest) (h : e.work watch sources repository folder b = some (b', e', changes)) :
    Leads watch sources repository ⟨b, first ++ e :: rest, lead, tally, told, written⟩
      ⟨b', first ++ e' :: rest, lead, tally, told, written ++ changes⟩ := by
  have hfolder : sources.folders[first.length]? = some folder := by
    rw [hfolders, hfirst]
    simp
  refine Leads.of_step (.work first.length) ?_ (hidle.countP_append_le_one hidle' e')
  simp [step, work, hfolder, h]

/-- A worker does with a folder what the single worker does with it. -/
theorem leads_indexFolder (watch : Watch σ) (hfolders : sources.folders = before ++ folder :: after)
    (hfirst : first.length = before.length) (hidle : Idle first) (hidle' : Idle rest) :
    ∃ written', Leads watch sources repository ⟨b, first ++ .queued :: rest, lead, tally, told, written⟩
      ⟨Build.left (Build.indexFolder watch sources repository folder b),
        first ++ .done (Build.result (Build.indexFolder watch sources repository folder b)) :: rest,
        lead, tally, told, written'⟩ := by
  have hwork {b b' : Workbench σ} {e e' : Errand} {changes written : List Store.Change}
      (h : e.work watch sources repository folder b = some (b', e', changes)) :
      Leads watch sources repository ⟨b, first ++ e :: rest, lead, tally, told, written⟩
        ⟨b', first ++ e' :: rest, lead, tally, told, written ++ changes⟩ :=
    leads_work hfolders hfirst hidle hidle' h
  cases hcheck : Build.check watch b with
  | error failure b₁ =>
    have hr : Build.indexFolder watch sources repository folder b = .error failure b₁ := by
      rw [Build.indexFolder, Build.bind_of_error hcheck]
    have hstart : Errand.queued.work watch sources repository folder b = some (b₁, .done (.error failure), []) := by
      simp [Errand.work, hcheck]
    rw [hr]
    exact ⟨_, hwork hstart⟩
  | ok x b₁ =>
    have hstart : Errand.queued.work watch sources repository folder b = some (b₁, .reading, []) := by
      simp [Errand.work, hcheck]
    cases hread : Build.readItem watch (fun taxonomy => Build.readFolder sources taxonomy repository folder) b₁ with
    | error failure b₂ =>
      have hr : Build.indexFolder watch sources repository folder b = .error failure b₂ := by
        rw [Build.indexFolder, Build.bind_of_ok hcheck, Build.bind_of_error hread]
      have hmiss : Errand.reading.work watch sources repository folder b₁ =
          some (b₂, .done (.error failure), []) := by
        simp [Errand.work, hread]
      rw [hr]
      exact ⟨_, (hwork hstart).trans (hwork hmiss)⟩
    | ok outcome b₂ =>
      cases outcome with
      | nothing =>
        have hr : Build.indexFolder watch sources repository folder b = .ok .nothing b₂ := by
          rw [Build.indexFolder, Build.bind_of_ok hcheck, Build.bind_of_ok hread]
          rfl
        have hmiss : Errand.reading.work watch sources repository folder b₁ =
            some (b₂, .done (.ok .nothing), []) := by
          simp [Errand.work, hread]
        rw [hr]
        exact ⟨_, (hwork hstart).trans (hwork hmiss)⟩
      | failed =>
        have hr : Build.indexFolder watch sources repository folder b = .ok .failed b₂ := by
          rw [Build.indexFolder, Build.bind_of_ok hcheck, Build.bind_of_ok hread]
          rfl
        have hmiss : Errand.reading.work watch sources repository folder b₁ =
            some (b₂, .done (.ok .failed), []) := by
          simp [Errand.work, hread]
        rw [hr]
        exact ⟨_, (hwork hstart).trans (hwork hmiss)⟩
      | found entries =>
        obtain ⟨c, r⟩ := entries
        have hr : Build.indexFolder watch sources repository folder b =
            .ok (.found c.name) { b₂ with store := (b₂.store.put c).putReference r } := by
          rw [Build.indexFolder, Build.bind_of_ok hcheck, Build.bind_of_ok hread]
          rfl
        have hfind : Errand.reading.work watch sources repository folder b₁ = some (b₂, .writing c r, []) := by
          simp [Errand.work, hread]
        rw [hr]
        exact ⟨_, (hwork hstart).trans ((hwork hfind).trans ((hwork rfl).trans (hwork rfl)))⟩

end Worker

theorem set_first_length (first rest : List Errand) (e e' : Errand) :
    (first ++ e :: rest).set first.length e' = first ++ e' :: rest := by
  simp

section Leader

variable {first rest : List Errand}

theorem leads_gather {result : Except Failure (Outcome String)} (hidle : Idle first) (hidle' : Idle rest) :
    Leads watch sources repository ⟨b, first ++ .done result :: rest, .waiting, tally, told, written⟩
      ⟨b, first ++ .done result :: rest, .hearing [first.length], tally, told, written⟩ := by
  refine Leads.of_step (.gather [first.length]) ?_ (hidle.countP_append_le_one hidle' _)
  simp [step, gather, Errand.isHeard, Errand.isDone]

theorem leads_refuse (hidle : Idle first) (hidle' : Idle rest) :
    Leads watch sources repository
      ⟨b, first ++ .done (.error failure) :: rest, .hearing [first.length], tally, told, written⟩
      ⟨b, first ++ .done (.error failure) :: rest, .closing failure, tally, told, written⟩ := by
  refine Leads.of_step .lead ?_ (hidle.countP_append_le_one hidle' _)
  simp [step, guide]

theorem leads_hear {outcome : Outcome String} (hidle : Idle first) (hidle' : Idle rest) :
    Leads watch sources repository
      ⟨b, first ++ .done (.ok outcome) :: rest, .hearing [first.length], tally, told, written⟩
      (hear watch ⟨b, first ++ .done (.ok outcome) :: rest, .hearing [first.length], tally, told, written⟩
        first.length outcome []) := by
  refine Leads.of_step .lead ?_ ?_
  · simp [step, guide]
  · unfold hear
    split
    · rw [underWay, set_first_length]
      exact hidle.countP_append_le_one hidle' _
    · exact hidle.countP_append_le_one hidle' _

theorem leads_check (hidle : Idle first) (hidle' : Idle rest) {e : Errand} :
    Leads watch sources repository ⟨b, first ++ e :: rest, .hearing [], tally, told, written⟩
      (checked watch ⟨b, first ++ e :: rest, .hearing [], tally, told, written⟩
        fun crew => { crew with lead := .waiting }) := by
  refine Leads.of_step .lead rfl ?_
  unfold checked
  split <;> exact hidle.countP_append_le_one hidle' e

end Leader

/-- Where the leader closes the phase while folders are still in the queue. -/
theorem ends_closing_queued (k m : ℕ) (e : Errand) (tally : Tally) (told : ℕ) (written : List Store.Change)
    (he : e.isOpen = false) :
    Ends watch sources repository
      ⟨b, List.replicate k .heard ++ e :: List.replicate m .queued, .closing failure, tally, told, written⟩
      (.error failure b) := by
  have hfirst (x : Errand) (hx : x ∈ List.replicate k .heard ++ [e]) : x.isOpen = false := by
    rcases List.mem_append.mp hx with hx | hx
    · rw [List.eq_of_mem_replicate hx]
      rfl
    · rw [List.mem_singleton.mp hx]
      exact he
  have hrest (x : Errand) (hx : x ∈ List.replicate m .queued) (_ : x.isOpen = true) : x = .queued :=
    List.eq_of_mem_replicate hx
  rw [List.append_cons]
  exact ends_closing _ _ hfirst hrest

def conclude (tally : Tally) : BuildM σ Tally := do
  modify fun bench => { bench with store := bench.store.retain tally.names }
  pure tally

/-- Waiting for one folder after the other does what the single worker does. -/
theorem ends_indexFolders (before rest : List Path) (hfolders : sources.folders = before ++ rest) (b : Workbench σ)
    (tally : Tally) (written : List Store.Change) :
    Ends watch sources repository
      ⟨b, List.replicate before.length .heard ++ List.replicate rest.length .queued, .waiting, tally, before.length,
        written⟩
      ((Build.indexFolders watch sources repository sources.folders.length (before.length + 1) rest tally >>=
        conclude) b) := by
  induction rest generalizing before b tally written with
  | nil =>
    have hall : (List.replicate before.length Errand.heard ++ List.replicate 0 Errand.queued).all Errand.isHeard =
        true := by
      rw [List.all_eq_true]
      intro e he
      rw [List.replicate_zero, List.append_nil] at he
      rw [List.eq_of_mem_replicate he]
      rfl
    refine ⟨⟨{ b with store := b.store.retain tally.names },
      List.replicate before.length .heard ++ List.replicate 0 .queued, .ended (.ok tally), tally, before.length,
      written⟩, Leads.of_step .lead ?_ ?_, rfl, rfl⟩
    · simp only [step, guide, List.length_nil, hall, if_true]
    · rw [underWay, List.replicate_zero, List.append_nil]
      exact (idle_replicate before.length rfl).countP_le_one
  | cons folder rest ih =>
    have hheard : before.length = (List.replicate before.length Errand.heard).length := List.length_replicate.symm
    have htotal (e : Errand) :
        (List.replicate before.length Errand.heard ++ e :: List.replicate rest.length .queued).length =
          sources.folders.length := by
      simp [hfolders]
    have hidle : Idle (List.replicate before.length .heard) := idle_replicate _ rfl
    have hidle' : Idle (List.replicate rest.length .queued) := idle_replicate _ rfl
    obtain ⟨written', hwork⟩ := leads_indexFolder watch hfolders hheard.symm hidle hidle'
    refine Ends.of_leads hwork (Ends.of_leads (leads_gather hidle hidle') ?_)
    rw [Build.indexFolders_cons]
    cases hfolder : Build.indexFolder watch sources repository folder b with
    | error failure b₁ =>
      rw [Build.bind_of_error hfolder]
      exact Ends.of_leads (leads_refuse hidle hidle') (ends_closing_queued _ _ _ _ _ _ rfl)
    | ok outcome b₁ =>
      rw [Build.bind_of_ok hfolder]
      refine Ends.of_leads (leads_hear hidle hidle') ?_
      unfold hear
      simp only [htotal, Build.left]
      cases hreport : Build.report watch (.component (before.length + 1) sources.folders.length outcome.value?) b₁ with
      | error failure b₂ =>
        rw [Build.bind_of_error hreport]
        exact ends_closing_queued _ _ _ _ _ _ rfl
      | ok x b₂ =>
        rw [Build.bind_of_ok hreport, set_first_length]
        refine Ends.of_leads (leads_check hidle hidle') ?_
        unfold checked
        cases hcheck : Build.check watch b₂ with
        | error failure b₃ =>
          rw [Build.bind_of_error hcheck]
          exact ends_closing_queued _ _ _ _ _ _ rfl
        | ok x b₃ =>
          have hrest := ih (before ++ [folder]) (by rw [hfolders, List.append_cons]) b₃ (tally.add outcome) written'
          rw [List.length_append, List.length_singleton, List.replicate_succ', List.append_assoc] at hrest
          rw [Build.bind_of_ok hcheck]
          exact hrest

/-- Handing out the folders that are left, and phase one after that. -/
theorem ends_sending (watch : Watch σ) (repository : Path) (before rest : List Path)
    (hfolders : sources.folders = before ++ rest) (b : Workbench σ) :
    Ends watch sources repository
      ⟨b, List.replicate before.length .queued ++ List.replicate rest.length .unsent, .sending before.length,
        {}, 0, []⟩
      (((rest.forM fun _ => Build.check watch) >>= fun _ =>
        Build.indexFolders watch sources repository sources.folders.length 1 sources.folders {} >>= conclude) b) := by
  induction rest generalizing before b with
  | nil =>
    have hall : sources.folders.length = before.length := by rw [hfolders, List.append_nil]
    have hwait : Leads watch sources repository
        ⟨b, List.replicate before.length .queued ++ List.replicate 0 .unsent, .sending before.length, {}, 0, []⟩
        ⟨b, List.replicate sources.folders.length .queued, .waiting, {}, 0, []⟩ := by
      refine Leads.of_step .lead ?_ ?_
      · simp [step, guide, hall]
      · exact (idle_replicate sources.folders.length rfl).countP_le_one
    exact Ends.of_leads hwait (ends_indexFolders [] sources.folders rfl b {} [])
  | cons folder rest ih =>
    have hsend : Leads watch sources repository
        ⟨b, List.replicate before.length .queued ++ .unsent :: List.replicate rest.length .unsent,
          .sending before.length, {}, 0, []⟩
        (checked watch
          ⟨b, List.replicate before.length .queued ++ .unsent :: List.replicate rest.length .unsent,
            .sending before.length, {}, 0, []⟩
          fun crew => { crew with
            errands := crew.errands.set before.length .queued
            lead := .sending (before.length + 1) }) := by
      have hidle : Idle (List.replicate before.length .queued) := idle_replicate _ rfl
      have hidle' : Idle (List.replicate rest.length .unsent) := idle_replicate _ rfl
      refine Leads.of_step .lead ?_ ?_
      · simp [step, guide]
      · have hset := set_first_length (List.replicate before.length .queued) (List.replicate rest.length .unsent)
          .unsent .queued
        rw [List.length_replicate] at hset
        unfold checked
        split
        · rw [underWay]
          simp only [hset]
          exact hidle.countP_append_le_one hidle' _
        · exact hidle.countP_append_le_one hidle' _
    refine Ends.of_leads hsend ?_
    unfold checked
    rw [List.forM_eq_forM, List.forM_cons, bind_assoc]
    cases hcheck : Build.check watch b with
    | error failure b₁ =>
      rw [Build.bind_of_error hcheck]
      refine ends_closing [] _ (fun e he => by cases he) fun e he hopen => ?_
      rcases List.mem_append.mp he with he | he
      · exact List.eq_of_mem_replicate he
      · have hunsent : e = .unsent := List.eq_of_mem_replicate (n := rest.length + 1) he
        rw [hunsent] at hopen
        cases hopen
    | ok x b₁ =>
      have hset : (List.replicate before.length Errand.queued ++
          Errand.unsent :: List.replicate rest.length Errand.unsent).set before.length .queued =
          List.replicate (before.length + 1) .queued ++ List.replicate rest.length .unsent := by
        simp [List.replicate_succ', List.append_assoc]
      have hrest := ih (before ++ [folder]) (by rw [hfolders, List.append_cons]) b₁
      rw [Build.bind_of_ok hcheck]
      simp only [hset]
      rw [List.length_append, List.length_singleton] at hrest
      exact hrest

/-- The phase with a single worker is one that a crew can make. -/
theorem ends_indexComponents (watch : Watch σ) (sources : Sources) (repository : Path) (b : Workbench σ) :
    Ends watch sources repository (start sources b) (Build.indexComponents watch sources repository b) := by
  have h := ends_sending watch repository [] sources.folders rfl b
  rw [List.length_nil, List.replicate_zero, List.nil_append] at h
  rw [start, List.map_const']
  exact h

theorem result?_eq_some_iff {r : EStateM.Result Failure (Workbench σ) Tally} :
    crew.result? = some r ↔ crew.lead = .ended (Build.result r) ∧ crew.bench = Build.left r := by
  unfold result?
  split
  · next tally hlead =>
    rw [hlead]
    cases r <;> simp [Build.result, Build.left]
  · next failure hlead =>
    rw [hlead]
    cases r <;> simp [Build.result, Build.left]
  · next hok herror =>
    refine iff_of_false (by simp) fun h => ?_
    cases r with
    | ok tally bench => exact hok tally h.1
    | error failure bench => exact herror failure h.1

end Crew

namespace Index

variable {ix ix' : Index} {w w' : σ} {ensure : σ → σ × Except Failure Bool} {now : String} {workers : ℕ}
  {moves : List Crew.Move} {outcome : Except Failure Summary}

theorem endBuild_eq_conclude (ix : Index) (watch : Watch σ) (w : σ) (sources : Sources) (repository : Path)
    (available : Except Failure Bool) (now : String) :
    ix.endBuild watch w sources repository available now =
      ix.conclude now (Build.afterSync watch sources repository available (ix.workbench w)) := by
  unfold endBuild
  cases Build.afterSync watch sources repository available (ix.workbench w) <;> rfl

theorem exists_endBuildWith_eq (ix : Index) (watch : Watch σ) (w : σ) (sources : Sources) (repository : Path)
    (available : Except Failure Bool) (now : String) :
    ∃ moves, ix.endBuildWith 1 watch w sources repository available now moves =
      some (ix.endBuild watch w sources repository available now) := by
  rw [endBuild_eq_conclude, Build.afterSync]
  unfold endBuildWith
  cases hprepare : Build.prepare watch repository available (ix.workbench w) with
  | error failure b =>
    rw [Build.bind_of_error hprepare]
    exact ⟨[], rfl⟩
  | ok x b =>
    rw [Build.bind_of_ok hprepare]
    obtain ⟨crew, ⟨moves, hcrew⟩, hlead, hbench⟩ := Crew.ends_indexComponents watch sources repository b
    have hresult := Crew.result?_eq_some_iff.mpr ⟨hlead, hbench⟩
    refine ⟨moves, ?_⟩
    simp only [hcrew, hresult, Option.map_some]
    cases hcomponents : Build.indexComponents watch sources repository b with
    | error failure b₁ => rw [Build.bind_of_error hcomponents]
    | ok tally b₁ => rw [Build.bind_of_ok hcomponents]

/-- Every build whose single worker never gets ahead of his leader is one of those with a single worker. -/
theorem exists_buildWith_eq (ix : Index) (watch : Watch σ) (w : σ) (ensure : σ → σ × Except Failure Bool)
    (sources : Sources) (repository : Path) (now : String) :
    ∃ moves, ix.buildWith 1 watch w ensure sources repository now moves =
      some (ix.build watch w ensure sources repository now) := by
  unfold buildWith build
  obtain ⟨ix₁, w₁, failure | _⟩ := ix.beginBuild watch w
  · exact ⟨[], rfl⟩
  · exact exists_endBuildWith_eq ix₁ watch (ensure w₁).1 sources repository (ensure w₁).2 now

theorem conclude_eq (ix : Index) (now : String) (r : EStateM.Result Failure (Workbench σ) Summary) :
    ix.conclude now r =
      (ix.settle (Build.left r).store (Build.left r).taxonomy now (Build.result r), (Build.left r).watcher,
        Build.result r) := by
  cases r <;> rfl

/-- The courses that a build can take, with what it leaves of the index and of the watcher, and its answer. -/
inductive Course (workers : ℕ) (ix : Index) (watch : Watch σ) (w : σ) (ensure : σ → σ × Except Failure Bool)
    (sources : Sources) (repository : Path) (now : String) (moves : List Crew.Move) :
    Index → σ → Except Failure Summary → Prop
  | refused (ix' : Index) (w' : σ) (failure : Failure) (hbegin : ix.beginBuild watch w = (ix', w', .error failure)) :
      Course workers ix watch w ensure sources repository now moves ix' w' (.error failure)
  | unprepared (ix₁ : Index) (w₁ : σ) (failure : Failure) (b : Workbench σ)
      (hbegin : ix.beginBuild watch w = (ix₁, w₁, .ok ()))
      (hprepare : Build.prepare watch repository (ensure w₁).2 (ix₁.workbench (ensure w₁).1) = .error failure b) :
      Course workers ix watch w ensure sources repository now moves
        (ix₁.settle b.store b.taxonomy now (.error failure)) b.watcher (.error failure)
  | interrupted (ix₁ : Index) (w₁ : σ) (failure : Failure) (b : Workbench σ) (crew : Crew σ)
      (hbegin : ix.beginBuild watch w = (ix₁, w₁, .ok ()))
      (hprepare : Build.prepare watch repository (ensure w₁).2 (ix₁.workbench (ensure w₁).1) = .ok () b)
      (hcrew : (Crew.start sources b).runWith workers watch sources repository moves = crew)
      (hlead : crew.lead = .ended (.error failure)) :
      Course workers ix watch w ensure sources repository now moves
        (ix₁.settle crew.bench.store crew.bench.taxonomy now (.error failure)) crew.bench.watcher (.error failure)
  | enriched (ix₁ : Index) (w₁ : σ) (b : Workbench σ) (crew : Crew σ) (tally : Tally)
      (r : EStateM.Result Failure (Workbench σ) Summary)
      (hbegin : ix.beginBuild watch w = (ix₁, w₁, .ok ()))
      (hprepare : Build.prepare watch repository (ensure w₁).2 (ix₁.workbench (ensure w₁).1) = .ok () b)
      (hcrew : (Crew.start sources b).runWith workers watch sources repository moves = crew)
      (hlead : crew.lead = .ended (.ok tally)) (henrich : Build.enrich watch sources tally crew.bench = r) :
      Course workers ix watch w ensure sources repository now moves
        (ix₁.settle (Build.left r).store (Build.left r).taxonomy now (Build.result r)) (Build.left r).watcher
        (Build.result r)

theorem course_of_buildWith
    (h : ix.buildWith workers watch w ensure sources repository now moves = some (ix', w', outcome)) :
    Course workers ix watch w ensure sources repository now moves ix' w' outcome := by
  unfold buildWith at h
  split at h
  · next ix₁ w₁ failure hbegin => cases h; exact .refused _ _ failure hbegin
  · next ix₁ w₁ hbegin =>
    unfold endBuildWith at h
    cases hprepare : Build.prepare watch repository (ensure w₁).2 (ix₁.workbench (ensure w₁).1) with
    | error failure b =>
      simp only [hprepare] at h
      cases h
      exact .unprepared ix₁ w₁ failure b hbegin hprepare
    | ok x b =>
      simp only [hprepare] at h
      obtain ⟨r, hr, h⟩ := Option.map_eq_some_iff.mp h
      obtain ⟨hlead, hbench⟩ := Crew.result?_eq_some_iff.mp hr
      cases r with
      | error failure b₁ =>
        cases h
        cases hbench
        exact .interrupted ix₁ w₁ failure b _ hbegin hprepare rfl hlead
      | ok tally b₁ =>
        cases hbench
        simp only [conclude_eq] at h
        cases h
        exact .enriched ix₁ w₁ b _ tally _ hbegin hprepare rfl hlead rfl

/-- Every build with any number of workers is an attempt, and wrote nothing or what its crew wrote. -/
theorem attempt_buildWith
    (h : ix.buildWith workers watch w ensure sources repository now moves = some (ix', w', outcome)) :
    ∃ extent, ix.Attempt watch sources repository extent outcome ix' ∧
      (extent.written = [] ∨ ∃ b result, b.taxonomy = ix.taxonomy.fill ∧
        ((Crew.start sources b).runWith workers watch sources repository moves).lead = .ended result ∧
        extent.written = ((Crew.start sources b).runWith workers watch sources repository moves).written) := by
  have hprepared {ix₁ : Index} {w₁ : σ} {b : Workbench σ} (hbegin : ix.beginBuild watch w = (ix₁, w₁, .ok ()))
      (hprepare : Build.prepare watch repository (ensure w₁).2 (ix₁.workbench (ensure w₁).1) = .ok () b) :
      ix.Prepared watch repository ix₁ b := ⟨w, w₁, (ensure w₁).1, (ensure w₁).2, hbegin, hprepare⟩
  have hrun (b : Workbench σ) := Crew.exists_run_eq_runWith workers watch sources repository (Crew.start sources b) moves
  cases course_of_buildWith h with
  | refused _ _ failure hbegin => exact ⟨_, .refused w _ _ failure hbegin, .inl rfl⟩
  | unprepared ix₁ w₁ failure b hbegin hprepare =>
    exact ⟨_, .unprepared w w₁ _ ix₁ _ failure b now hbegin hprepare, .inl rfl⟩
  | interrupted ix₁ w₁ failure b crew hbegin hprepare hcrew hlead =>
    have hb := hprepared hbegin hprepare
    obtain ⟨moves', hmoves⟩ := hrun b
    subst hcrew
    exact ⟨_, .interrupted ix₁ b moves' _ failure now hb hmoves hlead, .inr ⟨b, _, hb.contents_eq.2, hlead, rfl⟩⟩
  | enriched ix₁ w₁ b crew tally r hbegin hprepare hcrew hlead henrich =>
    have hb := hprepared hbegin hprepare
    obtain ⟨moves', hmoves⟩ := hrun b
    subst hcrew
    cases r with
    | error failure b' =>
      exact ⟨_, .abandoned ix₁ b b' moves' _ tally failure now hb hmoves hlead henrich,
        .inr ⟨b, _, hb.contents_eq.2, hlead, rfl⟩⟩
    | ok summary b' =>
      exact ⟨_, .completed ix₁ b b' moves' _ tally summary now hb hmoves hlead henrich,
        .inr ⟨b, _, hb.contents_eq.2, hlead, rfl⟩⟩

theorem attempt_build (h : ix.build watch w ensure sources repository now = (ix', w', outcome)) :
    ∃ extent, ix.Attempt watch sources repository extent outcome ix' := by
  obtain ⟨moves, hmoves⟩ := exists_buildWith_eq ix watch w ensure sources repository now
  rw [h] at hmoves
  obtain ⟨extent, hattempt, -⟩ := attempt_buildWith hmoves
  exact ⟨extent, hattempt⟩

end Index
end Catalog
