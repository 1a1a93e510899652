import Catalog.Proofs.Index.Abort

/-! What the watcher of a build hears. A watcher who writes down each report sees which ones a step makes; the reports
of a sequence of steps are those of the first and, if that does not fail, those of the second after them. -/
namespace Catalog

open Build (Tally Outcome left)

variable {σ : Type} {watch : Watch σ} {sources : Sources} {repository : Path} {heard : σ → List Progress}

/-- The watcher keeps a diary: he writes down each report, whatever else he makes of it, and nothing else. -/
structure Watch.Diary (watch : Watch σ) (heard : σ → List Progress) : Prop where
  look : ∀ w, heard (watch.look w).1 = heard w
  report : ∀ progress w, heard (watch.report progress w).1 = heard w ++ [progress]

def Watch.recorded (watch : Watch σ) : Watch (σ × List Progress) where
  look v := (((watch.look v.1).1, v.2), (watch.look v.1).2)
  report progress v := (((watch.report progress v.1).1, v.2 ++ [progress]), (watch.report progress v.1).2)

/-- Every watcher can keep a diary. -/
theorem Watch.diary_recorded (watch : Watch σ) : watch.recorded.Diary Prod.snd :=
  ⟨fun _ => rfl, fun _ _ => rfl⟩

/-- Reports about items one after another, numbered from `first` on. -/
def numbered {α : Type} (report : ℕ → α → Progress) (first : ℕ) (items : List α) : List Progress :=
  (items.zipIdx first).map fun (item, number) => report number item

section Numbered

variable {α : Type} {report : ℕ → α → Progress} {first : ℕ}

theorem numbered_cons (report : ℕ → α → Progress) (first : ℕ) (item : α) (items : List α) :
    numbered report first (item :: items) = report first item :: numbered report (first + 1) items := by
  simp [numbered]

theorem numbered_append (report : ℕ → α → Progress) (first : ℕ) (items more : List α) :
    numbered report first (items ++ more) =
      numbered report first items ++ numbered report (first + items.length) more := by
  simp [numbered, List.zipIdx_append]

theorem mem_numbered {items : List α} {p : Progress} (h : p ∈ numbered report first items) :
    ∃ number item, first ≤ number ∧ p = report number item := by
  obtain ⟨⟨item, number⟩, hmem, rfl⟩ := List.mem_map.mp h
  exact ⟨number, item, List.le_snd_of_mem_zipIdx hmem, rfl⟩

/-- No report comes twice if each tells its number. -/
theorem nodup_numbered (hreport : ∀ i j a b, report i a = report j b → i = j) (items : List α) :
    (numbered report first items).Nodup := by
  induction items generalizing first with
  | nil => exact List.nodup_nil
  | cons item items ih =>
    rw [numbered_cons, List.nodup_cons]
    refine ⟨fun hmem => ?_, ih⟩
    obtain ⟨number, other, hle, heq⟩ := mem_numbered hmem
    have hnumber := hreport _ _ _ _ heq
    omega

end Numbered

namespace Build

variable {α β : Type} {b : Workbench σ} {m : BuildM σ α} {f : α → BuildM σ β} {reports more : List Progress}

/-- On this workbench a step makes these reports, or the first of them if it fails. -/
def Reports (heard : σ → List Progress) (m : BuildM σ α) (b : Workbench σ) (reports : List Progress) : Prop :=
  match m b with
  | .ok _ b' => heard b'.watcher = heard b.watcher ++ reports
  | .error _ b' => ∃ told, told <+: reports ∧ heard b'.watcher = heard b.watcher ++ told

theorem Reports.bind (hm : Reports heard m b reports)
    (hf : ∀ x b', m b = .ok x b' → Reports heard (f x) b' more) : Reports heard (m >>= f) b (reports ++ more) := by
  unfold Reports at hm
  cases h : m b with
  | error failure b₁ =>
    obtain ⟨told, hfront, htold⟩ := by simpa only [h] using hm
    simp only [Reports, bind_of_error h]
    exact ⟨told, hfront.trans (List.prefix_append _ _), htold⟩
  | ok x b₁ =>
    have hfirst : heard b₁.watcher = heard b.watcher ++ reports := by simpa only [h] using hm
    have hsecond := hf x b₁ h
    unfold Reports at hsecond
    simp only [Reports, bind_of_ok h]
    cases h₂ : f x b₁ with
    | ok y b₂ =>
      have hall : heard b₂.watcher = heard b₁.watcher ++ more := by simpa only [h₂] using hsecond
      change heard b₂.watcher = _
      rw [hall, hfirst, List.append_assoc]
    | error failure b₂ =>
      obtain ⟨told, hfront, htold⟩ := by simpa only [h₂] using hsecond
      refine ⟨reports ++ told, (List.prefix_append_right_inj _).mpr hfront, ?_⟩
      rw [htold, hfirst, List.append_assoc]

/-- A step that leaves the diary as it is reports nothing. -/
theorem Reports.of_keeps (h : Keeps (fun b => heard b.watcher) m) (b : Workbench σ) : Reports heard m b [] := by
  have hb := h b
  unfold Reports
  cases hm : m b with
  | ok x b' =>
    rw [hm] at hb
    exact hb.trans (List.append_nil _).symm
  | error failure b' =>
    rw [hm] at hb
    exact ⟨[], List.prefix_rfl, hb.trans (List.append_nil _).symm⟩

/-- A step that reports nothing may come before others. -/
theorem Reports.after (hm : Keeps (fun b => heard b.watcher) m)
    (hf : ∀ x b', m b = .ok x b' → Reports heard (f x) b' reports) : Reports heard (m >>= f) b reports :=
  (Reports.of_keeps hm b).bind hf

section Diary

variable (hdiary : watch.Diary heard)
include hdiary

theorem keeps_look : Keeps (fun b => heard b.watcher) (look watch) :=
  fun b => hdiary.look b.watcher

theorem keeps_check : Keeps (fun b => heard b.watcher) (check watch) := by
  intro b
  rw [check_apply]
  split_ifs
  · exact hdiary.look b.watcher
  · exact hdiary.look b.watcher

theorem keeps_readItem (read : Taxonomy → Bool → Except Failure (Option α)) :
    Keeps (fun b => heard b.watcher) (readItem watch read) :=
  (keeps_look hdiary).bind fun _ => Keeps.get_bind fun _ => Keeps.lift _

/-- A report is heard, also by a watcher who makes the build fail at it. -/
theorem heard_report (progress : Progress) (b : Workbench σ) :
    heard (left (report watch progress b)).watcher = heard b.watcher ++ [progress] := by
  rw [report_apply]
  cases (watch.report progress b.watcher).2 <;> exact hdiary.report progress b.watcher

theorem reports_report (progress : Progress) (b : Workbench σ) :
    Reports heard (report watch progress) b [progress] := by
  have hheard := heard_report hdiary progress b
  unfold Reports
  cases hreport : report watch progress b with
  | ok x b' =>
    rw [hreport] at hheard
    exact hheard
  | error failure b' =>
    rw [hreport] at hheard
    exact ⟨[progress], List.prefix_rfl, hheard⟩

theorem keeps_indexPage (file : Path) (count : Count) :
    Keeps (fun b => heard b.watcher) (indexPage watch sources file count) := by
  refine (keeps_readItem hdiary _).bind fun read => ?_
  cases read with
  | found page =>
    intro b
    simp only [get_bind]
    cases subjectOf b.store page <;> rfl
  | nothing => exact Keeps.pure _
  | failed => exact Keeps.pure _

theorem keeps_indexExample (c : Component) (count : Count) :
    Keeps (fun b => heard b.watcher) (indexExample watch sources c count) := by
  refine (keeps_readItem hdiary _).bind fun read => ?_
  cases read with
  | found examples => exact fun _ => rfl
  | nothing => exact Keeps.pure _
  | failed => exact Keeps.pure _

/-- Whether a page fails or gives nothing, it is reported. -/
theorem reports_indexPages (total current : ℕ) (files : List Path) (count : Count) (b : Workbench σ) :
    Reports heard (indexPages watch sources total current files count) b
      (numbered (fun number file => .page number total file.name) current files) := by
  induction files generalizing current count b with
  | nil => exact Reports.of_keeps (Keeps.pure count) b
  | cons file files ih =>
    rw [numbered_cons]
    refine Reports.after (keeps_check hdiary) fun _ b₁ _ => ?_
    refine (reports_report hdiary _ b₁).bind fun _ b₂ _ => ?_
    exact Reports.after (keeps_indexPage hdiary file count) fun count b₃ _ => ih (current + 1) count b₃

/-- Whether the examples of a component cannot be read or there are none, it is reported. -/
theorem reports_indexExamples (total current : ℕ) (components : List Component) (count : Count) (b : Workbench σ) :
    Reports heard (indexExamples watch sources total current components count) b
      (numbered (fun number name => .examples number total name) current (components.map Component.name)) := by
  induction components generalizing current count b with
  | nil => exact Reports.of_keeps (Keeps.pure count) b
  | cons c components ih =>
    rw [List.map_cons, numbered_cons]
    refine Reports.after (keeps_check hdiary) fun _ b₁ _ => ?_
    refine (reports_report hdiary _ b₁).bind fun _ b₂ _ => ?_
    exact Reports.after (keeps_indexExample hdiary c count) fun count b₃ _ => ih (current + 1) count b₃

theorem reports_prepare (repository : Path) (available : Except Failure Bool) (b : Workbench σ) :
    Reports heard (prepare watch repository available) b [.synced repository.text] := by
  refine Reports.after (Keeps.lift available) fun isThere b₁ _ => ?_
  refine Reports.after (keeps_check hdiary) fun _ b₂ _ => ?_
  cases isThere with
  | false => exact ⟨[], List.nil_prefix, (List.append_nil _).symm⟩
  | true =>
    rw [← List.append_nil [Progress.synced repository.text]]
    exact (reports_report hdiary _ b₂).bind fun _ b₃ _ => Reports.of_keeps (fun _ => rfl) b₃

end Diary

/-- The names of the components stay as they are in phase two. -/
theorem keeps_names_indexPages (watch : Watch σ) (sources : Sources) (total current : ℕ) (files : List Path)
    (count : Count) : Keeps (fun b => b.store.names) (indexPages watch sources total current files count) := by
  have hv : Unwatched (fun b : Workbench σ => b.store.names) := fun _ _ => rfl
  refine (hv.keepsIf_indexPages (fun file count => hv.keepsIf_indexPage (fun b page c _ _ hs => ?_) file count) _ _ _
    _).keeps
  have hk : (documented c page).key ∈ b.store.keys := mem_keys_of_subjectOf (c := c) hs
  exact Store.names_put_of_mem hk

theorem keeps_names_enrich (watch : Watch σ) (sources : Sources) (tally : Tally) :
    Keeps (fun b => b.store.names) (enrich watch sources tally) := by
  have hv : Unwatched (fun b : Workbench σ => b.store.names) := fun _ _ => rfl
  refine (hv.keepsIf_enrich (fun b page c _ _ hs => ?_) (fun b _ c hc b' examples hb' _ => ?_) tally).keeps
  · have hk : (documented c page).key ∈ b.store.keys := mem_keys_of_subjectOf (c := c) hs
    exact Store.names_put_of_mem hk
  · have hkeys : b'.store.keys = b.store.keys := by
      rw [Store.keys_eq_map_names, show b'.store.names = b.store.names from hb', ← Store.keys_eq_map_names]
    have hk : c.key ∈ b'.store.keys := hkeys ▸ List.mem_map_of_mem hc
    exact Store.names_put_of_mem (c := { c with examples := examples }) hk

/-- The reports of the later phases: each page, and each component that is stored when they begin. -/
theorem reports_enrich (hdiary : watch.Diary heard) (sources : Sources) (tally : Tally) (b : Workbench σ) :
    Reports heard (enrich watch sources tally) b
      (numbered (fun number file => .page number sources.pages.length file.name) 1 sources.pages ++
        numbered (fun number name => .examples number b.store.names.length name) 1 b.store.names) := by
  refine (reports_indexPages hdiary _ _ _ _ b).bind fun pages b₁ hpages => ?_
  have hnames : b₁.store.names = b.store.names := (keeps_names_indexPages watch sources _ _ _ _).ok hpages
  rw [← hnames, Store.names, List.length_map, ← List.append_nil (numbered _ _ _)]
  exact (reports_indexExamples hdiary _ _ _ _ b₁).bind fun examples b₂ _ => Reports.of_keeps (Keeps.pure _) b₂

end Build
end Catalog
