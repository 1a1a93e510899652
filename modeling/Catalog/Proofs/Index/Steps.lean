import Catalog.Index.Build
import Mathlib.Tactic.Common

/-! How the steps of a build are taken apart: where a sequence of steps ends, what each small step leaves alone, and
what it comes to if nobody asks for cancellation. -/
namespace Catalog

def Watch.Calm {σ : Type} (watch : Watch σ) : Prop :=
  ∀ w, (watch.look w).2 = false

namespace Build

variable {σ α β γ : Type} {watch : Watch σ} {b b' : Workbench σ} {m : BuildM σ α} {f : α → BuildM σ β} {y : β}

def left : EStateM.Result Failure (Workbench σ) α → Workbench σ
  | .ok _ b => b
  | .error _ b => b

theorem bind_eq_ok : (m >>= f) b = .ok y b' ↔ ∃ x b₁, m b = .ok x b₁ ∧ f x b₁ = .ok y b' := by
  simp only [bind, EStateM.bind]
  cases h : m b with
  | ok x b₁ => simp
  | error failure b₁ => simp

theorem bind_of_ok {x : α} {b₁ : Workbench σ} (h : m b = .ok x b₁) : (m >>= f) b = f x b₁ := by
  simp only [bind, EStateM.bind, h]

theorem bind_of_error {failure : Failure} {b₁ : Workbench σ} (h : m b = .error failure b₁) :
    (m >>= f) b = .error failure b₁ := by
  simp only [bind, EStateM.bind, h]

theorem get_bind (f : Workbench σ → BuildM σ β) (b : Workbench σ) : (get >>= f) b = f b b := rfl

theorem look_apply (watch : Watch σ) (b : Workbench σ) :
    look watch b = .ok (watch.look b.watcher).2 { b with watcher := (watch.look b.watcher).1 } := rfl

theorem check_apply (watch : Watch σ) (b : Workbench σ) :
    check watch b =
      if (watch.look b.watcher).2 then .error .buildCancelled { b with watcher := (watch.look b.watcher).1 }
      else .ok () { b with watcher := (watch.look b.watcher).1 } := by
  rw [check, bind_of_ok (look_apply watch b)]
  split_ifs <;> rfl

theorem report_apply (watch : Watch σ) (progress : Progress) (b : Workbench σ) :
    report watch progress b =
      match (watch.report progress b.watcher).2 with
      | some failure => .error failure { b with watcher := (watch.report progress b.watcher).1 }
      | none => .ok () { b with watcher := (watch.report progress b.watcher).1 } := by
  rw [report, get_bind]
  generalize watch.report progress b.watcher = told
  obtain ⟨w, failure⟩ := told
  cases failure <;> rfl

theorem lift_eq_ok {r : Except Failure α} {x : α} (h : (lift r : BuildM σ α) b = .ok x b') : r = .ok x ∧ b' = b := by
  cases r with
  | ok y => cases h; exact ⟨rfl, rfl⟩
  | error failure => cases h

theorem settle_eq_found {r : Except Failure (Option α)} {x : α} : settle r = .ok (.found x) ↔ r = .ok (some x) := by
  match r with
  | .ok (some y) => simp [settle]
  | .ok none => simp [settle]
  | .error failure =>
    simp only [settle]
    split_ifs <;> simp

/-- What is found was read, whatever the cancel flag was then. -/
theorem readItem_found {read : Taxonomy → Bool → Except Failure (Option α)} {x : α}
    (h : readItem watch read b = .ok (.found x) b') : ∃ cancelled, read b.taxonomy cancelled = .ok (some x) := by
  obtain ⟨cancelled, b₁, hlook, h⟩ := bind_eq_ok.mp h
  rw [get_bind] at h
  cases hlook
  exact ⟨_, settle_eq_found.mp (lift_eq_ok h).1⟩

section Keeps

variable {view : Workbench σ → γ}

/-- The step leaves what is seen of the workbench as it is, whether it fails or not. -/
def Keeps (view : Workbench σ → γ) (m : BuildM σ α) : Prop :=
  ∀ b, view (left (m b)) = view b

theorem Keeps.pure (x : α) : Keeps view (pure x : BuildM σ α) :=
  fun _ => rfl

def KeepsIf (p : γ → Prop) (view : Workbench σ → γ) (m : BuildM σ α) : Prop :=
  ∀ b, p (view b) → view (left (m b)) = view b

/-- What comes after a step need only be looked at for what the step can come to. -/
theorem KeepsIf.bind_of_ok {p : γ → Prop} (hm : KeepsIf p view m)
    (hf : ∀ x b b₁, m b = .ok x b₁ → KeepsIf p view (f x)) : KeepsIf p view (m >>= f) := by
  intro b hp
  have hb := hm b hp
  simp only [Bind.bind, EStateM.bind]
  cases h : m b with
  | ok x b₁ =>
    rw [h] at hb
    have hp₁ : p (view b₁) := by rwa [← hb] at hp
    exact (hf x b b₁ h b₁ hp₁).trans hb
  | error failure b₁ =>
    rw [h] at hb
    exact hb

theorem KeepsIf.bind {p : γ → Prop} (hm : KeepsIf p view m) (hf : ∀ x, KeepsIf p view (f x)) :
    KeepsIf p view (m >>= f) :=
  hm.bind_of_ok fun x _ _ _ => hf x

/-- A step keeps a property, seen as a view, if it keeps it from holding to holding. -/
theorem keepsIf_id {P : Workbench σ → Prop} : KeepsIf id P m ↔ ∀ b, P b → P (left (m b)) := by
  refine forall₂_congr fun b hb => ?_
  rw [eq_true (show P b from hb), eq_iff_iff, iff_true]

theorem Keeps.keepsIf (h : Keeps view m) (p : γ → Prop) : KeepsIf p view m :=
  fun b _ => h b

theorem KeepsIf.keeps (h : KeepsIf (fun _ => True) view m) : Keeps view m :=
  fun b => h b trivial

theorem Keeps.bind (hm : Keeps view m) (hf : ∀ x, Keeps view (f x)) : Keeps view (m >>= f) :=
  ((hm.keepsIf _).bind fun x => (hf x).keepsIf _).keeps

theorem Keeps.lift (r : Except Failure α) : Keeps view (lift r : BuildM σ α) := by
  intro b
  cases r <;> rfl

/-- What does not look at the watcher is kept where only he changes. -/
def Unwatched (view : Workbench σ → γ) : Prop :=
  ∀ b w, view { b with watcher := w } = view b

theorem Unwatched.look (hv : Unwatched view) (watch : Watch σ) : Keeps view (look watch) :=
  fun b => hv b _

theorem Unwatched.check (hv : Unwatched view) (watch : Watch σ) : Keeps view (check watch) := by
  intro b
  rw [check_apply]
  split_ifs <;> exact hv b _

theorem Keeps.get_bind {f : Workbench σ → BuildM σ β} (hf : ∀ bench, Keeps view (f bench)) :
    Keeps view (get >>= f) :=
  fun b => hf b b

theorem Unwatched.readItem (hv : Unwatched view) (watch : Watch σ)
    (read : Taxonomy → Bool → Except Failure (Option α)) : Keeps view (readItem watch read) :=
  (hv.look watch).bind fun _ => Keeps.get_bind fun _ => Keeps.lift _

theorem Unwatched.report (hv : Unwatched view) (watch : Watch σ) (progress : Progress) :
    Keeps view (report watch progress) := by
  intro b
  rw [report_apply]
  cases (watch.report progress b.watcher).2 <;> exact hv b _

end Keeps

def contents (b : Workbench σ) : Store × Taxonomy :=
  (b.store, b.taxonomy)

theorem unwatched_contents : Unwatched (contents (σ := σ)) :=
  fun _ _ => rfl

theorem Keeps.ok {view : Workbench σ → γ} {x : α} (h : Keeps view m) (hm : m b = .ok x b') : view b' = view b := by
  have hb := h b
  rwa [hm] at hb

theorem Keeps.error {view : Workbench σ → γ} {failure : Failure} (h : Keeps view m) (hm : m b = .error failure b') :
    view b' = view b := by
  have hb := h b
  rwa [hm] at hb

end Build
end Catalog
