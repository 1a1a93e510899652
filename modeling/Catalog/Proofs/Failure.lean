import Catalog.Failure
import Mathlib.Tactic.Common

/-! Results that may be failures: what the steps of a successful one have come to. -/
namespace Catalog

variable {α β : Type}

theorem except_bind_eq_ok {r : Except Failure α} {f : α → Except Failure β} {y : β} :
    (r >>= f) = .ok y ↔ ∃ x, r = .ok x ∧ f x = .ok y := by
  cases r with
  | error failure => simp [bind, Except.bind]
  | ok x => simp [bind, Except.bind]

theorem mapM_eq_ok {f : α → Except Failure β} {g : α → β} {l : List α} (h : ∀ a ∈ l, f a = .ok (g a)) :
    l.mapM f = .ok (l.map g) := by
  induction l with
  | nil => rfl
  | cons a l ih =>
    rw [List.mapM_cons, h a List.mem_cons_self, ih fun b hb => h b (List.mem_cons_of_mem a hb)]
    rfl

theorem eq_map_of_mapM {f : α → Except Failure β} {g : α → β} (hf : ∀ a b, f a = .ok b → b = g a) {l : List α}
    {m : List β} (h : l.mapM f = .ok m) : m = l.map g := by
  induction l generalizing m with
  | nil =>
    cases h
    rfl
  | cons a l ih =>
    rw [List.mapM_cons] at h
    obtain ⟨b, hb, h⟩ := except_bind_eq_ok.mp h
    obtain ⟨rest, hrest, h⟩ := except_bind_eq_ok.mp h
    cases h
    rw [hf a b hb, ih hrest, List.map_cons]

end Catalog
