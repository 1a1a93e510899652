import Mathlib.Algebra.BigOperators.Group.List.Basic
import Mathlib.Algebra.GroupWithZero.Nat
import Mathlib.Data.List.Forall2
import Mathlib.Data.List.Perm.Basic

/-! Lists that are cut into parts by keys, and counted by them. -/
namespace Catalog

/-- What is looked for in an ordered list is found where nothing before it would do. -/
theorem find?_eq_some_of_pairwise {α : Type} {R : α → α → Prop} {p : α → Bool} {l : List α} {a : α} (hl : l.Pairwise R)
    (ha : a ∈ l) (hp : p a = true) (hfirst : ∀ b ∈ l, p b = true → ¬ R b a) : l.find? p = some a := by
  induction l with
  | nil => cases ha
  | cons b l ih =>
    obtain ⟨hb, hl⟩ := List.pairwise_cons.mp hl
    rcases List.mem_cons.mp ha with rfl | ha
    · exact List.find?_cons_of_pos hp
    · have hskip : ¬ p b = true := fun hpb => hfirst b List.mem_cons_self hpb (hb a ha)
      rw [List.find?_cons_of_neg hskip]
      exact ih hl ha fun c hc => hfirst c (List.mem_cons_of_mem b hc)

/-- What the first item that passes a test gives tells whether it would have passed a narrower one, if no two items give
the same and none but the last one gives what is given without any. -/
theorem map_find?_ne_iff {α β : Type} {narrow wide : α → Bool} {f : α → β} {d : β} {l : List α}
    (hwide : ∀ a ∈ l, narrow a = true → wide a = true) (hl : l.Pairwise fun a b => f a ≠ f b ∧ f a ≠ d) :
    ((l.find? wide).map f).getD d ≠ ((l.find? narrow).map f).getD d ↔
      ∃ a, l.find? wide = some a ∧ ¬ narrow a = true ∧ f a ≠ d := by
  induction l with
  | nil => simp
  | cons a l ih =>
    obtain ⟨ha, hl⟩ := List.pairwise_cons.mp hl
    obtain ⟨hfirst, hwide⟩ := List.forall_mem_cons.mp hwide
    by_cases hpass : wide a = true
    · rw [List.find?_cons_of_pos hpass]
      by_cases hnarrow : narrow a = true
      · rw [List.find?_cons_of_pos hnarrow]
        simp [hnarrow]
      · rw [List.find?_cons_of_neg hnarrow]
        cases hfound : l.find? narrow with
        | none => simp [hnarrow]
        | some b =>
          obtain ⟨hdiffer, hdefault⟩ := ha b (List.mem_of_find?_eq_some hfound)
          simp [hnarrow, hdiffer, hdefault]
    · rw [List.find?_cons_of_neg hpass, List.find?_cons_of_neg (mt hfirst hpass)]
      exact ih hwide hl

theorem nodup_eraseDups {α : Type} [DecidableEq α] (l : List α) : l.eraseDups.Nodup := by
  induction hn : l.length using Nat.strongRecOn generalizing l with
  | ind n ih =>
    cases l with
    | nil => exact List.nodup_nil
    | cons a l =>
      rw [List.eraseDups_cons, List.nodup_cons]
      constructor
      · simp [List.mem_eraseDups]
      · have hle : (l.filter fun b => !b == a).length ≤ l.length := List.length_filter_le _ l
        rw [List.length_cons] at hn
        exact ih _ (by omega) _ rfl

theorem flatMap_filter {α β : Type} (p : α → Bool) (f : α → List β) (l : List α) :
    (l.filter p).flatMap f = l.flatMap fun a => if p a then f a else [] := by
  induction l with
  | nil => rfl
  | cons a l ih => by_cases h : p a <;> simp [h, ih]

/-- What is picked out of a list stands in the order of those items that give something. -/
theorem forall₂_filter_filterMap {α β : Type} {q : α → Prop} [DecidablePred q] {f : α → Option β} {R : α → β → Prop}
    (hsome : ∀ a, q a → ∃ b, f a = some b ∧ R a b) (hnone : ∀ a, ¬ q a → f a = none) (l : List α) :
    List.Forall₂ R (l.filter q) (l.filterMap f) := by
  induction l with
  | nil => exact .nil
  | cons a l ih =>
    by_cases h : q a
    · obtain ⟨b, hb, hR⟩ := hsome a h
      rw [List.filter_cons_of_pos (by simpa using h), List.filterMap_cons_some hb]
      exact .cons hR ih
    · rw [List.filter_cons_of_neg (by simpa using h), List.filterMap_cons_none (hnone a h)]
      exact ih

theorem filterMap_eq_map_filter {α β : Type} {q : α → Prop} [DecidablePred q] {f : α → Option β} {g : α → β}
    (hsome : ∀ a, q a → f a = some (g a)) (hnone : ∀ a, ¬ q a → f a = none) (l : List α) :
    l.filterMap f = (l.filter q).map g := by
  have h := forall₂_filter_filterMap (R := fun a b => g a = b) (fun a ha => ⟨g a, hsome a ha, rfl⟩) hnone l
  rw [← List.forall₂_map_left_iff, List.forall₂_eq_eq_eq] at h
  exact h.symm

theorem exists_of_mem_forall₂ {α β : Type} {R : α → β → Prop} {l : List α} {m : List β} (h : List.Forall₂ R l m) {b : β}
    (hb : b ∈ m) : ∃ a ∈ l, R a b := by
  induction h with
  | nil => cases hb
  | cons hR _ ih =>
    rcases List.mem_cons.mp hb with rfl | hb
    · exact ⟨_, List.mem_cons_self, hR⟩
    · obtain ⟨a, ha, hR⟩ := ih hb
      exact ⟨a, List.mem_cons_of_mem _ ha, hR⟩

/-- The parts of a list that distinct keys cut out of it make up the whole, if each item has one of the keys. -/
theorem flatMap_filter_perm {α κ : Type} [DecidableEq κ] (keyOf : α → κ) {keys : List κ} (hkeys : keys.Nodup)
    {l : List α} (hl : ∀ a ∈ l, keyOf a ∈ keys) :
    (keys.flatMap fun k => l.filter fun a => keyOf a = k).Perm l := by
  induction keys generalizing l with
  | nil =>
    have hnil : l = [] := List.eq_nil_iff_forall_not_mem.mpr fun a ha => absurd (hl a ha) List.not_mem_nil
    rw [hnil]
    exact List.Perm.refl _
  | cons k keys ih =>
    obtain ⟨hk, hkeys⟩ := List.nodup_cons.mp hkeys
    have hrest : ∀ a ∈ l.filter (fun a => !decide (keyOf a = k)), keyOf a ∈ keys := by
      intro a ha
      obtain ⟨hmem, hne⟩ := List.mem_filter.mp ha
      exact (List.mem_cons.mp (hl a hmem)).resolve_left (by simpa using hne)
    -- what the other keys cut out of the list they cut out of the rest
    have hsame : (keys.flatMap fun j => l.filter fun a => keyOf a = j) =
        keys.flatMap fun j => (l.filter fun a => !decide (keyOf a = k)).filter fun a => keyOf a = j := by
      refine List.flatMap_congr fun j hj => ?_
      rw [List.filter_filter]
      refine List.filter_congr fun a _ => ?_
      by_cases h : keyOf a = j
      · have hne : j ≠ k := fun e => hk (e ▸ hj)
        simp [h, hne]
      · simp [h]
    rw [List.flatMap_cons, hsame]
    exact ((ih hkeys hrest).append_left _).trans (List.filter_append_perm _ l)

theorem filterMap_set_perm {α β : Type} (f : α → Option β) {l : List α} {i : ℕ} {a : α} (hi : l[i]? = some a) (a' : α) :
    ∃ rest, (l.filterMap f).Perm ((f a).toList ++ rest) ∧ ((l.set i a').filterMap f).Perm ((f a').toList ++ rest) := by
  obtain ⟨hlt, rfl⟩ := List.getElem?_eq_some_iff.mp hi
  have hcons (x : α) : (x :: l.eraseIdx i).filterMap f = (f x).toList ++ (l.eraseIdx i).filterMap f := by
    cases h : f x <;> simp [h]
  refine ⟨(l.eraseIdx i).filterMap f, ?_, ?_⟩
  · rw [← hcons]
    exact ((List.getElem_cons_eraseIdx_perm hlt).symm).filterMap f
  · rw [← hcons]
    exact (List.set_perm_cons_eraseIdx hlt a').filterMap f

section Counting

variable {α κ : Type} [DecidableEq κ]

theorem sum_indicator (j : κ) (keys : List κ) : (keys.map fun k => if j = k then 1 else 0).sum = keys.count j := by
  induction keys with
  | nil => rfl
  | cons k keys ih =>
    rw [List.map_cons, List.sum_cons, ih, List.count_cons, Nat.add_comm]
    simp only [beq_iff_eq, eq_comm (a := j)]

/-- What is counted under each of several keys is counted once in all. -/
theorem sum_countP_of_nodup {keys : List κ} (hkeys : keys.Nodup) (f : α → Option κ) (l : List α) :
    (keys.map fun k => l.countP fun a => f a = some k).sum = l.countP fun a => (f a).any (· ∈ keys) := by
  induction l with
  | nil => simp
  | cons a l ih =>
    have hone : (keys.map fun k => if f a = some k then 1 else 0).sum = if (f a).any (· ∈ keys) then 1 else 0 := by
      cases f a with
      | none => simp
      | some j =>
        simp only [Option.some.injEq, sum_indicator, hkeys.count]
        simp
    simp only [List.countP_cons, decide_eq_true_eq, List.sum_map_add, ih, hone]

theorem countP_pos_le_sum (f : α → ℕ) (l : List α) : l.countP (fun a => 0 < f a) ≤ (l.map f).sum := by
  induction l with
  | nil => exact Nat.le_refl 0
  | cons a l ih =>
    rw [List.countP_cons, List.map_cons, List.sum_cons]
    split_ifs with h
    · have hpos : 0 < f a := of_decide_eq_true h
      omega
    · omega

/-- Nothing is counted twice exactly if no part of the sum is more than one. -/
theorem sum_eq_countP_pos_iff {f : α → ℕ} {l : List α} :
    (l.map f).sum = l.countP (fun a => 0 < f a) ↔ ∀ a ∈ l, f a ≤ 1 := by
  induction l with
  | nil => simp
  | cons a l ih =>
    have hle := countP_pos_le_sum f l
    rw [List.countP_cons, List.map_cons, List.sum_cons, List.forall_mem_cons, ← ih]
    split_ifs with h
    · have hpos : 0 < f a := of_decide_eq_true h
      omega
    · have hzero : ¬ 0 < f a := fun hpos => h (decide_eq_true hpos)
      omega

end Counting

end Catalog
