import Catalog.Keyed
import Mathlib.Data.List.Nodup

/-! What insertion into a keyed list does to its keys, to the entry of a key and to the places of entries. -/
namespace Catalog.Keyed

variable {α : Type} {keyOf : α → String} {merge : α → α → α} {l : List α} {a b : α} {k : String}

def KeepsKey (keyOf : α → String) (merge : α → α → α) : Prop :=
  ∀ b a, keyOf b = keyOf a → keyOf (merge b a) = keyOf a

theorem find?_cons (a : α) (l : List α) :
    find? keyOf k (a :: l) = if keyOf a = k then some a else find? keyOf k l := by
  by_cases h : keyOf a = k <;> simp [find?, h]

theorem find?_eq_none_iff : find? keyOf k l = none ↔ k ∉ l.map keyOf := by
  simp [find?]

theorem find?_isSome_iff : (find? keyOf k l).isSome ↔ k ∈ l.map keyOf := by
  rw [Option.isSome_iff_ne_none, ne_eq, find?_eq_none_iff, not_not]

theorem mem_of_find? (h : find? keyOf k l = some a) : a ∈ l ∧ keyOf a = k :=
  ⟨List.mem_of_find?_eq_some h, by simpa using List.find?_some h⟩

/-- Where keys are distinct, an entry is found by its key. -/
theorem find?_eq_some_iff (hn : (l.map keyOf).Nodup) :
    find? keyOf k l = some a ↔ a ∈ l ∧ keyOf a = k := by
  refine ⟨mem_of_find?, ?_⟩
  rintro ⟨ha, rfl⟩
  obtain ⟨b, hb⟩ := Option.isSome_iff_exists.mp (find?_isSome_iff.mpr (List.mem_map_of_mem ha))
  obtain ⟨hbl, hbk⟩ := mem_of_find? hb
  rw [hb, List.inj_on_of_nodup_map hn hbl ha hbk]

/-- An entry that is merged leaves the keys alone, and a new one adds its key at the end. -/
theorem map_insert (hm : KeepsKey keyOf merge) (a : α) (l : List α) :
    (insert keyOf merge a l).map keyOf =
      if keyOf a ∈ l.map keyOf then l.map keyOf else l.map keyOf ++ [keyOf a] := by
  induction l with
  | nil => simp [insert]
  | cons b l ih =>
    by_cases h : keyOf b = keyOf a
    · simp [insert, h, hm b a h]
    · have h' : keyOf a ≠ keyOf b := fun e => h e.symm
      simp only [insert, h, if_false, List.map_cons, ih, List.mem_cons, h', false_or]
      split_ifs <;> rfl

theorem insert_eq_append (h : keyOf a ∉ l.map keyOf) : insert keyOf merge a l = l ++ [a] := by
  induction l with
  | nil => rfl
  | cons b l ih =>
    have hb : keyOf b ≠ keyOf a := fun e => h (e ▸ List.mem_cons_self)
    rw [insert, if_neg hb, ih fun hl => h (List.mem_cons_of_mem _ hl), List.cons_append]

/-- An entry is merged in its place with the first one of its key. -/
theorem insert_append_cons {l₁ l₂ : List α} (h : keyOf a ∉ l₁.map keyOf) (hb : keyOf b = keyOf a) :
    insert keyOf merge a (l₁ ++ b :: l₂) = l₁ ++ merge b a :: l₂ := by
  induction l₁ with
  | nil => rw [List.nil_append, List.nil_append, insert, if_pos hb]
  | cons d l₁ ih =>
    have hd : keyOf d ≠ keyOf a := fun e => h (e ▸ List.mem_cons_self)
    rw [List.cons_append, insert, if_neg hd, ih fun hl => h (List.mem_cons_of_mem _ hl), List.cons_append]

/-- Where the entry of a key is merged, all that merging leaves alone stays as it is. -/
theorem map_insert_of_find? {β : Type} {f : α → β} (h : find? keyOf (keyOf a) l = some b)
    (hf : f (merge b a) = f b) : (insert keyOf merge a l).map f = l.map f := by
  induction l with
  | nil => cases h
  | cons d l ih =>
    rw [find?_cons] at h
    by_cases hd : keyOf d = keyOf a
    · rw [if_pos hd] at h
      cases h
      simp [insert, hd, hf]
    · rw [if_neg hd] at h
      simp [insert, hd, ih h]

/-- What merging takes from the old entry stays as it is under a key that is there. -/
theorem map_insert_of_mem {β : Type} {f : α → β} (hf : ∀ b, f (merge b a) = f b) (h : keyOf a ∈ l.map keyOf) :
    (insert keyOf merge a l).map f = l.map f := by
  induction l with
  | nil => cases h
  | cons b l ih =>
    by_cases hb : keyOf b = keyOf a
    · simp [insert, hb, hf]
    · have hl : keyOf a ∈ l.map keyOf := (List.mem_cons.mp h).resolve_left fun e => hb e.symm
      simp [insert, hb, ih hl]

theorem mem_map_insert (hm : KeepsKey keyOf merge) :
    k ∈ (insert keyOf merge a l).map keyOf ↔ k = keyOf a ∨ k ∈ l.map keyOf := by
  rw [map_insert hm]
  split_ifs with h
  · exact ⟨Or.inr, fun hk => hk.elim (fun e => e ▸ h) id⟩
  · rw [List.mem_append, List.mem_singleton, or_comm]

/-- An entry after an insertion is the new one, an old one, or an old one of its key that the new one is merged with. -/
theorem eq_or_mem_of_mem_insert (h : b ∈ insert keyOf merge a l) :
    b = a ∨ b ∈ l ∨ ∃ d ∈ l, keyOf d = keyOf a ∧ b = merge d a := by
  induction l with
  | nil => exact .inl (List.mem_singleton.mp h)
  | cons d l ih =>
    rw [insert] at h
    split_ifs at h with hd
    · rcases List.mem_cons.mp h with rfl | h
      · exact .inr (.inr ⟨d, List.mem_cons_self, hd, rfl⟩)
      · exact .inr (.inl (List.mem_cons_of_mem d h))
    · rcases List.mem_cons.mp h with rfl | h
      · exact .inr (.inl List.mem_cons_self)
      · rcases ih h with rfl | h | ⟨e, he, hkey, rfl⟩
        · exact .inl rfl
        · exact .inr (.inl (List.mem_cons_of_mem d h))
        · exact .inr (.inr ⟨e, List.mem_cons_of_mem d he, hkey, rfl⟩)

theorem nodup_insert (hm : KeepsKey keyOf merge) (hn : (l.map keyOf).Nodup) :
    ((insert keyOf merge a l).map keyOf).Nodup := by
  rw [map_insert hm]
  split_ifs with h
  · exact hn
  · exact List.nodup_append.mpr ⟨hn, by simp, by simpa using fun b hb e => h (by simpa using ⟨b, hb, e⟩)⟩

theorem find?_insert_self (hm : KeepsKey keyOf merge) (a : α) (l : List α) :
    find? keyOf (keyOf a) (insert keyOf merge a l) =
      some (((find? keyOf (keyOf a) l).map (merge · a)).getD a) := by
  induction l with
  | nil => simp [insert, find?]
  | cons b l ih =>
    by_cases h : keyOf b = keyOf a
    · simp [insert, h, find?_cons, hm b a h]
    · simp [insert, h, find?_cons, ih]

theorem find?_insert_of_ne (hm : KeepsKey keyOf merge) (h : k ≠ keyOf a) (l : List α) :
    find? keyOf k (insert keyOf merge a l) = find? keyOf k l := by
  have h' : keyOf a ≠ k := fun e => h e.symm
  induction l with
  | nil => simp [insert, find?, h']
  | cons b l ih =>
    by_cases hb : keyOf b = keyOf a
    · simp [insert, hb, find?_cons, hm b a hb, h']
    · simp [insert, hb, find?_cons, ih]

/-- Entries of other keys stay where they are. -/
theorem getElem?_insert_of_ne (hm : KeepsKey keyOf merge) (h : keyOf b ≠ keyOf a) (l : List α) (i : ℕ) :
    (insert keyOf merge a l)[i]? = some b ↔ l[i]? = some b := by
  induction l generalizing i with
  | nil =>
    have hab : a ≠ b := fun e => h (congrArg keyOf e.symm)
    cases i <;> simp [insert, hab]
  | cons d l ih =>
    by_cases hd : keyOf d = keyOf a
    · have hmerge : merge d a ≠ b := fun e => h (e ▸ hm d a hd)
      have hdb : d ≠ b := fun e => h (e ▸ hd)
      cases i <;> simp [insert, hd, hmerge, hdb]
    · cases i with
      | zero => simp [insert, hd]
      | succ i => simp [insert, hd, ih i]

/-- Entries that are put in one after another add their keys. -/
theorem mem_map_foldl_insert (hm : KeepsKey keyOf merge) (new : List α) :
    k ∈ (new.foldl (fun l a => insert keyOf merge a l) l).map keyOf ↔ k ∈ l.map keyOf ∨ ∃ a ∈ new, keyOf a = k := by
  induction new generalizing l with
  | nil => simp
  | cons a new ih =>
    rw [List.foldl_cons, ih, mem_map_insert hm]
    simp only [List.mem_cons, or_and_right, exists_or, exists_eq_left, eq_comm (a := k)]
    rw [or_assoc, or_left_comm]

theorem getElem?_foldl_insert_of_ne (hm : KeepsKey keyOf merge) {new : List α} (h : ∀ a ∈ new, keyOf a ≠ keyOf b)
    (l : List α) (i : ℕ) : (new.foldl (fun l a => insert keyOf merge a l) l)[i]? = some b ↔ l[i]? = some b := by
  induction new generalizing l with
  | nil => rfl
  | cons a new ih =>
    obtain ⟨ha, hnew⟩ := List.forall_mem_cons.mp h
    rw [List.foldl_cons, ih hnew, getElem?_insert_of_ne hm ha.symm]

theorem find?_filter (keyOf : α → String) (p : String → Bool) (k : String) (l : List α) :
    find? keyOf k (l.filter fun a => p (keyOf a)) = if p k then find? keyOf k l else none := by
  induction l with
  | nil => simp [find?]
  | cons a l ih =>
    by_cases hk : keyOf a = k
    · by_cases hp : p k
      · simp [find?_cons, hk, hp]
      · simp [ih, hk, hp]
    · by_cases hp : p (keyOf a)
      · simp [find?_cons, hk, hp, ih]
      · simp [find?_cons, hk, hp, ih]

theorem map_filter (p : String → Bool) (l : List α) :
    (l.filter fun a => p (keyOf a)).map keyOf = (l.map keyOf).filter p := by
  rw [List.filter_map]
  rfl

end Catalog.Keyed
