import Catalog.Proofs.Text.Case
import Catalog.Proofs.Text.Scan
import Catalog.Search

/-! The score of a component adds up over the fields, and the ranking has every component of positive score, the best
first and those of one score in their own order. -/
namespace Catalog

open Text

namespace SearchFields

def Disjoint (F G : SearchFields) : Prop :=
  ¬ (F.name ∧ G.name) ∧ ¬ (F.description ∧ G.description) ∧ ¬ (F.parameters ∧ G.parameters) ∧
    ¬ (F.examples ∧ G.examples)

instance (F G : SearchFields) : Decidable (F.Disjoint G) :=
  inferInstanceAs (Decidable (_ ∧ _ ∧ _ ∧ _))

end SearchFields

/-- The query, given in lower case, stands somewhere in the text in lower case. -/
def Meets (query text : String) : Prop :=
  query.toList <:+: (lower text).toList

theorem mentions_some {query text : String} : mentions (some text) query = true ↔ Meets query text :=
  contains_iff

/-- What a match is worth is nought where the text is not there or does not hold the query. -/
theorem worth_eq_zero_iff {text : Option String} {query : String} {worth : ℕ} (h : 0 < worth) :
    (if mentions text query then worth else 0) = 0 ↔ ∀ t ∈ text.toList, ¬ Meets query t := by
  cases text with
  | none => simp [mentions]
  | some t =>
    rw [Option.toList_some, List.forall_mem_singleton, ← mentions_some]
    split_ifs with hmeets
    · exact iff_of_false h.ne' (not_not.mpr hmeets)
    · exact iff_of_true rfl hmeets

namespace Component

variable {c : Component} {query : String} {F G : SearchFields}

def parameterTexts (p : Parameter) : List String :=
  p.name :: p.description.toList

def textsIn (c : Component) (F : SearchFields) : List String :=
  (if F.name then [c.name] else []) ++
    (if F.description then c.summary :: c.description.toList else []) ++
    (if F.parameters then c.parameters.flatMap parameterTexts else []) ++
    (if F.examples then c.examples.map Example.name else [])

theorem nameScore_eq_zero_iff : c.nameScore query = 0 ↔ ∀ t ∈ [c.name], ¬ Meets query t := by
  have hpos : 0 < if lower c.name = query then 100 else 50 := by split_ifs <;> decide
  exact worth_eq_zero_iff hpos

theorem descriptionScore_eq_zero_iff :
    c.descriptionScore query = 0 ↔ ∀ t ∈ c.summary :: c.description.toList, ¬ Meets query t := by
  rw [descriptionScore, Nat.add_eq_zero_iff, worth_eq_zero_iff (by decide), worth_eq_zero_iff (by decide),
    Option.toList_some, List.forall_mem_singleton, List.forall_mem_cons]

theorem parameterScore_eq_zero_iff {p : Parameter} :
    parameterScore query p = 0 ↔ ∀ t ∈ parameterTexts p, ¬ Meets query t := by
  rw [parameterScore, Nat.add_eq_zero_iff, worth_eq_zero_iff (by decide), worth_eq_zero_iff (by decide),
    Option.toList_some, List.forall_mem_singleton, parameterTexts, List.forall_mem_cons]

theorem exampleScore_eq_zero_iff {e : Example} : exampleScore query e = 0 ↔ ¬ Meets query e.name := by
  rw [exampleScore, worth_eq_zero_iff (by decide), Option.toList_some, List.forall_mem_singleton]

theorem total_eq_zero_iff {α : Type} {worth : α → ℕ} {items : List α} :
    total worth items = 0 ↔ ∀ a ∈ items, worth a = 0 := by
  induction items with
  | nil => simp [total]
  | cons a items ih =>
    rw [List.forall_mem_cons, ← ih, total, List.foldr_cons]
    exact Nat.add_eq_zero_iff

/-- What a field is worth is nought if it is not selected or nothing of it holds the query. -/
theorem field_eq_zero_iff {selected : Bool} {worth : ℕ} {texts : List String}
    (h : worth = 0 ↔ ∀ t ∈ texts, ¬ Meets query t) :
    (if selected then worth else 0) = 0 ↔ ∀ t ∈ (if selected then texts else []), ¬ Meets query t := by
  cases selected with
  | false => simp
  | true => exact h

theorem score_eq_zero_iff : c.score query F = 0 ↔ ∀ t ∈ c.textsIn F, ¬ Meets (lower query) t := by
  have hparameters : total (parameterScore (lower query)) c.parameters = 0 ↔
      ∀ t ∈ c.parameters.flatMap parameterTexts, ¬ Meets (lower query) t := by
    simp only [total_eq_zero_iff, parameterScore_eq_zero_iff, List.forall_mem_flatMap]
  have hexamples : total (exampleScore (lower query)) c.examples = 0 ↔
      ∀ t ∈ c.examples.map Example.name, ¬ Meets (lower query) t := by
    simp only [total_eq_zero_iff, exampleScore_eq_zero_iff, List.forall_mem_map]
  simp only [score, textsIn, Nat.add_eq_zero_iff, List.forall_mem_append, field_eq_zero_iff nameScore_eq_zero_iff,
    field_eq_zero_iff descriptionScore_eq_zero_iff, field_eq_zero_iff hparameters, field_eq_zero_iff hexamples]

theorem score_pos_iff : 0 < c.score query F ↔ ∃ t ∈ c.textsIn F, Meets (lower query) t := by
  rw [Nat.pos_iff_ne_zero, ne_eq, score_eq_zero_iff]
  simp only [not_forall, not_not, exists_prop]

theorem mem_textsIn_union {text : String} :
    text ∈ c.textsIn (F.union G) ↔ text ∈ c.textsIn F ∨ text ∈ c.textsIn G := by
  have hfield {both a b : Bool} (h : both = (a || b)) (texts : List String) :
      text ∈ (if both then texts else []) ↔
        text ∈ (if a then texts else []) ∨ text ∈ (if b then texts else []) := by
    subst h
    cases a <;> cases b <;> simp
  have hname : (F.union G).name = (F.name || G.name) := rfl
  have hdescription : (F.union G).description = (F.description || G.description) := rfl
  have hparameters : (F.union G).parameters = (F.parameters || G.parameters) := rfl
  have hexamples : (F.union G).examples = (F.examples || G.examples) := rfl
  simp only [textsIn, List.mem_append, hfield hname, hfield hdescription, hfield hparameters, hfield hexamples]
  tauto

/-- Fields that are not in both add up. -/
theorem score_union (h : F.Disjoint G) : c.score query (F.union G) = c.score query F + c.score query G := by
  have hfield (both a b : Bool) (worth : ℕ) (h : both = (a || b)) (hab : ¬ (a ∧ b)) :
      (if both then worth else 0) = (if a then worth else 0) + (if b then worth else 0) := by
    subst h
    cases a <;> cases b <;> simp_all
  obtain ⟨hname, hdescription, hparameters, hexamples⟩ := h
  rw [score, score, score, hfield (F.union G).name _ _ _ rfl hname,
    hfield (F.union G).description _ _ _ rfl hdescription, hfield (F.union G).parameters _ _ _ rfl hparameters,
    hfield (F.union G).examples _ _ _ rfl hexamples]
  omega

theorem score_lower : c.score (lower query) F = c.score query F := by
  rw [score, lower_lower]
  rfl

end Component

/-- The items of `l` in the order of their worth, the greatest first, and those of one worth in the order of `l`. -/
structure Ranks {α : Type} (worth : α → ℕ) (l r : List α) : Prop where
  perm : r.Perm l
  descending : r.Pairwise fun a b => worth b ≤ worth a
  stable : ∀ n, (r.filter fun a => worth a = n) = l.filter fun a => worth a = n

namespace Ranks

variable {α : Type} {worth : α → ℕ} {l r s : List α} {a b : α}

theorem mergeSort (worth : α → ℕ) (l : List α) :
    Ranks worth l (l.mergeSort fun a b => decide (worth b ≤ worth a)) := by
  have htrans (a b c : α) (hab : decide (worth b ≤ worth a) = true) (hbc : decide (worth c ≤ worth b) = true) :
      decide (worth c ≤ worth a) = true :=
    decide_eq_true ((of_decide_eq_true hbc).trans (of_decide_eq_true hab))
  have htotal (a b : α) : (decide (worth b ≤ worth a) || decide (worth a ≤ worth b)) = true := by
    simpa using Nat.le_total (worth b) (worth a)
  have hperm := List.mergeSort_perm l fun a b => decide (worth b ≤ worth a)
  refine ⟨hperm, ?_, fun n => ?_⟩
  · exact (List.pairwise_mergeSort htrans htotal l).imp of_decide_eq_true
  · -- items of one worth are in order, so the sort keeps them as they are
    have hequal : (l.filter fun a => worth a = n).Pairwise fun a b => decide (worth b ≤ worth a) = true := by
      refine List.pairwise_of_forall_mem_list fun a ha b hb => ?_
      have hworth := of_decide_eq_true (List.mem_filter.mp ha).2
      have hworth' := of_decide_eq_true (List.mem_filter.mp hb).2
      exact decide_eq_true (hworth'.trans hworth.symm).le
    have hsub := (List.sublist_mergeSort htrans htotal hequal List.filter_sublist).filter fun a => worth a = n
    rw [List.filter_filter] at hsub
    simp only [Bool.and_self] at hsub
    exact (hsub.eq_of_length (hperm.filter _).length_eq.symm).symm

theorem eq_of_descending (hr : r.Pairwise fun a b => worth b ≤ worth a) (hs : s.Pairwise fun a b => worth b ≤ worth a)
    (hperm : r.Perm s) (h : ∀ n, (r.filter fun a => worth a = n) = s.filter fun a => worth a = n) : r = s := by
  induction r generalizing s with
  | nil => exact hperm.symm.eq_nil.symm
  | cons a r ih =>
    cases s with
    | nil => exact absurd hperm.eq_nil (List.cons_ne_nil a r)
    | cons b s =>
      obtain ⟨hle, hrest⟩ := List.pairwise_cons.mp hr
      obtain ⟨hle', hrest'⟩ := List.pairwise_cons.mp hs
      have hba : worth b ≤ worth a := by
        rcases List.mem_cons.mp (hperm.mem_iff.mpr List.mem_cons_self) with rfl | hb
        · exact le_rfl
        · exact hle b hb
      have hab : worth a ≤ worth b := by
        rcases List.mem_cons.mp (hperm.mem_iff.mp List.mem_cons_self) with rfl | ha
        · exact le_rfl
        · exact hle' a ha
      have hworth := le_antisymm hab hba
      have hfirst := h (worth a)
      simp only [List.filter_cons, hworth, decide_true, if_true] at hfirst
      obtain ⟨rfl, -⟩ := List.cons.inj hfirst
      refine congrArg (a :: ·) (ih hrest hrest' hperm.cons_inv fun n => ?_)
      have hn := h n
      simp only [List.filter_cons] at hn
      split_ifs at hn
      · exact (List.cons.inj hn).2
      · exact hn

/-- There is only one such order. -/
theorem unique (hr : Ranks worth l r) (hs : Ranks worth l s) : r = s :=
  eq_of_descending hr.descending hs.descending (hr.perm.trans hs.perm.symm) fun n =>
    (hr.stable n).trans (hs.stable n).symm

/-- In a list without duplicates two items stand in one order only. -/
theorem eq_of_sublist_swap (hl : l.Nodup) (hab : [a, b].Sublist l) (hba : [b, a].Sublist l) : a = b := by
  induction l with
  | nil => cases hab
  | cons d l ih =>
    obtain ⟨hd, hl⟩ := List.nodup_cons.mp hl
    cases hab with
    | cons _ hab =>
      cases hba with
      | cons _ hba => exact ih hl hab hba
      | cons_cons _ _ => exact absurd (hab.subset (by simp)) hd
    | cons_cons _ hab =>
      cases hba with
      | cons _ hba => exact absurd (hba.subset (by simp)) hd
      | cons_cons _ _ => rfl

/-- Before an item stand those that are worth more, and those that are worth the same and came before it. -/
theorem mem_front_iff {front back : List α} (h : Ranks worth l (front ++ a :: back)) (hl : l.Nodup) (hb : b ∈ l)
    (hne : b ≠ a) : b ∈ front ↔ worth a < worth b ∨ worth a = worth b ∧ [b, a].Sublist l := by
  -- items of one worth that stand in an order stood in it before
  have hbefore {d e : α} (hde : worth d = worth e) (hsub : [d, e].Sublist (front ++ a :: back)) : [d, e].Sublist l := by
    have hkept := hsub.filter fun x => worth x = worth e
    rw [h.stable, List.filter_cons_of_pos (by simp [hde]), List.filter_cons_of_pos (by simp), List.filter_nil] at hkept
    exact hkept.trans List.filter_sublist
  obtain ⟨-, hback, hfront⟩ := List.pairwise_append.mp h.descending
  have hbehind := (List.pairwise_cons.mp hback).1
  constructor
  · intro hmem
    rcases (hfront b hmem a List.mem_cons_self).lt_or_eq with hlt | heq
    · exact .inl hlt
    · have hsub : [b, a].Sublist (front ++ a :: back) :=
        (List.singleton_sublist.mpr hmem).append (List.singleton_sublist.mpr List.mem_cons_self)
      exact .inr ⟨heq, hbefore heq.symm hsub⟩
  · intro hahead
    have hmem := h.perm.mem_iff.mpr hb
    rcases List.mem_append.mp hmem with hmem | hmem
    · exact hmem
    · have hmem := (List.mem_cons.mp hmem).resolve_left hne
      have hle := hbehind b hmem
      rcases hahead with hlt | ⟨heq, hsub⟩
      · exact absurd hle hlt.not_ge
      · have hsub' : [a, b].Sublist (front ++ a :: back) :=
          ((List.singleton_sublist.mpr hmem).cons_cons a).trans (List.sublist_append_right _ _)
        exact absurd (eq_of_sublist_swap hl hsub (hbefore heq hsub')) hne

end Ranks

section Rank

variable {components : List Component} {query : String} {F G : SearchFields} {c : Component} {m n : ℕ}

def matching (components : List Component) (query : String) (F : SearchFields) : List (Component × ℕ) :=
  (components.filter fun c => 0 < c.score query F).map fun c => (c, c.score query F)

def ranking (components : List Component) (query : String) (F : SearchFields) : List (Component × ℕ) :=
  (matching components query F).mergeSort fun a b => decide (b.2 ≤ a.2)

theorem ranks_ranking (components : List Component) (query : String) (F : SearchFields) :
    Ranks Prod.snd (matching components query F) (ranking components query F) :=
  .mergeSort Prod.snd _

theorem rank_eq_take (n : ℕ) : rank components query F n = (ranking components query F).take n := by
  have hrank : rank components query F n = takeUpTo n (ranking components query F) := by
    simp only [rank, List.filter_map]
    rfl
  rw [hrank, takeUpTo, if_pos (Int.natCast_nonneg n), Int.toNat_natCast]

theorem map_fst_matching :
    (matching components query F).map Prod.fst = components.filter fun c => 0 < c.score query F := by
  rw [matching, List.map_map]
  exact List.map_id _

theorem map_fst_ranking_perm :
    ((ranking components query F).map Prod.fst).Perm (components.filter fun c => 0 < c.score query F) :=
  map_fst_matching ▸ (ranks_ranking components query F).perm.map Prod.fst

theorem mem_map_fst_ranking :
    c ∈ (ranking components query F).map Prod.fst ↔ c ∈ components ∧ 0 < c.score query F := by
  rw [map_fst_ranking_perm.mem_iff, List.mem_filter, decide_eq_true_eq]

/-- A limit that is not below the number of components leaves nothing out. -/
theorem rank_of_length_le (h : components.length ≤ n) : rank components query F n = ranking components query F := by
  rw [rank_eq_take]
  refine List.take_of_length_le (le_trans ?_ h)
  rw [(ranks_ranking components query F).perm.length_eq, matching, List.length_map]
  exact List.length_filter_le _ _

end Rank

structure Searches (components : List Component) (query : String) : Prop where
  additive : ∀ (c : Component) (F G : SearchFields), F.Disjoint G →
    c.score query (F.union G) = c.score query F + c.score query G
  caseless : ∀ (c : Component) (F : SearchFields), c.score (lower query) F = c.score query F
  zero : ∀ (c : Component) (F : SearchFields),
    c.score query F = 0 ↔ ∀ text ∈ c.textsIn F, ¬ (lower query).toList <:+: (lower text).toList
  ranked : ∀ F : SearchFields, ∃ r, Ranks Prod.snd (matching components query F) r ∧
    (∀ s, Ranks Prod.snd (matching components query F) s → s = r) ∧ ∀ n : ℕ, rank components query F n = r.take n
  complete : ∀ (F : SearchFields) (n : ℕ), components.length ≤ n →
    ((rank components query F n).map Prod.fst).Perm (components.filter fun c => 0 < c.score query F)
  prolonged : ∀ (F : SearchFields) (m n : ℕ), m ≤ n → rank components query F m <+: rank components query F n
  union : ∀ (F G : SearchFields) (n : ℕ), components.length ≤ n → ∀ c : Component,
    c ∈ (rank components query (F.union G) n).map Prod.fst ↔
      c ∈ (rank components query F n).map Prod.fst ∨ c ∈ (rank components query G n).map Prod.fst

/-- A score is the sum of what the fields are worth, and the ranking is that of the components of positive score, cut off
at the limit. -/
theorem searches (components : List Component) (query : String) : Searches components query where
  additive _ _ _ := Component.score_union
  caseless _ _ := Component.score_lower
  zero _ _ := Component.score_eq_zero_iff
  ranked F := by
    have hranking := ranks_ranking components query F
    exact ⟨ranking components query F, hranking, fun s hs => hs.unique hranking, rank_eq_take⟩
  complete F n h := by
    rw [rank_of_length_le h]
    exact map_fst_ranking_perm
  prolonged F m n h := by
    rw [rank_eq_take, rank_eq_take]
    exact List.take_prefix_take_left h
  union F G n h c := by
    simp only [rank_of_length_le h, mem_map_fst_ranking, Component.score_pos_iff, Component.mem_textsIn_union]
    constructor
    · rintro ⟨hc, text, htext | htext, hmeets⟩
      · exact .inl ⟨hc, text, htext, hmeets⟩
      · exact .inr ⟨hc, text, htext, hmeets⟩
    · rintro (⟨hc, text, htext, hmeets⟩ | ⟨hc, text, htext, hmeets⟩)
      · exact ⟨hc, text, .inl htext, hmeets⟩
      · exact ⟨hc, text, .inr htext, hmeets⟩

end Catalog
