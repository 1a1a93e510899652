import Catalog.Proofs.Index.LookUp
import Catalog.Proofs.Search.Ranking

/-! A search with the name of a component: the exact name is worth more than a part of a name, but the other fields can
outweigh it. -/
namespace Catalog

open Text

namespace Component

variable {c d : Component} {query : String}

def besides (c : Component) (query : String) : ℕ :=
  c.score query { description := true, parameters := true, examples := true }

theorem score_all : c.score query .all = c.nameScore (lower query) + c.besides query := by
  have hunion : SearchFields.all =
      SearchFields.union { name := true } { description := true, parameters := true, examples := true } := rfl
  have hname : c.score query { name := true } = c.nameScore (lower query) := by simp [score]
  rw [hunion, score_union (by decide), hname, besides]

theorem nameScore_of_eq (h : lower c.name = query) : c.nameScore query = 100 := by
  have hmeets : mentions (some c.name) query = true := mentions_some.mpr (h ▸ List.infix_refl _)
  rw [nameScore, if_pos hmeets, if_pos h]

theorem nameScore_of_ne (h : lower c.name ≠ query) :
    c.nameScore query = if mentions (some c.name) query then 50 else 0 := by
  rw [nameScore, if_neg h]

/-- What the exact name of another component is worth more than that of `d`. -/
def shortfall (d : Component) (query : String) : ℕ :=
  if mentions (some d.name) (lower query) then 50 else 100

/-- The other fields of `d` make up for its name, and more than that unless it comes before `c`. -/
def Outweighs (components : List Component) (query : String) (d c : Component) : Prop :=
  c.besides query + d.shortfall query < d.besides query ∨
    c.besides query + d.shortfall query = d.besides query ∧ [d, c].Sublist components

theorem score_add_shortfall (h : lower d.name ≠ lower query) :
    d.score query .all + d.shortfall query = 100 + d.besides query := by
  rw [score_all, nameScore_of_ne h, shortfall]
  split_ifs <;> omega

end Component

section Rank

variable {components : List Component} {query : String} {c d : Component} {F : SearchFields}

theorem nodup_matching (h : components.Nodup) : (matching components query F).Nodup :=
  (h.filter _).map fun _ _ e => congrArg Prod.fst e

theorem mem_matching {score : ℕ} :
    (d, score) ∈ matching components query F ↔ d ∈ components ∧ 0 < d.score query F ∧ score = d.score query F := by
  simp only [matching, List.mem_map, List.mem_filter, decide_eq_true_eq, Prod.mk.injEq]
  constructor
  · rintro ⟨e, ⟨he, hpos⟩, rfl, rfl⟩
    exact ⟨he, hpos, rfl⟩
  · rintro ⟨hd, hpos, rfl⟩
    exact ⟨d, ⟨hd, hpos⟩, rfl, rfl⟩

theorem pair_sublist_matching (hd : 0 < d.score query F) (hc : 0 < c.score query F) :
    [(d, d.score query F), (c, c.score query F)].Sublist (matching components query F) ↔ [d, c].Sublist components := by
  constructor
  · intro h
    have hfst := h.map Prod.fst
    rw [map_fst_matching] at hfst
    exact hfst.trans List.filter_sublist
  · intro h
    have hkept := (h.filter fun e => 0 < e.score query F).map fun e => (e, e.score query F)
    rw [List.filter_cons_of_pos (by simpa using hd), List.filter_cons_of_pos (by simpa using hc), List.filter_nil] at hkept
    exact hkept

/-- Before a component stand those of higher score, and those of the same score that came before it. -/
theorem mem_front_iff_score {front back : List (Component × ℕ)} (hcomponents : components.Nodup)
    (h : ranking components query F = front ++ (c, c.score query F) :: back) (hc : 0 < c.score query F) :
    d ∈ front.map Prod.fst ↔ d ∈ components ∧ d ≠ c ∧
      (c.score query F < d.score query F ∨ c.score query F = d.score query F ∧ [d, c].Sublist components) := by
  have hranks := h ▸ ranks_ranking components query F
  have hnodup : (front ++ (c, c.score query F) :: back).Nodup :=
    hranks.perm.nodup_iff.mpr (nodup_matching hcomponents)
  constructor
  · intro hfst
    obtain ⟨⟨e, score⟩, hmem, rfl⟩ := List.mem_map.mp hfst
    have hmatching := hranks.perm.mem_iff.mp (List.mem_append_left _ hmem)
    obtain ⟨he, hpos, rfl⟩ := mem_matching.mp hmatching
    have hne : e ≠ c := by
      rintro rfl
      exact List.disjoint_of_nodup_append hnodup hmem List.mem_cons_self
    have hne' : (e, e.score query F) ≠ (c, c.score query F) := fun heq => hne (congrArg Prod.fst heq)
    have hahead := (hranks.mem_front_iff (nodup_matching hcomponents) hmatching hne').mp hmem
    rw [pair_sublist_matching hpos hc] at hahead
    exact ⟨he, hne, hahead⟩
  · rintro ⟨hd, hne, hahead⟩
    have hpos : 0 < d.score query F := by omega
    have hne' : (d, d.score query F) ≠ (c, c.score query F) := fun heq => hne (congrArg Prod.fst heq)
    rw [← pair_sublist_matching hpos hc] at hahead
    have hmatching := mem_matching.mpr ⟨hd, hpos, rfl⟩
    have hmem := (hranks.mem_front_iff (nodup_matching hcomponents) hmatching hne').mpr hahead
    exact List.mem_map_of_mem hmem

end Rank

namespace Index

variable {ix : Index} {c d : Component} {query : String}

theorem search_eq (hix : ix.isIndexed = true) (hquery : isBlankText query = false) {limit : Int} (hlimit : 1 ≤ limit)
    (fields : SearchFields) :
    ix.search query fields limit = .ok ((ranking ix.store.components (trim query) fields).take limit.toNat) := by
  have hpos : ¬ limit ≤ 0 := by omega
  have hnat : ((limit.toNat : ℕ) : Int) = limit := Int.toNat_of_nonneg (by omega)
  rw [← rank_eq_take, hnat]
  simp only [search, requireIndexed_of_isIndexed hix, hquery, hpos, bind, Except.bind, Bool.false_or, decide_false,
    Bool.false_eq_true, if_false]

theorem trim_of_isBlankText (h : isBlankText query = true) : trim query = "" := by
  have hempty : isBlankText "" = true := by decide +kernel
  have htrim : trim (query ++ "" ++ "") = trim "" := trim_append h hempty
  rw [String.append_empty, String.append_empty] at htrim
  rw [htrim]
  decide +kernel

/-- A component whose name is searched for has 100 points for its name, and before it stand just the components that
outweigh it. It comes first if there is none. -/
theorem exact_name_first (hix : ix.isIndexed = true) (hstore : ix.store.Distinct) (hc : c ∈ ix.store.components)
    (hname : key (trim query) = key c.name) (hne : c.name ≠ "") :
    (∃ front back, (∀ limit : Int, 1 ≤ limit → ix.search query .all limit =
          .ok ((front ++ (c, 100 + c.besides (trim query)) :: back).take limit.toNat)) ∧
        ∀ d, d ∈ front.map Prod.fst ↔
          d ∈ ix.store.components ∧ d ≠ c ∧ d.Outweighs ix.store.components (trim query) c) ∧
      ((∀ d ∈ ix.store.components, d ≠ c → ¬ d.Outweighs ix.store.components (trim query) c) →
        ∀ limit : Int, 1 ≤ limit →
          ∃ others, ix.search query .all limit = .ok ((c, 100 + c.besides (trim query)) :: others)) := by
  have hquery : isBlankText query = false := by
    cases hblank : isBlankText query with
    | false => rfl
    | true =>
      rw [trim_of_isBlankText hblank] at hname
      exact absurd (lower_eq_lower_empty_iff.mp hname.symm) hne
  have hnodup : ix.store.components.Nodup := List.Nodup.of_map Component.key hstore.keys
  have hscore : c.score (trim query) .all = 100 + c.besides (trim query) := by
    have hexact : lower c.name = lower (trim query) := hname.symm
    rw [Component.score_all, Component.nameScore_of_eq hexact]
  have hpos : 0 < c.score (trim query) .all := by omega
  have hmem : (c, c.score (trim query) .all) ∈ ranking ix.store.components (trim query) .all :=
    (ranks_ranking _ _ _).perm.mem_iff.mpr (mem_matching.mpr ⟨hc, hpos, rfl⟩)
  obtain ⟨front, back, hsplit⟩ := List.append_of_mem hmem
  have houtweighs (d : Component) (hd : d ∈ ix.store.components) (hdc : d ≠ c) :
      (c.score (trim query) .all < d.score (trim query) .all ∨
        c.score (trim query) .all = d.score (trim query) .all ∧ [d, c].Sublist ix.store.components) ↔
      d.Outweighs ix.store.components (trim query) c := by
    have hkey : lower d.name ≠ lower (trim query) :=
      fun e => hdc (List.inj_on_of_nodup_map hstore.keys hd hc (e.trans hname))
    have hscore' := Component.score_add_shortfall hkey
    have hlt : c.score (trim query) .all < d.score (trim query) .all ↔
        c.besides (trim query) + d.shortfall (trim query) < d.besides (trim query) := by omega
    have heq : c.score (trim query) .all = d.score (trim query) .all ↔
        c.besides (trim query) + d.shortfall (trim query) = d.besides (trim query) := by omega
    rw [Component.Outweighs, hlt, heq]
  have hfront (d : Component) : d ∈ front.map Prod.fst ↔
      d ∈ ix.store.components ∧ d ≠ c ∧ d.Outweighs ix.store.components (trim query) c := by
    rw [mem_front_iff_score hnodup hsplit hpos]
    constructor
    · rintro ⟨hd, hdc, hahead⟩
      exact ⟨hd, hdc, (houtweighs d hd hdc).mp hahead⟩
    · rintro ⟨hd, hdc, hahead⟩
      exact ⟨hd, hdc, (houtweighs d hd hdc).mpr hahead⟩
  have hsearch (limit : Int) (hlimit : 1 ≤ limit) : ix.search query .all limit =
      .ok ((front ++ (c, 100 + c.besides (trim query)) :: back).take limit.toNat) := by
    rw [search_eq hix hquery hlimit, hsplit, hscore]
  refine ⟨⟨front, back, hsearch, hfront⟩, fun hnone limit hlimit => ?_⟩
  have hempty : front.map Prod.fst = [] := by
    rw [List.eq_nil_iff_forall_not_mem]
    intro d hd
    obtain ⟨hstored, hdc, hahead⟩ := (hfront d).mp hd
    exact hnone d hstored hdc hahead
  obtain ⟨n, hn⟩ : ∃ n, limit.toNat = n + 1 := ⟨limit.toNat - 1, by omega⟩
  refine ⟨back.take n, ?_⟩
  rw [hsearch limit hlimit, List.map_eq_nil_iff.mp hempty, hn]
  rfl

def button : Component where
  name := "BitButton"
  nameSpace := "Bit.BlazorUI"
  summary := "A thing to press"

def buttonGroup : Component where
  name := "BitButtonGroup"
  nameSpace := "Bit.BlazorUI"
  summary := "A row of BitButton components"
  description := some "Lays out each BitButton in a row"
  parameters := [{ name := "ChildContent", type := "RenderFragment", description := some "Every BitButton of the row" }]

def shelf (components : List Component) : Index where
  store := components.foldl Store.put Store.empty
  isIndexed := true

theorem exact_name_first_button :
    ∃ others, (shelf [{ buttonGroup with description := none }, button]).search " bitBUTTON\t" .all 1 =
      .ok ((button, 100) :: others) := by
  have hstore : (shelf [{ buttonGroup with description := none }, button]).store.Distinct :=
    ⟨by decide +kernel, by decide +kernel⟩
  have hnone : ∀ d ∈ (shelf [{ buttonGroup with description := none }, button]).store.components, d ≠ button →
      ¬ d.Outweighs (shelf [{ buttonGroup with description := none }, button]).store.components
        (trim " bitBUTTON\t") button := by
    unfold Component.Outweighs
    decide +kernel
  exact (exact_name_first rfl hstore (by decide +kernel) (by decide +kernel) (by decide +kernel)).2 hnone 1 (by decide)

/-- A component comes before the one whose name is searched for if enough of its other texts hold that name. An empty
name is not found at all. -/
theorem exact_name_outweighed :
    button ∈ (shelf [buttonGroup, button]).store.components ∧ key "BitButton" = key button.name ∧
      (shelf [buttonGroup, button]).search "BitButton" .all 10 = .ok [(buttonGroup, 105), (button, 100)] ∧
      { button with name := "" } ∈ (shelf [{ button with name := "" }]).store.components ∧
      (shelf [{ button with name := "" }]).search "" .all 10 = .ok [] := by
  have hmatching : matching (shelf [buttonGroup, button]).store.components (trim "BitButton") .all =
      [(buttonGroup, 105), (button, 100)] := by decide +kernel
  have hsorted : ranking (shelf [buttonGroup, button]).store.components (trim "BitButton") .all =
      [(buttonGroup, 105), (button, 100)] := by
    rw [ranking, hmatching]
    exact List.mergeSort_of_pairwise (by decide)
  refine ⟨by decide +kernel, by decide +kernel, ?_, by decide +kernel, by decide +kernel⟩
  rw [search_eq rfl (by decide +kernel) (by decide), hsorted]
  rfl

end Index
end Catalog
