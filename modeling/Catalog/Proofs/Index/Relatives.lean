import Catalog.Proofs.Index.LookUp

/-! The components related to one: each of them for a reason, in the order of the reasons, and none of them missing
unless the most that are told are there before it. Where two components do not link to each other, what one is to the
other is told on both sides. -/
namespace Catalog

open Text

/-- Why a component is related to another one. -/
inductive Reason where
  | link
  | sibling
  | parent
  | child
  deriving DecidableEq

namespace Reason

def all : List Reason :=
  [link, sibling, parent, child]

def rank : Reason → ℕ
  | link => 0
  | sibling => 1
  | parent => 2
  | child => 3

/-- The reason makes `d` related to `c`. Links always count, the other reasons if the relationship asks for them. -/
def Applies (relationship : Relationship) (c d : Component) : Reason → Prop
  | link => ∃ name ∈ c.related, key name = d.key
  | sibling => (relationship = .all ∨ relationship = .sibling) ∧
      ∃ own other, c.category = some own ∧ d.category = some other ∧ own ≠ "" ∧ lower other = lower own
  | parent => (relationship = .all ∨ relationship = .parent) ∧ ∃ base, c.baseType = some base ∧ key base = d.key
  | child => (relationship = .all ∨ relationship = .child) ∧ ∃ base, d.baseType = some base ∧ key base = c.key

def IsFirst (relationship : Relationship) (c d : Component) (reason : Reason) : Prop :=
  reason.Applies relationship c d ∧ ∀ other : Reason, other.Applies relationship c d → reason.rank ≤ other.rank

/-- The place of a key among those with one reason: links stand in their own order, others in that of the store. -/
def place (s : Store) (c : Component) (k : String) : Reason → ℕ
  | link => placeOf k c.related
  | _ => placeOf k s.names

theorem mem_all (reason : Reason) : reason ∈ all := by
  cases reason <;> decide

end Reason

/-- Of two components related to `c` the first one has a first reason that counts before that of the other, or the same
and the place before. -/
def Precedes (s : Store) (relationship : Relationship) (c d e : Component) : Prop :=
  ∃ reason reason' : Reason, reason.IsFirst relationship c d ∧ reason'.IsFirst relationship c e ∧
    (reason.rank < reason'.rank ∨ reason = reason' ∧ reason.place s c d.key < reason.place s c e.key)

theorem not_precedes_self (s : Store) (relationship : Relationship) (c d : Component) :
    ¬ Precedes s relationship c d d := by
  rintro ⟨reason, reason', hfirst, hfirst', hrank | ⟨rfl, hplace⟩⟩
  · exact absurd (hfirst'.2 reason hfirst.1) (Nat.not_le.mpr hrank)
  · exact Nat.lt_irrefl _ hplace

/-- The components that are told as related to `c`. -/
structure Relatives (s : Store) (relationship : Relationship) (c : Component) (l : List Component) : Prop where
  length_le : l.length ≤ 10
  stored : ∀ d ∈ l, d ∈ s.components
  distinct : (l.map Component.key).Nodup
  others : c ∉ l
  reasoned : ∀ d ∈ l, ∃ reason : Reason, reason.Applies relationship c d
  ordered : l.Pairwise (Precedes s relationship c)
  complete : ∀ d ∈ s.components, d ≠ c → (∃ reason : Reason, reason.Applies relationship c d) → d ∉ l →
    l.length = 10 ∧ ∀ e ∈ l, Precedes s relationship c e d

namespace Store

variable {s : Store} {seen names : List String} {d : Component}

/-- The components that the names mean, each one once, without those whose keys are in `seen`. -/
def found (s : Store) (seen names : List String) : List Component :=
  (distinctIgnoringCase seen names).filterMap s.get?

theorem found_append (s : Store) (seen names names' : List String) :
    s.found seen (names ++ names') = s.found seen names ++ s.found (names.map lower ++ seen) names' := by
  rw [found, distinctIgnoringCase_append, List.filterMap_append]
  rfl

theorem mem_found (hd : s.Distinct) :
    d ∈ s.found seen names ↔ d ∈ s.components ∧ d.key ∈ names.map lower ∧ d.key ∉ seen := by
  rw [found, List.mem_filterMap, ← mem_map_lower_distinct, List.mem_map]
  constructor
  · rintro ⟨name, hname, hget⟩
    obtain ⟨hmem, hkey⟩ := (hd.get?_eq_some_iff _ _).mp hget
    exact ⟨hmem, name, hname, hkey.symm⟩
  · rintro ⟨hmem, name, hname, hkey⟩
    exact ⟨name, hname, (hd.get?_eq_some_iff _ _).mpr ⟨hmem, hkey.symm⟩⟩

/-- An order of the kept names is one of the components that they mean. -/
theorem pairwise_found (place : String → ℕ) (hd : s.Distinct)
    (h : (distinctIgnoringCase seen names).Pairwise fun a b => place (lower a) < place (lower b)) :
    (s.found seen names).Pairwise fun d e => place d.key < place e.key := by
  refine h.filterMap _ fun a b hab d hda e heb => ?_
  obtain ⟨-, hdkey⟩ := (hd.get?_eq_some_iff _ _).mp hda
  obtain ⟨-, hekey⟩ := (hd.get?_eq_some_iff _ _).mp heb
  rw [Component.key, Component.key, hdkey, hekey]
  exact hab

theorem pairwise_placeOf_names (hd : s.Distinct) :
    s.names.Pairwise fun a b => placeOf (lower a) s.names < placeOf (lower b) s.names := by
  refine pairwise_placeOf_of_nodup ?_
  have hkeys := hd.keys
  rw [keys_eq_map_names] at hkeys
  exact hkeys

end Store

namespace Index

variable {ix : Index} {relationship : Relationship} {c d : Component} {seen : List String} {reason : Reason}

def namesFor (ix : Index) (c : Component) (relationship : Relationship) : Reason → List String
  | .link => c.related
  | .sibling => if relationship.includesSiblings then ix.siblingNames c else []
  | .parent => if relationship.includesParents then ix.parentNames c else []
  | .child => if relationship.includesChildren then ix.childNames c else []

theorem candidates_eq (ix : Index) (c : Component) (relationship : Relationship) :
    ix.candidates c relationship = Reason.all.flatMap (ix.namesFor c relationship) := by
  simp [candidates, Reason.all, namesFor]

/-- Names are given by those components of a store that have a property. -/
theorem mem_names_filter {s : Store} (hd : s.Distinct) (p : Component → Bool) (hmem : d ∈ s.components) :
    d.key ∈ ((s.components.filter p).map Component.name).map lower ↔ p d = true := by
  rw [List.map_map, List.mem_map]
  constructor
  · rintro ⟨e, he, hkey⟩
    obtain ⟨hemem, hpe⟩ := List.mem_filter.mp he
    have hed : e = d := List.inj_on_of_nodup_map hd.keys hemem hmem hkey
    exact hed ▸ hpe
  · exact fun hp => ⟨d, List.mem_filter.mpr ⟨hmem, hp⟩, rfl⟩

/-- The siblings are the components of the same category. -/
theorem mem_siblingNames (hd : ix.store.Distinct) (hmem : d ∈ ix.store.components) :
    d.key ∈ (ix.siblingNames c).map lower ↔
      ∃ own other, c.category = some own ∧ d.category = some other ∧ own ≠ "" ∧ lower other = lower own := by
  unfold siblingNames
  cases c.category with
  | none => simp
  | some own =>
    by_cases hblank : own = ""
    · simp [hblank]
    · have hcategory : isInCategory (lower own) d = true ↔
          ∃ other, d.category = some other ∧ lower other = lower own := by
        unfold isInCategory
        cases d.category <;> simp
      simp only [String.isEmpty_iff, hblank, if_false, mem_names_filter hd _ hmem, hcategory]
      simp [hblank]

/-- The parent is the component that the base type names. -/
theorem mem_parentNames (hmem : d ∈ ix.store.components) (hne : d.name ≠ "") :
    d.key ∈ (ix.parentNames c).map lower ↔ ∃ base, c.baseType = some base ∧ key base = d.key := by
  unfold parentNames
  cases c.baseType with
  | none => simp
  | some base =>
    simp only [Option.some.injEq, exists_eq_left']
    constructor
    · intro h
      split_ifs at h
      · exact (List.mem_singleton.mp h).symm
      · cases h
    · intro hkey
      have hnonempty : base ≠ "" := by
        rintro rfl
        exact hne (lower_eq_lower_empty_iff.mp hkey.symm)
      have hhas : ix.store.has base = true := by
        rw [Store.has, Store.get?, hkey]
        exact Keyed.find?_isSome_iff.mpr (List.mem_map_of_mem hmem)
      have hboth : (!base.isEmpty && ix.store.has base) = true := by simp [hnonempty, hhas]
      rw [if_pos hboth]
      exact List.mem_singleton.mpr hkey.symm

/-- The children are the components that name this one as their base type. -/
theorem mem_childNames (hd : ix.store.Distinct) (hmem : d ∈ ix.store.components) :
    d.key ∈ (ix.childNames c).map lower ↔ ∃ base, d.baseType = some base ∧ key base = c.key := by
  unfold childNames
  rw [mem_names_filter hd _ hmem]
  cases d.baseType with
  | none => simp
  | some base => simp [Component.key]

/-- The names that a reason gives are those of the components to which it applies. -/
theorem applies_iff (hd : ix.store.Distinct) (hmem : d ∈ ix.store.components) (hne : d.name ≠ "") :
    reason.Applies relationship c d ↔ d.key ∈ (ix.namesFor c relationship reason).map lower := by
  have hguarded (b : Bool) (names : List String) :
      d.key ∈ (if b then names else []).map lower ↔ b = true ∧ d.key ∈ names.map lower := by
    cases b <;> simp
  cases reason with
  | link =>
    rw [namesFor, List.mem_map]
    rfl
  | sibling =>
    rw [namesFor, hguarded, mem_siblingNames hd hmem, Relationship.includesSiblings, Bool.or_eq_true,
      decide_eq_true_iff, decide_eq_true_iff]
    rfl
  | parent =>
    rw [namesFor, hguarded, mem_parentNames hmem hne, Relationship.includesParents, Bool.or_eq_true,
      decide_eq_true_iff, decide_eq_true_iff]
    rfl
  | child =>
    rw [namesFor, hguarded, mem_childNames hd hmem, Relationship.includesChildren, Bool.or_eq_true,
      decide_eq_true_iff, decide_eq_true_iff]
    rfl

theorem siblingNames_sublist (ix : Index) (c : Component) : (ix.siblingNames c).Sublist ix.store.names := by
  unfold siblingNames
  cases c.category with
  | none => exact List.nil_sublist _
  | some own =>
    dsimp only
    split_ifs
    · exact List.nil_sublist _
    · exact List.filter_sublist.map _

theorem childNames_sublist (ix : Index) (c : Component) : (ix.childNames c).Sublist ix.store.names :=
  List.filter_sublist.map _

theorem length_parentNames (ix : Index) (c : Component) : (ix.parentNames c).length ≤ 1 := by
  unfold parentNames
  cases c.baseType with
  | none => exact Nat.zero_le 1
  | some base =>
    dsimp only
    split_ifs <;> simp

/-- What is kept of the names that a reason gives is in the order of the places. -/
theorem pairwise_place (hd : ix.store.Distinct) (seen : List String) (c : Component) (relationship : Relationship)
    (reason : Reason) :
    (distinctIgnoringCase seen (ix.namesFor c relationship reason)).Pairwise fun a b =>
      reason.place ix.store c (lower a) < reason.place ix.store c (lower b) := by
  have hguarded {b : Bool} {names names' : List String} (h : names.Sublist names') :
      (if b then names else []).Sublist names' := by
    split_ifs
    · exact h
    · exact List.nil_sublist _
  -- names in the order of the store
  have hstored {names : List String} (h : names.Sublist ix.store.names) :
      (distinctIgnoringCase seen names).Pairwise fun a b =>
        placeOf (lower a) ix.store.names < placeOf (lower b) ix.store.names :=
    (Store.pairwise_placeOf_names hd).sublist ((distinctIgnoringCase_sublist seen names).trans h)
  cases reason with
  | link => exact pairwise_placeOf_distinct seen c.related
  | sibling => exact hstored (hguarded (ix.siblingNames_sublist c))
  | parent =>
    have hlength : (distinctIgnoringCase seen (ix.namesFor c relationship .parent)).length ≤ 1 :=
      ((distinctIgnoringCase_sublist _ _).trans (hguarded (List.Sublist.refl _))).length_le.trans
        (ix.length_parentNames c)
    match distinctIgnoringCase seen (ix.namesFor c relationship .parent), hlength with
    | [], _ => exact List.Pairwise.nil
    | [_], _ => exact List.pairwise_singleton _ _
  | child => exact hstored (hguarded (ix.childNames_sublist c))

/-- The components found for some of the reasons have their first reason among them and are in the order of the
reasons, if those with any other reason are left out. -/
theorem found_flatMap (hd : ix.store.Distinct) (hnames : ∀ d ∈ ix.store.components, d.name ≠ "")
    {reasons : List Reason} (hsorted : reasons.Pairwise fun reason reason' => reason.rank < reason'.rank)
    (hseen : ∀ reason ∉ reasons, ∀ d ∈ ix.store.components, reason.Applies relationship c d → d.key ∈ seen) :
    (∀ d ∈ ix.store.found seen (reasons.flatMap (ix.namesFor c relationship)),
        ∃ reason ∈ reasons, reason.IsFirst relationship c d) ∧
      (ix.store.found seen (reasons.flatMap (ix.namesFor c relationship))).Pairwise
        (Precedes ix.store relationship c) := by
  induction reasons generalizing seen with
  | nil => exact ⟨fun d hmem => absurd hmem List.not_mem_nil, List.Pairwise.nil⟩
  | cons reason reasons ih =>
    obtain ⟨hbefore, hrest⟩ := List.pairwise_cons.mp hsorted
    have hseen' : ∀ other ∉ reasons, ∀ d ∈ ix.store.components, other.Applies relationship c d →
        d.key ∈ (ix.namesFor c relationship reason).map lower ++ seen := by
      intro other hother d hmem happlies
      by_cases hsame : other = reason
      · subst hsame
        exact List.mem_append_left _ ((applies_iff hd hmem (hnames d hmem)).mp happlies)
      · exact List.mem_append_right _ (hseen other (List.not_mem_cons_of_ne_of_not_mem hsame hother) d hmem happlies)
    obtain ⟨hfirst, hordered⟩ := ih hrest hseen'
    -- what this reason gives has no reason before it
    have hown : ∀ d ∈ ix.store.found seen (ix.namesFor c relationship reason), reason.IsFirst relationship c d := by
      intro d hfound
      obtain ⟨hmem, hkey, hnew⟩ := (Store.mem_found hd).mp hfound
      refine ⟨(applies_iff hd hmem (hnames d hmem)).mpr hkey, fun other happlies => ?_⟩
      by_contra hless
      have hother : other ∉ reason :: reasons := by
        rintro (_ | ⟨_, hother⟩)
        · exact hless le_rfl
        · exact hless (hbefore other hother).le
      exact hnew (hseen other hother d hmem happlies)
    rw [List.flatMap_cons, Store.found_append]
    refine ⟨fun d hfound => ?_, List.pairwise_append.mpr ⟨?_, hordered, fun d hdfound e hefound => ?_⟩⟩
    · rcases List.mem_append.mp hfound with hfound | hfound
      · exact ⟨reason, List.mem_cons_self, hown d hfound⟩
      · obtain ⟨other, hother, hisFirst⟩ := hfirst d hfound
        exact ⟨other, List.mem_cons_of_mem _ hother, hisFirst⟩
    · have hplaces := Store.pairwise_found (fun k => reason.place ix.store c k) hd
        (pairwise_place hd seen c relationship reason)
      refine hplaces.imp_of_mem fun {d e} hdfound hefound hplace => ?_
      exact ⟨reason, reason, hown d hdfound, hown e hefound, .inr ⟨rfl, hplace⟩⟩
    · obtain ⟨other, hother, hisFirst⟩ := hfirst e hefound
      exact ⟨reason, other, hown d hdfound, hisFirst, .inl (hbefore other hother)⟩

theorem relatedTo_eq (hix : ix.isIndexed = true) (hd : ix.store.Distinct) (hc : c ∈ ix.store.components)
    (hne : c.name ≠ "") (ht : trim c.name = c.name) (relationship : Relationship) :
    ix.relatedTo c.name relationship =
      .ok ((ix.store.found [c.key] (ix.candidates c relationship)).take maxRelated) := by
  simp only [relatedTo, requireIndexed_of_isIndexed hix, resolve, lookUp_name hd hc ht hne]
  rfl

/-- The first ones of what is found for all reasons are the relatives of a component. -/
theorem relatives_take (hd : ix.store.Distinct) (hnames : ∀ d ∈ ix.store.components, d.name ≠ "")
    (hc : c ∈ ix.store.components) (relationship : Relationship) :
    Relatives ix.store relationship c
      ((ix.store.found [c.key] (ix.candidates c relationship)).take maxRelated) := by
  have hleft : ∀ reason ∉ Reason.all, ∀ d ∈ ix.store.components, reason.Applies relationship c d → d.key ∈ [c.key] :=
    fun reason hreason => absurd reason.mem_all hreason
  obtain ⟨hfirst, hordered⟩ := found_flatMap hd hnames (by decide) hleft
  have hmem {d : Component} : d ∈ ix.store.found [c.key] (Reason.all.flatMap (ix.namesFor c relationship)) ↔
      d ∈ ix.store.components ∧ d.key ∈ (ix.candidates c relationship).map lower ∧ d.key ≠ c.key := by
    rw [Store.mem_found hd, candidates_eq, List.mem_singleton]
  rw [candidates_eq]
  generalize ix.store.found [c.key] (Reason.all.flatMap (ix.namesFor c relationship)) = found at hfirst hordered hmem ⊢
  have hordered' := hordered.sublist (List.take_sublist maxRelated found)
  have htake {d : Component} (h : d ∈ found.take maxRelated) := hmem.mp (List.mem_of_mem_take h)
  refine
    { length_le := List.length_take_le _ _
      stored := fun d h => (htake h).1
      distinct := ?_
      others := fun h => (htake h).2.2 rfl
      reasoned := fun d h => ?_
      ordered := hordered'
      complete := ?_ }
  · refine List.pairwise_map.mpr (hordered'.imp_of_mem fun {d e} hdmem hemem hprecedes hkey => ?_)
    have hsame : d = e := List.inj_on_of_nodup_map hd.keys (htake hdmem).1 (htake hemem).1 hkey
    exact not_precedes_self _ _ _ _ (hsame ▸ hprecedes)
  · obtain ⟨reason, -, hisFirst⟩ := hfirst d (List.mem_of_mem_take h)
    exact ⟨reason, hisFirst.1⟩
  · rintro d hstored hother ⟨reason, happlies⟩ habsent
    have hkey : d.key ≠ c.key := fun h => hother (List.inj_on_of_nodup_map hd.keys hstored hc h)
    have hcandidate : d.key ∈ (ix.candidates c relationship).map lower := by
      rw [candidates_eq, List.map_flatMap, List.mem_flatMap]
      exact ⟨reason, reason.mem_all, (applies_iff hd hstored (hnames d hstored)).mp happlies⟩
    have hlater : d ∈ found.drop maxRelated := by
      have hall := hmem.mpr ⟨hstored, hcandidate, hkey⟩
      rw [← List.take_append_drop maxRelated found, List.mem_append] at hall
      exact hall.resolve_left habsent
    rw [← List.take_append_drop maxRelated found, List.pairwise_append] at hordered
    refine ⟨?_, fun e he => hordered.2.2 e he d hlater⟩
    have hlength := List.length_pos_of_mem hlater
    rw [List.length_drop] at hlength
    rw [List.length_take, maxRelated] at *
    omega

/-- The components related to one, for every relationship, and how those told for siblings alone begin those told for
all relationships. -/
theorem relatedTo_relatives (hix : ix.isIndexed = true) (hd : ix.store.Distinct)
    (hnames : ∀ name ∈ ix.store.names, name ≠ "" ∧ trim name = name) (hc : c ∈ ix.store.components) :
    (∀ relationship, ∃ l, ix.relatedTo c.name relationship = .ok l ∧ Relatives ix.store relationship c l) ∧
      ∃ siblings others, ix.relatedTo c.name .sibling = .ok siblings ∧
        ix.relatedTo c.name .all = .ok (siblings ++ others) := by
  obtain ⟨hne, ht⟩ := hnames c.name (List.mem_map_of_mem hc)
  have hnonempty : ∀ d ∈ ix.store.components, d.name ≠ "" := fun d hmem => (hnames d.name (List.mem_map_of_mem hmem)).1
  constructor
  · intro relationship
    exact ⟨_, relatedTo_eq hix hd hc hne ht relationship, relatives_take hd hnonempty hc relationship⟩
  · have hsplit : ix.candidates c .all = ix.candidates c .sibling ++ (ix.parentNames c ++ ix.childNames c) := by
      simp [candidates, Relationship.includesSiblings, Relationship.includesParents, Relationship.includesChildren]
    have hall := relatedTo_eq hix hd hc hne ht .all
    rw [hsplit, Store.found_append, List.take_append] at hall
    exact ⟨_, _, relatedTo_eq hix hd hc hne ht .sibling, hall⟩

/-- A card with a link to a chip and one to nothing, its base, a sibling, and one made from the card. -/
def family : Index where
  isIndexed := true
  store :=
    { components := [
        { name := "BitNav", nameSpace := "", summary := "", category := some "layout" },
        { name := "BitCard", nameSpace := "", summary := "", category := some "Layout", baseType := some "bitbase",
          related := ["BitNothing", "bitchip"] },
        { name := "BitBase", nameSpace := "", summary := "" },
        { name := "BitChip", nameSpace := "", summary := "", category := some "Layout", baseType := some "BitCard" },
        { name := "BitDeck", nameSpace := "", summary := "", baseType := some "BITCARD" }] }

theorem relatedTo_relatives_family :
    ∃ c ∈ family.store.components, c.name = "BitCard" ∧ ∃ l, family.relatedTo "BitCard" .all = .ok l ∧
      l.map Component.name = ["BitChip", "BitNav", "BitBase", "BitDeck"] ∧ Relatives family.store .all c l := by
  have hstored : ∃ c ∈ family.store.components, c.name = "BitCard" := by decide +kernel
  obtain ⟨c, hc, hname⟩ := hstored
  have hix : family.isIndexed = true := rfl
  have htold : ((family.relatedTo "BitCard" .all).map (List.map Component.name)) =
      .ok ["BitChip", "BitNav", "BitBase", "BitDeck"] := by decide +kernel
  obtain ⟨l, hl, hrelatives⟩ := (relatedTo_relatives hix ⟨by decide +kernel, by decide +kernel⟩
    (by decide +kernel) hc).1 .all
  rw [hname] at hl
  rw [hl] at htold
  exact ⟨c, hc, hname, l, hl, Except.ok.inj htold, hrelatives⟩

end Index

def Component.Extends (d c : Component) : Prop :=
  ∃ base, d.baseType = some base ∧ Catalog.key base = c.key

def Component.SharesCategory (c d : Component) : Prop :=
  ∃ own other, c.category = some own ∧ d.category = some other ∧ own ≠ "" ∧ lower other = lower own

theorem Component.SharesCategory.symm {c d : Component} (h : c.SharesCategory d) : d.SharesCategory c := by
  obtain ⟨own, other, hown, hother, hne, hlower⟩ := h
  refine ⟨other, own, hother, hown, ?_, hlower.symm⟩
  rintro rfl
  exact hne (lower_eq_lower_empty_iff.mp hlower.symm)

/-- What a relationship other than all asks for. -/
def Reason.relationship : Reason → Relationship
  | .link => .all
  | .sibling => .sibling
  | .parent => .parent
  | .child => .child

/-- Without a link, one component is told as related to another for the reason asked for, or not at all. -/
theorem exists_applies_iff {c d : Component} (reason : Reason) (hasked : reason ≠ .link)
    (hlink : d.key ∉ c.related.map key) :
    (∃ other : Reason, other.Applies reason.relationship c d) ↔ reason.Applies reason.relationship c d := by
  refine ⟨?_, fun h => ⟨reason, h⟩⟩
  rintro ⟨other, happlies⟩
  by_cases hsame : other = reason
  · exact hsame ▸ happlies
  · exfalso
    cases other with
    | link => exact hlink (List.mem_map.mpr happlies)
    | sibling => rcases happlies.1 with h | h <;> cases reason <;> simp_all [Reason.relationship]
    | parent => rcases happlies.1 with h | h <;> cases reason <;> simp_all [Reason.relationship]
    | child => rcases happlies.1 with h | h <;> cases reason <;> simp_all [Reason.relationship]

def TenOthers (c : Component) (l : List Component) : Prop :=
  l.length = 10 ∧ (l.map Component.key).Nodup ∧ c ∉ l

namespace Relatives

variable {s : Store} {relationship : Relationship} {c d : Component} {l : List Component}

/-- A component that is related to another one is told, or ten others are told before it. -/
theorem mem_or_tenOthers (h : Relatives s relationship c l) (hstored : d ∈ s.components) (hne : d ≠ c)
    (hreason : ∃ reason : Reason, reason.Applies relationship c d) : d ∈ l ∨ TenOthers d l := by
  by_cases hd : d ∈ l
  · exact .inl hd
  · exact .inr ⟨(h.complete d hstored hne hreason hd).1, h.distinct, hd⟩

/-- Where there is room left, all that is related is told. -/
theorem mem_iff (h : Relatives s relationship c l) (hstored : d ∈ s.components) (hne : d ≠ c) (hroom : l.length < 10) :
    d ∈ l ↔ ∃ reason : Reason, reason.Applies relationship c d := by
  constructor
  · exact h.reasoned d
  · intro hreason
    rcases h.mem_or_tenOthers hstored hne hreason with hd | hfull
    · exact hd
    · exact absurd hfull.1 hroom.ne

end Relatives

/-- What is told of a parent `p` of `q`, of the children of `p`, and of the siblings of both agree with each other,
except where ten components are told before the one in question. -/
structure TwoSided (p q : Component) (parents children siblings siblings' : List Component) : Prop where
  parent_iff_child : parents.length < 10 → children.length < 10 → (p ∈ parents ↔ q ∈ children)
  sibling_iff_sibling : siblings.length < 10 → siblings'.length < 10 → (q ∈ siblings ↔ p ∈ siblings')
  parent_or_tenOthers : q.Extends p → p ∈ parents ∨ TenOthers p parents
  child_or_tenOthers : q.Extends p → q ∈ children ∨ TenOthers q children

namespace Index

variable {ix : Index} {p q : Component}

/-- Of two components neither of which links to the other, one is a parent exactly if the other is its child, and
either is a sibling of the other or neither is. -/
theorem relatedTo_two_sided (hix : ix.isIndexed = true) (hd : ix.store.Distinct)
    (hnames : ∀ name ∈ ix.store.names, name ≠ "" ∧ trim name = name) (hp : p ∈ ix.store.components)
    (hq : q ∈ ix.store.components) (hne : p ≠ q) (hpq : q.key ∉ p.related.map key) (hqp : p.key ∉ q.related.map key) :
    ∃ parents children siblings siblings', ix.relatedTo q.name .parent = .ok parents ∧
      ix.relatedTo p.name .child = .ok children ∧ ix.relatedTo p.name .sibling = .ok siblings ∧
      ix.relatedTo q.name .sibling = .ok siblings' ∧ TwoSided p q parents children siblings siblings' := by
  have htold {c : Component} (hc : c ∈ ix.store.components) (relationship : Relationship) :
      ∃ l, ix.relatedTo c.name relationship = .ok l ∧ Relatives ix.store relationship c l := by
    obtain ⟨hnonempty, ht⟩ := hnames c.name (List.mem_map_of_mem hc)
    exact ⟨_, relatedTo_eq hix hd hc hnonempty ht relationship,
      relatives_take hd (fun d hmem => (hnames d.name (List.mem_map_of_mem hmem)).1) hc relationship⟩
  obtain ⟨parents, hparents, hofParents⟩ := htold hq .parent
  obtain ⟨children, hchildren, hofChildren⟩ := htold hp .child
  obtain ⟨siblings, hsiblings, hofSiblings⟩ := htold hp .sibling
  obtain ⟨siblings', hsiblings', hofSiblings'⟩ := htold hq .sibling
  have hparent : (∃ reason : Reason, reason.Applies .parent q p) ↔ q.Extends p :=
    (exists_applies_iff .parent nofun hqp).trans ⟨And.right, fun h => ⟨.inr rfl, h⟩⟩
  have hchild : (∃ reason : Reason, reason.Applies .child p q) ↔ q.Extends p :=
    (exists_applies_iff .child nofun hpq).trans ⟨And.right, fun h => ⟨.inr rfl, h⟩⟩
  have hsibling {c d : Component} (hlink : d.key ∉ c.related.map key) :
      (∃ reason : Reason, reason.Applies .sibling c d) ↔ c.SharesCategory d :=
    (exists_applies_iff .sibling nofun hlink).trans ⟨And.right, fun h => ⟨.inr rfl, h⟩⟩
  refine ⟨parents, children, siblings, siblings', hparents, hchildren, hsiblings, hsiblings', ?_⟩
  refine
    { parent_iff_child := fun hroom hroom' => ?_
      sibling_iff_sibling := fun hroom hroom' => ?_
      parent_or_tenOthers := fun h => hofParents.mem_or_tenOthers hp hne (hparent.mpr h)
      child_or_tenOthers := fun h => hofChildren.mem_or_tenOthers hq hne.symm (hchild.mpr h) }
  · rw [hofParents.mem_iff hp hne hroom, hofChildren.mem_iff hq hne.symm hroom', hparent, hchild]
  · rw [hofSiblings.mem_iff hq hne.symm hroom, hofSiblings'.mem_iff hp hne hroom', hsibling hpq, hsibling hqp]
    exact ⟨Component.SharesCategory.symm, Component.SharesCategory.symm⟩

/-- A base with eleven components made from it, of which the first one is in its category. -/
def crowd : Index where
  isIndexed := true
  store :=
    { components :=
        { name := "BitBase", nameSpace := "", summary := "", category := some "layout" } ::
          "abcdefghijk".toList.map fun letter =>
            { name := "BitPart" ++ String.singleton letter, nameSpace := "", summary := ""
              category := if letter = 'a' then some "Layout" else none, baseType := some "bitBASE" } }

/-- The first part and its base are told as siblings of each other. The last part is a child of the base, which tells of
the ten other parts. -/
theorem relatedTo_two_sided_crowd :
    ∃ p ∈ crowd.store.components, ∃ q ∈ crowd.store.components, ∃ r ∈ crowd.store.components,
      p.name = "BitBase" ∧ q.name = "BitParta" ∧ r.name = "BitPartk" ∧
      (∃ siblings siblings', crowd.relatedTo p.name .sibling = .ok siblings ∧
        crowd.relatedTo q.name .sibling = .ok siblings' ∧ q ∈ siblings ∧ p ∈ siblings') ∧
      ∃ children, crowd.relatedTo p.name .child = .ok children ∧ TenOthers r children := by
  have hstored : ∃ p ∈ crowd.store.components, ∃ q ∈ crowd.store.components, ∃ r ∈ crowd.store.components,
      p.name = "BitBase" ∧ q.name = "BitParta" ∧ r.name = "BitPartk" ∧ p ≠ q ∧ p ≠ r ∧ p.related = [] ∧
        q.related = [] ∧ r.related = [] ∧ r.baseType.map key = some p.key ∧
        crowd.relatedTo p.name .sibling = .ok [q] ∧ crowd.relatedTo q.name .sibling = .ok [p] ∧
        (crowd.relatedTo p.name .child).toOption.any fun children => !children.contains r := by decide +kernel
  obtain ⟨p, hp, q, hq, r, hr, hpname, hqname, hrname, hpq, hpr, hplinks, hqlinks, hrlinks, hbase, hsiblings, hsiblings',
    habsent⟩ := hstored
  have hd : crowd.store.Distinct := ⟨by decide +kernel, by decide +kernel⟩
  have hnames : ∀ name ∈ crowd.store.names, name ≠ "" ∧ trim name = name := by decide +kernel
  refine ⟨p, hp, q, hq, r, hr, hpname, hqname, hrname, ?_, ?_⟩
  · obtain ⟨_, _, siblings, siblings', -, -, htold, htold', htwo⟩ :=
      relatedTo_two_sided rfl hd hnames hp hq hpq (by simp [hplinks]) (by simp [hqlinks])
    obtain rfl := Except.ok.inj (htold.symm.trans hsiblings)
    obtain rfl := Except.ok.inj (htold'.symm.trans hsiblings')
    have hmem : q ∈ [q] := List.mem_singleton_self q
    exact ⟨[q], [p], htold, htold', hmem, (htwo.sibling_iff_sibling (by simp) (by simp)).mp hmem⟩
  · obtain ⟨_, children, _, _, -, htold, -, -, htwo⟩ :=
      relatedTo_two_sided rfl hd hnames hp hr hpr (by simp [hplinks]) (by simp [hrlinks])
    rw [htold] at habsent
    have hnot : r ∉ children := by simpa [Except.toOption] using habsent
    exact ⟨children, htold, (htwo.child_or_tenOthers (by simpa [Component.Extends] using hbase)).resolve_left hnot⟩

end Index
end Catalog
