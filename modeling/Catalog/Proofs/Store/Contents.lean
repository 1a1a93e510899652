import Catalog.Proofs.Keyed
import Catalog.Store

/-! What each change of a store makes of the component and of the reference under a key. -/
namespace Catalog.Store

variable {s : Store} {c : Component} {r : ApiReference} {k : String}

def componentAt? (s : Store) (k : String) : Option Component :=
  Keyed.find? Component.key k s.components

def referenceAt? (s : Store) (k : String) : Option ApiReference :=
  Keyed.find? ApiReference.key k s.references

def keys (s : Store) : List String :=
  s.components.map Component.key

def referenceKeys (s : Store) : List String :=
  s.references.map ApiReference.key

/-- No two components and no two references have the same key, as after any history of an empty store. -/
structure Distinct (s : Store) : Prop where
  keys : s.keys.Nodup
  referenceKeys : s.referenceKeys.Nodup

theorem named_keepsKey : Keyed.KeepsKey Component.key Component.named :=
  fun _ _ h => h

theorem newest_keepsKey : Keyed.KeepsKey ApiReference.key fun _ new => new :=
  fun _ _ _ => rfl

theorem componentAt?_isSome : (s.componentAt? k).isSome ↔ k ∈ s.keys :=
  Keyed.find?_isSome_iff

theorem referenceAt?_isSome : (s.referenceAt? k).isSome ↔ k ∈ s.referenceKeys :=
  Keyed.find?_isSome_iff

theorem Distinct.componentAt?_eq_some_iff (h : s.Distinct) :
    s.componentAt? k = some c ↔ c ∈ s.components ∧ c.key = k :=
  Keyed.find?_eq_some_iff h.keys

theorem Distinct.referenceAt?_eq_some_iff (h : s.Distinct) :
    s.referenceAt? k = some r ↔ r ∈ s.references ∧ r.key = k :=
  Keyed.find?_eq_some_iff h.referenceKeys

@[simp] theorem put_references (s : Store) (c : Component) : (s.put c).references = s.references := rfl

@[simp] theorem putReference_components (s : Store) (r : ApiReference) :
    (s.putReference r).components = s.components := rfl

@[simp] theorem put_referenceKeys (s : Store) (c : Component) :
    (s.put c).referenceKeys = s.referenceKeys := rfl

@[simp] theorem putReference_keys (s : Store) (r : ApiReference) : (s.putReference r).keys = s.keys := rfl

@[simp] theorem put_referenceAt? (s : Store) (c : Component) (k : String) :
    (s.put c).referenceAt? k = s.referenceAt? k := rfl

@[simp] theorem putReference_componentAt? (s : Store) (r : ApiReference) (k : String) :
    (s.putReference r).componentAt? k = s.componentAt? k := rfl

theorem keys_put (s : Store) (c : Component) :
    (s.put c).keys = if c.key ∈ s.keys then s.keys else s.keys ++ [c.key] :=
  Keyed.map_insert named_keepsKey c s.components

theorem keys_put_of_mem (h : c.key ∈ s.keys) : (s.put c).keys = s.keys := by
  rw [keys_put, if_pos h]

theorem keys_eq_map_names (s : Store) : s.keys = s.names.map key := by
  rw [keys, names, List.map_map]
  rfl

/-- A component that is put under a key in use changes no name. -/
theorem names_put_of_mem (h : c.key ∈ s.keys) : (s.put c).names = s.names :=
  Keyed.map_insert_of_mem (fun _ => rfl) h

/-- A component that is put keeps the spelling of its name that is stored already. -/
theorem componentAt?_put_self (s : Store) (c : Component) :
    (s.put c).componentAt? c.key = some (((s.componentAt? c.key).map (·.named c)).getD c) :=
  Keyed.find?_insert_self named_keepsKey c s.components

theorem componentAt?_put_of_ne (h : k ≠ c.key) : (s.put c).componentAt? k = s.componentAt? k :=
  Keyed.find?_insert_of_ne named_keepsKey h s.components

theorem referenceAt?_putReference_self (s : Store) (r : ApiReference) :
    (s.putReference r).referenceAt? r.key = some r := by
  refine (Keyed.find?_insert_self newest_keepsKey r s.references).trans ?_
  cases Keyed.find? ApiReference.key r.key s.references <;> rfl

theorem referenceAt?_putReference_of_ne (h : k ≠ r.key) :
    (s.putReference r).referenceAt? k = s.referenceAt? k :=
  Keyed.find?_insert_of_ne newest_keepsKey h s.references

theorem retain_components (s : Store) (names : List String) :
    (s.retain names).components = s.components.filter fun c => (names.map key).contains c.key := rfl

theorem keys_retain (s : Store) (names : List String) :
    (s.retain names).keys = s.keys.filter fun k => (names.map key).contains k :=
  Keyed.map_filter _ s.components

theorem mem_keys_retain {names : List String} :
    k ∈ (s.retain names).keys ↔ k ∈ s.keys ∧ k ∈ names.map key := by
  rw [keys_retain, List.mem_filter, List.contains_iff_mem]

theorem componentAt?_retain (s : Store) (names : List String) (k : String) :
    (s.retain names).componentAt? k = if k ∈ names.map key then s.componentAt? k else none := by
  have h := Keyed.find?_filter Component.key (fun k => (names.map key).contains k) k s.components
  simp only [List.contains_iff_mem] at h
  exact h

/-- A reference is dropped where its key is that of a component that is dropped. -/
theorem retain_references (s : Store) (names : List String) :
    (s.retain names).references =
      s.references.filter fun r => !decide (r.key ∈ s.keys ∧ r.key ∉ names.map key) := by
  refine List.filter_congr fun r _ => ?_
  congr 1
  rw [Bool.eq_iff_iff, List.contains_iff_mem, List.mem_filter, decide_eq_true_iff, Bool.not_eq_true',
    ← Bool.not_eq_true, List.contains_iff_mem, keys]

theorem referenceAt?_retain (s : Store) (names : List String) (k : String) :
    (s.retain names).referenceAt? k = if k ∈ s.keys ∧ k ∉ names.map key then none else s.referenceAt? k := by
  have h := Keyed.find?_filter ApiReference.key
    (fun k => !decide (k ∈ s.keys ∧ k ∉ names.map key)) k s.references
  rw [referenceAt?, retain_references, h]
  by_cases hk : k ∈ s.keys ∧ k ∉ names.map key
  · rw [if_pos hk, decide_eq_true hk]
    rfl
  · rw [if_neg hk, decide_eq_false hk]
    rfl

theorem mem_referenceKeys_retain {names : List String} :
    k ∈ (s.retain names).referenceKeys ↔ k ∈ s.referenceKeys ∧ ¬ (k ∈ s.keys ∧ k ∉ names.map key) := by
  rw [← referenceAt?_isSome, ← referenceAt?_isSome, referenceAt?_retain]
  split_ifs with h
  · exact iff_of_false Bool.false_ne_true fun hk => hk.2 h
  · exact (and_iff_left h).symm

theorem distinct_empty : empty.Distinct :=
  ⟨List.nodup_nil, List.nodup_nil⟩

theorem Distinct.put (h : s.Distinct) (c : Component) : (s.put c).Distinct :=
  ⟨Keyed.nodup_insert named_keepsKey h.keys, h.referenceKeys⟩

theorem Distinct.putReference (h : s.Distinct) (r : ApiReference) : (s.putReference r).Distinct :=
  ⟨h.keys, Keyed.nodup_insert newest_keepsKey h.referenceKeys⟩

theorem Distinct.retain (h : s.Distinct) (names : List String) : (s.retain names).Distinct := by
  refine ⟨?_, ?_⟩
  · exact h.keys.sublist (List.filter_sublist.map _)
  · exact h.referenceKeys.sublist (List.filter_sublist.map _)

theorem Distinct.change (h : s.Distinct) (ch : Change) : (s.change ch).Distinct := by
  cases ch with
  | put c => exact h.put c
  | putReference r => exact h.putReference r
  | retain names => exact h.retain names
  | clear => exact distinct_empty

theorem Distinct.replay (h : s.Distinct) (changes : List Change) : (s.replay changes).Distinct := by
  induction changes generalizing s with
  | nil => exact h
  | cons ch changes ih => exact ih (h.change ch)

theorem replay_concat (s : Store) (changes : List Change) (ch : Change) :
    s.replay (changes ++ [ch]) = (s.replay changes).change ch := by
  simp [Store.replay]

def Change.IsWrite : Change → Prop
  | .put _ => True
  | .putReference _ => True
  | _ => False

def Change.component? : Change → Option Component
  | .put c => some c
  | _ => none

def Change.reference? : Change → Option ApiReference
  | .putReference r => some r
  | _ => none

variable {l : List Change}

theorem mem_filterMap_component? : c ∈ l.filterMap Change.component? ↔ .put c ∈ l := by
  rw [List.mem_filterMap]
  constructor
  · rintro ⟨ch, hch, he⟩
    cases ch <;> cases he
    exact hch
  · exact fun h => ⟨_, h, rfl⟩

theorem mem_filterMap_reference? : r ∈ l.filterMap Change.reference? ↔ .putReference r ∈ l := by
  rw [List.mem_filterMap]
  constructor
  · rintro ⟨ch, hch, he⟩
    cases ch <;> cases he
    exact hch
  · exact fun h => ⟨_, h, rfl⟩

/-- Writes put in their components and their references one after another. -/
theorem replay_of_writes (hl : ∀ ch ∈ l, ch.IsWrite) (s : Store) :
    s.replay l =
      { components := (l.filterMap Change.component?).foldl
          (fun entries c => Keyed.insert Component.key Component.named c entries) s.components
        references := (l.filterMap Change.reference?).foldl
          (fun entries r => Keyed.insert ApiReference.key (fun _ new => new) r entries) s.references } := by
  induction l generalizing s with
  | nil => rfl
  | cons ch l ih =>
    obtain ⟨hwrite, hl⟩ := List.forall_mem_cons.mp hl
    have hreplay : s.replay (ch :: l) = (s.change ch).replay l := rfl
    rw [hreplay, ih hl]
    cases ch with
    | put c => rfl
    | putReference r => rfl
    | retain names => exact hwrite.elim
    | clear => exact hwrite.elim

/-- Writes add the keys of what they put, and lose none. -/
theorem mem_keys_replay_of_writes (hl : ∀ ch ∈ l, ch.IsWrite) :
    k ∈ (s.replay l).keys ↔ k ∈ s.keys ∨ ∃ c, .put c ∈ l ∧ c.key = k := by
  rw [replay_of_writes hl, keys, Keyed.mem_map_foldl_insert named_keepsKey]
  simp only [mem_filterMap_component?]
  rfl

theorem mem_referenceKeys_replay_of_writes (hl : ∀ ch ∈ l, ch.IsWrite) :
    k ∈ (s.replay l).referenceKeys ↔ k ∈ s.referenceKeys ∨ ∃ r, .putReference r ∈ l ∧ r.key = k := by
  rw [replay_of_writes hl, referenceKeys, Keyed.mem_map_foldl_insert newest_keepsKey]
  simp only [mem_filterMap_reference?]
  rfl

/-- Writes leave the components of other keys where they are. -/
theorem getElem?_components_replay (hl : ∀ ch ∈ l, ch.IsWrite) (hc : ∀ d, .put d ∈ l → d.key ≠ c.key) (n : ℕ) :
    (s.replay l).components[n]? = some c ↔ s.components[n]? = some c := by
  rw [replay_of_writes hl]
  refine Keyed.getElem?_foldl_insert_of_ne named_keepsKey (fun d hd => ?_) s.components n
  exact hc d (mem_filterMap_component?.mp hd)

/-- Writes leave the references of other keys where they are. -/
theorem getElem?_references_replay (hl : ∀ ch ∈ l, ch.IsWrite) (hr : ∀ d, .putReference d ∈ l → d.key ≠ r.key)
    (n : ℕ) : (s.replay l).references[n]? = some r ↔ s.references[n]? = some r := by
  rw [replay_of_writes hl]
  refine Keyed.getElem?_foldl_insert_of_ne newest_keepsKey (fun d hd => ?_) s.references n
  exact hr d (mem_filterMap_reference?.mp hd)

end Catalog.Store
