import Catalog.Proofs.Store.Contents
import Mathlib.Data.List.DropRight

/-! What a store holds after any history of changes, told by the history alone: under each key the last component
that was put, spelled like the first one since the key was last removed, and in the order of those first ones. -/
namespace Catalog.Store

def Change.removes (k : String) : Change → Bool
  | .retain names => !(names.map key).contains k
  | .clear => true
  | _ => false

def Change.put? (k : String) : Change → Option Component
  | .put c => if c.key = k then some c else none
  | _ => none

/-- The components put under a key since it was last removed, each with the number of its change. -/
def putsSince (k : String) (history : List Change) : List (Component × ℕ) :=
  (history.zipIdx.rtakeWhile fun p => !p.1.removes k).filterMap fun p => (p.1.put? k).map (·, p.2)

/-- The component that is under a key after these were put. -/
def survivor : List (Component × ℕ) → Option Component
  | [] => none
  | first :: rest => some (first.1.named ((first :: rest).getLast (by simp)).1)

/-- The number of the change that first put something under a key since it was last removed. -/
def bornAt (k : String) (history : List Change) : ℕ :=
  ((putsSince k history).head?.map Prod.snd).getD 0

theorem putsSince_concat (k : String) (history : List Change) (ch : Change) :
    putsSince k (history ++ [ch]) =
      if ch.removes k then [] else putsSince k history ++ ((ch.put? k).map (·, history.length)).toList := by
  rw [putsSince, List.zipIdx_append, List.zipIdx_cons, List.zipIdx_nil, Nat.zero_add, List.rtakeWhile_concat]
  by_cases h : ch.removes k
  · simp [h]
  · cases hp : ch.put? k <;> simp [h, hp, putsSince]

theorem lt_length_of_mem_putsSince {k : String} {history : List Change} {p : Component × ℕ}
    (hp : p ∈ putsSince k history) : p.2 < history.length := by
  obtain ⟨q, hq, hqp⟩ := List.mem_filterMap.mp hp
  obtain ⟨c, -, rfl⟩ := Option.map_eq_some_iff.mp hqp
  have hm : q ∈ history.zipIdx := (List.rtakeWhile_suffix _ _).subset hq
  have hlt := List.snd_lt_of_mem_zipIdx hm
  simpa using hlt

theorem survivor_concat (puts : List (Component × ℕ)) (p : Component × ℕ) :
    survivor (puts ++ [p]) = some (((survivor puts).map (·.named p.1)).getD p.1) := by
  cases puts with
  | nil => rfl
  | cons first rest => simp [survivor, Component.named]

theorem survivor_isSome {puts : List (Component × ℕ)} : (survivor puts).isSome ↔ puts ≠ [] := by
  cases puts <;> simp [survivor]

/-- Under a key is what the history since its last removal left there. -/
theorem componentAt?_replay (k : String) (history : List Change) :
    (empty.replay history).componentAt? k = survivor (putsSince k history) := by
  induction history using List.reverseRecOn with
  | nil => rfl
  | append_singleton history ch ih =>
    rw [replay_concat, putsSince_concat]
    cases ch with
    | put c =>
      by_cases hk : c.key = k
      · subst hk
        simp [change, Change.removes, Change.put?, componentAt?_put_self, ih, survivor_concat]
      · have hk' : k ≠ c.key := fun e => hk e.symm
        simp [change, Change.removes, Change.put?, hk, componentAt?_put_of_ne hk', ih]
    | putReference r => simp [change, Change.removes, Change.put?, ih]
    | retain names =>
      rw [change, componentAt?_retain, ih]
      by_cases hk : k ∈ names.map key
      · simp [Change.removes, Change.put?, hk]
      · have hr : (Change.retain names).removes k = true := by simpa [Change.removes] using hk
        rw [if_neg hk, if_pos hr]
        rfl
    | clear => rfl

theorem mem_keys_replay (k : String) (history : List Change) :
    k ∈ (empty.replay history).keys ↔ putsSince k history ≠ [] := by
  rw [← componentAt?_isSome, componentAt?_replay, survivor_isSome]

/-- A further change keeps the birth of a key that it does not remove. -/
theorem bornAt_concat {k : String} {history : List Change} {ch : Change} (hr : ch.removes k = false)
    (hk : k ∈ (empty.replay history).keys) : bornAt k (history ++ [ch]) = bornAt k history := by
  obtain ⟨p, puts, hp⟩ := List.exists_cons_of_ne_nil ((mem_keys_replay k history).mp hk)
  simp [bornAt, putsSince_concat, hr, hp]

theorem bornAt_lt {k : String} {history : List Change} (hk : k ∈ (empty.replay history).keys) :
    bornAt k history < history.length := by
  obtain ⟨p, puts, hp⟩ := List.exists_cons_of_ne_nil ((mem_keys_replay k history).mp hk)
  have hm : p ∈ putsSince k history := by simp [hp]
  simpa [bornAt, hp] using lt_length_of_mem_putsSince hm

theorem bornAt_put_new {history : List Change} {c : Component} (hk : c.key ∉ (empty.replay history).keys) :
    bornAt c.key (history ++ [.put c]) = history.length := by
  have hp : putsSince c.key history = [] := by
    by_contra h
    exact hk ((mem_keys_replay c.key history).mpr h)
  simp [bornAt, putsSince_concat, Change.removes, Change.put?, hp]

/-- Keys stand in the order of their births. -/
theorem keys_replay_pairwise (history : List Change) :
    (empty.replay history).keys.Pairwise fun k l => bornAt k history < bornAt l history := by
  induction history using List.reverseRecOn with
  | nil => exact List.Pairwise.nil
  | append_singleton history ch ih =>
    -- keys that were there and stay keep their births
    have hstay (ks : List String) (hs : ks.Sublist (empty.replay history).keys)
        (hr : ∀ k ∈ ks, ch.removes k = false) :
        ks.Pairwise fun k l => bornAt k (history ++ [ch]) < bornAt l (history ++ [ch]) := by
      refine (ih.sublist hs).imp_of_mem fun {k l} hk hl h => ?_
      rwa [bornAt_concat (hr k hk) (hs.subset hk), bornAt_concat (hr l hl) (hs.subset hl)]
    rw [replay_concat]
    cases ch with
    | put c =>
      have hold := hstay _ (List.Sublist.refl _) fun _ _ => rfl
      rw [change, keys_put]
      split_ifs with hk
      · exact hold
      · refine List.pairwise_append.mpr ⟨hold, List.pairwise_singleton _ _, ?_⟩
        rintro k hks l hl
        rw [List.mem_singleton.mp hl, bornAt_put_new hk, bornAt_concat rfl hks]
        exact bornAt_lt hks
    | putReference r => exact hstay _ (List.Sublist.refl _) fun _ _ => rfl
    | retain names =>
      rw [change, keys_retain]
      refine hstay _ List.filter_sublist fun k hk => ?_
      simpa [Change.removes] using (List.mem_filter.mp hk).2
    | clear => exact List.Pairwise.nil

structure Recounts (history : List Change) (s : Store) : Prop where
  keys_nodup : (s.components.map fun c => key c.name).Nodup
  get? : ∀ n c, s.get? n = some c ↔ c ∈ s.components ∧ key c.name = key n
  has : ∀ n, s.has n = true ↔ ∃ c ∈ s.components, key c.name = key n
  size : s.size = s.components.length
  names : s.names = s.components.map Component.name
  stored : ∀ k, (∃ c ∈ s.components, key c.name = k) ↔ putsSince k history ≠ []
  spelling : ∀ c ∈ s.components, ∃ first latest,
    (putsSince (key c.name) history).head? = some first ∧
      (putsSince (key c.name) history).getLast? = some latest ∧
      c = { latest.1 with name := first.1.name }
  order : s.components.Pairwise fun c d => bornAt (key c.name) history < bornAt (key d.name) history
  retain_components : ∀ names, (s.retain names).components =
    s.components.filter fun c => decide (key c.name ∈ names.map key)
  retain_count : ∀ names, s.staleCount names + (s.retain names).size = s.size
  retain_references : ∀ names, (s.retain names).references =
    s.references.filter fun r => !decide (s.has r.typeName = true ∧ key r.typeName ∉ names.map key)

theorem Distinct.get?_eq_some_iff {s : Store} (h : s.Distinct) (n : String) (c : Component) :
    s.get? n = some c ↔ c ∈ s.components ∧ key c.name = key n :=
  h.componentAt?_eq_some_iff

theorem has_iff (s : Store) (n : String) : s.has n = true ↔ key n ∈ s.keys :=
  componentAt?_isSome

theorem mem_keys {s : Store} {k : String} : k ∈ s.keys ↔ ∃ c ∈ s.components, key c.name = k :=
  List.mem_map

theorem staleCount_add_size (s : Store) (names : List String) :
    s.staleCount names + (s.retain names).size = s.size := by
  have h := List.length_eq_length_filter_add (l := s.components) fun c => (names.map key).contains c.key
  rw [staleCount, size, size, retain_components, h, Nat.add_comm]

theorem survivor_eq_some {puts : List (Component × ℕ)} {c : Component} (h : survivor puts = some c) :
    ∃ first latest, puts.head? = some first ∧ puts.getLast? = some latest ∧
      c = { latest.1 with name := first.1.name } := by
  cases puts with
  | nil => cases h
  | cons first rest =>
    refine ⟨first, (first :: rest).getLast (by simp), rfl, List.getLast?_eq_some_getLast (by simp), ?_⟩
    exact (Option.some.inj h).symm

/-- A store is what its history tells. -/
theorem recounts_replay (history : List Change) : Recounts history (empty.replay history) := by
  have hd : (empty.replay history).Distinct := distinct_empty.replay history
  refine
    { keys_nodup := hd.keys
      get? := hd.get?_eq_some_iff
      has := fun n => (has_iff _ n).trans mem_keys
      size := rfl
      names := rfl
      stored := fun k => mem_keys.symm.trans (mem_keys_replay k history)
      spelling := ?_
      order := ?_
      retain_components := ?_
      retain_count := staleCount_add_size _
      retain_references := ?_ }
  · intro c hc
    have hs := hd.componentAt?_eq_some_iff.mpr ⟨hc, rfl⟩
    rw [componentAt?_replay] at hs
    exact survivor_eq_some hs
  · have ho := keys_replay_pairwise history
    rw [keys, List.pairwise_map] at ho
    exact ho
  · intro names
    refine (retain_components _ names).trans (List.filter_congr fun c _ => ?_)
    rw [Bool.eq_iff_iff, List.contains_iff_mem, decide_eq_true_iff, Component.key]
  · intro names
    refine (retain_references _ names).trans (List.filter_congr fun r _ => ?_)
    congr 1
    rw [Bool.eq_iff_iff, decide_eq_true_iff, decide_eq_true_iff, has_iff, ApiReference.key]

end Catalog.Store
