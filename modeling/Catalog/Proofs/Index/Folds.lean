import Catalog.Proofs.Index.Phases
import Mathlib.Data.List.Induction

/-! What the phases of a build make of the component under one key: phase one leaves the last entry given under it,
phase two completes that by the pages about it, phase three adds its examples. -/
namespace Catalog

def Component.completed (c : Component) (pages : List PageFacts) : Component :=
  { c with
    description := (pages.filterMap PageFacts.description).getLast?.or c.description
    related := (pages.getLast?.map PageFacts.related).getD c.related }

def Component.illustrated (examplesOf : String → List Example) (c : Component) : Component :=
  if examplesOf c.name = [] then c else { c with examples := examplesOf c.name }

theorem Component.completed_concat (c : Component) (pages : List PageFacts) (page : PageFacts) :
    c.completed (pages ++ [page]) = Build.documented (c.completed pages) page := by
  cases hd : page.description <;> simp [completed, Build.documented, hd, List.filterMap_append]

theorem Component.name_illustrated (examplesOf : String → List Example) (c : Component) :
    (c.illustrated examplesOf).name = c.name := by
  rw [illustrated]
  split_ifs <;> rfl

/-- A component without examples gets whatever examples there are. -/
theorem Component.illustrated_of_examples_eq_nil {examplesOf : String → List Example} {c : Component}
    (h : c.examples = []) : c.illustrated examplesOf = { c with examples := examplesOf c.name } := by
  rw [illustrated]
  split_ifs with hx
  · rw [hx, ← h]
  · rfl

namespace Store

variable {s : Store} {c : Component} {k : String}

theorem get?_eq (s : Store) (name : String) : s.get? name = s.componentAt? (key name) := rfl

theorem key_of_componentAt? (h : s.componentAt? k = some c) : c.key = k :=
  (Keyed.mem_of_find? h).2

theorem componentAt?_put_of_name_eq {d : Component} (h : s.componentAt? k = some c) (hd : d.name = c.name) :
    (s.put d).componentAt? k = some d := by
  have hk : d.key = k := by rw [Component.key, hd]; exact key_of_componentAt? h
  subst hk
  rw [componentAt?_put_self, h]
  simp [Component.named, ← hd]

/-- What is under a key after a component was put there. -/
def inherit (old : Option Component) (c : Component) : Option Component :=
  some ((old.map (·.named c)).getD c)

theorem componentAt?_install (s : Store) (e : Component × ApiReference) (k : String) :
    (s.install e).componentAt? k = if e.1.key = k then inherit (s.componentAt? k) e.1 else s.componentAt? k := by
  rw [install, putReference_componentAt?]
  split_ifs with h
  · subst h
    exact componentAt?_put_self s e.1
  · exact componentAt?_put_of_ne fun e' => h e'.symm

/-- Under a key is what the entries given under it make of what was there. -/
theorem componentAt?_foldl_install (s : Store) (es : List (Component × ApiReference)) (k : String) :
    (es.foldl install s).componentAt? k =
      ((es.map Prod.fst).filter fun c => c.key = k).foldl inherit (s.componentAt? k) := by
  induction es generalizing s with
  | nil => rfl
  | cons e es ih =>
    rw [List.foldl_cons, ih, componentAt?_install]
    by_cases he : e.1.key = k
    · rw [if_pos he, List.map_cons, List.filter_cons_of_pos (by simpa using he), List.foldl_cons]
    · rw [if_neg he, List.map_cons, List.filter_cons_of_neg (by simpa using he)]

/-- The last of several components that are put under a key remains, spelled as before, or like the first one. -/
theorem foldl_inherit_concat (old : Option Component) (cs : List Component) (last : Component) :
    (cs ++ [last]).foldl inherit old =
      some { last with name := ((old.or cs.head?).map Component.name).getD last.name } := by
  induction cs generalizing old with
  | nil => cases old <;> rfl
  | cons c cs ih =>
    rw [List.cons_append, List.foldl_cons, ih]
    cases old <;> rfl

def about (k : String) (pages : List PageFacts) : List PageFacts :=
  pages.filter fun page => page.componentName.map key = some k

theorem subjectOf_eq {page : PageFacts} (h : page.componentName ≠ some "") :
    Build.subjectOf s page = page.componentName.bind s.get? := by
  rw [Build.subjectOf]
  cases hn : page.componentName with
  | none => rfl
  | some name =>
    have hne : name ≠ "" := fun e => h (e ▸ hn)
    simp [hne]

/-- A page completes the component that it is about, and no other. -/
theorem componentAt?_complete (s : Store) (page : PageFacts) (hk : k ≠ key "") :
    (s.complete page).componentAt? k =
      (s.componentAt? k).map fun c =>
        if page.componentName.map key = some k then Build.documented c page else c := by
  by_cases he : page.componentName = some ""
  · have hne : ¬ (some (key "") = some k) := fun e => hk (Option.some.inj e).symm
    simp [complete, Build.subjectOf, he, hne]
  rw [complete, subjectOf_eq he]
  cases hn : page.componentName with
  | none => simp
  | some name =>
    rw [Option.bind_some, get?_eq]
    cases hs : s.componentAt? (key name) with
    | none =>
      by_cases h : key name = k
      · subst h
        simp [hs]
      · simp [h]
    | some c =>
      by_cases h : key name = k
      · subst h
        have hput := componentAt?_put_of_name_eq (d := Build.documented c page) hs rfl
        simpa [hs] using hput
      · have hc : k ≠ (Build.documented c page).key := fun e => h ((key_of_componentAt? hs).symm.trans e.symm)
        simp [h, componentAt?_put_of_ne hc]

theorem componentAt?_foldl_complete (s : Store) (pages : List PageFacts) (hk : k ≠ key "") :
    (pages.foldl complete s).componentAt? k = (s.componentAt? k).map (·.completed (about k pages)) := by
  induction pages using List.reverseRecOn with
  | nil =>
    rw [List.foldl_nil]
    cases s.componentAt? k <;> rfl
  | append_singleton pages page ih =>
    rw [List.foldl_append, List.foldl_cons, List.foldl_nil, componentAt?_complete _ page hk, ih]
    cases s.componentAt? k with
    | none => rfl
    | some c =>
      by_cases h : page.componentName.map key = some k
      · have ha : about k (pages ++ [page]) = about k pages ++ [page] := by
          rw [about, List.filter_append, List.filter_singleton, decide_eq_true h]
          rfl
        rw [ha, Option.map_some, Option.map_some, if_pos h, Option.map_some, Component.completed_concat]
      · have ha : about k (pages ++ [page]) = about k pages := by
          rw [about, List.filter_append, List.filter_singleton, decide_eq_false h]
          exact List.append_nil _
        rw [ha, Option.map_some, Option.map_some, if_neg h]

theorem componentAt?_illustrate_self {examplesOf : String → List Example} (h : s.componentAt? c.key = some c) :
    (s.illustrate examplesOf c).componentAt? c.key = some (c.illustrated examplesOf) := by
  rw [illustrate, Component.illustrated]
  split_ifs with hx
  · exact h
  · exact componentAt?_put_of_name_eq h rfl

theorem componentAt?_illustrate_of_ne {examplesOf : String → List Example} (h : k ≠ c.key) :
    (s.illustrate examplesOf c).componentAt? k = s.componentAt? k := by
  rw [illustrate]
  split_ifs with hx
  · rfl
  · exact componentAt?_put_of_ne h

theorem componentAt?_foldl_illustrate_of_notMem {examplesOf : String → List Example} {cs : List Component}
    (h : k ∉ cs.map Component.key) : (cs.foldl (illustrate examplesOf) s).componentAt? k = s.componentAt? k := by
  induction cs generalizing s with
  | nil => rfl
  | cons c cs ih =>
    rw [List.map_cons, List.mem_cons, not_or] at h
    rw [List.foldl_cons, ih h.2, componentAt?_illustrate_of_ne h.1]

/-- Each of several stored components of different keys gets its own examples. -/
theorem componentAt?_foldl_illustrate_of_mem {examplesOf : String → List Example} {cs : List Component}
    (hn : (cs.map Component.key).Nodup) (hs : ∀ c ∈ cs, s.componentAt? c.key = some c) (hc : c ∈ cs) :
    (cs.foldl (illustrate examplesOf) s).componentAt? c.key = some (c.illustrated examplesOf) := by
  induction cs generalizing s with
  | nil => cases hc
  | cons d cs ih =>
    rw [List.map_cons, List.nodup_cons] at hn
    have hd : s.componentAt? d.key = some d := hs d List.mem_cons_self
    rw [List.foldl_cons]
    rcases List.mem_cons.mp hc with rfl | hc
    · rw [componentAt?_foldl_illustrate_of_notMem hn.1]
      exact componentAt?_illustrate_self hd
    · refine ih hn.2 (fun e he => ?_) hc
      have hne : e.key ≠ d.key := fun h => hn.1 (h ▸ List.mem_map_of_mem he)
      rw [componentAt?_illustrate_of_ne hne]
      exact hs e (List.mem_cons_of_mem d he)

/-- Phase three gives every stored component its examples. -/
theorem componentAt?_foldl_illustrate (examplesOf : String → List Example) (h : s.Distinct) (k : String) :
    (s.components.foldl (illustrate examplesOf) s).componentAt? k =
      (s.componentAt? k).map (·.illustrated examplesOf) := by
  cases hs : s.componentAt? k with
  | none =>
    have hk : k ∉ s.components.map Component.key := Keyed.find?_eq_none_iff.mp hs
    rw [componentAt?_foldl_illustrate_of_notMem hk, hs]
    rfl
  | some c =>
    obtain ⟨hc, rfl⟩ := h.componentAt?_eq_some_iff.mp hs
    exact componentAt?_foldl_illustrate_of_mem h.keys (fun d hd => h.componentAt?_eq_some_iff.mpr ⟨hd, rfl⟩) hc

theorem keys_illustrate {examplesOf : String → List Example} (h : c.key ∈ s.keys) :
    (s.illustrate examplesOf c).keys = s.keys := by
  rw [illustrate]
  split_ifs
  · rfl
  · exact keys_put_of_mem h

/-- The examples of stored components add no key. -/
theorem keys_foldl_illustrate {examplesOf : String → List Example} {cs : List Component}
    (h : ∀ c ∈ cs, c.key ∈ s.keys) : (cs.foldl (illustrate examplesOf) s).keys = s.keys := by
  induction cs generalizing s with
  | nil => rfl
  | cons c cs ih =>
    have hc : (s.illustrate examplesOf c).keys = s.keys := keys_illustrate (h c List.mem_cons_self)
    rw [List.foldl_cons, ih, hc]
    intro d hd
    rw [hc]
    exact h d (List.mem_cons_of_mem c hd)

theorem Distinct.foldl {α : Type} {f : Store → α → Store} (hf : ∀ s a, s.Distinct → (f s a).Distinct)
    (h : s.Distinct) (l : List α) : (l.foldl f s).Distinct := by
  induction l generalizing s with
  | nil => exact h
  | cons a l ih => exact ih (hf s a h)

theorem Distinct.install (h : s.Distinct) (e : Component × ApiReference) : (s.install e).Distinct :=
  (h.put e.1).putReference e.2

theorem Distinct.complete (h : s.Distinct) (page : PageFacts) : (s.complete page).Distinct := by
  rw [Store.complete]
  cases Build.subjectOf s page with
  | none => exact h
  | some c => exact h.put _

theorem Distinct.illustrate (h : s.Distinct) (examplesOf : String → List Example) (c : Component) :
    (s.illustrate examplesOf c).Distinct := by
  rw [Store.illustrate]
  split_ifs
  · exact h
  · exact h.put _

end Store
end Catalog
