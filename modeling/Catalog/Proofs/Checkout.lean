import Catalog.Checkout
import Catalog.Proofs.Files.Listing
import Catalog.Proofs.Text.Case

/-! What is found in a checkout: of each folder its main file, and of the roots of components the folders that hold
one, in order and each once ignoring case. -/
namespace Catalog.Checkout

open Text

variable {w : Workspace} {repository root d e p : Path}

section MainFile

def HoldsCode (w : Workspace) (d p : Path) : Prop :=
  w.Holds d p ∧ w.isFile p = true ∧ namePrefix.toList <+: p.name.toList ∧ ".cs".toList <:+ p.name.toList

def IsMarkupCode (p : Path) : Prop :=
  markupCodeSuffix.toList <:+ p.name.toList

/-- A code file that does not belong to markup even if the case of letters is ignored. -/
def IsPlainCode (p : Path) : Prop :=
  ¬ markupCodeSuffix.toList <:+ (lower p.name).toList

/-- A code file that belongs to markup only if the case of letters is ignored. -/
def IsMiscased (p : Path) : Prop :=
  ¬ IsPlainCode p ∧ ¬ IsMarkupCode p

def IsFirst (q : Path → Prop) (p : Path) : Prop :=
  q p ∧ ∀ r, q r → p = r ∨ p.parts < r.parts

/-- What is found as the main file of a folder: something if the folder holds a code file that is not miscased, and then
the first one of markup, or the first plain one if there is none of markup. -/
structure FindsMain (w : Workspace) (d : Path) (found : Option Path) : Prop where
  isSome_iff : found.isSome = true ↔ ∃ p, HoldsCode w d p ∧ ¬ IsMiscased p
  markup : (∃ p, HoldsCode w d p ∧ IsMarkupCode p) →
    ∃ p, found = some p ∧ IsFirst (fun p => HoldsCode w d p ∧ IsMarkupCode p) p
  plain : (¬ ∃ p, HoldsCode w d p ∧ IsMarkupCode p) →
    ∀ p, found = some p → IsFirst (fun p => HoldsCode w d p ∧ IsPlainCode p) p

theorem finishesWith_iff {text tail : String} : finishesWith text tail = true ↔ tail.toList <:+ text.toList :=
  List.isSuffixOf_iff_suffix

def codeFiles (w : Workspace) (d : Path) : List Path :=
  (w.entries d).filter (isComponentFile w)

theorem mem_codeFiles : p ∈ codeFiles w d ↔ HoldsCode w d p := by
  rw [codeFiles, List.mem_filter, Workspace.mem_entries, isComponentFile, Bool.and_eq_true, Bool.and_eq_true,
    finishesWith_iff, beginsWith, List.isPrefixOf_iff_prefix, and_assoc]
  rfl

/-- The first code file that passes a test is the first one of those that do. -/
theorem isFirst_of_find? {test : Path → Bool} {q : Path → Prop} (htest : ∀ p, test p = true ↔ q p)
    (h : (codeFiles w d).find? test = some p) : IsFirst (fun p => HoldsCode w d p ∧ q p) p := by
  obtain ⟨hp, before, after, hfiles, hbefore⟩ := List.find?_eq_some_iff_append.mp h
  have hsorted : (codeFiles w d).Pairwise fun p r => p = r ∨ p.parts < r.parts :=
    (w.pairwise_entries d).filter _
  refine ⟨⟨mem_codeFiles.mp (List.mem_of_find?_eq_some h), (htest p).mp hp⟩, ?_⟩
  rintro r ⟨hr, hqr⟩
  have hmem := mem_codeFiles.mpr hr
  rw [hfiles] at hmem hsorted
  rcases List.mem_append.mp hmem with hr | hr
  · have hfails := hbefore r hr
    rw [(htest r).mpr hqr] at hfails
    cases hfails
  · rcases List.mem_cons.mp hr with rfl | hr
    · exact .inl rfl
    · exact (List.pairwise_cons.mp (List.pairwise_append.mp hsorted).2.1).1 r hr

theorem isMarkup_iff (p : Path) : finishesWith p.name markupCodeSuffix = true ↔ IsMarkupCode p :=
  finishesWith_iff

theorem isPlain_iff (p : Path) : (!finishesWith (lower p.name) markupCodeSuffix) = true ↔ IsPlainCode p := by
  rw [Bool.not_eq_true', ← Bool.not_eq_true, finishesWith_iff]
  rfl

theorem findsMain_mainFile? (w : Workspace) (d : Path) : FindsMain w d (mainFile? w d) := by
  show FindsMain w d (chooseMainFile (codeFiles w d))
  unfold chooseMainFile
  cases hmarkup : (codeFiles w d).find? fun p => finishesWith p.name markupCodeSuffix with
  | some p =>
    have hfirst := isFirst_of_find? isMarkup_iff hmarkup
    exact
      { isSome_iff := iff_of_true rfl ⟨p, hfirst.1.1, fun hmiscased => hmiscased.2 hfirst.1.2⟩
        markup := fun _ => ⟨p, rfl, hfirst⟩
        plain := fun hnone => absurd ⟨p, hfirst.1⟩ hnone }
  | none =>
    have hnone : ∀ p, HoldsCode w d p → ¬ IsMarkupCode p := fun p hp hq =>
      List.find?_eq_none.mp hmarkup p (mem_codeFiles.mpr hp) ((isMarkup_iff p).mpr hq)
    refine
      { isSome_iff := ?_
        markup := fun ⟨p, hp, hq⟩ => absurd hq (hnone p hp)
        plain := fun _ p hp => isFirst_of_find? isPlain_iff hp }
    rw [List.find?_isSome]
    constructor
    · rintro ⟨p, hp, hplain⟩
      exact ⟨p, mem_codeFiles.mp hp, fun hmiscased => hmiscased.1 ((isPlain_iff p).mp hplain)⟩
    · rintro ⟨p, hp, hcased⟩
      have hplain : IsPlainCode p := by
        by_contra hplain
        exact hcased ⟨hplain, hnone p hp⟩
      exact ⟨p, mem_codeFiles.mpr hp, (isPlain_iff p).mpr hplain⟩

end MainFile

section Kept

variable {seen : List String} {paths : List Path} {precedes : Path → Path → Prop}

def folded (p : Path) : String :=
  lower p.text

theorem map_text_distinctPaths (seen : List String) (paths : List Path) :
    (distinctPaths seen paths).map Path.text = distinctIgnoringCase seen (paths.map Path.text) := by
  induction paths generalizing seen with
  | nil => rfl
  | cons p paths ih =>
    rw [distinctPaths, List.map_cons, distinctIgnoringCase]
    split_ifs
    · exact ih seen
    · exact congrArg (p.text :: ·) (ih _)

theorem nodup_folded_distinctPaths (seen : List String) (paths : List Path) :
    ((distinctPaths seen paths).map folded).Nodup := by
  have hnodup := nodup_map_lower_distinct seen (paths.map Path.text)
  rwa [← map_text_distinctPaths, List.map_map] at hnodup

theorem distinctPaths_sublist (seen : List String) (paths : List Path) : (distinctPaths seen paths).Sublist paths := by
  induction paths generalizing seen with
  | nil => exact List.Sublist.refl _
  | cons p paths ih =>
    rw [distinctPaths]
    split_ifs
    · exact (ih seen).cons p
    · exact (ih _).cons_cons p

theorem folded_notMem_of_mem (h : p ∈ distinctPaths seen paths) : folded p ∉ seen := by
  have hkept : folded p ∈ (distinctIgnoringCase seen (paths.map Path.text)).map lower := by
    rw [← map_text_distinctPaths]
    exact List.mem_map_of_mem (List.mem_map_of_mem h)
  exact (mem_map_lower_distinct.mp hkept).2

/-- Behind some paths, those are left out too that equal one of these. -/
theorem exists_distinctPaths_append (seen : List String) (paths others : List Path) :
    ∃ seen', (∀ k, k ∈ seen' ↔ k ∈ seen ∨ k ∈ paths.map folded) ∧
      distinctPaths seen (paths ++ others) = distinctPaths seen paths ++ distinctPaths seen' others := by
  induction paths generalizing seen with
  | nil => exact ⟨seen, by simp, rfl⟩
  | cons p paths ih =>
    rw [List.cons_append, distinctPaths, distinctPaths]
    split_ifs with hp
    · obtain ⟨seen', hseen', heq⟩ := ih seen
      refine ⟨seen', fun k => ?_, heq⟩
      have hknown : k = folded p → k ∈ seen := fun h => h ▸ List.contains_iff_mem.mp hp
      rw [hseen', List.map_cons, List.mem_cons]
      tauto
    · obtain ⟨seen', hseen', heq⟩ := ih (folded p :: seen)
      refine ⟨seen', fun k => ?_, congrArg (p :: ·) heq⟩
      rw [hseen', List.map_cons, List.mem_cons, List.mem_cons]
      tauto

/-- What is kept of some paths is in order, and a path that is left out for one of them stands behind the one that is
kept. -/
structure KeepsFirst (precedes : Path → Path → Prop) (seen : List String) (paths : List Path) : Prop where
  ordered : (distinctPaths seen paths).Pairwise precedes
  covered : ∀ p ∈ paths, folded p ∉ seen →
    ∃ e ∈ distinctPaths seen paths, folded e = folded p ∧ (e = p ∨ precedes e p)

theorem keepsFirst_singleton (precedes : Path → Path → Prop) (seen : List String) (p : Path) :
    KeepsFirst precedes seen [p] := by
  constructor
  · exact List.Pairwise.sublist (distinctPaths_sublist seen [p]) (List.pairwise_singleton _ _)
  · intro q hq hnew
    obtain rfl := List.mem_singleton.mp hq
    have hkept : ¬ seen.contains (lower q.text) = true := fun h => hnew (List.contains_iff_mem.mp h)
    rw [distinctPaths, if_neg hkept]
    exact ⟨q, List.mem_cons_self, rfl, .inl rfl⟩

/-- The first ones are kept of groups of paths, if they are kept of each group and the groups are in order but for
repetitions. -/
theorem keepsFirst_flatMap {α : Type} {groups : List α} {f : α → List Path}
    (hgroups : groups.Pairwise fun a b => a = b ∨ ∀ p ∈ f a, ∀ q ∈ f b, precedes p q)
    (hf : ∀ a ∈ groups, ∀ seen, KeepsFirst precedes seen (f a)) (seen : List String) :
    KeepsFirst precedes seen (groups.flatMap f) := by
  induction groups generalizing seen with
  | nil => exact ⟨List.Pairwise.nil, nofun⟩
  | cons a groups ih =>
    obtain ⟨hfirst, hrest⟩ := List.pairwise_cons.mp hgroups
    obtain ⟨hown, hothers⟩ := List.forall_mem_cons.mp hf
    obtain ⟨seen', hseen', heq⟩ := exists_distinctPaths_append seen (f a) (groups.flatMap f)
    have hlater := ih hrest hothers seen'
    rw [List.flatMap_cons]
    constructor
    · rw [heq, List.pairwise_append]
      refine ⟨(hown seen).ordered, hlater.ordered, fun p hp q hq => ?_⟩
      obtain ⟨b, hb, hqb⟩ := List.mem_flatMap.mp ((distinctPaths_sublist _ _).subset hq)
      rcases hfirst b hb with rfl | hprecedes
      · exact absurd ((hseen' _).mpr (.inr (List.mem_map_of_mem hqb))) (folded_notMem_of_mem hq)
      · exact hprecedes p ((distinctPaths_sublist _ _).subset hp) q hqb
    · intro p hp hnew
      rw [heq]
      by_cases hsame : folded p ∈ (f a).map folded
      · obtain ⟨q, hq, hqp⟩ := List.mem_map.mp hsame
        -- the path that stands in the first group is the path itself, or one that equals it
        have hearlier : p ∈ f a ∨ ∀ e ∈ f a, precedes e p := by
          rcases List.mem_append.mp hp with hp | hp
          · exact .inl hp
          · obtain ⟨b, hb, hpb⟩ := List.mem_flatMap.mp hp
            rcases hfirst b hb with rfl | hprecedes
            · exact .inl hpb
            · exact .inr fun e he => hprecedes e he p hpb
        rcases hearlier with hp | hprecedes
        · obtain ⟨e, he, hep, horder⟩ := (hown seen).covered p hp hnew
          exact ⟨e, List.mem_append_left _ he, hep, horder⟩
        · obtain ⟨e, he, heq, -⟩ := (hown seen).covered q hq (hqp ▸ hnew)
          exact ⟨e, List.mem_append_left _ he, heq.trans hqp,
            .inr (hprecedes e ((distinctPaths_sublist _ _).subset he))⟩
      · have hp : p ∈ groups.flatMap f :=
          (List.mem_append.mp hp).resolve_left fun h => hsame (List.mem_map_of_mem h)
        obtain ⟨e, he, hep, horder⟩ := hlater.covered p hp fun h => ((hseen' _).mp h).elim hnew hsame
        exact ⟨e, List.mem_append_right _ he, hep, horder⟩

end Kept

section Folders

def HoldsFolder (w : Workspace) (p q : Path) : Prop :=
  w.Holds p q ∧ w.isFolder q = true

/-- The folders of a root that hold components: those in the root with a main file, and those in one without. -/
inductive IsComponentFolder (w : Workspace) (root : Path) : Path → Prop where
  | own {d : Path} (hd : HoldsFolder w root d) (hmain : (mainFile? w d).isSome = true) : IsComponentFolder w root d
  | nested {first d : Path} (hfirst : HoldsFolder w root first) (hmain : mainFile? w first = none)
      (hd : HoldsFolder w first d) : IsComponentFolder w root d

def rootNumber (repository d : Path) : ℕ :=
  componentRoots.findIdx fun root => (repository.append root).parts.isPrefixOf d.parts

/-- One path comes before the other: by their roots, then by their names. -/
def Precedes (repository d e : Path) : Prop :=
  rootNumber repository d < rootNumber repository e ∨
    rootNumber repository d = rootNumber repository e ∧ d.parts < e.parts

/-- What is found are the component folders of the roots, in order, each once ignoring case, and none in another. -/
structure Discovers (w : Workspace) (repository : Path) (found : List Path) : Prop where
  distinct : (found.map folded).Nodup
  apart : ∀ d ∈ found, ∀ e ∈ found, ¬ d.IsAbove e
  ordered : found.Pairwise (Precedes repository)
  sound : ∀ d ∈ found, ∃ root ∈ componentRoots, IsComponentFolder w (repository.append root) d
  complete : ∀ root ∈ componentRoots, ∀ d, IsComponentFolder w (repository.append root) d →
    d ∈ found ∨ ∃ e ∈ found, Precedes repository e d ∧ folded e = folded d

theorem IsComponentFolder.isPrefix (h : IsComponentFolder w root d) : root.parts <+: d.parts := by
  cases h with
  | own hd _ =>
    obtain ⟨⟨name, -, rfl⟩, -⟩ := hd
    exact List.prefix_append _ _
  | nested hfirst _ hd =>
    obtain ⟨⟨name, -, rfl⟩, -⟩ := hfirst
    obtain ⟨⟨name', -, rfl⟩, -⟩ := hd
    exact (List.prefix_append _ _).trans (List.prefix_append _ _)

/-- No component folder of a root is in another one: what has a main file is not looked into. -/
theorem IsComponentFolder.not_isAbove (hd : IsComponentFolder w root d) (he : IsComponentFolder w root e) :
    ¬ d.IsAbove e := by
  rintro ⟨-, hwithin, hne⟩
  cases hd with
  | own hd hmain =>
    obtain ⟨⟨name, -, rfl⟩, -⟩ := hd
    cases he with
    | own he _ =>
      obtain ⟨⟨other, -, rfl⟩, -⟩ := he
      exact hne (hwithin.eq_of_length (by simp [Path.child]))
    | nested hfirst hnone he =>
      obtain ⟨⟨other, -, rfl⟩, -⟩ := hfirst
      obtain ⟨⟨last, -, rfl⟩, -⟩ := he
      have hsame : name = other := by
        simpa [Path.child, List.prefix_append_right_inj] using hwithin
      rw [hsame, hnone] at hmain
      cases hmain
  | nested hfirst _ hd =>
    obtain ⟨⟨first, -, rfl⟩, -⟩ := hfirst
    obtain ⟨⟨name, -, rfl⟩, -⟩ := hd
    cases he with
    | own he _ =>
      obtain ⟨⟨other, -, rfl⟩, -⟩ := he
      have hlength := hwithin.length_le
      simp [Path.child] at hlength
    | nested hother _ he =>
      obtain ⟨⟨other, -, rfl⟩, -⟩ := hother
      obtain ⟨⟨last, -, rfl⟩, -⟩ := he
      exact hne (hwithin.eq_of_length (by simp [Path.child]))

theorem append_parts (repository : Path) (hroot : root ∈ componentRoots) :
    (repository.append root).parts = repository.parts ++ root.parts := by
  have hrelative : ∀ root ∈ componentRoots, root.root = "" := by decide
  rw [Path.append, if_pos (hrelative root hroot)]

/-- No root is at or below another one. -/
theorem eq_of_isPrefix {a b : Path} (ha : a ∈ componentRoots) (hb : b ∈ componentRoots) {tail : List String}
    (h : a.parts <+: b.parts ++ tail) : a = b := by
  simp only [componentRoots, List.mem_cons, List.not_mem_nil, or_false] at ha hb
  rcases ha with rfl | rfl <;> rcases hb with rfl | rfl
  · rfl
  · simp [List.cons_prefix_cons] at h
  · simp [List.cons_prefix_cons] at h
  · rfl

/-- What is below a root has its number. -/
theorem rootNumber_eq (hroot : root ∈ componentRoots) (h : (repository.append root).parts <+: d.parts) :
    rootNumber repository d = componentRoots.idxOf root := by
  have honly (other : Path) (hother : other ∈ componentRoots) (hd : (repository.append other).parts <+: d.parts) :
      other = root := by
    rw [append_parts repository hroot] at h
    rw [append_parts repository hother] at hd
    obtain ⟨tail, htail⟩ := h
    rw [← htail, List.append_assoc, List.prefix_append_right_inj] at hd
    exact eq_of_isPrefix hother hroot hd
  refine (List.findIdx_eq (List.idxOf_lt_length_of_mem hroot)).mpr ⟨?_, fun j hj => ?_⟩
  · rw [List.getElem_idxOf]
    exact List.isPrefixOf_iff_prefix.mpr h
  · rw [← Bool.not_eq_true, List.isPrefixOf_iff_prefix]
    intro hd
    have hother := List.not_of_lt_findIdx hj
    rw [honly _ (List.getElem_mem _) hd] at hother
    simp at hother

theorem precedes_of_lt (hroot : root ∈ componentRoots) (hd : IsComponentFolder w (repository.append root) d)
    (he : IsComponentFolder w (repository.append root) e) (h : d.parts < e.parts) : Precedes repository d e :=
  .inr ⟨(rootNumber_eq hroot hd.isPrefix).trans (rootNumber_eq hroot he.isPrefix).symm, h⟩

def foldersFrom (w : Workspace) (first : Path) : List Path :=
  if (mainFile? w first).isSome then [first] else w.subfolders first

theorem componentFoldersOf_eq (w : Workspace) (root : Path) :
    componentFoldersOf w root = (w.subfolders root).flatMap (foldersFrom w) := by
  unfold componentFoldersOf
  split_ifs with h
  · rfl
  · rw [Workspace.subfolders_eq_nil (by simpa using h), List.flatMap_nil]

theorem isComponentFolder_of_mem {first : Path} (hfirst : first ∈ w.subfolders root) (hd : d ∈ foldersFrom w first) :
    IsComponentFolder w root d := by
  have hholds := Workspace.mem_subfolders.mp hfirst
  unfold foldersFrom at hd
  split_ifs at hd with hmain
  · obtain rfl := List.mem_singleton.mp hd
    exact .own hholds hmain
  · exact .nested hholds (by simpa using hmain) (Workspace.mem_subfolders.mp hd)

theorem mem_componentFoldersOf : d ∈ componentFoldersOf w root ↔ IsComponentFolder w root d := by
  rw [componentFoldersOf_eq, List.mem_flatMap]
  constructor
  · rintro ⟨first, hfirst, hd⟩
    exact isComponentFolder_of_mem hfirst hd
  · intro h
    cases h with
    | own hd hmain => exact ⟨d, Workspace.mem_subfolders.mpr hd, by simp [foldersFrom, hmain]⟩
    | nested hfirst hmain hd =>
      have hmem := Workspace.mem_subfolders.mpr hd
      exact ⟨_, Workspace.mem_subfolders.mpr hfirst, by simpa [foldersFrom, hmain] using hmem⟩

theorem isPrefix_of_mem_foldersFrom {first : Path} (h : d ∈ foldersFrom w first) : first.parts <+: d.parts := by
  unfold foldersFrom at h
  split_ifs at h
  · obtain rfl := List.mem_singleton.mp h
    exact List.prefix_refl _
  · obtain ⟨⟨name, -, rfl⟩, -⟩ := Workspace.mem_subfolders.mp h
    exact List.prefix_append _ _

theorem keepsFirst_foldersFrom (hroot : root ∈ componentRoots) {first : Path}
    (hfirst : first ∈ w.subfolders (repository.append root)) (seen : List String) :
    KeepsFirst (Precedes repository) seen (foldersFrom w first) := by
  have hcomponents (d : Path) (hd : d ∈ foldersFrom w first) := isComponentFolder_of_mem hfirst hd
  unfold foldersFrom at hcomponents ⊢
  split_ifs at hcomponents ⊢
  · exact keepsFirst_singleton _ seen first
  · rw [← List.flatMap_singleton' (w.subfolders first)]
    refine keepsFirst_flatMap ?_ (fun d _ seen => keepsFirst_singleton _ seen d) seen
    refine (w.pairwise_subfolders first).imp_of_mem fun {d e} hd he horder => horder.imp_right fun hlt => ?_
    intro p hp q hq
    rw [List.mem_singleton.mp hp, List.mem_singleton.mp hq]
    exact precedes_of_lt hroot (hcomponents d hd) (hcomponents e he) hlt

theorem keepsFirst_componentFoldersOf (hroot : root ∈ componentRoots) (seen : List String) :
    KeepsFirst (Precedes repository) seen (componentFoldersOf w (repository.append root)) := by
  rw [componentFoldersOf_eq]
  refine keepsFirst_flatMap ?_ (fun first hfirst seen => keepsFirst_foldersFrom hroot hfirst seen) seen
  refine (w.pairwise_subfolders _).imp_of_mem fun {a b} ha hb horder => horder.imp_right fun hlt p hp q hq => ?_
  refine precedes_of_lt hroot (isComponentFolder_of_mem ha hp) (isComponentFolder_of_mem hb hq) ?_
  obtain ⟨s, hs⟩ := isPrefix_of_mem_foldersFrom hp
  obtain ⟨t, ht⟩ := isPrefix_of_mem_foldersFrom hq
  obtain ⟨⟨x, -, rfl⟩, -⟩ := Workspace.mem_subfolders.mp ha
  obtain ⟨⟨y, -, rfl⟩, -⟩ := Workspace.mem_subfolders.mp hb
  rw [← hs, ← ht]
  exact Path.append_lt_append_of_child hlt s t

theorem keepsFirst_componentFolders (w : Workspace) (repository : Path) :
    KeepsFirst (Precedes repository) []
      (componentRoots.flatMap fun root => componentFoldersOf w (repository.append root)) := by
  refine keepsFirst_flatMap ?_ (fun root hroot seen => keepsFirst_componentFoldersOf hroot seen) []
  have hnumbers : componentRoots.Pairwise fun a b => componentRoots.idxOf a < componentRoots.idxOf b := by decide
  refine hnumbers.imp_of_mem fun {a b} ha hb hlt => .inr fun p hp q hq => .inl ?_
  rwa [rootNumber_eq ha (mem_componentFoldersOf.mp hp).isPrefix,
    rootNumber_eq hb (mem_componentFoldersOf.mp hq).isPrefix]

/-- Of every checkout the component folders are found, and of every folder the main file; what a folder holds is what
there is in it. -/
theorem componentFolders_discovers (w : Workspace) (repository : Path) :
    Discovers w repository (componentFolders w repository) ∧ (∀ d, FindsMain w d (mainFile? w d)) ∧
      ∀ d name, name ≠ ".." → (w.Holds d (d.child name) ↔ w.isFolder d = true ∧ w.exists? (d.child name) = true) := by
  have hkept := keepsFirst_componentFolders w repository
  have hsound (d : Path) (hd : d ∈ componentFolders w repository) :
      ∃ root ∈ componentRoots, IsComponentFolder w (repository.append root) d := by
    obtain ⟨root, hroot, hd⟩ := List.mem_flatMap.mp ((distinctPaths_sublist _ _).subset hd)
    exact ⟨root, hroot, mem_componentFoldersOf.mp hd⟩
  refine ⟨?_, findsMain_mainFile? w, fun d name hname => Workspace.holds_child_iff hname⟩
  exact
    { distinct := nodup_folded_distinctPaths _ _
      apart := fun d hd e he habove => by
        obtain ⟨a, ha, hd⟩ := hsound d hd
        obtain ⟨b, hb, he⟩ := hsound e he
        -- a folder in another one is below the same root
        have hnumber : componentRoots.idxOf a = componentRoots.idxOf b :=
          (rootNumber_eq ha (hd.isPrefix.trans habove.2.1)).symm.trans (rootNumber_eq hb he.isPrefix)
        obtain rfl := (List.idxOf_inj ha).mp hnumber
        exact hd.not_isAbove he habove
      ordered := hkept.ordered
      sound := hsound
      complete := fun root hroot d hd => by
        have hmem : d ∈ componentRoots.flatMap fun root => componentFoldersOf w (repository.append root) :=
          List.mem_flatMap.mpr ⟨root, hroot, mem_componentFoldersOf.mpr hd⟩
        obtain ⟨e, he, hsame, rfl | hprecedes⟩ := hkept.covered d hmem List.not_mem_nil
        · exact .inl he
        · exact .inr ⟨e, he, hprecedes, hsame⟩ }

end Folders

end Catalog.Checkout
