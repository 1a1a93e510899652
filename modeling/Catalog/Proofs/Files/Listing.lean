import Catalog.Files.Tree
import Catalog.Proofs.Lists
import Mathlib.Data.List.Lex
import Mathlib.Data.String.Basic

/-! Listings of folders: paths are in the order of their names, and a listing tells what a folder holds, in that
order. -/
namespace Catalog

namespace Path

variable {p q : Path} {a b : String}

theorem nameBefore_iff : nameBefore a b = true ↔ a < b := by
  have hchar : (fun c d : Char => Nat.blt c.toNat d.toNat = true) = fun c d => c < d := by
    funext c d
    rw [Nat.blt_eq]
    rfl
  rw [nameBefore, List.lex_eq_true_iff_lex, hchar, String.lt_iff_toList_lt]
  rfl

/-- Paths are compared by their roots, then by one name after another. -/
theorem le_iff : p.le q = true ↔ p.root :: p.parts ≤ q.root :: q.parts := by
  have hnames : (fun a b : String => nameBefore a b = true) = fun a b => a < b := by
    funext a b
    exact propext nameBefore_iff
  rw [le, Bool.not_eq_true', List.lex_eq_false_iff_not_lex, hnames]
  show ¬ (q.root :: q.parts < p.root :: p.parts) ↔ _
  exact not_lt

theorem pairwise_sort (paths : List Path) :
    (sort paths).Pairwise fun p q => p.root :: p.parts ≤ q.root :: q.parts := by
  refine (List.pairwise_mergeSort (fun p q r hpq hqr => ?_) (fun p q => ?_) paths).imp le_iff.mp
  · exact le_iff.mpr (le_trans (le_iff.mp hpq) (le_iff.mp hqr))
  · rw [Bool.or_eq_true, le_iff, le_iff]
    exact le_total _ _

theorem mem_sort {paths : List Path} : p ∈ sort paths ↔ p ∈ paths :=
  List.mem_mergeSort

/-- What is below two paths of one folder stands in the order of these. -/
theorem append_lt_append_of_child (h : (p.child a).parts < (p.child b).parts) (s t : List String) :
    (p.child a).parts ++ s < (p.child b).parts ++ t := by
  have hlt : a < b := by
    by_contra hge
    rcases lt_or_eq_of_le (not_lt.mp hge) with hlt | rfl
    · exact lt_asymm h (List.append_left_lt (List.cons_lt_cons_iff.mpr (.inl hlt)))
    · exact lt_irrefl _ h
  rw [child, child, List.append_assoc, List.append_assoc]
  exact List.append_left_lt (List.cons_lt_cons_iff.mpr (.inl hlt))

/-- Whether one path leads to a folder on the way to the other one. -/
def IsAbove (p q : Path) : Prop :=
  p.root = q.root ∧ p.parts <+: q.parts ∧ p.parts ≠ q.parts

end Path

namespace Workspace

variable {w : Workspace} {p q : Path} {name : String}

def Holds (w : Workspace) (p q : Path) : Prop :=
  ∃ name ∈ w.list p, q = p.child name

/-- A path of a name below a folder leads to what has the name in the folder. -/
theorem resolve_child {parts : List String} (hp : w.tree.resolve w.here p = some parts) (hname : name ≠ "..")
    (hfolder : w.tree.hasFolder parts = true) : w.tree.resolve w.here (p.child name) = some (parts ++ [name]) := by
  unfold FileTree.resolve at hp ⊢
  show w.tree.follow (if p.root = "" then w.here else []) (p.parts ++ [name]) = _
  generalize (if p.root = "" then w.here else []) = start, p.parts = names at hp
  induction names generalizing start with
  | nil =>
    obtain rfl : start = parts := Option.some.inj hp
    simp [FileTree.follow, hfolder, hname]
  | cons part rest ih =>
    rw [FileTree.follow] at hp
    rw [List.cons_append, FileTree.follow]
    split_ifs at hp ⊢
    · exact ih _ hp
    · exact ih _ hp

theorem eq_concat_iff {parts q : List String} :
    (¬ q = [] ∧ q.dropLast = parts) ∧ q.getLast? = some name ↔ q = parts ++ [name] := by
  constructor
  · rintro ⟨⟨hne, rfl⟩, hlast⟩
    rw [List.getLast?_eq_some_getLast hne] at hlast
    rw [← Option.some.inj hlast, List.dropLast_concat_getLast]
  · rintro rfl
    simp

/-- A listing tells the names of the files and folders in a folder. -/
theorem mem_list_iff (hname : name ≠ "..") :
    name ∈ w.list p ↔ w.isFolder p = true ∧ w.exists? (p.child name) = true := by
  unfold list exists? isFolder isFile
  cases hp : w.tree.resolve w.here p with
  | none => simp
  | some parts =>
    by_cases hfolder : w.tree.hasFolder parts = true
    · rw [resolve_child hp hname hfolder]
      simp [FileTree.hasFolder, FileTree.hasFile, eq_concat_iff]
    · simp [hfolder]

theorem child_inj {a b : String} : p.child a = p.child b ↔ a = b := by
  simp [Path.child]

/-- What a folder holds is what there is in it. -/
theorem holds_child_iff (hname : name ≠ "..") :
    w.Holds p (p.child name) ↔ w.isFolder p = true ∧ w.exists? (p.child name) = true := by
  rw [← mem_list_iff hname, Holds]
  constructor
  · rintro ⟨other, hother, hsame⟩
    rwa [child_inj.mp hsame]
  · exact fun h => ⟨name, h, rfl⟩

theorem mem_entries : q ∈ w.entries p ↔ w.Holds p q := by
  rw [entries, Path.mem_sort, List.mem_map]
  exact ⟨fun ⟨name, hname, hq⟩ => ⟨name, hname, hq.symm⟩, fun ⟨name, hname, hq⟩ => ⟨name, hname, hq.symm⟩⟩

theorem mem_subfolders : q ∈ w.subfolders p ↔ w.Holds p q ∧ w.isFolder q = true := by
  rw [subfolders, List.mem_filter, mem_entries]

theorem isFolder_of_holds (h : w.Holds p q) : w.isFolder p = true := by
  obtain ⟨name, hname, -⟩ := h
  unfold list at hname
  unfold isFolder
  split at hname
  · cases hname
  · rename_i parts hparts
    split_ifs at hname with hfolder
    · rw [hparts]
      exact hfolder
    · cases hname

theorem subfolders_eq_nil (h : w.isFolder p = false) : w.subfolders p = [] := by
  refine List.eq_nil_iff_forall_not_mem.mpr fun q hq => ?_
  rw [isFolder_of_holds (mem_subfolders.mp hq).1] at h
  cases h

/-- Of what a folder holds, what comes later is listed again or has a later path. -/
theorem pairwise_entries (w : Workspace) (p : Path) :
    (w.entries p).Pairwise fun q r => q = r ∨ q.parts < r.parts := by
  refine (Path.pairwise_sort _).imp_of_mem fun {q r} hq hr hle => ?_
  obtain ⟨a, -, rfl⟩ := mem_entries.mp hq
  obtain ⟨b, -, rfl⟩ := mem_entries.mp hr
  rcases lt_or_eq_of_le hle with hlt | heq
  · rcases List.cons_lt_cons_iff.mp hlt with hroot | ⟨-, hparts⟩
    · exact absurd hroot (lt_irrefl _)
    · exact .inr hparts
  · obtain ⟨hroot, hparts⟩ := List.cons.inj heq
    refine .inl ?_
    cases p
    simpa [Path.child] using hparts

theorem pairwise_subfolders (w : Workspace) (p : Path) :
    (w.subfolders p).Pairwise fun q r => q = r ∨ q.parts < r.parts :=
  (pairwise_entries w p).filter _

end Workspace
end Catalog
