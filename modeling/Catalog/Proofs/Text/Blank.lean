import Catalog.Proofs.Text.Case
import Mathlib.Data.List.Chain

/-! Blank characters: what trimming takes off, that it can be done before or after a text is lower-cased, and that a
text that is trimmed, or whose blank runs are collapsed, stays as it is when that is done once more. -/
namespace Catalog.Text

variable {s t : List Char}

/-- What trimming takes off are blank characters at both ends. -/
theorem exists_append_trimChars (s : List Char) :
    ∃ front back, s = front ++ trimChars s ++ back ∧ (∀ c ∈ front, isBlank c = true) ∧
      ∀ c ∈ back, isBlank c = true := by
  refine ⟨s.takeWhile isBlank, ((s.dropWhile isBlank).reverse.takeWhile isBlank).reverse, ?_, ?_, ?_⟩
  · rw [trimChars, List.append_assoc, ← List.reverse_append, List.takeWhile_append_dropWhile, List.reverse_reverse,
      List.takeWhile_append_dropWhile]
  · exact List.all_eq_true.mp List.all_takeWhile
  · exact fun c hc => List.all_eq_true.mp List.all_takeWhile c (List.mem_reverse.mp hc)

theorem isInfix_trimChars (s : List Char) : trimChars s <:+: s := by
  obtain ⟨front, back, hs, -, -⟩ := exists_append_trimChars s
  exact ⟨front, back, hs.symm⟩

theorem trimChars_trimChars (s : List Char) : trimChars (trimChars s) = trimChars s := by
  obtain ⟨front, back, hs, hfront, hback⟩ := exists_append_trimChars s
  rw [← trimChars_append hfront hback, ← hs]

/-- What begins with a character that is not blank stands nowhere in blank characters. -/
theorem isInfix_of_blank_append {front s t : List Char} (hfront : ∀ c ∈ front, isBlank c = true) (hne : s ≠ [])
    (hs : s.head?.any isBlank = false) (h : s <:+: front ++ t) : s <:+: t := by
  induction front with
  | nil => exact h
  | cons c front ih =>
    obtain ⟨hc, hrest⟩ := List.forall_mem_cons.mp hfront
    rcases List.infix_cons_iff.mp h with hprefix | hlater
    · obtain ⟨d, s, rfl⟩ := List.exists_cons_of_ne_nil hne
      rw [(List.cons_prefix_cons.mp hprefix).1] at hs
      rw [show isBlank c = false from hs] at hc
      cases hc
    · exact ih hrest hlater

def IsCollapsed (s : List Char) : Prop :=
  s.IsChain (fun a b => isBlank a = true → isBlank b = false) ∧ ∀ c ∈ s, isBlank c = true → c = ' '

theorem IsCollapsed.of_isInfix (h : IsCollapsed t) (hst : s <:+: t) : IsCollapsed s :=
  ⟨ List.IsChain.infix h.1 hst, fun c hc => h.2 c (hst.subset hc)⟩

theorem IsCollapsed.cons {c : Char} (h : IsCollapsed s)
    (hc : isBlank c = true → c = ' ' ∧ s.head?.any isBlank = false) : IsCollapsed (c :: s) := by
  refine ⟨List.isChain_cons.mpr ⟨fun d hd hblank => ?_, h.1⟩, List.forall_mem_cons.mpr ⟨fun hblank => ?_, h.2⟩⟩
  · have hhead := (hc hblank).2
    rwa [Option.mem_def.mp hd] at hhead
  · exact (hc hblank).1

/-- No blank character comes first where a run is open. -/
theorem isCollapsed_collapseFrom (after : Bool) (s : List Char) :
    IsCollapsed (collapseFrom after s) ∧ (after = true → (collapseFrom after s).head?.any isBlank = false) := by
  induction s generalizing after with
  | nil => exact ⟨⟨List.isChain_nil, nofun⟩, fun _ => rfl⟩
  | cons c cs ih =>
    rw [collapseFrom]
    split_ifs with hblank hafter
    · exact ⟨(ih true).1, fun _ => (ih true).2 rfl⟩
    · exact ⟨(ih true).1.cons fun _ => ⟨rfl, (ih true).2 rfl⟩, fun h => absurd h hafter⟩
    · exact ⟨(ih false).1.cons fun h => absurd h hblank, fun _ => by simpa using hblank⟩

theorem collapseFrom_eq_self (after : Bool) (h : IsCollapsed s) (hafter : after = true → s.head?.any isBlank = false) :
    collapseFrom after s = s := by
  induction s generalizing after with
  | nil => rfl
  | cons c cs ih =>
    have hcs : IsCollapsed cs := h.of_isInfix (List.suffix_cons c cs).isInfix
    rw [collapseFrom]
    split_ifs with hblank hopen
    · rw [show isBlank c = false from hafter hopen] at hblank
      cases hblank
    · have hnext : cs.head?.any isBlank = false := by
        cases cs with
        | nil => rfl
        | cons d ds => exact (List.isChain_cons.mp h.1).1 d rfl hblank
      rw [ih true hcs fun _ => hnext, h.2 c List.mem_cons_self hblank]
    · rw [ih false hcs nofun]

theorem collapse_collapse (text : String) : collapse (collapse text) = collapse text := by
  have hcollapsed : IsCollapsed (trimChars (collapseFrom false text.toList)) :=
    (isCollapsed_collapseFrom false _).1.of_isInfix (isInfix_trimChars _)
  simp only [collapse, trim, String.toList_ofList]
  rw [collapseFrom_eq_self false hcollapsed fun h => absurd h Bool.false_ne_true, trimChars_trimChars]

theorem trimmedOrLast_append {front back : List Char} (hfront : ∀ c ∈ front, isBlank c = true)
    (hback : ∀ c ∈ back, isBlank c = true) (hs : trimChars s = s) (hne : s ≠ []) :
    trimmedOrLast (front ++ s ++ back) = s := by
  rw [trimmedOrLast, trimChars_append hfront hback, hs]
  cases s with
  | nil => exact absurd rfl hne
  | cons c cs => rfl

theorem trimmedOrLast_concat {c : Char} (hs : ∀ d ∈ s, isBlank d = true) (hc : isBlank c = true) :
    trimmedOrLast (s ++ [c]) = [c] := by
  have htrim : trimChars (s ++ [c]) = [] := by
    have h := trimChars_append (s := []) hs (List.forall_mem_singleton.mpr hc)
    rwa [List.append_nil] at h
  rw [trimmedOrLast, htrim, List.getLast?_concat]
  rfl

/-- What is left of a text stands between blank characters, unless there is nothing else. -/
theorem trimmedOrLast_cases (hs : s ≠ []) :
    (∃ front back, (∀ c ∈ front, isBlank c = true) ∧ (∀ c ∈ back, isBlank c = true) ∧
      s = front ++ trimmedOrLast s ++ back ∧ trimChars (trimmedOrLast s) = trimmedOrLast s ∧ trimmedOrLast s ≠ []) ∨
    ∃ front last, (∀ c ∈ front, isBlank c = true) ∧ isBlank last = true ∧ s = front ++ [last] ∧
      trimmedOrLast s = [last] := by
  obtain ⟨front, back, hall, hfront, hback⟩ := exists_append_trimChars s
  by_cases hnone : trimChars s = []
  · right
    have hblank : ∀ c ∈ s, isBlank c = true := by
      rw [hall, hnone, List.append_nil]
      exact List.forall_mem_append.mpr ⟨hfront, hback⟩
    obtain ⟨init, last, rfl⟩ := (List.eq_nil_or_concat' s).resolve_left hs
    obtain ⟨hinit, hlast⟩ := List.forall_mem_append.mp hblank
    have hlast := hlast last (List.mem_singleton_self last)
    exact ⟨init, last, hinit, hlast, rfl, trimmedOrLast_concat hinit hlast⟩
  · left
    have hleft : trimmedOrLast s = trimChars s := by
      have h := trimmedOrLast_append hfront hback (trimChars_trimChars s) hnone
      rwa [← hall] at h
    rw [hleft]
    exact ⟨front, back, hfront, hback, hall, trimChars_trimChars s, hnone⟩

/-- A text is trimmed before or after it is lower-cased. -/
theorem lower_trim (text : String) : lower (trim text) = trim (lower text) := by
  obtain ⟨front, back, hs, hfront, hback⟩ := exists_append_trimChars text.toList
  have htrimmed : IsTrimmed (lowerFrom [] (trimChars text.toList)) := by
    have h := trimChars_eq_self_iff.mp (trimChars_trimChars text.toList)
    exact ⟨(any_head?_lowerFrom _ _).trans h.1, (any_getLast?_lowerFrom _ _).trans h.2⟩
  have hlower : ∃ back', (∀ c ∈ back', isBlank c = true) ∧
      lowerFrom [] text.toList = front ++ lowerFrom [] (trimChars text.toList) ++ back' := by
    cases back with
    | nil =>
      refine ⟨[], fun c hc => absurd hc List.not_mem_nil, ?_⟩
      conv_lhs => rw [hs]
      rw [List.append_nil, List.append_nil, lowerFrom_blank_append hfront]
    | cons d back =>
      obtain ⟨hd, hback⟩ := List.forall_mem_cons.mp hback
      refine ⟨d :: lowerFrom [] back, List.forall_mem_cons.mpr ⟨hd, ?_⟩, ?_⟩
      · rw [← List.all_eq_true, all_isBlank_lowerFrom, List.all_eq_true]
        exact hback
      · conv_lhs => rw [hs]
        rw [List.append_assoc, lowerFrom_blank_append hfront, lowerFrom_append_blank hd, List.append_assoc]
  obtain ⟨back', hback', hlower⟩ := hlower
  rw [lower, lower, trim, trim, String.toList_ofList, String.toList_ofList, hlower, trimChars_append hfront hback',
    trimChars_eq_self_iff.mpr htrimmed]

theorem trim_trim (text : String) : trim (trim text) = trim text := by
  rw [trim, trim, String.toList_ofList, trimChars_trimChars]

/-- Trimming leaves nothing of a blank text, and something of every other one. -/
theorem isBlankText_trim (text : String) : isBlankText (trim text) = isBlankText text := by
  obtain ⟨front, back, hs, hfront, hback⟩ := exists_append_trimChars text.toList
  have hall : text.toList.all isBlank = (trimChars text.toList).all isBlank := by
    conv_lhs => rw [hs]
    rw [List.all_append, List.all_append, List.all_eq_true.mpr hfront, List.all_eq_true.mpr hback, Bool.true_and,
      Bool.and_true]
  rw [isBlankText, isBlankText, hall, trim, String.toList_ofList]

/-- Nothing of a blank text is left. -/
theorem trim_of_isBlankText {text : String} (h : isBlankText text = true) : trim text = "" := by
  have hdrop : text.toList.dropWhile isBlank = [] := List.dropWhile_eq_nil_iff.mpr (List.all_eq_true.mp h)
  rw [trim, trimChars, hdrop]
  rfl

theorem isBlankText_ofList : isBlankText (String.ofList s) = true ↔ ∀ c ∈ s, isBlank c = true := by
  rw [isBlankText, String.toList_ofList, List.all_eq_true]

end Catalog.Text
