import Catalog.Proofs.Text.Blank
import Catalog.Proofs.Text.Scan
import Mathlib.Data.List.Basic

/-! Texts that are made of lines: what stands in them stands in one of the lines, if no line feed is in it, and cutting
runs of line feeds down changes nothing else. Lines, and the parts of other lists, are joined and found again. -/
namespace Catalog.Text

variable {s t word : List Char} {lines : List (List Char)} {last : List Char}

section Lines

theorem toList_join_lines (lines : List String) :
    (join "\n" lines).toList = ['\n'].intercalate (lines.map String.toList) :=
  String.toList_intercalate

def ended (lines : List (List Char)) : List Char :=
  lines.flatMap (· ++ ['\n'])

theorem ended_cons (line : List Char) (lines : List (List Char)) :
    ended (line :: lines) = line ++ '\n' :: ended lines := by
  rw [ended, List.flatMap_cons, List.append_assoc]
  rfl

theorem intercalate_concat (lines : List (List Char)) (last : List Char) :
    ['\n'].intercalate (lines ++ [last]) = ended lines ++ last := by
  induction lines with
  | nil => exact List.intercalate_singleton
  | cons line lines ih =>
    cases lines with
    | nil => simp [ended]
    | cons next lines =>
      rw [List.cons_append] at ih
      rw [List.cons_append, List.cons_append, List.intercalate_cons_cons, ih, ended_cons line]
      simp

/-- A word without line feeds that stands in a text stands in one of its lines. -/
theorem exists_isInfix_of_intercalate (hword : '\n' ∉ word) (hne : word ≠ []) (h : word <:+: ['\n'].intercalate lines) :
    ∃ line ∈ lines, word <:+: line := by
  induction lines with
  | nil => exact absurd (List.infix_nil.mp h) hne
  | cons line lines ih =>
    cases lines with
    | nil =>
      rw [List.intercalate_singleton] at h
      exact ⟨line, List.mem_singleton_self line, h⟩
    | cons next lines =>
      rw [List.intercalate_cons_cons, List.append_assoc] at h
      rcases isInfix_append_sep hword h with hline | hrest
      · exact ⟨line, List.mem_cons_self, hline⟩
      · obtain ⟨line', hmem, hin⟩ := ih hrest
        exact ⟨line', List.mem_cons_of_mem line hmem, hin⟩

theorem filter_intercalate (h : ∀ line ∈ lines, '\n' ∉ line) :
    (['\n'].intercalate lines).filter (· ≠ '\n') = lines.flatten := by
  induction lines with
  | nil => rfl
  | cons line lines ih =>
    obtain ⟨hline, hlines⟩ := List.forall_mem_cons.mp h
    have hstays : line.filter (· ≠ '\n') = line :=
      List.filter_eq_self.mpr fun c hc => decide_eq_true fun heq => hline (heq ▸ hc)
    cases lines with
    | nil => rw [List.intercalate_singleton, hstays, List.flatten_singleton]
    | cons next lines =>
      rw [List.intercalate_cons_cons, List.append_assoc, List.filter_append, hstays, List.filter_append, ih hlines]
      rfl

end Lines

section Splitting

variable {sep : Char} {pieces first second : List (List Char)}

theorem splitChars_ne_nil (sep : Char) (s : List Char) : splitChars sep s ≠ [] := by
  cases s with
  | nil => exact List.cons_ne_nil _ _
  | cons c s =>
    rw [splitChars]
    split_ifs
    · exact List.cons_ne_nil _ _
    · split <;> exact List.cons_ne_nil _ _

theorem splitChars_append (sep : Char) (s t : List Char) :
    splitChars sep (s ++ sep :: t) = splitChars sep s ++ splitChars sep t := by
  induction s with
  | nil => exact if_pos rfl
  | cons c s ih =>
    rw [List.cons_append, splitChars, splitChars, ih]
    split_ifs
    · rfl
    · obtain ⟨piece, pieces, hs⟩ := List.exists_cons_of_ne_nil (splitChars_ne_nil sep s)
      rw [hs]
      rfl

theorem sep_notMem_of_mem_splitChars {piece : List Char} (h : piece ∈ splitChars sep s) : sep ∉ piece := by
  induction s generalizing piece with
  | nil =>
    rw [splitChars, List.mem_singleton] at h
    exact h ▸ List.not_mem_nil
  | cons c s ih =>
    rw [splitChars] at h
    split_ifs at h with hc
    · rcases List.mem_cons.mp h with rfl | h
      · exact List.not_mem_nil
      · exact ih h
    · obtain ⟨front, pieces, hs⟩ := List.exists_cons_of_ne_nil (splitChars_ne_nil sep s)
      rw [hs] at h ih
      rcases List.mem_cons.mp h with rfl | h
      · exact List.not_mem_cons_of_ne_of_not_mem (Ne.symm hc) (ih List.mem_cons_self)
      · exact ih (List.mem_cons_of_mem front h)

theorem intercalate_append (hfirst : first ≠ []) (hsecond : second ≠ []) :
    [sep].intercalate (first ++ second) = [sep].intercalate first ++ sep :: [sep].intercalate second := by
  induction first with
  | nil => exact absurd rfl hfirst
  | cons piece first ih =>
    cases first with
    | nil =>
      obtain ⟨next, second, rfl⟩ := List.exists_cons_of_ne_nil hsecond
      rw [List.singleton_append, List.intercalate_cons_cons, List.intercalate_singleton, List.append_assoc]
      rfl
    | cons next first =>
      have hrest := ih (List.cons_ne_nil _ _)
      rw [List.cons_append] at hrest
      rw [List.cons_append, List.cons_append, List.intercalate_cons_cons, List.intercalate_cons_cons, hrest]
      simp only [List.append_assoc]

/-- Pieces that are joined are found again. -/
theorem splitChars_intercalate (hpieces : ∀ piece ∈ pieces, sep ∉ piece) (hne : pieces ≠ []) :
    splitChars sep ([sep].intercalate pieces) = pieces := by
  induction pieces with
  | nil => exact absurd rfl hne
  | cons piece pieces ih =>
    obtain ⟨hpiece, hrest⟩ := List.forall_mem_cons.mp hpieces
    cases pieces with
    | nil => rw [List.intercalate_singleton, splitChars_of_notMem hpiece]
    | cons next pieces =>
      have hsplit := splitChars_append sep piece ([sep].intercalate (next :: pieces))
      rw [splitChars_of_notMem hpiece, ih hrest (List.cons_ne_nil _ _)] at hsplit
      rw [List.intercalate_cons_cons, List.append_assoc]
      exact hsplit

theorem splitOn_ne_nil (text : String) (sep : Char) : splitOn text sep ≠ [] :=
  fun h => splitChars_ne_nil sep text.toList (List.map_eq_nil_iff.mp h)

theorem sep_notMem_of_mem_splitOn {text part : String} (h : part ∈ splitOn text sep) : sep ∉ part.toList := by
  obtain ⟨piece, hpiece, rfl⟩ := List.mem_map.mp h
  rw [String.toList_ofList]
  exact sep_notMem_of_mem_splitChars hpiece

section Glued

/-! The parts of a text that are glued with the separator. -/

variable {glue : String}

theorem splitOn_append (hglue : glue.toList = [sep]) (text other : String) :
    splitOn (text ++ glue ++ other) sep = splitOn text sep ++ splitOn other sep := by
  have hchars : (text ++ glue ++ other).toList = text.toList ++ sep :: other.toList := by simp [hglue]
  rw [splitOn, hchars, splitChars_append, List.map_append]
  rfl

theorem splitOn_join (hglue : glue.toList = [sep]) {parts : List String} (hparts : ∀ part ∈ parts, sep ∉ part.toList)
    (hne : parts ≠ []) : splitOn (join glue parts) sep = parts := by
  have hpieces : ∀ piece ∈ parts.map String.toList, sep ∉ piece := List.forall_mem_map.mpr hparts
  rw [splitOn, join, String.toList_intercalate, hglue, splitChars_intercalate hpieces (by simpa using hne),
    List.map_map]
  exact List.map_id'' (fun _ => String.ofList_toList) parts

end Glued

end Splitting

section Squeezing

/-- The text with every run of three or more line feeds cut down to two; `before` tells how many stand right before
it. -/
def squeezeFrom (before : ℕ) : List Char → List Char
  | [] => []
  | c :: cs =>
    if c = '\n' then if before < 2 then '\n' :: squeezeFrom (before + 1) cs else squeezeFrom before cs
    else c :: squeezeFrom 0 cs

def squeeze (text : String) : String :=
  String.ofList (squeezeFrom 0 text.toList)

theorem squeezeFrom_cons_of_ne {c : Char} (hc : c ≠ '\n') (before : ℕ) (s : List Char) :
    squeezeFrom before (c :: s) = c :: squeezeFrom 0 s := by
  rw [squeezeFrom, if_neg hc]

theorem squeezeFrom_replicate {rest : List Char} (hrest : rest.head? ≠ some '\n') (before n : ℕ) :
    squeezeFrom before (List.replicate n '\n' ++ rest) =
      List.replicate (min n (2 - before)) '\n' ++ squeezeFrom 0 rest := by
  induction n generalizing before with
  | zero =>
    cases rest with
    | nil => simp [squeezeFrom]
    | cons c rest =>
      have hc : c ≠ '\n' := fun heq => hrest (congrArg some heq)
      simp [squeezeFrom_cons_of_ne hc]
  | succ n ih =>
    rw [List.replicate_succ, List.cons_append, squeezeFrom, if_pos rfl, ih, ih]
    split_ifs with hlt
    · have hone : min (n + 1) (2 - before) = min n (2 - (before + 1)) + 1 := by omega
      rw [hone, List.replicate_succ, List.cons_append]
    · have hnone : min (n + 1) (2 - before) = min n (2 - before) := by omega
      rw [hnone]

/-- Nothing but line feeds is taken away. -/
theorem filter_squeezeFrom (before : ℕ) (s : List Char) :
    (squeezeFrom before s).filter (· ≠ '\n') = s.filter (· ≠ '\n') := by
  induction s generalizing before with
  | nil => rfl
  | cons c s ih =>
    by_cases hc : c = '\n'
    · subst hc
      rw [squeezeFrom, if_pos rfl]
      split_ifs
      · simpa using ih (before + 1)
      · simpa using ih before
    · rw [squeezeFrom_cons_of_ne hc, List.filter_cons, List.filter_cons, ih]

/-- Three line feeds together are more than `before` allows. -/
theorem not_isInfix_replicate {before : ℕ} (h : before ≤ 2) :
    ¬ ['\n', '\n', '\n'] <:+: List.replicate before '\n' := by
  intro hin
  have hlength := hin.length_le
  rw [List.length_replicate] at hlength
  exact absurd (hlength.trans h) (by decide)

/-- No three line feeds stand together in what is left. -/
theorem not_isInfix_squeezeFrom {before : ℕ} (h : before ≤ 2) (s : List Char) :
    ¬ ['\n', '\n', '\n'] <:+: List.replicate before '\n' ++ squeezeFrom before s := by
  induction s generalizing before with
  | nil =>
    rw [squeezeFrom, List.append_nil]
    exact not_isInfix_replicate h
  | cons c s ih =>
    by_cases hc : c = '\n'
    · subst hc
      rw [squeezeFrom, if_pos rfl]
      split_ifs with hlt
      · have hnext := ih (show before + 1 ≤ 2 by omega)
        rwa [List.replicate_succ', List.append_assoc] at hnext
      · exact ih h
    · rw [squeezeFrom_cons_of_ne hc]
      intro hin
      rcases isInfix_append_sep (by simp [hc]) hin with hfront | hrest
      · exact not_isInfix_replicate h hfront
      · exact ih (Nat.zero_le 2) hrest

theorem squeezeFrom_eq_self {before : ℕ} (h : ¬ ['\n', '\n', '\n'] <:+: List.replicate before '\n' ++ s) :
    squeezeFrom before s = s := by
  induction s generalizing before with
  | nil => rfl
  | cons c s ih =>
    by_cases hc : c = '\n'
    · subst hc
      have hlt : before < 2 := by
        by_contra hge
        obtain ⟨more, rfl⟩ : ∃ more, before = more + 2 := ⟨before - 2, by omega⟩
        refine h ⟨List.replicate more '\n', s, ?_⟩
        rw [List.replicate_add]
        simp
      rw [squeezeFrom, if_pos rfl, if_pos hlt, ih]
      rwa [List.replicate_succ', List.append_assoc]
    · have hrest : ¬ ['\n', '\n', '\n'] <:+: List.replicate 0 '\n' ++ s := fun hin =>
        h (hin.trans ((List.suffix_cons c s).trans (List.suffix_append _ _)).isInfix)
      rw [squeezeFrom_cons_of_ne hc, ih hrest]

theorem isPrefix_of_squeezeFrom (hword : '\n' ∉ word) (h : word <+: squeezeFrom 0 s) : word <+: s := by
  induction s generalizing word with
  | nil => exact h
  | cons c s ih =>
    cases word with
    | nil => exact List.nil_prefix
    | cons d word =>
      have hd : '\n' ≠ d := List.ne_of_not_mem_cons hword
      by_cases hc : c = '\n'
      · subst hc
        rw [squeezeFrom, if_pos rfl, if_pos (by decide)] at h
        exact absurd (List.cons_prefix_cons.mp h).1.symm hd
      · rw [squeezeFrom_cons_of_ne hc] at h
        obtain ⟨hdc, hrest⟩ := List.cons_prefix_cons.mp h
        exact List.cons_prefix_cons.mpr ⟨hdc, ih (List.not_mem_of_not_mem_cons hword) hrest⟩

/-- A word without line feeds that stands in what is left stood in the text before. -/
theorem isInfix_of_squeezeFrom (hword : '\n' ∉ word) {before : ℕ} (h : word <:+: squeezeFrom before s) :
    word <:+: s := by
  induction s generalizing before with
  | nil => exact h
  | cons c s ih =>
    by_cases hc : c = '\n'
    · subst hc
      rw [squeezeFrom, if_pos rfl] at h
      split_ifs at h
      · rcases List.infix_cons_iff.mp h with hprefix | hlater
        · cases word with
          | nil => exact List.nil_infix
          | cons d word => exact absurd (List.cons_prefix_cons.mp hprefix).1.symm (List.ne_of_not_mem_cons hword)
        · exact (ih hlater).trans (List.suffix_cons _ s).isInfix
      · exact (ih h).trans (List.suffix_cons _ s).isInfix
    · rw [squeezeFrom_cons_of_ne hc] at h
      rcases List.infix_cons_iff.mp h with hprefix | hlater
      · rw [← squeezeFrom_cons_of_ne hc 0] at hprefix
        exact (isPrefix_of_squeezeFrom hword hprefix).isInfix
      · exact (ih hlater).trans (List.suffix_cons c s).isInfix

theorem exists_squeezeFrom_concat (before : ℕ) (s : List Char) :
    ∃ back, (∀ c ∈ back, isBlank c = true) ∧ squeezeFrom before (s ++ ['\n']) = squeezeFrom before s ++ back := by
  induction s generalizing before with
  | nil =>
    by_cases h : before < 2
    · exact ⟨['\n'], List.forall_mem_singleton.mpr (by decide), by simp [squeezeFrom, h]⟩
    · exact ⟨[], nofun, by simp [squeezeFrom, h]⟩
  | cons c s ih =>
    by_cases hc : c = '\n'
    · subst hc
      rw [List.cons_append, squeezeFrom, squeezeFrom, if_pos rfl, if_pos rfl]
      split_ifs
      · obtain ⟨back, hback, heq⟩ := ih (before + 1)
        exact ⟨back, hback, by rw [heq, List.cons_append]⟩
      · exact ih before
    · obtain ⟨back, hback, heq⟩ := ih 0
      refine ⟨back, hback, ?_⟩
      rw [List.cons_append, squeezeFrom_cons_of_ne hc, squeezeFrom_cons_of_ne hc, heq, List.cons_append]

theorem trim_squeezeFrom_concat (s : List Char) :
    trim (String.ofList (squeezeFrom 0 (s ++ ['\n']))) = trim (String.ofList (squeezeFrom 0 s)) := by
  obtain ⟨back, hback, heq⟩ := exists_squeezeFrom_concat 0 s
  have htrim := trimChars_append (s := squeezeFrom 0 s) (List.forall_mem_nil _) hback
  rw [trim, trim, String.toList_ofList, String.toList_ofList, heq, ← htrim]
  rfl

/-- What is squeezed and trimmed is so already. -/
theorem squeeze_trim_squeeze (text : String) : squeeze (trim (squeeze text)) = trim (squeeze text) := by
  have hsqueezed : ¬ ['\n', '\n', '\n'] <:+: trimChars (squeezeFrom 0 text.toList) := fun hin =>
    not_isInfix_squeezeFrom (Nat.zero_le 2) text.toList (hin.trans (isInfix_trimChars _))
  rw [squeeze, trim, String.toList_ofList, squeeze, String.toList_ofList, squeezeFrom_eq_self hsqueezed]

end Squeezing

end Catalog.Text
