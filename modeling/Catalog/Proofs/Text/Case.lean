import Catalog.Text.Blank
import Catalog.Text.Case
import Mathlib.Data.List.DropRight

/-! Texts that are equal ignoring case: none of them is longer by blank characters at an end, the same letters in
front keep them equal as long as no sigma takes another form, what blank characters separate is lower-cased each by
itself, words without sigmas stand in them whatever goes before, and of several texts the first one is kept. -/
namespace Catalog.Text

def blankCodes : List Nat :=
  [0x09, 0x0A, 0x0B, 0x0C, 0x0D, 0x1C, 0x1D, 0x1E, 0x1F, 0x20, 0x85, 0xA0, 0x1680, 0x2000, 0x2001, 0x2002, 0x2003,
    0x2004, 0x2005, 0x2006, 0x2007, 0x2008, 0x2009, 0x200A, 0x2028, 0x2029, 0x202F, 0x205F, 0x3000]

theorem isBlank_iff {c : Char} : isBlank c = true ↔ c.toNat ∈ blankCodes := by
  simp only [isBlank, blankCodes, Bool.or_eq_true, Bool.and_eq_true, decide_eq_true_eq, beq_iff_eq, List.mem_cons,
    List.not_mem_nil, or_false]
  omega

theorem isBlank_ofNat_iff {n : Nat} : isBlank (Char.ofNat n) = true ↔ n ∈ blankCodes := by
  rw [isBlank_iff, Char.ofNat]
  by_cases hvalid : n.isValidChar
  · rw [dif_pos hvalid]
    rfl
  · rw [dif_neg hvalid]
    have hall : ∀ n ∈ blankCodes, n.isValidChar := by decide
    exact iff_of_false (by decide) fun hblank => hvalid (hall n hblank)

/-- No letter with a lower-case form is blank, and neither is that form. -/
theorem lowerRuns_not_blank :
    ∀ run ∈ lowerRuns, ∀ n ∈ blankCodes, ¬ (run.1 ≤ n ∧ n ≤ run.2.1) ∧
      ¬ (run.1 + run.2.2.2 ≤ (n : Int) ∧ (n : Int) ≤ run.2.1 + run.2.2.2) := by
  have hapart : (lowerRuns.all fun run => blankCodes.all fun n =>
      (Nat.blt n run.1 || Nat.blt run.2.1 n) &&
        (Nat.blt n (run.1 + run.2.2.2).toNat || Nat.blt (run.2.1 + run.2.2.2).toNat n)) = true := by
    decide +kernel
  intro run hrun n hn
  have hown := List.all_eq_true.mp (List.all_eq_true.mp hapart run hrun) n hn
  simp only [Bool.and_eq_true, Bool.or_eq_true, Nat.blt_eq] at hown
  omega

theorem shifted_cases (runs : List (Nat × Nat × Nat × Int)) (n : Nat) :
    shifted runs n = n ∨
      ∃ run ∈ runs, run.1 ≤ n ∧ n ≤ run.2.1 ∧ (n - run.1) % run.2.2.1 = 0 ∧
        shifted runs n = (n + run.2.2.2).toNat := by
  unfold shifted
  split
  · next lo hi step shift hfind =>
    have hholds := List.find?_some hfind
    simp only [Bool.and_eq_true, decide_eq_true_eq, beq_iff_eq] at hholds
    exact .inr ⟨_, List.mem_of_find?_eq_some hfind, hholds.1.1, hholds.1.2, hholds.2, rfl⟩
  · exact .inl rfl

theorem shifted_mem_blankCodes {n : Nat} : shifted lowerRuns n ∈ blankCodes ↔ n ∈ blankCodes := by
  rcases shifted_cases lowerRuns n with h | ⟨run, hrun, hlo, hhi, -, h⟩
  · rw [h]
  · refine iff_of_false (fun hblank => ?_) fun hblank => ?_
    · have hpos : ∀ b ∈ blankCodes, 0 < b := by decide
      have hmoved := (lowerRuns_not_blank run hrun _ hblank).2
      have hne := hpos _ hblank
      rw [h] at hmoved hne
      omega
    · exact (lowerRuns_not_blank run hrun n hblank).1 ⟨hlo, hhi⟩

/-- What stands for a character in lower case is blank just as the character is. -/
theorem isBlank_of_mem_lowerChar {c d : Char} (h : d ∈ lowerChar c) : isBlank d = isBlank c := by
  unfold lowerChar at h
  split_ifs at h with hascii hdotted
  · have hall : ∀ n < 0x80, isBlank (Char.ofNat n).toLower = isBlank (Char.ofNat n) := by decide
    rw [List.mem_singleton.mp h, ← Char.ofNat_toNat c]
    exact hall c.toNat hascii
  · have hc : c = Char.ofNat 0x130 := by rw [← hdotted, Char.ofNat_toNat]
    subst hc
    rcases List.mem_cons.mp h with rfl | h
    · decide
    · rw [List.mem_singleton.mp h]
      decide
  · rw [List.mem_singleton.mp h, Bool.eq_iff_iff, isBlank_ofNat_iff, shifted_mem_blankCodes, isBlank_iff]

theorem lowerChar_ne_nil (c : Char) : lowerChar c ≠ [] := by
  unfold lowerChar
  split_ifs <;> exact List.cons_ne_nil _ _

/-- A text in lower case is, character by character, what stands for these. -/
theorem lowerFrom_cons (before : List Char) (c : Char) (cs : List Char) :
    ∃ piece, lowerFrom before (c :: cs) = piece ++ lowerFrom (c :: before) cs ∧ piece ≠ [] ∧
      ∀ d ∈ piece, isBlank d = isBlank c := by
  rw [lowerFrom]
  split_ifs with hsigma hfinal
  · subst hsigma
    refine ⟨['ς'], rfl, List.cons_ne_nil _ _, fun d hd => ?_⟩
    rw [List.mem_singleton.mp hd]
    decide
  · subst hsigma
    refine ⟨['σ'], rfl, List.cons_ne_nil _ _, fun d hd => ?_⟩
    rw [List.mem_singleton.mp hd]
    decide
  · exact ⟨lowerChar c, rfl, lowerChar_ne_nil c, fun d hd => isBlank_of_mem_lowerChar hd⟩

theorem lowerFrom_ne_nil (before : List Char) {s : List Char} (h : s ≠ []) : lowerFrom before s ≠ [] := by
  cases s with
  | nil => exact absurd rfl h
  | cons c cs =>
    obtain ⟨piece, hpiece, hne, -⟩ := lowerFrom_cons before c cs
    rw [hpiece]
    exact List.append_ne_nil_of_left_ne_nil hne _

theorem any_head?_lowerFrom (before s : List Char) :
    (lowerFrom before s).head?.any isBlank = s.head?.any isBlank := by
  cases s with
  | nil => rfl
  | cons c cs =>
    obtain ⟨piece, hpiece, hne, hblank⟩ := lowerFrom_cons before c cs
    rw [hpiece, List.head?_append_of_ne_nil _ hne, List.head?_eq_some_head hne]
    exact hblank _ (List.head_mem hne)

theorem any_getLast?_lowerFrom (before s : List Char) :
    (lowerFrom before s).getLast?.any isBlank = s.getLast?.any isBlank := by
  induction s generalizing before with
  | nil => rfl
  | cons c cs ih =>
    obtain ⟨piece, hpiece, hne, hblank⟩ := lowerFrom_cons before c cs
    rw [hpiece]
    cases cs with
    | nil =>
      rw [lowerFrom, List.append_nil, List.getLast?_eq_some_getLast hne]
      exact hblank _ (List.getLast_mem hne)
    | cons c' cs =>
      rw [List.getLast?_append_of_ne_nil _ (lowerFrom_ne_nil _ (List.cons_ne_nil _ _)), List.getLast?_cons_cons]
      exact ih _

theorem all_isBlank_lowerFrom (before s : List Char) : (lowerFrom before s).all isBlank = s.all isBlank := by
  induction s generalizing before with
  | nil => rfl
  | cons c cs ih =>
    obtain ⟨piece, hpiece, hne, hblank⟩ := lowerFrom_cons before c cs
    have hall : piece.all isBlank = isBlank c := by
      rw [Bool.eq_iff_iff, List.all_eq_true]
      refine ⟨fun h => ?_, fun h d hd => (hblank d hd).trans h⟩
      obtain ⟨d, hd⟩ := List.exists_mem_of_ne_nil piece hne
      exact (hblank d hd).symm.trans (h d hd)
    rw [hpiece, List.all_append, List.all_cons, hall, ih]

section Words

/-- No blank character has another form, is passed over, or is a letter. -/
theorem blank_plain {d : Char} (hd : isBlank d = true) :
    isCaseIgnorable d = false ∧ isCased d = false ∧ lowerChar d = [d] ∧ d ≠ 'Σ' := by
  have hall : ∀ n ∈ blankCodes, isCaseIgnorable (Char.ofNat n) = false ∧ isCased (Char.ofNat n) = false ∧
      (Char.ofNat n).toLower = Char.ofNat n ∧ n ≠ 0x130 ∧ Char.ofNat n ≠ 'Σ' := by decide +kernel
  have hcode := isBlank_iff.mp hd
  obtain ⟨hkept, huncased, hletter, hdotted, hsigma⟩ := hall d.toNat hcode
  rw [Char.ofNat_toNat] at hkept huncased hletter hsigma
  refine ⟨hkept, huncased, ?_, hsigma⟩
  rw [lowerChar, hletter, if_neg hdotted]
  split_ifs
  · rfl
  · rcases shifted_cases lowerRuns d.toNat with hsame | ⟨run, hrun, hlo, hhi, -⟩
    · rw [hsame, Char.ofNat_toNat]
    · exact absurd ⟨hlo, hhi⟩ (lowerRuns_not_blank run hrun _ hcode).1

theorem meetsCased_append_blank {d : Char} (hd : isBlank d = true) (s t : List Char) :
    meetsCased (s ++ d :: t) = meetsCased s := by
  obtain ⟨hkept, huncased, -, -⟩ := blank_plain hd
  induction s with
  | nil => simp [meetsCased, hkept, huncased]
  | cons c cs ih =>
    by_cases hc : isCaseIgnorable c
    · simpa [meetsCased, List.dropWhile_cons_of_pos hc] using ih
    · simp [meetsCased, List.dropWhile_cons_of_neg hc]

/-- What went before a text matters only where letters with case are looked for. -/
theorem lowerFrom_congr {before before' : List Char}
    (h : ∀ pre, meetsCased (pre ++ before) = meetsCased (pre ++ before')) (s : List Char) :
    lowerFrom before s = lowerFrom before' s := by
  induction s generalizing before before' with
  | nil => rfl
  | cons c cs ih =>
    have hnext (pre : List Char) : meetsCased (pre ++ c :: before) = meetsCased (pre ++ c :: before') := by
      simpa using h (pre ++ [c])
    rw [lowerFrom, lowerFrom, ih hnext, show meetsCased before = meetsCased before' from h []]

/-- What stands before a blank character and what stands behind it are lower-cased each by itself. -/
theorem lowerFrom_append_blank {d : Char} (hd : isBlank d = true) (before s t : List Char) :
    lowerFrom before (s ++ d :: t) = lowerFrom before s ++ d :: lowerFrom [] t := by
  obtain ⟨-, -, hsame, hsigma⟩ := blank_plain hd
  induction s generalizing before with
  | nil =>
    have hhidden (pre : List Char) : meetsCased (pre ++ d :: before) = meetsCased (pre ++ []) := by
      rw [meetsCased_append_blank hd, List.append_nil]
    rw [List.nil_append, lowerFrom, lowerFrom, if_neg hsigma, hsame, lowerFrom_congr hhidden]
    rfl
  | cons c cs ih =>
    rw [List.cons_append, lowerFrom, lowerFrom, ih, meetsCased_append_blank hd]
    split_ifs
    · rfl
    · rfl
    · rw [List.append_assoc]

theorem lowerFrom_blank_append {front : List Char} (hfront : ∀ c ∈ front, isBlank c = true) (s : List Char) :
    lowerFrom [] (front ++ s) = front ++ lowerFrom [] s := by
  induction front with
  | nil => rfl
  | cons c cs ih =>
    obtain ⟨hc, hcs⟩ := List.forall_mem_cons.mp hfront
    rw [List.cons_append, ← List.nil_append (c :: (cs ++ s)), lowerFrom_append_blank hc, ih hcs]
    rfl

end Words

def IsTrimmed (s : List Char) : Prop :=
  s.head?.any isBlank = false ∧ s.getLast?.any isBlank = false

theorem dropWhile_isBlank_eq_self_iff {s : List Char} :
    s.dropWhile isBlank = s ↔ s.head?.any isBlank = false := by
  cases s with
  | nil => simp
  | cons c cs => simp [List.dropWhile_eq_self_iff]

theorem trimChars_eq_self_iff {s : List Char} : trimChars s = s ↔ IsTrimmed s := by
  unfold trimChars IsTrimmed
  constructor
  · intro h
    have hfirst : s.dropWhile isBlank = s := by
      refine (List.dropWhile_suffix isBlank).eq_of_length_le ?_
      have hlength := congrArg List.length h
      have hle := (List.dropWhile_suffix isBlank (l := (s.dropWhile isBlank).reverse)).length_le
      simp only [List.length_reverse] at hlength hle
      omega
    rw [hfirst] at h
    have hlast := dropWhile_isBlank_eq_self_iff.mp (List.reverse_eq_iff.mp h)
    rw [List.head?_reverse] at hlast
    exact ⟨dropWhile_isBlank_eq_self_iff.mp hfirst, hlast⟩
  · rintro ⟨hfirst, hlast⟩
    rw [← List.head?_reverse] at hlast
    rw [dropWhile_isBlank_eq_self_iff.mpr hfirst, dropWhile_isBlank_eq_self_iff.mpr hlast, List.reverse_reverse]

theorem mem_of_mem_trimChars {s : List Char} {c : Char} (h : c ∈ trimChars s) : c ∈ s := by
  unfold trimChars at h
  rw [List.mem_reverse] at h
  have hmem := (List.dropWhile_suffix isBlank).subset h
  exact (List.dropWhile_suffix isBlank).subset (List.mem_reverse.mp hmem)

theorem trimChars_append {front s back : List Char} (hfront : ∀ c ∈ front, isBlank c = true)
    (hback : ∀ c ∈ back, isBlank c = true) : trimChars (front ++ s ++ back) = trimChars s := by
  have hback' : ∀ c ∈ back.reverse, isBlank c = true := fun c hc => hback c (List.mem_reverse.mp hc)
  unfold trimChars
  rw [List.append_assoc, List.dropWhile_append_of_pos hfront, List.dropWhile_append]
  split_ifs with h
  · rw [List.isEmpty_iff.mp h, List.dropWhile_eq_nil_iff.mpr hback]
  · rw [List.reverse_append, List.dropWhile_append_of_pos hback']

theorem IsTrimmed.of_lower_eq {s t : List Char} (h : IsTrimmed t) (hst : lowerFrom [] s = lowerFrom [] t) :
    IsTrimmed s := by
  constructor
  · rw [← any_head?_lowerFrom [], hst, any_head?_lowerFrom]
    exact h.1
  · rw [← any_getLast?_lowerFrom [], hst, any_getLast?_lowerFrom]
    exact h.2

theorem trim_eq_self_iff {text : String} : trim text = text ↔ IsTrimmed text.toList := by
  rw [← trimChars_eq_self_iff, trim, ← String.toList_inj, String.toList_ofList]

theorem lower_eq_lower_iff {a b : String} :
    lower a = lower b ↔ lowerFrom [] a.toList = lowerFrom [] b.toList :=
  String.ofList_inj

theorem lower_eq_lower_empty_iff {a : String} : lower a = lower "" ↔ a = "" := by
  refine ⟨fun h => ?_, fun h => h ▸ rfl⟩
  by_contra hne
  exact lowerFrom_ne_nil [] (fun e => hne (String.toList_eq_nil_iff.mp e)) (lower_eq_lower_iff.mp h)

/-- Texts that are equal ignoring case are blank alike. -/
theorem isBlankText_congr {a b : String} (h : lower a = lower b) : isBlankText a = isBlankText b := by
  rw [isBlankText, isBlankText, ← all_isBlank_lowerFrom [] a.toList, ← all_isBlank_lowerFrom [] b.toList,
    lower_eq_lower_iff.mp h]

theorem trim_eq_self_of_lower_eq {a b : String} (hb : trim b = b) (h : lower a = lower b) : trim a = a :=
  trim_eq_self_iff.mpr ((trim_eq_self_iff.mp hb).of_lower_eq (lower_eq_lower_iff.mp h))

theorem trim_append {front text back : String} (hfront : isBlankText front = true) (hback : isBlankText back = true) :
    trim (front ++ text ++ back) = trim text := by
  unfold trim
  rw [String.toList_append, String.toList_append,
    trimChars_append (List.all_eq_true.mp hfront) (List.all_eq_true.mp hback)]

theorem isBlankText_of_trim_eq {text : String} (h : trim text = text) (hne : text ≠ "") : isBlankText text = false := by
  cases hs : text.toList with
  | nil => exact absurd (String.toList_eq_nil_iff.mp hs) hne
  | cons c cs =>
    have hfirst := (trim_eq_self_iff.mp h).1
    rw [hs] at hfirst
    rw [isBlankText, hs, List.all_cons, show isBlank c = false from hfirst, Bool.false_and]

/-- Without a capital sigma every character is lower-cased by itself. -/
theorem lowerFrom_append {s : List Char} (h : 'Σ' ∉ s) (before rest : List Char) :
    lowerFrom before (s ++ rest) = s.flatMap lowerChar ++ lowerFrom (s.reverse ++ before) rest := by
  induction s generalizing before with
  | nil => rfl
  | cons c cs ih =>
    obtain ⟨hc, hcs⟩ := List.ne_and_not_mem_of_not_mem_cons h
    rw [List.cons_append, lowerFrom, if_neg hc.symm, ih hcs, List.flatMap_cons, List.append_assoc, List.reverse_cons,
      List.append_assoc]
    rfl

theorem lowerFrom_of_sigma_notMem {s : List Char} (h : 'Σ' ∉ s) (before : List Char) :
    lowerFrom before s = s.flatMap lowerChar := by
  simpa [lowerFrom] using lowerFrom_append h before []

/-- The same letters in front of texts that are equal ignoring case keep them so, unless a sigma takes its final form
on account of these letters. -/
theorem lower_append_congr {front a b : String} (hfront : 'Σ' ∉ front.toList) (ha : 'Σ' ∉ a.toList)
    (hb : 'Σ' ∉ b.toList) (h : lower a = lower b) : lower (front ++ a) = lower (front ++ b) := by
  rw [lower_eq_lower_iff] at h ⊢
  rw [lowerFrom_of_sigma_notMem ha, lowerFrom_of_sigma_notMem hb] at h
  rw [String.toList_append, String.toList_append, lowerFrom_append hfront, lowerFrom_append hfront,
    lowerFrom_of_sigma_notMem ha, lowerFrom_of_sigma_notMem hb, h]

/-- Whether the characters from `lo` to `hi`, of which only the even or only the odd ones count if they are `sparse`,
are clear of those of a run. -/
def clearOf (lo hi : Nat) (sparse : Bool) (run : Nat × Nat × Nat × Int) : Bool :=
  Nat.blt hi run.1 || Nat.blt run.2.1 lo || run.2.2.1 == 2 && (lo + run.1) % 2 == 1 && sparse

/-- The runs of all characters that are not their own lower-case forms. -/
def capitalRuns : List (Nat × Nat × Nat × Int) :=
  (0x41, 0x5A, 1, 32) :: (0x130, 0x130, 1, 0) :: lowerRuns

theorem lowerRuns_clear :
    ∀ run ∈ lowerRuns, 0 ≤ run.1 + run.2.2.2 ∧
      capitalRuns.all (clearOf (run.1 + run.2.2.2).toNat (run.2.1 + run.2.2.2).toNat
        (run.2.2.1 == 2 || run.1 == run.2.1)) = true := by
  decide +kernel

/-- What a character is moved to has no lower-case form besides itself. -/
theorem shifted_clear {n : Nat} {run : Nat × Nat × Nat × Int} (h : shifted lowerRuns n ≠ n) (hrun : run ∈ capitalRuns)
    (hlo : run.1 ≤ shifted lowerRuns n) (hhi : shifted lowerRuns n ≤ run.2.1) :
    (shifted lowerRuns n - run.1) % run.2.2.1 ≠ 0 := by
  obtain ⟨own, hown, hfirst, hlast, hstep, hshift⟩ := (shifted_cases lowerRuns n).resolve_left h
  obtain ⟨hnonneg, hclear⟩ := lowerRuns_clear own hown
  have hapart := List.all_eq_true.mp hclear run hrun
  simp only [clearOf, Bool.or_eq_true, Bool.and_eq_true, Nat.blt_eq, beq_iff_eq] at hapart
  rcases hapart with (hbelow | habove) | ⟨⟨htwo, hodd⟩, hsparse⟩
  · omega
  · omega
  · rw [htwo]
    rcases hsparse with hown2 | hsingle
    · rw [hown2] at hstep
      omega
    · omega

theorem shifted_shifted (n : Nat) : shifted lowerRuns (shifted lowerRuns n) = shifted lowerRuns n := by
  by_cases h : shifted lowerRuns n = n
  · rw [h, h]
  · rcases shifted_cases lowerRuns (shifted lowerRuns n) with hself | ⟨run, hrun, hlo, hhi, hstep, -⟩
    · exact hself
    · have hcapital : run ∈ capitalRuns := List.mem_cons_of_mem _ (List.mem_cons_of_mem _ hrun)
      exact absurd hstep (shifted_clear h hcapital hlo hhi)

def IsLower (c : Char) : Prop :=
  c ≠ 'Σ' ∧ lowerChar c = [c]

instance : DecidablePred IsLower :=
  fun c => inferInstanceAs (Decidable (c ≠ 'Σ' ∧ lowerChar c = [c]))

theorem isLower_ofNat_shifted {n : Nat} (h : shifted lowerRuns n ≠ n) : IsLower (Char.ofNat (shifted lowerRuns n)) := by
  have hmoved := shifted_shifted n
  have hletterRun : ((0x41, 0x5A, 1, 32) : Nat × Nat × Nat × Int) ∈ capitalRuns := List.mem_cons_self
  have hdottedRun : ((0x130, 0x130, 1, 0) : Nat × Nat × Nat × Int) ∈ capitalRuns :=
    List.mem_cons_of_mem _ List.mem_cons_self
  have hletter (hlo : 0x41 ≤ shifted lowerRuns n) (hhi : shifted lowerRuns n ≤ 0x5A) : False :=
    shifted_clear h hletterRun hlo hhi (Nat.mod_one _)
  have hdotted (hm : shifted lowerRuns n = 0x130) : False :=
    shifted_clear h hdottedRun hm.ge hm.le (Nat.mod_one _)
  generalize shifted lowerRuns n = m at *
  by_cases hvalid : m.isValidChar
  · have hcode : (Char.ofNat m).toNat = m := by rw [Char.ofNat, dif_pos hvalid]; rfl
    constructor
    · intro hsigma
      rw [hsigma] at hcode
      rw [← hcode] at hmoved
      exact absurd hmoved (by decide)
    · unfold lowerChar
      rw [hcode]
      split_ifs with hascii
      · have hall : ∀ m < 0x80, ¬ (0x41 ≤ m ∧ m ≤ 0x5A) → (Char.ofNat m).toLower = Char.ofNat m := by decide
        rw [hall m hascii fun hm => hletter hm.1 hm.2]
      · rw [hmoved]
  · have hnull : Char.ofNat m = '\x00' := by rw [Char.ofNat, dif_neg hvalid]; rfl
    rw [hnull]
    decide

theorem isLower_of_mem_lowerChar {c d : Char} (h : d ∈ lowerChar c) : IsLower d := by
  have hform := h
  unfold lowerChar at h
  split_ifs at h with hascii hdotted
  · have hall : ∀ n < 0x80, IsLower (Char.ofNat n).toLower := by decide
    rw [List.mem_singleton.mp h, ← Char.ofNat_toNat c]
    exact hall c.toNat hascii
  · rcases List.mem_pair.mp h with rfl | rfl
    · decide
    · decide
  · rw [List.mem_singleton.mp h]
    by_cases hsame : shifted lowerRuns c.toNat = c.toNat
    · rw [hsame, Char.ofNat_toNat]
      refine ⟨?_, ?_⟩
      · rintro rfl
        exact absurd hsame (by decide)
      · rw [lowerChar, if_neg hascii, if_neg hdotted, hsame, Char.ofNat_toNat]
    · exact isLower_ofNat_shifted hsame

theorem isLower_of_mem_lowerFrom {before s : List Char} {d : Char} (h : d ∈ lowerFrom before s) : IsLower d := by
  induction s generalizing before with
  | nil => cases h
  | cons c cs ih =>
    rw [lowerFrom] at h
    split_ifs at h with hsigma hfinal
    · rcases List.mem_cons.mp h with rfl | h
      · decide
      · exact ih h
    · rcases List.mem_cons.mp h with rfl | h
      · decide
      · exact ih h
    · rcases List.mem_append.mp h with h | h
      · exact isLower_of_mem_lowerChar h
      · exact ih h

theorem lowerFrom_eq_self {s : List Char} (h : ∀ c ∈ s, IsLower c) (before : List Char) : lowerFrom before s = s := by
  induction s generalizing before with
  | nil => rfl
  | cons c cs ih =>
    obtain ⟨hc, hcs⟩ := List.forall_mem_cons.mp h
    rw [lowerFrom, if_neg hc.1, hc.2, ih hcs]
    rfl

/-- A text in lower case stays as it is. -/
theorem lower_lower (text : String) : lower (lower text) = lower text := by
  refine lower_eq_lower_iff.mpr ?_
  rw [lower, String.toList_ofList]
  exact lowerFrom_eq_self (fun _ => isLower_of_mem_lowerFrom) []

section Sigma

def plainSigma (c : Char) : Char :=
  if c = 'ς' then 'σ' else c

/-- What goes before a text matters for the form of its sigmas only. -/
theorem map_plainSigma_lowerFrom (before before' s : List Char) :
    (lowerFrom before s).map plainSigma = (lowerFrom before' s).map plainSigma := by
  induction s generalizing before before' with
  | nil => rfl
  | cons c cs ih =>
    have hform (p : Prop) [Decidable p] : plainSigma (if p then 'ς' else 'σ') = 'σ' := by
      by_cases h : p
      · rw [if_pos h]
        rfl
      · rw [if_neg h]
        rfl
    rw [lowerFrom, lowerFrom]
    by_cases hsigma : c = 'Σ'
    · rw [if_pos hsigma, if_pos hsigma, List.map_cons, List.map_cons, hform, hform, ih]
    · rw [if_neg hsigma, if_neg hsigma, List.map_append, List.map_append, ih]

theorem map_plainSigma_eq_self {s : List Char} (h : 'ς' ∉ s) : s.map plainSigma = s := by
  have hsame : ∀ c ∈ s, plainSigma c = id c := fun c hc => if_neg fun (heq : c = 'ς') => h (heq ▸ hc)
  rw [List.map_congr_left hsame, List.map_id]

theorem isInfix_map_plainSigma_iff {word s : List Char} (hmiddle : 'σ' ∉ word) (hfinal : 'ς' ∉ word) :
    word <:+: s.map plainSigma ↔ word <:+: s := by
  rw [List.infix_map_iff]
  constructor
  · rintro ⟨other, hother, rfl⟩
    have hnone : 'ς' ∉ other := fun hmem => hmiddle (List.mem_map_of_mem (f := plainSigma) hmem)
    rwa [map_plainSigma_eq_self hnone]
  · intro h
    exact ⟨word, h, (map_plainSigma_eq_self hfinal).symm⟩

/-- A word without sigmas stands in a text in lower case whatever goes before that. -/
theorem isInfix_lowerFrom_iff {word : List Char} (hmiddle : 'σ' ∉ word) (hfinal : 'ς' ∉ word)
    (before before' s : List Char) : word <:+: lowerFrom before s ↔ word <:+: lowerFrom before' s := by
  rw [← isInfix_map_plainSigma_iff hmiddle hfinal, map_plainSigma_lowerFrom before before',
    isInfix_map_plainSigma_iff hmiddle hfinal]

end Sigma

theorem upperChar_ne_nil (c : Char) : upperChar c ≠ [] := by
  have hall : ∀ entry ∈ upperExpansions, entry.2 ≠ [] := by decide
  unfold upperChar
  split_ifs
  · exact List.cons_ne_nil _ _
  · split
    · next n expansion hfound =>
      have hne : expansion ≠ [] := hall _ (List.mem_of_find?_eq_some hfound)
      simpa using hne
    · exact List.cons_ne_nil _ _

/-- Only the empty text is empty in upper case. -/
theorem upper_eq_empty_iff {text : String} : upper text = "" ↔ text = "" := by
  rw [upper, ← String.toList_eq_nil_iff, String.toList_ofList, List.flatMap_eq_nil_iff, ← String.toList_eq_nil_iff]
  refine ⟨fun h => List.eq_nil_iff_forall_not_mem.mpr fun c hc => upperChar_ne_nil c (h c hc), fun h c hc => ?_⟩
  rw [h] at hc
  cases hc

section Distinct

variable {seen seen' : List String} {l : List String} {k : String}

theorem distinctIgnoringCase_sublist (seen l : List String) : (distinctIgnoringCase seen l).Sublist l := by
  induction l generalizing seen with
  | nil => exact List.Sublist.refl _
  | cons text texts ih =>
    rw [distinctIgnoringCase]
    split_ifs
    · exact (ih seen).cons text
    · exact (ih _).cons_cons text

theorem distinctIgnoringCase_eq_self (h : (l.map lower).Nodup) (hseen : ∀ text ∈ l, lower text ∉ seen) :
    distinctIgnoringCase seen l = l := by
  induction l generalizing seen with
  | nil => rfl
  | cons text texts ih =>
    obtain ⟨hnew, hrest⟩ := List.nodup_cons.mp h
    rw [distinctIgnoringCase, if_neg (by simpa using hseen text List.mem_cons_self)]
    refine congrArg (text :: ·) (ih hrest fun other hother hmem => ?_)
    rcases List.mem_cons.mp hmem with hsame | hmem
    · exact hnew (hsame ▸ List.mem_map_of_mem hother)
    · exact hseen other (List.mem_cons_of_mem _ hother) hmem

theorem distinctIgnoringCase_congr (h : ∀ k, k ∈ seen ↔ k ∈ seen') (l : List String) :
    distinctIgnoringCase seen l = distinctIgnoringCase seen' l := by
  induction l generalizing seen seen' with
  | nil => rfl
  | cons text texts ih =>
    have hcons : ∀ k, k ∈ lower text :: seen ↔ k ∈ lower text :: seen' := fun k => by
      rw [List.mem_cons, List.mem_cons, h k]
    simp only [distinctIgnoringCase, List.contains_iff_mem, h, ih h, ih hcons]

theorem distinctIgnoringCase_append (seen l m : List String) :
    distinctIgnoringCase seen (l ++ m) =
      distinctIgnoringCase seen l ++ distinctIgnoringCase (l.map lower ++ seen) m := by
  induction l generalizing seen with
  | nil => rfl
  | cons text texts ih =>
    have hmoved (k : String) :
        k ∈ texts.map lower ++ lower text :: seen ↔ k ∈ (text :: texts).map lower ++ seen := by
      simp only [List.mem_append, List.mem_cons, List.map_cons]
      tauto
    rw [List.cons_append, distinctIgnoringCase, distinctIgnoringCase]
    split_ifs with h
    · have hseen (k : String) : k ∈ texts.map lower ++ seen ↔ k ∈ (text :: texts).map lower ++ seen := by
        rw [List.contains_iff_mem] at h
        simp only [List.mem_append, List.map_cons, List.mem_cons]
        exact ⟨by tauto, by rintro ((rfl | hk) | hk) <;> tauto⟩
      rw [ih, distinctIgnoringCase_congr hseen]
    · rw [ih, List.cons_append, distinctIgnoringCase_congr hmoved]

/-- Of every text that is not left out from the start, one is kept that equals it ignoring case. -/
theorem mem_map_lower_distinct :
    k ∈ (distinctIgnoringCase seen l).map lower ↔ k ∈ l.map lower ∧ k ∉ seen := by
  induction l generalizing seen with
  | nil => simp [distinctIgnoringCase]
  | cons text texts ih =>
    rw [distinctIgnoringCase]
    split_ifs with h
    · rw [List.contains_iff_mem] at h
      rw [ih, List.map_cons, List.mem_cons]
      refine ⟨fun hk => ⟨.inr hk.1, hk.2⟩, ?_⟩
      rintro ⟨rfl | hk, hseen⟩
      · exact absurd h hseen
      · exact ⟨hk, hseen⟩
    · rw [List.contains_iff_mem] at h
      rw [List.map_cons, List.mem_cons, ih, List.map_cons, List.mem_cons, List.mem_cons]
      by_cases hk : k = lower text
      · subst hk
        simp [h]
      · simp [hk]

def placeOf (k : String) (l : List String) : Nat :=
  l.findIdx fun text => lower text = k

theorem placeOf_cons_of_ne {text : String} (h : lower text ≠ k) (l : List String) :
    placeOf k (text :: l) = placeOf k l + 1 := by
  simp [placeOf, List.findIdx_cons, h]

/-- The texts that are kept stand in the order in which their lower-case forms come first. -/
theorem pairwise_placeOf_distinct (seen l : List String) :
    (distinctIgnoringCase seen l).Pairwise fun a b => placeOf (lower a) l < placeOf (lower b) l := by
  induction l generalizing seen with
  | nil => exact List.Pairwise.nil
  | cons text texts ih =>
    -- behind the first text all places are one further back
    have hback (seen : List String) (hseen : lower text ∈ seen) :
        ∀ a ∈ distinctIgnoringCase seen texts, placeOf (lower a) (text :: texts) = placeOf (lower a) texts + 1 := by
      intro a ha
      have hkept := (mem_map_lower_distinct.mp (List.mem_map_of_mem ha)).2
      have hne : lower text ≠ lower a := fun e => hkept (e ▸ hseen)
      exact placeOf_cons_of_ne hne texts
    have hrest (seen : List String) (hseen : lower text ∈ seen) :
        (distinctIgnoringCase seen texts).Pairwise fun a b =>
          placeOf (lower a) (text :: texts) < placeOf (lower b) (text :: texts) := by
      refine (ih seen).imp_of_mem fun {a b} ha hb hab => ?_
      rw [hback seen hseen a ha, hback seen hseen b hb]
      exact Nat.add_lt_add_right hab 1
    rw [distinctIgnoringCase]
    split_ifs with h
    · exact hrest seen (List.contains_iff_mem.mp h)
    · refine List.pairwise_cons.mpr ⟨fun b hb => ?_, hrest _ List.mem_cons_self⟩
      rw [hback _ List.mem_cons_self b hb]
      have hfirst : placeOf (lower text) (text :: texts) = 0 := by simp [placeOf, List.findIdx_cons]
      rw [hfirst]
      exact Nat.succ_pos _

theorem nodup_map_lower_distinct (seen l : List String) : ((distinctIgnoringCase seen l).map lower).Nodup := by
  refine List.pairwise_map.mpr ((pairwise_placeOf_distinct seen l).imp fun {a b} hab hsame => ?_)
  rw [hsame] at hab
  exact Nat.lt_irrefl _ hab

/-- Some texts of a list, each the first one of its lower-case form, in the order in which these come first. -/
structure Firsts (l kept : List String) : Prop where
  first : ∀ text ∈ kept, l.find? (fun other => lower other = lower text) = some text
  ordered : kept.Pairwise fun a b => placeOf (lower a) l < placeOf (lower b) l

theorem firsts_distinct (seen l : List String) : Firsts l (distinctIgnoringCase seen l) := by
  refine ⟨fun text htext => ?_, pairwise_placeOf_distinct seen l⟩
  induction l generalizing seen with
  | nil => cases htext
  | cons head texts ih =>
    have hskip {seen : List String} (hmem : text ∈ distinctIgnoringCase seen texts) (hseen : lower head ∈ seen) :
        (head :: texts).find? (fun other => lower other = lower text) = some text := by
      have hne : lower head ≠ lower text :=
        fun e => (mem_map_lower_distinct.mp (List.mem_map_of_mem hmem)).2 (e ▸ hseen)
      rw [List.find?_cons_of_neg (by simpa using hne)]
      exact ih seen hmem
    rw [distinctIgnoringCase] at htext
    split_ifs at htext with h
    · exact hskip htext (List.contains_iff_mem.mp h)
    · rcases List.mem_cons.mp htext with rfl | htext
      · exact List.find?_cons_of_pos (by simp)
      · exact hskip htext List.mem_cons_self

/-- Where no two texts are equal ignoring case, their places are those in the list. -/
theorem pairwise_placeOf_of_nodup (h : (l.map lower).Nodup) :
    l.Pairwise fun a b => placeOf (lower a) l < placeOf (lower b) l := by
  have hall : distinctIgnoringCase [] l = l := distinctIgnoringCase_eq_self h fun _ _ => List.not_mem_nil
  have hplaces := pairwise_placeOf_distinct [] l
  rwa [hall] at hplaces

end Distinct

end Catalog.Text
