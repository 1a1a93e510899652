import Catalog.Demo.Markup
import Catalog.Proofs.Text.Lines
import Mathlib.Data.Option.Basic

/-! Markup without its directives. A directive at the beginning of a line is taken out with the line and its end, and of
the other lines nothing is lost but line feeds of long runs and blank characters at either end. -/
namespace Catalog.Demo

open Text

variable {word : String} {line text s rest : List Char} {lines : List (List Char)}

section Lines

def directiveWords : List String := ["@using", "@inject", "@namespace"]

def markedWords : List String := "@page" :: directiveWords

def Unmarked (s : List Char) : Prop :=
  ∀ word ∈ markedWords, ¬ word.toList <:+: s

instance : DecidablePred Unmarked :=
  fun s => inferInstanceAs (Decidable (∀ word ∈ markedWords, ¬ word.toList <:+: s))

/-- Whether the line begins with the word and a space, and goes on with a text that is not blank. -/
def usesWord (word : String) (line : List Char) : Bool :=
  match dropLead (word.toList ++ [' ']) line with
  | some (_, text) => text.any fun c => !isBlank c
  | none => false

def isDirective (line : List Char) : Bool :=
  directiveWords.any fun word => usesWord word line

/-- A line that is a directive, or any other one; apart from its leading word no directive stands in it. -/
inductive Tidy : List Char → Prop
  | directive {word : String} {text : List Char} (hword : word ∈ directiveWords)
    (htext : text.any (fun c => !isBlank c) = true) (hfeed : '\n' ∉ text) (hfree : Unmarked text) :
    Tidy (word.toList ++ ' ' :: text)
  | plain {line : List Char} (hfeed : '\n' ∉ line) (hfree : Unmarked line) : Tidy line

theorem usesWord_iff : usesWord word line = true ↔
    ∃ text, line = word.toList ++ ' ' :: text ∧ text.any (fun c => !isBlank c) = true := by
  unfold usesWord
  constructor
  · intro h
    split at h
    · next text hlead =>
      refine ⟨text, ?_, h⟩
      simpa using dropLead_eq_some_iff.mp hlead
    · cases h
  · rintro ⟨text, rfl, htext⟩
    have hlead : dropLead (word.toList ++ [' ']) (word.toList ++ ' ' :: text) = some ((), text) :=
      dropLead_eq_some_iff.mpr (by simp)
    rw [hlead]
    exact htext

theorem usesWord_nil (word : String) : usesWord word [] = false := by
  rw [← Bool.not_eq_true, usesWord_iff]
  rintro ⟨text, hnil, -⟩
  simp at hnil

/-- No word of a directive has a line feed or a space in it. -/
theorem markedWords_plain : ∀ word ∈ markedWords, '\n' ∉ word.toList ∧ ' ' ∉ word.toList ∧ word.toList ≠ [] := by
  decide +kernel

theorem eq_of_isInfix_words :
    ∀ word ∈ markedWords, ∀ other ∈ directiveWords, word.toList <:+: other.toList → word = other := by
  decide +kernel

theorem mem_markedWords (h : word ∈ directiveWords) : word ∈ markedWords :=
  List.mem_cons_of_mem "@page" h

theorem unmarked_nil : Unmarked [] := by
  decide

theorem Tidy.newline_notMem (h : Tidy line) : '\n' ∉ line := by
  cases h with
  | plain hfeed => exact hfeed
  | @directive word text hword htext hfeed hfree =>
    have hplain := (markedWords_plain word (mem_markedWords hword)).1
    simp [hplain, hfeed]

/-- Where the word of a directive stands in a tidy line, the line is one of that word. -/
theorem Tidy.usesWord_of_isInfix (h : Tidy line) (hword : word ∈ markedWords) (hin : word.toList <:+: line) :
    word ∈ directiveWords ∧ usesWord word line = true := by
  cases h with
  | plain _ hfree => exact absurd hin (hfree word hword)
  | @directive other text hother htext _ hfree =>
    rcases isInfix_append_sep (markedWords_plain word hword).2.1 hin with hlead | hlater
    · have heq := eq_of_isInfix_words word hword other hother hlead
      rw [heq]
      exact ⟨hother, usesWord_iff.mpr ⟨text, rfl, htext⟩⟩
    · exact absurd hlater (hfree word hword)

theorem unmarked_space (text : List Char) : Unmarked (' ' :: text) ↔ Unmarked text := by
  constructor
  · exact fun h word hword hin => h word hword (hin.trans (List.suffix_cons ' ' text).isInfix)
  · intro h word hword hin
    obtain ⟨-, hspace, hne⟩ := markedWords_plain word hword
    rw [← List.nil_append (' ' :: text)] at hin
    rcases isInfix_append_sep hspace hin with hnil | htext
    · exact hne (List.infix_nil.mp hnil)
    · exact h word hword htext

theorem tidy_iff : Tidy line ↔ '\n' ∉ line ∧
    (Unmarked line ∨ ∃ word ∈ directiveWords, usesWord word line = true ∧ Unmarked (line.drop word.toList.length)) := by
  constructor
  · intro h
    refine ⟨h.newline_notMem, ?_⟩
    cases h with
    | plain _ hfree => exact .inl hfree
    | @directive word text hword htext _ hfree =>
      refine .inr ⟨word, hword, usesWord_iff.mpr ⟨text, rfl, htext⟩, ?_⟩
      rw [List.drop_left]
      exact (unmarked_space text).mpr hfree
  · rintro ⟨hfeed, hfree | ⟨word, hword, huses, hfree⟩⟩
    · exact .plain hfeed hfree
    · obtain ⟨text, rfl, htext⟩ := usesWord_iff.mp huses
      rw [List.drop_left] at hfree
      exact .directive hword htext (fun hmem => hfeed (by simp [hmem])) ((unmarked_space text).mp hfree)

instance : DecidablePred Tidy :=
  fun _ => decidable_of_iff _ tidy_iff.symm

end Lines

section Passes

theorem readDirective_eq_none (h : ¬ word.toList <+: s) : readDirective word s = none := by
  simp [readDirective, dropLead_eq_none h]

theorem readPage_eq_none (h : ¬ "@page".toList <+: s) : readPage s = none := by
  unfold readPage
  rw [dropLead_eq_none h]
  rfl

/-- Behind the word and blank characters a directive goes on to the end of the line. -/
theorem readDirective_eq {gap : List Char} {c : Char} (hgap : ∀ d ∈ gap, isBlank d = true) (hne : gap ≠ [])
    (hc : isBlank c = false) (s : List Char) :
    readDirective word (word.toList ++ (gap ++ c :: s)) =
      match (c :: s).dropWhile (· ≠ '\n') with
      | _ :: rest => some ((), rest)
      | [] => some ((), []) := by
  have hspan : spanWhile isBlank (gap ++ c :: s) = (gap, c :: s) := by
    refine spanWhile_eq_iff.mpr ⟨rfl, hgap, ?_⟩
    rintro d ⟨⟩
    exact hc
  have hguard : (!gap.isEmpty) = true := by simpa using hne
  cases hline : (c :: s).dropWhile (· ≠ '\n') <;>
    simp only [readDirective, dropLead_append, Option.bind_eq_bind, Option.bind_some, hspan, hguard, guard_true,
      Option.pure_def, hline]

/-- A directive is read with its line, up to the line feed or the end of the text. -/
theorem readDirective_line (word : String) (htext : text.any (fun c => !isBlank c) = true) (hfeed : '\n' ∉ text) :
    (∀ rest, readDirective word (word.toList ++ ' ' :: text ++ '\n' :: rest) = some ((), rest)) ∧
      readDirective word (word.toList ++ ' ' :: text) = some ((), []) := by
  obtain ⟨c, more, hmore⟩ : ∃ c more, text.dropWhile isBlank = c :: more := by
    refine List.exists_cons_of_ne_nil fun hnil => ?_
    obtain ⟨c, hc, hvisible⟩ := List.any_eq_true.mp htext
    simp [List.dropWhile_eq_nil_iff.mp hnil c hc] at hvisible
  have hsplit : text = text.takeWhile isBlank ++ c :: more := by
    rw [← hmore, List.takeWhile_append_dropWhile]
  have hc : isBlank c = false := by
    have hhead := List.head?_dropWhile_not isBlank text
    rw [hmore] at hhead
    simpa using hhead
  have hgap : ∀ d ∈ ' ' :: text.takeWhile isBlank, isBlank d = true :=
    List.forall_mem_cons.mpr ⟨by decide, fun d hd => all_takeWhile hd⟩
  have hstays : ∀ d ∈ c :: more, decide (d ≠ '\n') = true := by
    intro d hd
    have hmem : d ∈ text := hsplit ▸ List.mem_append_right _ hd
    exact decide_eq_true fun heq => hfeed (heq ▸ hmem)
  constructor
  · intro rest
    have hshape : word.toList ++ ' ' :: text ++ '\n' :: rest =
        word.toList ++ (' ' :: text.takeWhile isBlank ++ c :: (more ++ '\n' :: rest)) := by
      conv_lhs => rw [hsplit]
      simp
    rw [hshape, readDirective_eq hgap (List.cons_ne_nil _ _) hc, ← List.cons_append,
      List.dropWhile_append_of_pos hstays]
    rfl
  · have hshape : word.toList ++ ' ' :: text = word.toList ++ (' ' :: text.takeWhile isBlank ++ c :: more) := by
      conv_lhs => rw [hsplit]
      simp
    rw [hshape, readDirective_eq hgap (List.cons_ne_nil _ _) hc, List.dropWhile_eq_nil_iff.mpr hstays]

section Scan

variable {read : Reader Unit}

/-- A scan for a directive passes over a text in which its word does not stand. -/
theorem eraseAll_eq_self (hread : ∀ s, ¬ word.toList <+: s → read s = none) (h : ¬ word.toList <:+: s) :
    eraseAll read s = s := by
  have hnone (c : Char) (t : List Char) (ht : c :: t <:+ s) : read (c :: t ++ []) = none := by
    refine hread _ fun hlead => h ?_
    rw [List.append_nil] at hlead
    exact hlead.isInfix.trans ht.isInfix
  have hall := eraseAll_append hnone
  rw [List.append_nil] at hall
  exact hall.trans (List.append_nil s)

/-- It passes over a line without the word, whatever follows. -/
theorem eraseAll_line (hread : ∀ s, ¬ word.toList <+: s → read s = none) (hword : word ∈ markedWords)
    (hline : ¬ word.toList <:+: line) (rest : List Char) :
    eraseAll read (line ++ '\n' :: rest) = line ++ '\n' :: eraseAll read rest := by
  obtain ⟨hfeed, -, hne⟩ := markedWords_plain word hword
  have hnone (c : Char) (t : List Char) (ht : c :: t <:+ line ++ ['\n']) : read (c :: t ++ rest) = none := by
    refine hread _ fun hlead => ?_
    rcases suffix_append_cases ht with hlast | ⟨d, u, hu, heq⟩
    · obtain ⟨rfl, rfl⟩ : c = '\n' ∧ t = [] := by simpa using hlast.eq_of_length_le (by simp)
      exact hne (List.prefix_nil.mp (isPrefix_of_append_sep hfeed (hlead : word.toList <+: [] ++ '\n' :: rest)))
    · rw [heq, List.append_assoc] at hlead
      exact hline ((isPrefix_of_append_sep hfeed hlead).isInfix.trans hu.isInfix)
  have hall := eraseAll_append hnone
  simpa using hall

end Scan

theorem Tidy.not_isInfix (h : Tidy line) (hword : word ∈ markedWords) (huses : usesWord word line = false) :
    ¬ word.toList <:+: line := by
  intro hin
  have hyes := (h.usesWord_of_isInfix hword hin).2
  rw [huses] at hyes
  cases hyes

/-- A directive is taken out with its line. -/
theorem Tidy.eraseAll_directive (h : Tidy line) (huses : usesWord word line = true) :
    (∀ rest, eraseAll (readDirective word) (line ++ '\n' :: rest) = eraseAll (readDirective word) rest) ∧
      eraseAll (readDirective word) line = [] := by
  obtain ⟨text, rfl, htext⟩ := usesWord_iff.mp huses
  have hfeed : '\n' ∉ text := fun hmem => h.newline_notMem (by simp [hmem])
  obtain ⟨hmiddle, hlast⟩ := readDirective_line word htext hfeed
  have hne : word.toList ++ ' ' :: text ≠ [] := by simp
  constructor
  · intro rest
    have hread : readDirective word (word.toList ++ ' ' :: text ++ ['\n'] ++ rest) = some ((), rest) := by
      rw [List.append_assoc]
      exact hmiddle rest
    have hall := eraseAll_of_read (List.append_ne_nil_of_left_ne_nil hne _) hread
    rwa [List.append_assoc] at hall
  · rw [← List.append_nil (word.toList ++ ' ' :: text)] at hlast ⊢
    exact eraseAll_of_read hne hlast

/-- One pass takes the lines with its word out of a text of tidy lines; where the last one goes, the end of the line
before it stays. -/
theorem eraseAll_lines (hword : word ∈ directiveWords) (lines : List (List Char)) {last : List Char}
    (h : ∀ line ∈ lines ++ [last], Tidy line) :
    eraseAll (readDirective word) (ended lines ++ last) =
      ended (lines.filter fun line => !usesWord word line) ++ if usesWord word last then [] else last := by
  have hmarked := mem_markedWords hword
  have hread : ∀ s, ¬ word.toList <+: s → readDirective word s = none := fun _ => readDirective_eq_none
  induction lines with
  | nil =>
    have hlast : Tidy last := h last (List.mem_singleton_self last)
    cases huses : usesWord word last with
    | true => exact (hlast.eraseAll_directive huses).2
    | false => exact eraseAll_eq_self hread (hlast.not_isInfix hmarked huses)
  | cons line lines ih =>
    obtain ⟨hline, hrest⟩ := List.forall_mem_cons.mp h
    rw [ended_cons, List.append_assoc, List.cons_append]
    cases huses : usesWord word line with
    | true =>
      rw [(hline.eraseAll_directive huses).1, ih hrest, List.filter_cons_of_neg (by simp [huses])]
    | false =>
      rw [eraseAll_line hread hmarked (hline.not_isInfix hmarked huses), ih hrest,
        List.filter_cons_of_pos (by simp [huses]), ended_cons, List.append_assoc, List.cons_append]

/-- The passes for several words, one after another. -/
theorem foldl_eraseAll_lines {words : List String} (hwords : ∀ word ∈ words, word ∈ directiveWords)
    {lines : List (List Char)} {last : List Char} (h : ∀ line ∈ lines ++ [last], Tidy line) :
    words.foldl (fun s word => eraseAll (readDirective word) s) (ended lines ++ last) =
      ended (lines.filter fun line => !words.any fun word => usesWord word line) ++
        if words.any (fun word => usesWord word last) then [] else last := by
  induction words generalizing lines last with
  | nil => simp
  | cons word words ih =>
    obtain ⟨hword, hwords⟩ := List.forall_mem_cons.mp hwords
    obtain ⟨hlines, hlast⟩ := List.forall_mem_append.mp h
    have hleft : ∀ line ∈ lines.filter (fun line => !usesWord word line) ++
        [if usesWord word last then [] else last], Tidy line := by
      refine List.forall_mem_append.mpr ⟨fun line hmem => hlines line (List.mem_of_mem_filter hmem), ?_⟩
      refine List.forall_mem_singleton.mpr ?_
      split_ifs
      · exact .plain List.not_mem_nil unmarked_nil
      · exact hlast last (List.mem_singleton_self last)
    rw [List.foldl_cons, eraseAll_lines hword lines h, ih hwords hleft, List.filter_filter]
    congr 1
    · simp [Bool.and_comm]
    · cases huses : usesWord word last with
      | true => simp [huses, usesWord_nil]
      | false => simp [huses]

end Passes

section Cleaning

/-- What the passes leave of tidy lines are the other lines, and maybe the end of the line before a directive at the
end. -/
theorem exists_passes {lines : List (List Char)} (h : ∀ line ∈ lines, Tidy line) :
    ∃ tail, (tail = [] ∨ tail = ['\n']) ∧
      directiveWords.foldl (fun s word => eraseAll (readDirective word) s)
          (eraseAll readPage (['\n'].intercalate lines)) =
        ['\n'].intercalate (lines.filter fun line => !isDirective line) ++ tail := by
  rcases List.eq_nil_or_concat' lines with rfl | ⟨lines, last, rfl⟩
  · exact ⟨[], .inl rfl, rfl⟩
  · have hpage : ¬ "@page".toList <:+: ['\n'].intercalate (lines ++ [last]) := by
      intro hin
      obtain ⟨line, hmem, hline⟩ := exists_isInfix_of_intercalate (by decide) (by decide) hin
      exact absurd ((h line hmem).usesWord_of_isInfix List.mem_cons_self hline).1 (by decide)
    rw [eraseAll_eq_self (fun _ => readPage_eq_none) hpage, intercalate_concat,
      foldl_eraseAll_lines (fun _ hword => hword) h, List.filter_append]
    change ∃ tail, _ ∧ ended (lines.filter fun line => !isDirective line) ++ (if isDirective last then [] else last) = _
    generalize lines.filter (fun line => !isDirective line) = kept
    cases hlast : isDirective last with
    | false =>
      rw [List.filter_cons_of_pos (by simp [hlast]), List.filter_nil, intercalate_concat]
      exact ⟨[], .inl rfl, by simp⟩
    | true =>
      rw [List.filter_cons_of_neg (by simp [hlast]), List.filter_nil, List.append_nil]
      rcases List.eq_nil_or_concat' kept with rfl | ⟨kept, line, rfl⟩
      · exact ⟨[], .inl rfl, rfl⟩
      · exact ⟨['\n'], .inr rfl, by rw [intercalate_concat]; simp [ended]⟩

theorem readBlankLines_replicate (hrest : rest.head? ≠ some '\n') (n : ℕ) :
    readBlankLines (List.replicate n '\n' ++ rest) = if n < 3 then none else some (['\n', '\n'], rest) := by
  have hspan : spanWhile (· = '\n') (List.replicate n '\n' ++ rest) = (List.replicate n '\n', rest) := by
    refine spanWhile_eq_iff.mpr ⟨rfl, fun c hc => decide_eq_true (List.eq_of_mem_replicate hc), fun c hc => ?_⟩
    exact decide_eq_false fun heq => hrest (by rw [hc, heq])
  simp only [readBlankLines, hspan, List.length_replicate]

theorem replaceAll_replicate (hrest : rest.head? ≠ some '\n') (n : ℕ) :
    replaceAll readBlankLines (List.replicate n '\n' ++ rest) =
      List.replicate (min n 2) '\n' ++ replaceAll readBlankLines rest := by
  by_cases hn : n < 3
  · have hnone (c : Char) (t : List Char) (ht : c :: t <:+ List.replicate n '\n') :
        readBlankLines (c :: t ++ rest) = none := by
      obtain ⟨hlength, hsame⟩ := List.suffix_replicate_iff.mp ht
      rw [hsame, readBlankLines_replicate hrest, if_pos (by omega)]
    rw [replaceAll_append hnone, show min n 2 = n by omega]
  · have hread := readBlankLines_replicate hrest n
    rw [if_neg hn] at hread
    have hne : List.replicate n '\n' ≠ [] := by simpa using (by omega : n ≠ 0)
    rw [replaceAll_of_read hne hread, show min n 2 = 2 by omega]
    rfl

theorem replaceAll_readBlankLines (s : List Char) : replaceAll readBlankLines s = squeezeFrom 0 s := by
  have hall (n : ℕ) : replaceAll readBlankLines (List.replicate n '\n' ++ s) =
      squeezeFrom 0 (List.replicate n '\n' ++ s) := by
    induction s generalizing n with
    | nil =>
      have hhead : ([] : List Char).head? ≠ some '\n' := by decide
      rw [replaceAll_replicate hhead, squeezeFrom_replicate hhead]
      rfl
    | cons c s ih =>
      by_cases hc : c = '\n'
      · subst hc
        have hnext := ih (n + 1)
        rwa [List.replicate_succ', List.append_assoc] at hnext
      · have hhead : (c :: s).head? ≠ some '\n' := by simpa using hc
        have hnone : readBlankLines (c :: s) = none := readBlankLines_replicate hhead 0
        have hrest : replaceAll readBlankLines s = squeezeFrom 0 s := ih 0
        rw [replaceAll_replicate hhead, squeezeFrom_replicate hhead, squeezeFrom_cons_of_ne hc, replaceAll_cons hnone,
          hrest]
  exact hall 0

theorem cleanMarkup_eq (markup : String) :
    cleanMarkup markup = trim (String.ofList (squeezeFrom 0
      (directiveWords.foldl (fun s word => eraseAll (readDirective word) s) (eraseAll readPage markup.toList)))) := by
  rw [← replaceAll_readBlankLines]
  rfl

theorem cleanMarkup_of_unmarked {text : String} (h : Unmarked text.toList) :
    cleanMarkup text = trim (squeeze text) := by
  have hword (word : String) (hword : word ∈ directiveWords) :
      eraseAll (readDirective word) text.toList = text.toList :=
    eraseAll_eq_self (fun _ => readDirective_eq_none) (h word (mem_markedWords hword))
  have hpage : eraseAll readPage text.toList = text.toList :=
    eraseAll_eq_self (fun _ => readPage_eq_none) (h "@page" List.mem_cons_self)
  rw [cleanMarkup_eq, hpage, squeeze]
  simp only [directiveWords, List.foldl_cons, List.foldl_nil, hword "@using" (by decide), hword "@inject" (by decide),
    hword "@namespace" (by decide)]

theorem Unmarked.of_isInfix (h : Unmarked s) (hts : text <:+: s) : Unmarked text :=
  fun word hword hin => h word hword (hin.trans hts)

theorem Unmarked.squeezeFrom (h : Unmarked s) (before : ℕ) : Unmarked (squeezeFrom before s) :=
  fun word hword hin => h word hword (isInfix_of_squeezeFrom (markedWords_plain word hword).1 hin)

theorem unmarked_intercalate {lines : List (List Char)} (h : ∀ line ∈ lines, Unmarked line) :
    Unmarked (['\n'].intercalate lines) := by
  intro word hword hin
  obtain ⟨hfeed, -, hne⟩ := markedWords_plain word hword
  obtain ⟨line, hmem, hline⟩ := exists_isInfix_of_intercalate hfeed hne hin
  exact h line hmem word hword hline

theorem Tidy.unmarked (h : Tidy line) (hnot : isDirective line = false) : Unmarked line := by
  intro word hword hin
  obtain ⟨hdirective, huses⟩ := h.usesWord_of_isInfix hword hin
  have hyes : isDirective line = true := List.any_eq_true.mpr ⟨word, hdirective, huses⟩
  rw [hnot] at hyes
  cases hyes

theorem cleanMarkup_join {lines : List String} (h : ∀ line ∈ lines, Tidy line.toList) :
    cleanMarkup (join "\n" lines) = trim (squeeze (join "\n" (lines.filter fun line => !isDirective line.toList))) := by
  have hkept : (lines.map String.toList).filter (fun line => !isDirective line) =
      (lines.filter fun line => !isDirective line.toList).map String.toList := List.filter_map
  obtain ⟨tail, htail, hpasses⟩ := exists_passes (List.forall_mem_map.mpr h)
  rw [cleanMarkup_eq, toList_join_lines, hpasses, hkept, ← toList_join_lines]
  rcases htail with rfl | rfl
  · rw [List.append_nil]
    rfl
  · exact trim_squeezeFrom_concat _

/-- Cleaning a text of tidy lines takes out the directives and nothing else: the other lines are left, with long runs of
line feeds cut down to two and without blank characters at either end, and a second time nothing is taken out. -/
theorem cleanMarkup_lines {lines : List String} (h : ∀ line ∈ lines, Tidy line.toList) :
    let kept := lines.filter fun line => !isDirective line.toList
    let cleaned := cleanMarkup (join "\n" lines)
    cleaned = trim (squeeze (join "\n" kept)) ∧
      (∃ front back, (∀ c ∈ front ++ back, isBlank c = true) ∧
        kept.flatMap String.toList = front ++ cleaned.toList.filter (· ≠ '\n') ++ back) ∧
      cleanMarkup cleaned = cleaned := by
  intro kept cleaned
  have htidy : ∀ line ∈ kept.map String.toList, Tidy line ∧ isDirective line = false := by
    refine List.forall_mem_map.mpr fun line hmem => ?_
    obtain ⟨hline, hnot⟩ := List.mem_filter.mp hmem
    exact ⟨h line hline, by simpa using hnot⟩
  have hleft : cleaned = trim (squeeze (join "\n" kept)) := cleanMarkup_join h
  have hchars : cleaned.toList = trimChars (squeezeFrom 0 (['\n'].intercalate (kept.map String.toList))) := by
    rw [hleft, trim, squeeze, String.toList_ofList, String.toList_ofList, toList_join_lines]
  refine ⟨hleft, ?_, ?_⟩
  · obtain ⟨front, back, hall, hfront, hback⟩ :=
      exists_append_trimChars (squeezeFrom 0 (['\n'].intercalate (kept.map String.toList)))
    refine ⟨front.filter (· ≠ '\n'), back.filter (· ≠ '\n'), ?_, ?_⟩
    · refine List.forall_mem_append.mpr ⟨fun c hc => ?_, fun c hc => ?_⟩
      · exact hfront c (List.mem_of_mem_filter hc)
      · exact hback c (List.mem_of_mem_filter hc)
    · have hfeeds : ∀ line ∈ kept.map String.toList, '\n' ∉ line := fun line hmem => (htidy line hmem).1.newline_notMem
      rw [hchars, ← List.filter_append, ← List.filter_append, ← hall, filter_squeezeFrom, filter_intercalate hfeeds,
        List.flatMap_def]
  · have hunmarked : Unmarked cleaned.toList := by
      rw [hchars]
      refine Unmarked.of_isInfix ?_ (isInfix_trimChars _)
      exact (unmarked_intercalate fun line hmem => (htidy line hmem).1.unmarked (htidy line hmem).2).squeezeFrom 0
    rw [cleanMarkup_of_unmarked hunmarked, hleft, squeeze_trim_squeeze, trim_trim]

/-- Directives at the beginning, between blank lines and at the end, and lines with blank characters of several
kinds. -/
def buttonLines : List String := [
  "@using Bit.BlazorUI", "@inject\u0020\tIJSRuntime js\r", "\t<BitButton>", "", "@namespace Demo", "", "", "",
  "\u2028 Save\u00a0it", "</BitButton> ", "@using System"]

theorem cleanMarkup_lines_button : (∀ line ∈ buttonLines, Tidy line.toList) ∧
    cleanMarkup (join "\n" buttonLines) = "<BitButton>\n\n\u2028 Save\u00a0it\n</BitButton>" := by
  have htidy : ∀ line ∈ buttonLines, Tidy line.toList := by decide +kernel
  obtain ⟨hcleaned, -, -⟩ := cleanMarkup_lines htidy
  exact ⟨htidy, hcleaned.trans (by decide +kernel)⟩

end Cleaning
end Catalog.Demo
