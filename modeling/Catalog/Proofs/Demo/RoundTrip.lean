import Catalog.Checkout
import Catalog.Proofs.Demo.Constant
import Catalog.Proofs.Failure
import Catalog.Proofs.Lists
import Mathlib.Data.List.Nodup

/-! A samples file that is written constant by constant gives its texts back: one example for each number, with the
markup and the code that were written under it. -/
namespace Catalog.Demo

open Text

variable {samples : List Sample} {kind : SampleKind} {tail : List Char} {number : ℕ}

/-- A file with the constants, and blank characters at its end. -/
def fileText (samples : List Sample) (tail : List Char) : List Char :=
  samples.flatMap Sample.written ++ tail

def textIn? (kind : SampleKind) (number : ℕ) (samples : List Sample) : Option String :=
  (samples.find? fun s => s.kind = kind ∧ s.number = number).map Sample.text

theorem findAll_fileText (hplain : ∀ s ∈ samples, s.Plain) (htail : ∀ c ∈ tail, isBlank c) :
    findAll (readConstant kind) (fileText samples tail) =
      (samples.filter (·.kind = kind)).map fun s => (Nat.toDigits 10 s.number, s.text) := by
  unfold fileText
  induction samples with
  | nil =>
    have hskip : findAll (readConstant kind) (tail ++ []) = [] := skips_of_isBlank htail []
    rwa [List.append_nil] at hskip
  | cons s samples ih =>
    have hs : s.Plain := hplain s List.mem_cons_self
    have hrest := ih fun s' hs' => hplain s' (List.mem_cons_of_mem s hs')
    rw [List.flatMap_cons, List.append_assoc]
    by_cases hk : s.kind = kind
    · subst hk
      rw [Sample.findAll_written_self hs, hrest, List.filter_cons_of_pos (by simp)]
      rfl
    · rw [Sample.skips_written hs (Ne.symm hk), hrest, List.filter_cons_of_neg (by simpa using hk)]

/-- The constants of a kind are read as they were written. -/
theorem constants_fileText (hplain : ∀ s ∈ samples, s.Plain) (htail : ∀ c ∈ tail, isBlank c) :
    constants kind (fileText samples tail) =
      .ok ((samples.filter (·.kind = kind)).map fun s => (s.number, s.text)) := by
  rw [constants, findAll_fileText hplain htail, mapM_eq_ok (g := fun pair => (numberOf pair.1, pair.2))]
  · rw [List.map_map]
    simp only [Function.comp_def, numberOf_toDigits]
  · intro pair hpair
    obtain ⟨s, hs, rfl⟩ := List.mem_map.mp hpair
    have hshort := (hplain s (List.mem_of_mem_filter hs)).short
    simp only [natOfDigits, if_pos hshort]

section Numbers

theorem pairwise_eraseDups {l : List ℕ} (h : l.Pairwise (· ≤ ·)) : l.eraseDups.Pairwise (· < ·) := by
  induction hn : l.length using Nat.strong_induction_on generalizing l with
  | _ n ih =>
    cases l with
    | nil => exact List.Pairwise.nil
    | cons a l =>
      obtain ⟨ha, hl⟩ := List.pairwise_cons.mp h
      rw [List.eraseDups_cons, List.pairwise_cons]
      constructor
      · intro b hb
        obtain ⟨hmem, hne⟩ := List.mem_filter.mp (List.mem_eraseDups.mp hb)
        have hle := ha b hmem
        have hne : b ≠ a := by simpa using hne
        omega
      · have hlength := List.length_filter_le (fun b => !b == a) l
        exact ih _ (by simp only [List.length_cons] at hn; omega) (hl.filter _) rfl

theorem pairwise_numbersOf (l : List (ℕ × String)) : (numbersOf l).Pairwise (· < ·) := by
  apply pairwise_eraseDups
  have hsorted : ((l.map Prod.fst).mergeSort fun a b => decide (a ≤ b)).Pairwise fun a b => decide (a ≤ b) :=
    List.pairwise_mergeSort (by simp; omega) (by simp; omega) _
  simpa using hsorted

theorem mem_numbersOf {l : List (ℕ × String)} : number ∈ numbersOf l ↔ number ∈ l.map Prod.fst := by
  rw [numbersOf, List.mem_eraseDups, List.mem_mergeSort]

end Numbers

section Texts

theorem mem_of_lookup {l : List (ℕ × String)} {text : String} (hd : (l.map Prod.fst).Nodup) :
    l.lookup number = some text ↔ (number, text) ∈ l := by
  induction l with
  | nil => simp
  | cons pair l ih =>
    obtain ⟨n, t⟩ := pair
    rw [List.map_cons, List.nodup_cons] at hd
    rw [List.lookup_cons, List.mem_cons]
    by_cases hn : number = n
    · subst hn
      have hmem : (number, text) ∉ l := fun hmem => hd.1 (List.mem_map.mpr ⟨_, hmem, rfl⟩)
      simp [hmem, eq_comm]
    · have hne : (number == n) = false := beq_eq_false_iff_ne.mpr hn
      rw [hne, ih hd.2]
      simp [hn]

/-- Among constants with different numbers it does not matter which is the last. -/
theorem textOf?_eq_lookup {l : List (ℕ × String)} (hd : (l.map Prod.fst).Nodup) :
    textOf? number l = l.lookup number := by
  have hreverse : (l.reverse.map Prod.fst).Nodup := by
    rw [List.map_reverse]
    exact List.pairwise_reverse.mpr (hd.imp Ne.symm)
  ext text
  rw [textOf?, mem_of_lookup hreverse, mem_of_lookup hd, List.mem_reverse]

theorem lookup_filter (samples : List Sample) :
    ((samples.filter (·.kind = kind)).map fun s => (s.number, s.text)).lookup number =
      textIn? kind number samples := by
  unfold textIn?
  induction samples with
  | nil => rfl
  | cons s samples ih =>
    by_cases hk : s.kind = kind
    · by_cases hn : number = s.number
      · simp [hk, hn]
      · have hne : (number == s.number) = false := beq_eq_false_iff_ne.mpr hn
        have hfind : decide (s.kind = kind ∧ s.number = number) = false := by simp [Ne.symm hn]
        rw [List.filter_cons_of_pos (by simpa using hk), List.map_cons, List.lookup_cons, hne,
          List.find?_cons_of_neg (by simp [hfind])]
        exact ih
    · simp [hk, ih]

theorem nodup_numbers (hdistinct : (samples.map fun s => (s.number, s.kind)).Nodup) :
    (((samples.filter (·.kind = kind)).map fun s => (s.number, s.text)).map Prod.fst).Nodup := by
  have hpairs : ((samples.filter (·.kind = kind)).map fun s => (s.number, s.kind)).Nodup :=
    hdistinct.sublist (List.filter_sublist.map _)
  have heq : (samples.filter (·.kind = kind)).map (fun s => (s.number, s.kind)) =
      (((samples.filter (·.kind = kind)).map fun s => (s.number, s.text)).map Prod.fst).map (·, kind) := by
    rw [List.map_map, List.map_map]
    refine List.map_congr_left fun s hs => ?_
    have hkind : s.kind = kind := of_decide_eq_true (List.mem_filter.mp hs).2
    rw [hkind]
    rfl
  rw [heq] at hpairs
  exact List.Nodup.of_map _ hpairs

theorem textOf?_fileText (hdistinct : (samples.map fun s => (s.number, s.kind)).Nodup) :
    textOf? number ((samples.filter (·.kind = kind)).map fun s => (s.number, s.text)) = textIn? kind number samples :=
  (textOf?_eq_lookup (nodup_numbers hdistinct)).trans (lookup_filter samples)

theorem mem_numbersOf_fileText :
    number ∈ numbersOf (((samples.filter (·.kind = .markup)).map fun s => (s.number, s.text)) ++
        (samples.filter (·.kind = .code)).map fun s => (s.number, s.text)) ↔
      ∃ s ∈ samples, s.number = number := by
  rw [mem_numbersOf, List.map_append, List.mem_append, List.map_map, List.map_map, List.mem_map, List.mem_map]
  constructor
  · rintro (⟨s, hs, hn⟩ | ⟨s, hs, hn⟩)
    · exact ⟨s, List.mem_of_mem_filter hs, hn⟩
    · exact ⟨s, List.mem_of_mem_filter hs, hn⟩
  · rintro ⟨s, hs, hn⟩
    cases hk : s.kind with
    | markup => exact .inl ⟨s, List.mem_filter.mpr ⟨hs, decide_eq_true hk⟩, hn⟩
    | code => exact .inr ⟨s, List.mem_filter.mpr ⟨hs, decide_eq_true hk⟩, hn⟩

end Texts

theorem parseSamples_fileText (file : Path) (componentName : String) (hplain : ∀ s ∈ samples, s.Plain)
    (hdistinct : (samples.map fun s => (s.number, s.kind)).Nodup) (htail : ∀ c ∈ tail, isBlank c) :
    ∃ numbers : List ℕ, numbers.Pairwise (· < ·) ∧ (∀ n, n ∈ numbers ↔ ∃ s ∈ samples, s.number = n) ∧
      parseSamples file componentName (fileText samples tail) false =
        .ok (numbers.map fun n => exampleOf (namePrefix file componentName) file.name n
          (textIn? .markup n samples) (textIn? .code n samples)) := by
  -- the numbers of both scans together are the numbers written, each found by the scan for its kind
  refine ⟨_, pairwise_numbersOf _, fun n => mem_numbersOf_fileText, ?_⟩
  rw [parseSamples, constants_fileText hplain htail, constants_fileText hplain htail]
  refine mapM_eq_ok fun n _ => ?_
  rw [textOf?_fileText hdistinct, textOf?_fileText hdistinct]
  rfl

/-- What is made of the text of markup: a blank one is kept as it is. -/
def cleaned (text : String) : String :=
  if isBlankText text then text else cleanMarkup text

theorem exampleOf_code (lead fileName : String) (markup code : Option String) :
    (exampleOf lead fileName number markup code).code = code.map trim := by
  unfold exampleOf
  cases code with
  | none => rfl
  | some text =>
    by_cases ht : text.isEmpty
    · have hempty : text = "" := by simpa using ht
      rw [hempty]
      rfl
    · exact congrArg some (if_neg ht)

theorem unifyLineEnds_of_not_mem {s : List Char} (h : '\r' ∉ s) : unifyLineEnds s = s := by
  induction s with
  | nil => rfl
  | cons c s ih =>
    have hc : c ≠ '\r' := fun hc => h (hc ▸ List.mem_cons_self)
    have hs : unifyLineEnds s = s := ih fun hs => h (List.mem_cons_of_mem c hs)
    rw [unifyLineEnds, if_neg hc, hs]
    exact fun _ hreturn _ => hc hreturn

/-- Written to a file and read again, constants of different numbers or kinds give one example for each number, with
the code and the markup that were written. -/
theorem readSamples_fileText {w : Workspace} {file : Path} {bytes : List UInt8} (componentName : String)
    (hplain : ∀ s ∈ samples, s.Plain) (hdistinct : (samples.map fun s => (s.number, s.kind)).Nodup)
    (htail : ∀ c ∈ tail, isBlank c) (hreturn : '\r' ∉ fileText samples tail) (hfile : w.exists? file)
    (hbytes : w.readBytes file = .ok bytes) (hdecode : decodeUtf8 bytes = fileText samples tail) :
    ∃ (numbers : List ℕ) (examples : List Example), numbers.Pairwise (· < ·) ∧
      (∀ n, n ∈ numbers ↔ ∃ s ∈ samples, s.number = n) ∧
      Checkout.readSamples w file componentName false = .ok examples ∧
      examples.map Example.name = numbers.map (fun n => namePrefix file componentName ++ "Example " ++ toString n) ∧
      examples.map Example.code = numbers.map (fun n => (textIn? .code n samples).map trim) ∧
      examples.map Example.markup = numbers.map (fun n => (textIn? .markup n samples).map cleaned) := by
  obtain ⟨numbers, hsorted, hmem, hparse⟩ := parseSamples_fileText file componentName hplain hdistinct htail
  have htext : w.readText file = .ok (fileText samples tail) := by
    rw [Workspace.readText, hbytes]
    change Except.ok (unifyLineEnds (decodeUtf8 bytes)) = _
    rw [hdecode, unifyLineEnds_of_not_mem hreturn]
  have hread : Checkout.readSamples w file componentName false =
      parseSamples file componentName (fileText samples tail) false := by
    rw [Checkout.readSamples, if_pos hfile, htext]
    rfl
  refine ⟨numbers, _, hsorted, hmem, hread.trans hparse, ?_, ?_, ?_⟩
  · rw [List.map_map]
    rfl
  · rw [List.map_map]
    exact List.map_congr_left fun n _ => exampleOf_code _ _ _ _
  · rw [List.map_map]
    rfl

def quotedPair : List Sample :=
  [{ lead := ['\n'], number := 1, kind := .markup, text := "<BitButton Title=\"x\" />" },
    { lead := ['\n'], number := 1, kind := .code, text := "string name = \"x\" + y;" }]

def quotedPairFolder : Workspace where
  tree :=
    { files := [(["BitButtonDemo.razor.samples.cs"],
        (String.ofList (fileText quotedPair ['\n'])).toUTF8.data.toList)] }

theorem readSamples_quotedPair :
    ∃ (numbers : List ℕ) (examples : List Example), 1 ∈ numbers ∧
      Checkout.readSamples quotedPairFolder ⟨"", ["BitButtonDemo.razor.samples.cs"]⟩ "BitButton" false =
        .ok examples ∧
      examples.map Example.code = numbers.map fun n => (textIn? .code n quotedPair).map trim := by
  have hplain : ∀ s ∈ quotedPair, s.Plain := by
    intro s hs
    have hshape : s.lead = ['\n'] ∧ s.number = 1 ∧ ¬ ['"', ';'] <:+: s.text.toList ∧ 'p' ∉ s.text.toList := by
      revert s
      decide +kernel
    obtain ⟨hlead, hnumber, hunbroken, hp⟩ := hshape
    refine ⟨?_, ?_, hunbroken, Sample.alone_of_not_mem hp⟩
    · rw [hlead]
      exact List.forall_mem_singleton.mpr rfl
    · have hone : (Nat.toDigits 10 1).length = 1 := rfl
      rw [hnumber, hone, maxNumeralDigits]
      omega
  have htail : ∀ c ∈ ['\n'], isBlank c := List.forall_mem_singleton.mpr rfl
  have hreturn : '\r' ∉ fileText quotedPair ['\n'] := by decide +kernel
  have hfile : quotedPairFolder.exists? ⟨"", ["BitButtonDemo.razor.samples.cs"]⟩ := by decide +kernel
  have hdecode : decodeUtf8 (String.ofList (fileText quotedPair ['\n'])).toUTF8.data.toList =
      fileText quotedPair ['\n'] := by decide +kernel
  obtain ⟨numbers, examples, -, hmem, hread, -, hcode, -⟩ :=
    readSamples_fileText "BitButton" hplain (by decide) htail hreturn hfile rfl hdecode
  exact ⟨numbers, examples, (hmem 1).mpr ⟨_, List.mem_cons_self, rfl⟩, hread, hcode⟩

/-- Code that ends with a quote and a semicolon. -/
def quoteSemicolon : Sample where
  lead := "    ".toList
  number := 1
  kind := .code
  text := "string name = \"x\";"

/-- The text of a constant ends at the first quote before a semicolon, also where that quote is one of two that stand
for one: the semicolon is lost. -/
theorem parseSamples_quoteSemicolon :
    ∃ examples, parseSamples ⟨"", ["BitButtonDemo.razor.samples.cs"]⟩ "BitButton"
        (fileText [quoteSemicolon] ['\n']) false = .ok examples ∧
      examples.map Example.code = [some "string name = \"x\""] ∧
      (textIn? .code 1 [quoteSemicolon]).map trim = some "string name = \"x\";" := by
  refine ⟨[
    { name := "Example 1", description := none, markup := none
      code := some "string name = \"x\"", sourceFile := "BitButtonDemo.razor.samples.cs" }], ?_, rfl, ?_⟩
  · decide +kernel
  · decide +kernel

end Catalog.Demo
