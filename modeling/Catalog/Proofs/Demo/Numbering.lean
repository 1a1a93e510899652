import Catalog.Proofs.Demo.RoundTrip
import Catalog.Proofs.Failure
import Catalog.Proofs.Index.Provenance
import Catalog.Proofs.Text.Blank

/-! The names of examples: what a samples file gives is numbered upwards, and a numeral that stands in another one is
that of no greater number. -/
namespace Catalog

open Text

namespace Demo

section Numeral

variable {lead : List Char} {m n : ℕ}

theorem toDigits_injective (h : Nat.toDigits 10 m = Nat.toDigits 10 n) : m = n := by
  rw [← numberOf_toDigits m, h, numberOf_toDigits]

theorem length_toDigits_mono (h : m ≤ n) : (Nat.toDigits 10 m).length ≤ (Nat.toDigits 10 n).length := by
  have hbound : n < 10 ^ (Nat.toDigits 10 n).length :=
    (Nat.length_toDigits_le_iff (by omega) Nat.length_toDigits_pos).mp (Nat.le_refl _)
  exact (Nat.length_toDigits_le_iff (by omega) Nat.length_toDigits_pos).mpr (Nat.lt_of_le_of_lt h hbound)

/-- Digits are neither blank nor capitals. -/
theorem digit_plain {c : Char} (hc : c ∈ Nat.toDigits 10 n) : isBlank c = false ∧ IsLower c := by
  have hall : ∀ k < 58, 48 ≤ k → isBlank (Char.ofNat k) = false ∧ IsLower (Char.ofNat k) := by decide +kernel
  obtain ⟨hlow, hhigh⟩ := Char.isDigit_iff_toNat.mp (Nat.isDigit_of_mem_toDigits (by omega) (by omega) hc)
  have hplain := hall c.toNat (Nat.lt_succ_of_le hhigh) hlow
  rwa [Char.ofNat_toNat] at hplain

/-- Behind the same text a numeral stands only in those of greater numbers and in itself. -/
theorem le_of_isInfix (h : lead ++ Nat.toDigits 10 m <:+: lead ++ Nat.toDigits 10 n) : m ≤ n := by
  by_contra hlt
  have hlength := length_toDigits_mono (Nat.le_of_not_le hlt)
  have hwhole : lead ++ Nat.toDigits 10 m = lead ++ Nat.toDigits 10 n :=
    h.eq_of_length_le (by simpa using hlength)
  exact hlt (toDigits_injective (List.append_cancel_left hwhole)).le

/-- Where blank characters are dropped in front of a numeral, none is left there. -/
theorem head?_dropWhile_append_toDigits (lead : List Char) (n : ℕ) :
    (lead.dropWhile isBlank ++ Nat.toDigits 10 n).head?.any isBlank = false := by
  have hlead : (lead.dropWhile isBlank).head?.any isBlank = false :=
    dropWhile_isBlank_eq_self_iff.mp (List.dropWhile_idempotent _ lead)
  cases h : lead.dropWhile isBlank with
  | nil =>
    rw [List.nil_append, List.head?_eq_some_head Nat.toDigits_ne_nil]
    exact (digit_plain (List.head_mem _)).1
  | cons c cs =>
    rw [h] at hlead
    exact hlead

/-- Only in front are blank characters taken off a text that ends with a numeral. -/
theorem trimChars_append_toDigits (lead : List Char) (n : ℕ) :
    trimChars (lead ++ Nat.toDigits 10 n) = lead.dropWhile isBlank ++ Nat.toDigits 10 n := by
  have htrimmed : IsTrimmed (lead.dropWhile isBlank ++ Nat.toDigits 10 n) := by
    refine ⟨head?_dropWhile_append_toDigits lead n, ?_⟩
    rw [List.getLast?_append_of_ne_nil _ Nat.toDigits_ne_nil, List.getLast?_eq_some_getLast Nat.toDigits_ne_nil]
    exact (digit_plain (List.getLast_mem _)).1
  have hwhole : lead ++ Nat.toDigits 10 n =
      lead.takeWhile isBlank ++ (lead.dropWhile isBlank ++ Nat.toDigits 10 n) ++ [] := by
    rw [List.append_nil, ← List.append_assoc, List.takeWhile_append_dropWhile]
  rw [hwhole, trimChars_append (List.all_eq_true.mp List.all_takeWhile) fun c hc => absurd hc List.not_mem_nil,
    trimChars_eq_self_iff.mpr htrimmed]

/-- Trimmed, a text with a numeral at its end stands only in those with greater ones and in its own. -/
theorem le_of_trimChars_isInfix (h : trimChars (lead ++ Nat.toDigits 10 m) <:+: lead ++ Nat.toDigits 10 n) : m ≤ n := by
  have hwhole : lead ++ Nat.toDigits 10 n =
      lead.takeWhile isBlank ++ (lead.dropWhile isBlank ++ Nat.toDigits 10 n) := by
    rw [← List.append_assoc, List.takeWhile_append_dropWhile]
  rw [trimChars_append_toDigits, hwhole] at h
  refine le_of_isInfix (isInfix_of_blank_append (List.all_eq_true.mp List.all_takeWhile) ?_ ?_ h)
  · exact List.append_ne_nil_of_right_ne_nil _ Nat.toDigits_ne_nil
  · exact head?_dropWhile_append_toDigits lead m

end Numeral

def exampleName (lead : String) (number : ℕ) : String :=
  lead ++ "Example " ++ toString number

/-- Examples whose names begin alike and end with their numbers, which go up. -/
def Numbered (examples : List Example) : Prop :=
  ∃ (lead : String) (numbers : List ℕ), numbers.Pairwise (· < ·) ∧
    examples.map Example.name = numbers.map (exampleName lead)

/-- What the names of examples begin with in lower case: the last blank character hides it from their numbers. -/
theorem exists_lower_exampleName (lead : String) :
    ∃ front, ∀ n, (lower (exampleName lead n)).toList = front ++ Nat.toDigits 10 n := by
  refine ⟨lowerFrom [] (lead ++ "Example").toList ++ [' '], fun n => ?_⟩
  have hname : (exampleName lead n).toList = (lead ++ "Example").toList ++ ' ' :: Nat.toDigits 10 n := by
    simp [exampleName]
  rw [lower, String.toList_ofList, hname, lowerFrom_append_blank rfl, lowerFrom_eq_self fun c hc => (digit_plain hc).2,
    List.append_assoc]
  rfl

theorem isBlankText_exampleName (lead : String) (n : ℕ) : isBlankText (exampleName lead n) = false := by
  have hletter : 'E' ∈ (exampleName lead n).toList := by simp [exampleName]
  exact List.all_eq_false.mpr ⟨'E', hletter, by decide⟩

namespace Numbered

variable {examples : List Example} {e : Example}

/-- The number of each example can be read off its name. -/
theorem exists_number (h : Numbered examples) : ∃ (front : List Char) (number : Example → ℕ),
    examples.Pairwise (fun a b => number a < number b) ∧
      ∀ e ∈ examples, (lower e.name).toList = front ++ Nat.toDigits 10 (number e) := by
  obtain ⟨lead, numbers, hsorted, hnames⟩ := h
  obtain ⟨front, hfront⟩ := exists_lower_exampleName lead
  have hread (n : ℕ) : numberOf ((lower (exampleName lead n)).toList.drop front.length) = n := by
    rw [hfront, List.drop_left, numberOf_toDigits]
  refine ⟨front, fun e => numberOf ((lower e.name).toList.drop front.length), ?_, fun e he => ?_⟩
  · have hnumbers : examples.map (fun e => numberOf ((lower e.name).toList.drop front.length)) = numbers :=
      calc examples.map (fun e => numberOf ((lower e.name).toList.drop front.length))
        _ = (examples.map Example.name).map fun name => numberOf ((lower name).toList.drop front.length) := by
          rw [List.map_map]
          rfl
        _ = numbers := by
          rw [hnames, List.map_map]
          exact (List.map_congr_left fun n _ => hread n).trans (List.map_id numbers)
    rw [← hnumbers] at hsorted
    exact List.pairwise_map.mp hsorted
  · have hmem : e.name ∈ numbers.map (exampleName lead) := hnames ▸ List.mem_map_of_mem he
    obtain ⟨n, -, hn⟩ := List.mem_map.mp hmem
    change (lower e.name).toList = front ++ Nat.toDigits 10 (numberOf ((lower e.name).toList.drop front.length))
    rw [← hn, hread, hfront]

/-- No two names are equal ignoring case. -/
theorem nodup (h : Numbered examples) : (examples.map fun e => lower e.name).Nodup := by
  obtain ⟨front, number, hsorted, hnames⟩ := h.exists_number
  refine List.pairwise_map.mpr (hsorted.imp_of_mem fun {a b} ha hb hab hsame => ?_)
  have hdigits := congrArg String.toList hsame
  rw [hnames a ha, hnames b hb] at hdigits
  exact absurd (toDigits_injective (List.append_cancel_left hdigits)) hab.ne

theorem isBlankText_name (h : Numbered examples) (he : e ∈ examples) : isBlankText e.name = false := by
  obtain ⟨lead, numbers, -, hnames⟩ := h
  have hmem : e.name ∈ numbers.map (exampleName lead) := hnames ▸ List.mem_map_of_mem he
  obtain ⟨n, -, hn⟩ := List.mem_map.mp hmem
  rw [← hn]
  exact isBlankText_exampleName lead n

end Numbered

def Sampled (examples : List Example) : Prop :=
  ∃ file componentName content cancelled, parseSamples file componentName content cancelled = .ok examples

theorem sampled_nil : Sampled [] :=
  ⟨{}, "", [], false, by decide +kernel⟩

/-- Examples of a samples file are numbered, whatever stands in the file and however it is named. -/
theorem Sampled.numbered {examples : List Example} (h : Sampled examples) : Numbered examples := by
  obtain ⟨file, componentName, content, cancelled, h⟩ := h
  obtain ⟨markup, -, h⟩ := except_bind_eq_ok.mp h
  obtain ⟨code, -, h⟩ := except_bind_eq_ok.mp h
  have hexamples := eq_map_of_mapM (g := fun number =>
    exampleOf (namePrefix file componentName) file.name number (textOf? number markup) (textOf? number code)) (by
      intro number e he
      obtain ⟨_, -, he⟩ := except_bind_eq_ok.mp he
      exact (Except.ok.inj he).symm) h
  refine ⟨namePrefix file componentName, numbersOf (markup ++ code), pairwise_numbersOf _, ?_⟩
  rw [hexamples, List.map_map]
  rfl

end Demo
namespace Sources

variable {sources : Sources}

def ParsesSamples (sources : Sources) : Prop :=
  ∀ name examples, sources.GivesExamples name examples → Demo.Sampled examples

theorem ParsesSamples.maintains (h : sources.ParsesSamples) (repository : Path) (taxonomy : Taxonomy) :
    sources.Maintains repository taxonomy fun c => Demo.Sampled c.examples where
  named _ _ _ hnew := hnew
  given c r hgives := by
    obtain ⟨facts, category, path, -, rfl, -⟩ := hgives.exists_facts
    exact Demo.sampled_nil
  documented _ _ _ _ hc := hc
  illustrated c examples hgives _ := h c.name examples hgives

end Sources

/-- However the builds ended, the examples of every component are those of a samples file. -/
theorem Index.FilledFrom.sampled {mapper : Taxonomy} {ix : Index} (h : ix.FilledFrom Sources.ParsesSamples mapper) :
    ix.store.Each fun c => Demo.Sampled c.examples :=
  h.each fun _ repository taxonomy hparses => hparses.maintains repository taxonomy

/-- The examples of a checkout are those of its samples files. -/
theorem Checkout.sources_parsesSamples (w : Workspace) (repository : Path) :
    (Checkout.sources w repository).ParsesSamples := by
  rintro name examples ⟨cancelled, hfound⟩
  have hsamples {file : Path} (hread : Checkout.readSamples w file name cancelled = .ok examples) :
      Demo.Sampled examples := by
    unfold Checkout.readSamples at hread
    split_ifs at hread
    · obtain ⟨content, -, hparse⟩ := except_bind_eq_ok.mp hread
      exact ⟨file, name, content, cancelled, hparse⟩
    · exact Except.ok.inj hread ▸ Demo.sampled_nil
  obtain ⟨_, -, hfound⟩ := except_bind_eq_ok.mp hfound
  obtain ⟨_, -, hfound⟩ := except_bind_eq_ok.mp hfound
  dsimp only at hfound
  split_ifs at hfound
  · obtain ⟨files, -, hfound⟩ := except_bind_eq_ok.mp hfound
    cases files with
    | nil => exact Except.ok.inj hfound ▸ Demo.sampled_nil
    | cons file files =>
      obtain ⟨_, -, hfound⟩ := except_bind_eq_ok.mp hfound
      -- a file that cannot be read has no examples
      unfold Checkout.unlessFileFault at hfound
      split at hfound
      · exact Except.ok.inj hfound ▸ Demo.sampled_nil
      · exact hsamples hfound
  · exact Except.ok.inj hfound ▸ Demo.sampled_nil

end Catalog
