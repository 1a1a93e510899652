import Catalog.Proofs.Text.Scan
import Catalog.Text.Case
import Mathlib.Data.List.Infix

/-! Keywords in any letter case. Each character stands for at most one letter of a keyword, so that a keyword is read
where its letters stand; one of which no end is its beginning is not read across the place where it first stands. -/
namespace Catalog.Text

variable {keyword s rest front u t : List Char}

/-- The lower-case letter that a character stands for in a keyword, in other cases its ASCII lower-case form. -/
def keyLetter (c : Char) : Char :=
  if c.toNat = 0x130 ∨ c.toNat = 0x131 then 'i'
  else if c.toNat = 0x212A then 'k'
  else if c.toNat = 0x17F then 's'
  else c.toLower

theorem standsFor_iff {k c : Char} (hk : k.toNat < 0x80) : standsFor k c = true ↔ keyLetter c = k := by
  by_cases hrelative : c.toNat ∈ [0x130, 0x131, 0x212A, 0x17F]
  · have hall : ∀ m ∈ [0x130, 0x131, 0x212A, 0x17F], ∀ n < 0x80,
        (standsFor (Char.ofNat n) (Char.ofNat m) = true ↔ keyLetter (Char.ofNat m) = Char.ofNat n) := by decide
    have hc := hall c.toNat hrelative k.toNat hk
    rwa [Char.ofNat_toNat, Char.ofNat_toNat] at hc
  · simp only [List.mem_cons, List.not_mem_nil, or_false, not_or] at hrelative
    obtain ⟨hdotted, hdotless, hkelvin, hlong⟩ := hrelative
    unfold standsFor keyLetter
    split <;> simp [hdotted, hdotless, hkelvin, hlong]

/-- A keyword is read where its letters stand. -/
theorem dropKeyword_eq_some_iff (hascii : ∀ k ∈ keyword, k.toNat < 0x80) :
    dropKeyword keyword s = some rest ↔ ∃ word, word.map keyLetter = keyword ∧ s = word ++ rest := by
  induction keyword generalizing s with
  | nil => simp [dropKeyword]
  | cons k keyword ih =>
    obtain ⟨hk, hascii⟩ := List.forall_mem_cons.mp hascii
    cases s with
    | nil => simp [dropKeyword]
    | cons c s =>
      have hcons : (∃ word, word.map keyLetter = k :: keyword ∧ c :: s = word ++ rest) ↔
          keyLetter c = k ∧ ∃ word, word.map keyLetter = keyword ∧ s = word ++ rest := by
        constructor
        · rintro ⟨word, hword, hs⟩
          obtain ⟨d, word, rfl, hd, hletters⟩ := List.map_eq_cons_iff.mp hword
          obtain ⟨rfl, hrest⟩ := List.cons.inj hs
          exact ⟨hd, word, hletters, hrest⟩
        · rintro ⟨hc, word, hword, hs⟩
          exact ⟨c :: word, by rw [List.map_cons, hc, hword], by rw [hs, List.cons_append]⟩
      rw [dropKeyword, hcons, ← standsFor_iff hk]
      split_ifs with hc
      · rw [ih hascii, and_iff_right hc]
      · simp [hc]

def Holds (keyword : String) (s : List Char) : Prop :=
  keyword.toList <:+: s.map keyLetter

instance (keyword : String) (s : List Char) : Decidable (Holds keyword s) :=
  inferInstanceAs (Decidable (keyword.toList <:+: s.map keyLetter))

def Unbordered (keyword : List Char) : Prop :=
  ∀ n < keyword.length, 0 < n → ¬ keyword.drop n <+: keyword

instance : DecidablePred Unbordered :=
  fun keyword => inferInstanceAs (Decidable (∀ n < keyword.length, 0 < n → ¬ keyword.drop n <+: keyword))

/-- Such a keyword does not begin before the place where it stands and end after it. -/
theorem Unbordered.isPrefix_of_append (h : Unbordered keyword) (hu : u ≠ [])
    (hbegins : keyword <+: u ++ (keyword ++ t)) : keyword <+: u := by
  obtain ⟨rest, heq⟩ := hbegins
  rcases List.append_eq_append_iff.mp heq with ⟨v, hv, -⟩ | ⟨v, hv, hrest⟩
  · exact ⟨v, hv.symm⟩
  · cases v with
    | nil =>
      rw [hv, List.append_nil]
    | cons d v =>
      have hlength : keyword.length = u.length + (v.length + 1) := by rw [hv, List.length_append, List.length_cons]
      have hend : keyword.drop u.length = d :: v := by rw [hv, List.drop_left]
      have hlonger : (d :: v).length ≤ keyword.length := by rw [List.length_cons, hlength]; omega
      have htail : d :: v <+: keyword ++ t := hrest ▸ List.prefix_append (d :: v) rest
      have hborder : d :: v <+: keyword := List.prefix_of_prefix_length_le htail (List.prefix_append keyword t) hlonger
      rw [← hend] at hborder
      exact absurd hborder (h u.length (by omega) (List.length_pos_iff.mpr hu))

end Catalog.Text
