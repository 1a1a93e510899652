import Catalog.Proofs.Index.Fusion
import Catalog.Proofs.Lists
import Catalog.Proofs.Text.Scan
import Mathlib.Data.List.Infix

/-! The category of a name in other letter case. The lists of components and the words that tell of a category are looked
up in lower case, but before it is searched for words a name loses its prefix in one spelling only. So the spellings of
a name have one category, unless the prefix stays in one of them and makes up a word with what follows it. -/
namespace Catalog

open Text

namespace Category

variable {a b name : String} {s t : List Char} {hint : String × List String}

def fits (s : List Char) (hint : String × List String) : Bool :=
  hint.2.any fun word => occursIn word.toList s

theorem fits_iff : fits s hint = true ↔ ∃ word ∈ hint.2, word.toList <:+: s := by
  simp only [fits, List.any_eq_true, occursIn_iff]

theorem not_fits_iff : ¬ fits s hint = true ↔ ∀ word ∈ hint.2, ¬ word.toList <:+: s := by
  rw [fits_iff]
  simp

/-- The category of the first hint of which a word stands in the text. -/
def suggestion (s : List Char) : String :=
  ((hints.find? (fits s)).map Prod.fst).getD fallback

theorem guess_eq (name : String) : guess name = suggestion (lower (bareName name)).toList := by
  unfold guess suggestion
  dsimp only
  generalize lower (bareName name) = bare
  have hfits : (fun hint : String × List String => hint.2.any (contains bare)) = fits bare.toList := rfl
  rw [hfits]
  cases hints.find? (fits bare.toList) <;> rfl

theorem suggestion_congr (h : ∀ hint ∈ hints, ∀ word ∈ hint.2, word.toList <:+: s ↔ word.toList <:+: t) :
    suggestion s = suggestion t := by
  have hfits : ∀ hint ∈ hints, fits s hint = fits t hint := fun hint hhint => by
    rw [Bool.eq_iff_iff, fits_iff, fits_iff]
    exact exists_congr fun word => and_congr_right fun hword => h hint hhint word hword
  rw [suggestion, suggestion, ← List.head?_filter, ← List.head?_filter, List.filter_congr hfits]

def behindPrefix (name : String) : List Char :=
  (lower name).toList.drop namePrefix.length

theorem hints_plain : ∀ hint ∈ hints, ∀ word ∈ hint.2, 'σ' ∉ word.toList ∧ 'ς' ∉ word.toList := by
  decide +kernel

/-- The prefix and what follows it are lower-cased each by itself, up to the forms of sigmas. -/
theorem exists_lower_eq (h : beginsWith name namePrefix = true) :
    ∃ rest, bareName name = String.ofList rest ∧
      (lower name).toList = 'b' :: 'i' :: 't' :: lowerFrom ['t', 'i', 'B'] rest := by
  obtain ⟨rest, hrest⟩ := List.isPrefixOf_iff_prefix.mp h
  refine ⟨rest, ?_, ?_⟩
  · rw [bareName, if_pos h, dropFirst, ← hrest]
    rfl
  · have hsigma : 'Σ' ∉ namePrefix.toList := by decide
    rw [lower, String.toList_ofList, ← hrest, lowerFrom_append hsigma]
    rfl

theorem guess_of_beginsWith (h : beginsWith name namePrefix = true) : guess name = suggestion (behindPrefix name) := by
  obtain ⟨rest, hbare, hlower⟩ := exists_lower_eq h
  rw [guess_eq, hbare, behindPrefix, hlower]
  -- the prefix changes nothing but the form of a sigma behind it, and no word has one
  refine suggestion_congr fun hint hhint word hword => ?_
  obtain ⟨hmiddle, hfinal⟩ := hints_plain hint hhint word hword
  rw [lower, String.toList_ofList, String.toList_ofList]
  exact isInfix_lowerFrom_iff hmiddle hfinal _ _ rest

theorem guess_of_not_beginsWith (h : beginsWith name namePrefix = false) :
    guess name = suggestion (lower name).toList := by
  rw [guess_eq, bareName, if_neg (by rw [h]; decide)]

theorem lower_eq_of_beginsWith (h : beginsWith name namePrefix = true) :
    (lower name).toList = 'b' :: 'i' :: 't' :: behindPrefix name := by
  obtain ⟨rest, -, hlower⟩ := exists_lower_eq h
  rw [behindPrefix, hlower]
  rfl

/-- No two hints give the same category, and only the last one gives that of names without words. -/
theorem hints_apart : hints.Pairwise fun a b => a.1 ≠ b.1 ∧ a.1 ≠ fallback := by
  decide

/-- No word begins like the prefix or like what follows its first letter. -/
theorem hints_begin : ∀ hint ∈ hints, ∀ word ∈ hint.2,
    ¬ word.toList.take 2 <+: ['b', 'i'] ∧ ¬ word.toList.take 2 <+: ['i', 't'] := by
  decide +kernel

/-- A word in a spelling whose prefix is not taken off stands behind the prefix, or begins with its last letter. -/
theorem isInfix_prefixed_iff {word : String} (hhint : hint ∈ hints) (hword : word ∈ hint.2) :
    word.toList <:+: 'b' :: 'i' :: 't' :: s ↔ word.toList <+: 't' :: s ∨ word.toList <:+: s := by
  obtain ⟨hfirst, hsecond⟩ := hints_begin hint hhint word hword
  have hb : ¬ word.toList <+: 'b' :: 'i' :: 't' :: s := fun h => hfirst (List.IsPrefix.take h 2)
  have hi : ¬ word.toList <+: 'i' :: 't' :: s := fun h => hsecond (List.IsPrefix.take h 2)
  rw [List.infix_cons_iff, or_iff_right hb, List.infix_cons_iff, or_iff_right hi, List.infix_cons_iff]

/-- The text behind a prefix that is not taken off makes up a word with the last letter of the prefix, and so tells of
another category: no word of an earlier hint stands in the whole spelling, none of this hint behind the prefix, and the
category is not that of names without words. -/
def JoinsPrefix (s : List Char) : Prop :=
  ∃ before category words after, hints = before ++ (category, words) :: after ∧ category ≠ fallback ∧
    (∃ word ∈ words, word.toList <+: 't' :: s) ∧ (∀ word ∈ words, ¬ word.toList <:+: s) ∧
    ∀ hint ∈ before, ∀ word ∈ hint.2, ¬ word.toList <:+: 'b' :: 'i' :: 't' :: s

theorem suggestion_prefixed_ne_iff : suggestion ('b' :: 'i' :: 't' :: s) ≠ suggestion s ↔ JoinsPrefix s := by
  have hwide : ∀ hint ∈ hints, fits s hint = true → fits ('b' :: 'i' :: 't' :: s) hint = true := by
    intro hint hhint h
    obtain ⟨word, hword, hstands⟩ := fits_iff.mp h
    exact fits_iff.mpr ⟨word, hword, (isInfix_prefixed_iff hhint hword).mpr (.inr hstands)⟩
  -- the first hint that fits the whole spelling decides, as no later one gives the same category
  rw [suggestion, suggestion, map_find?_ne_iff hwide hints_apart]
  constructor
  · rintro ⟨⟨category, words⟩, hfound, hbehind, hcategory⟩
    have hmem : (category, words) ∈ hints := List.mem_of_find?_eq_some hfound
    have hnone := not_fits_iff.mp hbehind
    obtain ⟨hfits, before, after, hsplit, hbefore⟩ := List.find?_eq_some_iff_append.mp hfound
    obtain ⟨word, hword, hstands⟩ := fits_iff.mp hfits
    have hjoins := ((isInfix_prefixed_iff hmem hword).mp hstands).resolve_right (hnone word hword)
    refine ⟨before, category, words, after, hsplit, hcategory, ⟨word, hword, hjoins⟩, hnone, fun hint hhint => ?_⟩
    exact not_fits_iff.mp (by simpa using hbefore hint hhint)
  · rintro ⟨before, category, words, after, hsplit, hcategory, ⟨word, hword, hjoins⟩, hbehind, hbefore⟩
    have hmem : (category, words) ∈ hints := by rw [hsplit]; simp
    have hstands := (isInfix_prefixed_iff hmem hword).mpr (.inl hjoins)
    refine ⟨(category, words), ?_, not_fits_iff.mpr hbehind, hcategory⟩
    refine List.find?_eq_some_iff_append.mpr ⟨fits_iff.mpr ⟨word, hword, hstands⟩, before, after, hsplit, ?_⟩
    exact fun hint hhint => by simpa using not_fits_iff.mpr (hbefore hint hhint)

theorem guess_ne_iff (hab : lower a = lower b) (ha : beginsWith a namePrefix = true)
    (hb : beginsWith b namePrefix = false) : guess b ≠ guess a ↔ JoinsPrefix (behindPrefix a) := by
  rw [guess_of_beginsWith ha, guess_of_not_beginsWith hb, ← hab, lower_eq_of_beginsWith ha, suggestion_prefixed_ne_iff]

/-- Spellings of a name suggest the same category, unless the prefix is taken off only one of them and in the other one
it makes up a word with what follows. -/
theorem guess_eq_guess_iff (hab : lower a = lower b) :
    guess a = guess b ↔ beginsWith a namePrefix = beginsWith b namePrefix ∨ ¬ JoinsPrefix (behindPrefix a) := by
  have hbehind : behindPrefix a = behindPrefix b := by rw [behindPrefix, behindPrefix, hab]
  cases ha : beginsWith a namePrefix with
  | true =>
    cases hb : beginsWith b namePrefix with
    | true => simp [guess_of_beginsWith ha, guess_of_beginsWith hb, hbehind]
    | false =>
      rw [← guess_ne_iff hab ha hb]
      simp [eq_comm]
  | false =>
    cases hb : beginsWith b namePrefix with
    | true =>
      rw [hbehind, ← guess_ne_iff hab.symm hb ha]
      simp
    | false => simp [guess_of_not_beginsWith ha, guess_of_not_beginsWith hb, hab]

/-- The words of the hints that begin with the last letter of the prefix, without that letter. -/
def wordEnds : List String :=
  ["ag", "extfield", "imeline", "oggle", "ooltip"]

theorem JoinsPrefix.begins (h : JoinsPrefix s) : ∃ front ∈ wordEnds, front.toList <+: s := by
  have hwords : ∀ hint ∈ hints, hint.1 ≠ fallback → ∀ word ∈ hint.2, word.toList.take 1 <+: ['t'] →
      ∃ front ∈ wordEnds, word.toList = 't' :: front.toList := by
    decide +kernel
  obtain ⟨before, category, words, after, hsplit, hcategory, ⟨word, hword, hjoins⟩, -, -⟩ := h
  have hmem : (category, words) ∈ hints := by rw [hsplit]; simp
  obtain ⟨front, hfront, htail⟩ := hwords _ hmem hcategory word hword (List.IsPrefix.take hjoins 1)
  rw [htail] at hjoins
  exact ⟨front, hfront, (List.cons_prefix_cons.mp hjoins).2⟩

theorem not_joinsPrefix_of_listed {category : Category} (hcategory : category ∈ known)
    (hname : name ∈ category.componentNames) : ¬ JoinsPrefix (behindPrefix name) := by
  have hlisted : ∀ category ∈ known, ∀ name ∈ category.componentNames, ∀ front ∈ wordEnds,
      ¬ front.toList <+: (lowerFrom [] name.toList).drop namePrefix.length := by
    decide +kernel
  intro hjoins
  obtain ⟨front, hfront, hbegins⟩ := hjoins.begins
  rw [behindPrefix, lower, String.toList_ofList] at hbegins
  exact hlisted category hcategory name hname front hfront hbegins

end Category

namespace Taxonomy

variable {a b name : String}

/-- Spellings of a name that is listed are in one category, and those of any other name in what they suggest. -/
theorem categoryFor_eq_categoryFor_iff (t : Taxonomy) (hab : lower a = lower b) :
    t.categoryFor a = t.categoryFor b ↔ t.listing? a ≠ none ∨ Category.guess a = Category.guess b := by
  have hlisting : t.listing? a = t.listing? b := by rw [listing?, listing?, hab]
  rw [categoryFor, categoryFor, ← hlisting]
  cases t.listing? a with
  | none => simp
  | some category => simp

theorem not_joinsPrefix_of_listing? {category : Category} (h : ({} : Taxonomy).fill.listing? name = some category) :
    ¬ Category.JoinsPrefix (Category.behindPrefix name) := by
  have hmem : category ∈ ({} : Taxonomy).fill.categories.reverse := List.mem_of_find?_eq_some h
  have hlists := List.find?_some h
  obtain ⟨n, hn, hsame⟩ := List.any_eq_true.mp hlists
  have hbehind : Category.behindPrefix n = Category.behindPrefix name := by
    rw [Category.behindPrefix, Category.behindPrefix, of_decide_eq_true hsame]
  exact hbehind ▸ Category.not_joinsPrefix_of_listed (List.mem_reverse.mp hmem) hn

/-- Every name that is not blank has a category. Two spellings of a name have the same one exactly if the prefix is
taken off both or neither of them, or does not make up a word with what follows it; only five beginnings do that. -/
theorem assign_of_lower_eq (hab : lower a = lower b) (ha : isBlankText a = false) :
    ∃ ca cb, ({} : Taxonomy).fill.assign a = .ok ca ∧ ({} : Taxonomy).fill.assign b = .ok cb ∧
      (ca = cb ↔ beginsWith a namePrefix = beginsWith b namePrefix ∨
        ¬ Category.JoinsPrefix (Category.behindPrefix a)) ∧
      (ca ≠ cb → ∃ front ∈ Category.wordEnds, front.toList <+: Category.behindPrefix a) := by
  have hb : isBlankText b = false := isBlankText_congr hab ▸ ha
  have hiff : ({} : Taxonomy).fill.categoryFor a = ({} : Taxonomy).fill.categoryFor b ↔
      beginsWith a namePrefix = beginsWith b namePrefix ∨ ¬ Category.JoinsPrefix (Category.behindPrefix a) := by
    rw [categoryFor_eq_categoryFor_iff _ hab, Category.guess_eq_guess_iff hab]
    refine or_iff_right_of_imp fun hlisted => ?_
    obtain ⟨category, hcategory⟩ := Option.ne_none_iff_exists'.mp hlisted
    exact .inr (not_joinsPrefix_of_listing? hcategory)
  refine ⟨({} : Taxonomy).fill.categoryFor a, ({} : Taxonomy).fill.categoryFor b, ?_, ?_, hiff, fun hne => ?_⟩
  · rw [assign_eq, ha]
    rfl
  · rw [assign_eq, hb]
    rfl
  · have hjoins : Category.JoinsPrefix (Category.behindPrefix a) := by
      by_contra hapart
      exact hne (hiff.mpr (.inr hapart))
    exact hjoins.begins

/-- The prefix stays in one of the spellings. -/
theorem assign_of_lower_eq_picker :
    ∃ category, ({} : Taxonomy).fill.assign "BitEmojiPicker" = .ok category ∧
      ({} : Taxonomy).fill.assign "BITEMOJIPICKER" = .ok category := by
  have hsame : lower "BitEmojiPicker" = lower "BITEMOJIPICKER" := by decide +kernel
  have hjoins : ¬ Category.JoinsPrefix (Category.behindPrefix "BitEmojiPicker") := by
    intro hjoins
    have hbegins := hjoins.begins
    revert hbegins
    decide +kernel
  obtain ⟨ca, cb, ha, hb, hiff, -⟩ := assign_of_lower_eq hsame (by decide +kernel)
  exact ⟨ca, ha, hiff.mpr (.inr hjoins) ▸ hb⟩

/-- A tag is found in the agenda whose prefix is not taken off. -/
theorem assign_agenda_ne :
    lower "BitAgenda" = lower "bitAgenda" ∧ isBlankText "BitAgenda" = false ∧ isBlankText "bitAgenda" = false ∧
      ({} : Taxonomy).fill.assign "BitAgenda" = .ok "Utilities" ∧
      ({} : Taxonomy).fill.assign "bitAgenda" = .ok "Notifications" := by
  decide +kernel

end Taxonomy
end Catalog
