import Catalog.Proofs.Demo.Links
import Catalog.Proofs.Text.Scan
import Mathlib.Data.List.Infix
import Mathlib.Data.Option.Basic

/-! The names that a page takes from its tags. What is taken of a name ends at the first character that is no ASCII
letter: it is the name of the tag where that has no other characters, and the front of it otherwise. -/
namespace Catalog.Demo

open Text

variable {content s t letters rest before after : List Char} {name : String} {own : Option String}

/-- The name of the tag that a bracket in front of the text opens: all up to the first character of no word. -/
def tagNameAt (s : List Char) : List Char :=
  s.takeWhile isWordChar

/-- The name of a component tag: the prefix, a capital, and more characters of a word. -/
def IsTagName (name : List Char) : Prop :=
  ∃ c more, name = "Bit".toList ++ c :: more ∧ ¬ IsLower c ∧ more ≠ [] ∧ ∀ d ∈ c :: more, isWordChar d

def Mentions (content : List Char) (name : String) : Prop :=
  ∃ s, '<' :: s <:+ content ∧ tagNameAt s = name.toList

def PlainTags (content : List Char) : Prop :=
  ∀ s, '<' :: s <:+ content → IsTagName (tagNameAt s) → ∀ c ∈ tagNameAt s, isAsciiLetter c

/-- What is taken of a name after the prefix: a capital and at least one more letter, all of them ASCII. -/
structure IsTaken (letters : List Char) : Prop where
  begins : ∃ c d more, letters = c :: d :: more ∧ isAsciiCapital c
  ascii : ∀ e ∈ letters, isAsciiLetter e

/-- ASCII letters are characters of words, and those that have a lower-case form are the capitals. -/
theorem letter_plain {c : Char} (h : isAsciiLetter c = true) :
    isWordChar c = true ∧ (isAsciiCapital c = true ↔ ¬ IsLower c) := by
  have hall : ∀ n < 0x80, isAsciiLetter (Char.ofNat n) = true →
      isWordChar (Char.ofNat n) = true ∧ (isAsciiCapital (Char.ofNat n) = true ↔ ¬ IsLower (Char.ofNat n)) := by
    decide
  have hascii : c.toNat < 0x80 := by
    rcases Bool.or_eq_true_iff.mp h with hcase | hcase
    · have hlast : c.toNat ≤ 'Z'.toNat := (of_decide_eq_true hcase).2
      exact Nat.lt_of_le_of_lt hlast (by decide)
    · have hlast : c.toNat ≤ 'z'.toNat := of_decide_eq_true (Bool.and_eq_true_iff.mp hcase).2
      exact Nat.lt_of_le_of_lt hlast (by decide)
  have hc := hall c.toNat hascii
  rw [Char.ofNat_toNat] at hc
  exact hc h

theorem readTagName_eq_some_iff :
    readTagName s = some (name, rest) ↔ ∃ letters, IsTaken letters ∧ s = '<' :: ("Bit".toList ++ (letters ++ rest)) ∧
      (∀ c, rest.head? = some c → isAsciiLetter c = false) ∧ name = "Bit" ++ String.ofList letters := by
  constructor
  · intro h
    obtain ⟨⟨_, t⟩, hlead, h⟩ := Option.bind_eq_some_iff.mp h
    obtain ⟨ht, hletters, hrest⟩ := spanWhile_eq_iff.mp (Eq.refl (spanWhile isAsciiLetter t))
    rw [dropLead_eq_some_iff.mp hlead]
    dsimp only [spanWhile] at h
    split at h
    next c d more heq =>
      obtain ⟨_, hcapital, h⟩ := Option.bind_eq_some_iff.mp h
      cases h
      refine ⟨_, ⟨⟨c, d, more, heq, ?_⟩, hletters⟩, congrArg _ ht, hrest, rfl⟩
      exact (Option.guard_eq_some' _).mp hcapital
    next => cases h
  · rintro ⟨letters, ⟨⟨c, d, more, rfl, hcapital⟩, hletters⟩, rfl, hrest, rfl⟩
    have hspan : spanWhile isAsciiLetter (c :: d :: more ++ rest) = (c :: d :: more, rest) :=
      spanWhile_eq_iff.mpr ⟨rfl, hletters, hrest⟩
    have hlead : dropLead "<Bit".toList ('<' :: ("Bit".toList ++ (c :: d :: more ++ rest))) =
        some ((), c :: d :: more ++ rest) := dropLead_append "<Bit".toList _
    simp only [readTagName, hlead, Option.bind_eq_bind, Option.bind_some, hspan, hcapital, guard_true]
    rfl

/-- A page takes a name from each tag that begins like one of a component, and no others. -/
theorem mem_taggedNames :
    name ∈ taggedNames content ↔ ∃ letters rest, IsTaken letters ∧
      '<' :: ("Bit".toList ++ (letters ++ rest)) <:+ content ∧
      (∀ c, rest.head? = some c → isAsciiLetter c = false) ∧ name = "Bit" ++ String.ofList letters := by
  have hread (s : List Char) (name : String) (rest : List Char) (h : readTagName s = some (name, rest)) :
      ∃ front, '<' ∉ front ∧ s = '<' :: front ++ rest := by
    obtain ⟨letters, htaken, rfl, -, -⟩ := readTagName_eq_some_iff.mp h
    refine ⟨"Bit".toList ++ letters, fun hmem => ?_, by simp⟩
    rcases List.mem_append.mp hmem with hmem | hmem
    · exact absurd hmem (by decide)
    · exact absurd (htaken.2 '<' hmem) (by decide)
  rw [taggedNames, mem_findAll_iff hread]
  constructor
  · rintro ⟨t, rest, ht, h⟩
    obtain ⟨letters, htaken, rfl, hrest, rfl⟩ := readTagName_eq_some_iff.mp h
    exact ⟨letters, rest, htaken, ht, hrest, rfl⟩
  · rintro ⟨letters, rest, htaken, ht, hrest, rfl⟩
    exact ⟨_, rest, ht, readTagName_eq_some_iff.mpr ⟨letters, htaken, rfl, hrest, rfl⟩⟩

theorem mem_taggedNames_iff_read :
    name ∈ taggedNames content ↔ ∃ s rest, '<' :: s <:+ content ∧ readTagName ('<' :: s) = some (name, rest) := by
  rw [mem_taggedNames]
  constructor
  · rintro ⟨letters, rest, htaken, hplace, hrest, rfl⟩
    exact ⟨_, rest, hplace, readTagName_eq_some_iff.mpr ⟨letters, htaken, rfl, hrest, rfl⟩⟩
  · rintro ⟨s, rest, hplace, hread⟩
    obtain ⟨letters, htaken, heq, hrest, rfl⟩ := readTagName_eq_some_iff.mp hread
    exact ⟨letters, rest, htaken, heq ▸ hplace, hrest, rfl⟩

/-- What is taken of a name is the front of it. -/
theorem tagNameAt_append (hletters : ∀ c ∈ letters, isAsciiLetter c) (rest : List Char) :
    tagNameAt ("Bit".toList ++ (letters ++ rest)) = "Bit".toList ++ (letters ++ tagNameAt rest) := by
  have hword : ∀ c ∈ "Bit".toList ++ letters, isWordChar c := by
    have hlead : ∀ c ∈ "Bit".toList, isWordChar c := List.all_eq_true.mp (by decide)
    exact List.forall_mem_append.mpr ⟨hlead, fun c hc => (letter_plain (hletters c hc)).1⟩
  rw [tagNameAt, ← List.append_assoc, List.takeWhile_append_of_pos hword, List.append_assoc]
  rfl

theorem IsTaken.isTagName (h : IsTaken letters) (rest : List Char) :
    IsTagName (tagNameAt ("Bit".toList ++ (letters ++ rest))) := by
  rw [tagNameAt_append h.2]
  obtain ⟨⟨c, d, more, rfl, hcapital⟩, hletters⟩ := h
  have hc := letter_plain (hletters c List.mem_cons_self)
  refine ⟨c, d :: (more ++ tagNameAt rest), rfl, hc.2.mp hcapital, List.cons_ne_nil _ _, fun e he => ?_⟩
  rcases List.mem_append.mp (show e ∈ c :: d :: more ++ tagNameAt rest from he) with he | he
  · exact (letter_plain (hletters e he)).1
  · exact all_takeWhile he

/-- A tag name of ASCII letters is taken whole. -/
theorem IsTagName.isTaken (h : IsTagName s) (hletters : ∀ c ∈ s, isAsciiLetter c) :
    ∃ letters, IsTaken letters ∧ s = "Bit".toList ++ letters := by
  obtain ⟨c, more, rfl, hc, hmore, -⟩ := h
  obtain ⟨d, more, rfl⟩ := List.exists_cons_of_ne_nil hmore
  have hletters : ∀ e ∈ c :: d :: more, isAsciiLetter e := fun e he => hletters e (List.mem_append_right _ he)
  exact ⟨_, ⟨⟨c, d, more, rfl, (letter_plain (hletters c List.mem_cons_self)).2.mpr hc⟩, hletters⟩, rfl⟩

theorem tagNameAt_eq_nil_iff : tagNameAt rest = [] ↔ ∀ c, rest.head? = some c → isWordChar c = false := by
  cases rest with
  | nil => simp [tagNameAt]
  | cons c rest => cases h : isWordChar c <;> simp [tagNameAt, h]

/-- What is taken of a tag is its whole name exactly if the name has ASCII letters only. -/
theorem whole_iff (h : readTagName ('<' :: s) = some (name, rest)) :
    s = name.toList ++ rest ∧
      ((∀ c, rest.head? = some c → isWordChar c = false) ↔ ∀ c ∈ tagNameAt s, isAsciiLetter c) := by
  obtain ⟨letters, htaken, heq, hrest, rfl⟩ := readTagName_eq_some_iff.mp h
  obtain ⟨-, rfl⟩ := List.cons.inj heq
  refine ⟨by simp, ?_⟩
  rw [← tagNameAt_eq_nil_iff, tagNameAt_append htaken.2]
  constructor
  · intro hnil
    rw [hnil, List.append_nil]
    exact List.forall_mem_append.mpr ⟨List.all_eq_true.mp (by decide), htaken.ascii⟩
  · intro hall
    refine tagNameAt_eq_nil_iff.mpr fun c hc => ?_
    by_contra hword
    rw [Bool.not_eq_false] at hword
    have hmem : c ∈ tagNameAt rest := by
      obtain ⟨rest, rfl⟩ := List.head?_eq_some_iff.mp hc
      rw [tagNameAt, List.takeWhile_cons_of_pos hword]
      exact List.mem_cons_self
    have hletter := hall c (List.mem_append_right _ (List.mem_append_right _ hmem))
    rw [hrest c hc] at hletter
    cases hletter

/-- Where the names of tags have ASCII letters only, exactly these names are taken. -/
theorem PlainTags.mem_taggedNames_iff (h : PlainTags content) :
    name ∈ taggedNames content ↔ Mentions content name ∧ IsTagName name.toList := by
  rw [mem_taggedNames]
  constructor
  · rintro ⟨letters, rest, htaken, hplace, hrest, rfl⟩
    have hname := htaken.isTagName rest
    have hread := readTagName_eq_some_iff.mpr ⟨letters, htaken, rfl, hrest, rfl⟩
    have hend := tagNameAt_eq_nil_iff.mpr ((whole_iff hread).2.mpr (h _ hplace hname))
    have htext : ("Bit" ++ String.ofList letters).toList = tagNameAt ("Bit".toList ++ (letters ++ rest)) := by
      rw [tagNameAt_append htaken.2, hend]
      simp
    rw [htext]
    exact ⟨⟨_, hplace, htext.symm⟩, hname⟩
  · rintro ⟨⟨s, hplace, hs⟩, hname⟩
    rw [← hs] at hname
    obtain ⟨letters, htaken, heq⟩ := hname.isTaken (h s hplace hname)
    have hwhole : s = "Bit".toList ++ (letters ++ s.dropWhile isWordChar) := by
      conv_lhs => rw [← List.takeWhile_append_dropWhile (p := isWordChar) (l := s)]
      rw [← List.append_assoc, ← heq]
      rfl
    refine ⟨letters, s.dropWhile isWordChar, htaken, ?_, fun c hc => ?_, ?_⟩
    · rw [hwhole] at hplace
      exact hplace
    · have hhead := List.head?_dropWhile_not isWordChar s
      rw [hc] at hhead
      by_contra hletter
      rw [Bool.not_eq_false] at hletter
      have hword := (letter_plain hletter).1
      simp [hword] at hhead
    · rw [← String.toList_inj, ← hs, heq]
      simp

def tagPage (before : List Char) (name : String) (after : List Char) : List Char :=
  before ++ '<' :: (name.toList ++ (" />".toList ++ after))

theorem taggedNames_eq_nil (h : ¬ "<Bit".toList <:+: content) : taggedNames content = [] := by
  refine List.eq_nil_iff_forall_not_mem.mpr fun name hname => h ?_
  obtain ⟨letters, rest, -, hplace, -⟩ := mem_taggedNames.mp hname
  exact (List.prefix_append "<Bit".toList (letters ++ rest)).isInfix.trans hplace.isInfix

/-- A bracket ends what may be a tag in front of it. -/
theorem taggedNames_append (h : ¬ "<Bit".toList <:+: before) (s : List Char) :
    taggedNames (before ++ '<' :: s) = taggedNames ('<' :: s) := by
  refine findAll_append fun c t ht => ?_
  rw [Option.eq_none_iff_forall_ne_some]
  rintro ⟨name, rest⟩ hread
  obtain ⟨letters, -, heq, -⟩ := readTagName_eq_some_iff.mp hread
  have heq : c :: t ++ '<' :: s = "<Bit".toList ++ (letters ++ rest) := heq
  rcases List.append_eq_append_iff.mp heq with ⟨u, hu, hs⟩ | ⟨u, hu, -⟩
  · cases u with
    | nil =>
      rw [List.append_nil] at hu
      exact h (hu ▸ ht.isInfix)
    | cons d u =>
      -- the prefix of names holds no other bracket
      obtain ⟨rfl, -⟩ := List.cons.inj hs
      have hmem : '<' ∈ "Bit".toList := by
        rw [show "Bit".toList = t ++ '<' :: u from (List.cons.inj hu).2]
        exact List.mem_append_right t List.mem_cons_self
      exact absurd hmem (by decide)
  · exact h ((hu ▸ List.prefix_append "<Bit".toList u).isInfix.trans ht.isInfix)

theorem taggedNames_tagPage (hname : IsTagName name.toList) (hletters : ∀ c ∈ name.toList, isAsciiLetter c)
    (hbefore : ¬ "<Bit".toList <:+: before) (hafter : ¬ "<Bit".toList <:+: after) :
    taggedNames (tagPage before name after) = [name] := by
  obtain ⟨letters, htaken, hname⟩ := hname.isTaken hletters
  have hread : readTagName ('<' :: name.toList ++ (" />".toList ++ after)) = some (name, " />".toList ++ after) := by
    refine readTagName_eq_some_iff.mpr ⟨letters, htaken, ?_, ?_, ?_⟩
    · rw [hname, List.cons_append, List.append_assoc]
    · intro c hc
      cases hc
      rfl
    · rw [← String.toList_inj, hname]
      simp
  have hrest : taggedNames (" />".toList ++ after) = [] := by
    rw [← taggedNames_eq_nil hafter]
    refine findAll_append_of_mem fun c hc s => Option.eq_none_iff_forall_ne_some.mpr ?_
    rintro ⟨name, rest⟩ hread
    obtain ⟨letters, -, heq, -⟩ := readTagName_eq_some_iff.mp hread
    rw [(List.cons.inj heq).1] at hc
    exact absurd hc (by decide)
  have htag := findAll_of_read (List.cons_ne_nil _ _) hread
  rw [tagPage, taggedNames_append hbefore, ← hrest]
  exact htag

theorem mem_of_mem_relatedOf (h : name ∈ relatedOf content own) :
    name ∈ linkedNames content ∨ name ∈ taggedNames content :=
  List.mem_append.mp ((distinctIgnoringCase_sublist _ _).subset h)

/-- The names that a page takes are read at its tags. What is read at a tag is the front of its name, and the whole name
exactly if that has ASCII letters only. Where all names of tags do, a page relates its component to those it links to or
mentions, and to no other. A tag that is alone on a page of another component is what that one is related to, under its
whole name, exactly if the name has ASCII letters only. -/
theorem relatedOf_mentions (content : List Char) (own : Option String) :
    (∀ name, name ∈ taggedNames content ↔
      ∃ s rest, '<' :: s <:+ content ∧ readTagName ('<' :: s) = some (name, rest)) ∧
    (∀ s name rest, readTagName ('<' :: s) = some (name, rest) → s = name.toList ++ rest ∧
      ((∀ c, rest.head? = some c → isWordChar c = false) ↔ ∀ c ∈ tagNameAt s, isAsciiLetter c)) ∧
    (PlainTags content → (∀ name, name ∈ taggedNames content ↔ Mentions content name ∧ IsTagName name.toList) ∧
      ∀ name ∈ relatedOf content own, name ∈ linkedNames content ∨ Mentions content name) ∧
    ∀ before name after, content = tagPage before name after → IsTagName name.toList → linkedNames content = [] →
      ¬ "<Bit".toList <:+: before → ¬ "<Bit".toList <:+: after → own.map lower ≠ some (lower name) →
      (relatedOf content own = [name] ↔ ∀ c ∈ name.toList, isAsciiLetter c) := by
  refine ⟨fun name => mem_taggedNames_iff_read, fun s name rest h => whole_iff h,
    fun hplain => ⟨fun name => hplain.mem_taggedNames_iff, fun name hname => ?_⟩, ?_⟩
  · exact (mem_of_mem_relatedOf hname).imp_right fun h => (hplain.mem_taggedNames_iff.mp h).1
  · rintro before name after rfl hname hlinked hbefore hafter hown
    constructor
    · intro hrelated
      have hmem := mem_of_mem_relatedOf (hrelated ▸ List.mem_singleton_self name)
      rw [hlinked] at hmem
      obtain ⟨letters, rest, htaken, -, -, hletters⟩ := mem_taggedNames.mp (hmem.resolve_left List.not_mem_nil)
      have htext : name.toList = "Bit".toList ++ letters := by simp [hletters]
      rw [htext]
      exact List.forall_mem_append.mpr ⟨List.all_eq_true.mp (by decide), htaken.ascii⟩
    · intro hletters
      have hseen : ¬ (own.toList.map lower).contains (lower name) = true := by
        rw [List.contains_iff_mem]
        cases own with
        | none => exact List.not_mem_nil
        | some own => exact fun hmem => hown (congrArg some (List.mem_singleton.mp hmem).symm)
      change distinctIgnoringCase _ (linkedNames _ ++ taggedNames _) = [name]
      rw [hlinked, taggedNames_tagPage hname hletters hbefore hafter, List.nil_append, distinctIgnoringCase,
        if_neg hseen]
      rfl

def iconPage : List Char :=
  tagPage "<p>With an icon: ".toList "BitIcon" "</p>".toList

theorem relatedOf_mentions_iconPage :
    (∃ s rest, readTagName ('<' :: s) = some ("BitIcon", rest) ∧ s = "BitIcon".toList ++ rest ∧
      ∀ c, rest.head? = some c → isWordChar c = false) ∧
    Mentions iconPage "BitIcon" ∧ relatedOf iconPage (some "BitButton") = ["BitIcon"] := by
  have hplain : PlainTags iconPage := by
    have htags : ∀ t ∈ iconPage.tails, t.head? = some '<' → (tagNameAt t.tail).all isAsciiLetter := by
      decide
    exact fun s hs _ => List.all_eq_true.mp (htags ('<' :: s) ((List.mem_tails _ _).mpr hs) rfl)
  have hname : IsTagName "BitIcon".toList :=
    ⟨'I', "con".toList, by decide, by decide, by decide, List.all_eq_true.mp (by decide)⟩
  have hlinked : linkedNames iconPage = [] := by decide
  obtain ⟨-, hwholeAt, hmentioned, hlone⟩ := relatedOf_mentions iconPage (some "BitButton")
  have hrelated : relatedOf iconPage (some "BitButton") = ["BitIcon"] :=
    (hlone "<p>With an icon: ".toList "BitIcon" "</p>".toList rfl hname hlinked (by decide) (by decide)
      (by decide)).mpr (List.all_eq_true.mp (by decide))
  have hmentions := (hmentioned hplain).2 "BitIcon" (hrelated ▸ List.mem_singleton_self "BitIcon")
  have hread : readTagName "<BitIcon />".toList = some ("BitIcon", " />".toList) := by decide
  obtain ⟨htext, hwhole⟩ := hwholeAt "BitIcon />".toList "BitIcon" " />".toList hread
  exact ⟨⟨_, _, hread, htext, hwhole.mpr (List.all_eq_true.mp (by decide))⟩,
    hmentions.resolve_left (hlinked ▸ List.not_mem_nil), hrelated⟩

/-- A name with a digit is cut at the digit: the page is related to a component that it does not mention. -/
theorem relatedOf_numberedTag :
    IsTagName "BitIcon2".toList ∧ relatedOf "<BitIcon2 />".toList (some "BitButton") = ["BitIcon"] ∧
      linkedNames "<BitIcon2 />".toList = [] ∧ ¬ Mentions "<BitIcon2 />".toList "BitIcon" := by
  have hname : IsTagName "BitIcon2".toList :=
    ⟨'I', "con2".toList, by decide, by decide, by decide, List.all_eq_true.mp (by decide)⟩
  refine ⟨hname, by decide, by decide, ?_⟩
  have htags : ∀ t ∈ "<BitIcon2 />".toList.tails, t.head? = some '<' → tagNameAt t.tail ≠ "BitIcon".toList := by
    decide
  rintro ⟨s, hs, hname⟩
  exact htags ('<' :: s) ((List.mem_tails _ _).mpr hs) rfl hname

end Catalog.Demo
