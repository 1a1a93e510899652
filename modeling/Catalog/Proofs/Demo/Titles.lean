import Catalog.Demo.Page
import Catalog.Proofs.Text.Case
import Catalog.Proofs.Text.Keyword
import Mathlib.Data.Option.Basic

/-! The title and the subtitle of a page. A page has the value of its subtitle for a description in whichever order the
two are written, but for a title it has the value of the first of them: the name of a title is the end of that of a
subtitle. -/
namespace Catalog.Demo

open Text

variable {before between after head subhead s rest : List Char} {name value title subtitle filePath : String}

section Attribute

/-- The name of an attribute in any letter case, and the equals sign, with blank characters around it. -/
def IsHead (name : String) (head : List Char) : Prop :=
  ∃ word g₁ g₂, word.map keyLetter = name.toList ∧ (∀ c ∈ g₁, isBlank c) ∧ (∀ c ∈ g₂, isBlank c) ∧
    head = word ++ (g₁ ++ '=' :: g₂)

def IsValue (value : String) : Prop :=
  value ≠ "" ∧ '"' ∉ value.toList

def attributeText (head : List Char) (value : String) : List Char :=
  head ++ '"' :: (value.toList ++ ['"'])

theorem cutAt_quote_eq_some_iff {text : List Char} :
    cutAt ['"'] s = some (text, rest) ↔ '"' ∉ text ∧ s = text ++ '"' :: rest := by
  induction s generalizing text with
  | nil => simp [cutAt]
  | cons c s ih =>
    by_cases hc : c = '"'
    · subst hc
      cases text with
      | nil => simp [cutAt, dropLead]
      | cons d text =>
        simp only [cutAt, dropLead, if_true, List.mem_cons, List.cons_append, List.cons.injEq]
        exact iff_of_false (by simp) fun h => h.1 (.inl h.2.1)
    · have hlater : cutAt ['"'] (c :: s) = (cutAt ['"'] s).map fun found => (c :: found.1, found.2) := by
        rw [cutAt, dropLead, if_neg (Ne.symm hc)]
      rw [hlater, Option.map_eq_some_iff]
      constructor
      · rintro ⟨⟨front, after⟩, hfront, heq⟩
        cases heq
        obtain ⟨hquote, rfl⟩ := ih.mp hfront
        exact ⟨List.not_mem_cons_of_ne_of_not_mem (Ne.symm hc) hquote, rfl⟩
      · rintro ⟨hquote, hs⟩
        cases text with
        | nil => exact absurd (List.cons.inj hs).1 hc
        | cons d text =>
          obtain ⟨rfl, rfl⟩ := List.cons.inj hs
          exact ⟨(text, rest), ih.mpr ⟨List.not_mem_of_not_mem_cons hquote, rfl⟩, rfl⟩

theorem readAssignment_eq_some_iff {u : Unit} :
    readAssignment s = some (u, rest) ↔
      ∃ g₁ g₂, (∀ c ∈ g₁, isBlank c) ∧ (∀ c ∈ g₂, isBlank c) ∧ s = g₁ ++ '=' :: (g₂ ++ '"' :: rest) := by
  constructor
  · intro h
    obtain ⟨⟨_, t⟩, hequals, hquote⟩ := Option.bind_eq_some_iff.mp h
    refine ⟨s.takeWhile isBlank, t.takeWhile isBlank, fun c hc => all_takeWhile hc, fun c hc => all_takeWhile hc, ?_⟩
    have ht : t.dropWhile isBlank = '"' :: rest := dropLead_eq_some_iff.mp hquote
    have hs : s.dropWhile isBlank = '=' :: t := dropLead_eq_some_iff.mp hequals
    rw [← ht, List.takeWhile_append_dropWhile, ← hs, List.takeWhile_append_dropWhile]
  · rintro ⟨g₁, g₂, hg₁, hg₂, rfl⟩
    have hequals : (g₁ ++ '=' :: (g₂ ++ '"' :: rest)).dropWhile isBlank = '=' :: (g₂ ++ '"' :: rest) := by
      rw [List.dropWhile_append_of_pos hg₁]
      rfl
    have hquote : (g₂ ++ '"' :: rest).dropWhile isBlank = '"' :: rest := by
      rw [List.dropWhile_append_of_pos hg₂]
      rfl
    simp [readAssignment, hequals, hquote, dropLead]

theorem readQuotedValue_eq_some_iff :
    readQuotedValue s = some (value, rest) ↔ IsValue value ∧ s = value.toList ++ '"' :: rest := by
  constructor
  · intro h
    obtain ⟨⟨text, t⟩, hcut, h⟩ := Option.bind_eq_some_iff.mp h
    obtain ⟨_, hguard, h⟩ := Option.bind_eq_some_iff.mp h
    cases h
    obtain ⟨hquote, hs⟩ := cutAt_quote_eq_some_iff.mp hcut
    rw [IsValue, String.toList_ofList]
    refine ⟨⟨?_, hquote⟩, hs⟩
    rintro hempty
    have hnil : text = [] := by simpa using hempty
    simp [hnil] at hguard
  · rintro ⟨⟨hne, hquote⟩, hs⟩
    have hcut : cutAt ['"'] s = some (value.toList, rest) := cutAt_quote_eq_some_iff.mpr ⟨hquote, hs⟩
    simp [readQuotedValue, hcut, hne]

theorem readNamedValue_eq_some_iff (hascii : ∀ k ∈ name.toList, k.toNat < 0x80) :
    readNamedValue name s = some (value, rest) ↔
      ∃ head, IsHead name head ∧ IsValue value ∧ s = head ++ '"' :: (value.toList ++ '"' :: rest) := by
  constructor
  · intro h
    obtain ⟨t, hname, h⟩ := Option.bind_eq_some_iff.mp h
    obtain ⟨⟨_, t'⟩, hassign, hread⟩ := Option.bind_eq_some_iff.mp h
    obtain ⟨word, hword, rfl⟩ := (dropKeyword_eq_some_iff hascii).mp hname
    obtain ⟨g₁, g₂, hg₁, hg₂, rfl⟩ := readAssignment_eq_some_iff.mp hassign
    obtain ⟨hvalue, rfl⟩ := readQuotedValue_eq_some_iff.mp hread
    exact ⟨_, ⟨word, g₁, g₂, hword, hg₁, hg₂, rfl⟩, hvalue, by simp⟩
  · rintro ⟨_, ⟨word, g₁, g₂, hword, hg₁, hg₂, rfl⟩, hvalue, rfl⟩
    refine Option.bind_eq_some_iff.mpr ⟨g₁ ++ '=' :: (g₂ ++ '"' :: (value.toList ++ '"' :: rest)), ?_, ?_⟩
    · exact (dropKeyword_eq_some_iff hascii).mpr ⟨word, hword, by simp⟩
    refine Option.bind_eq_some_iff.mpr ⟨((), value.toList ++ '"' :: rest), ?_, ?_⟩
    · exact readAssignment_eq_some_iff.mpr ⟨g₁, g₂, hg₁, hg₂, rfl⟩
    exact readQuotedValue_eq_some_iff.mpr ⟨hvalue, rfl⟩

theorem IsHead.exists_map (h : IsHead name head) : ∃ gap, head.map keyLetter = name.toList ++ gap := by
  obtain ⟨word, g₁, g₂, hword, -, -, rfl⟩ := h
  exact ⟨_, by rw [List.map_append, hword]⟩

/-- Where an attribute is read its name stands. -/
theorem isPrefix_of_read {found : String × List Char} (hascii : ∀ k ∈ name.toList, k.toNat < 0x80)
    (h : readNamedValue name s = some found) : name.toList <+: s.map keyLetter := by
  obtain ⟨head, hhead, -, rfl⟩ := (readNamedValue_eq_some_iff hascii).mp h
  obtain ⟨gap, hgap⟩ := hhead.exists_map
  rw [List.map_append, hgap, List.append_assoc]
  exact List.prefix_append _ _

/-- An attribute whose name does not stand before it is the first one of that name. -/
theorem findFirst_attributeText (hascii : ∀ k ∈ name.toList, k.toNat < 0x80) (hname : Unbordered name.toList)
    (hbefore : ¬ Holds name before) (hhead : IsHead name head) (hvalue : IsValue value) (rest : List Char) :
    findFirst (readNamedValue name) (before ++ (attributeText head value ++ rest)) = some value := by
  have hread : readNamedValue name (attributeText head value ++ rest) = some (value, rest) :=
    (readNamedValue_eq_some_iff hascii).mpr ⟨head, hhead, hvalue, by simp [attributeText]⟩
  have hnone (c : Char) (t : List Char) (ht : c :: t <:+ before) :
      readNamedValue name (c :: t ++ (attributeText head value ++ rest)) = none := by
    refine Option.eq_none_iff_forall_ne_some.mpr fun other hother => hbefore ?_
    obtain ⟨gap, hgap⟩ := hhead.exists_map
    have hprefix := isPrefix_of_read hascii hother
    rw [attributeText, List.map_append, List.append_assoc, List.map_append, hgap, List.append_assoc] at hprefix
    have hwithin := hname.isPrefix_of_append (by simp) hprefix
    exact hwithin.isInfix.trans (ht.map keyLetter).isInfix
  rw [findFirst_append hnone]
  exact findFirst_of_read (by simp [attributeText]) hread

theorem IsHead.quote_not_mem (h : IsHead name head) (hname : '"' ∉ name.toList) : '"' ∉ head := by
  obtain ⟨word, g₁, g₂, hword, hg₁, hg₂, rfl⟩ := h
  have hgap {g : List Char} (hg : ∀ c ∈ g, isBlank c) : '"' ∉ g := fun hmem => absurd (hg '"' hmem) (by decide)
  simp only [List.mem_append, List.mem_cons, not_or]
  refine ⟨fun hmem => hname ?_, hgap hg₁, by decide, hgap hg₂⟩
  rw [← hword]
  exact List.mem_map.mpr ⟨'"', hmem, by decide⟩

/-- Before a quote an attribute is read exactly if its name and equals sign end there. -/
theorem isHead_of_read {found : String × List Char} (hascii : ∀ k ∈ name.toList, k.toNat < 0x80)
    (hname : '"' ∉ name.toList) (hs : '"' ∉ s) (h : readNamedValue name (s ++ '"' :: rest) = some found) :
    IsHead name s := by
  obtain ⟨head, hhead, -, heq⟩ := (readNamedValue_eq_some_iff hascii).mp h
  have hcut : cutAt ['"'] (s ++ '"' :: rest) = some (s, rest) := cutAt_quote_eq_some_iff.mpr ⟨hs, rfl⟩
  rw [heq, cutAt_quote_eq_some_iff.mpr ⟨hhead.quote_not_mem hname, rfl⟩] at hcut
  cases hcut
  exact hhead

end Attribute

section Order

theorem title_ascii : ∀ k ∈ "title".toList, k.toNat < 0x80 := by simp

theorem subtitle_ascii : ∀ k ∈ "subtitle".toList, k.toNat < 0x80 := by simp

theorem unbordered_title : Unbordered "title".toList := by decide

theorem unbordered_subtitle : Unbordered "subtitle".toList := by decide

/-- A subtitle that begins before a title begins three characters before it, unless the text before it holds one. -/
theorem sub_or_holds {u x : List Char} (hu : u ≠ []) (h : "subtitle".toList <+: u ++ ("title".toList ++ x)) :
    u = "sub".toList ∨ "title".toList <:+: u := by
  have hsplit : "subtitle".toList = 's' :: 'u' :: 'b' :: "title".toList := by decide
  rw [hsplit] at h
  match u, hu with
  | [a], _ => simp at h
  | [a, b], _ => simp at h
  | [a, b, c], _ =>
    simp only [List.cons_append, List.nil_append, List.cons_prefix_cons] at h
    obtain ⟨rfl, rfl, rfl, -⟩ := h
    exact .inl rfl
  | a :: b :: c :: d :: u, _ =>
    simp only [List.cons_append, List.cons_prefix_cons] at h
    have hwithin := unbordered_title.isPrefix_of_append (List.cons_ne_nil d u) h.2.2.2
    exact .inr (hwithin.isInfix.trans (List.suffix_append [a, b, c] (d :: u)).isInfix)

/-- No subtitle begins with a character of this head. -/
theorem IsHead.not_mem_s (h : IsHead "title" head) : 's' ∉ head.map keyLetter := by
  obtain ⟨word, g₁, g₂, hword, hg₁, hg₂, rfl⟩ := h
  have hgap {g : List Char} (hg : ∀ c ∈ g, isBlank c) : 's' ∉ g.map keyLetter := by
    intro hmem
    obtain ⟨c, hc, hletter⟩ := List.mem_map.mp hmem
    have hall : ∀ n ∈ blankCodes, keyLetter (Char.ofNat n) ≠ 's' := by decide
    have hplain := hall c.toNat (isBlank_iff.mp (hg c hc))
    rw [Char.ofNat_toNat] at hplain
    exact hplain hletter
  simp only [List.map_append, List.map_cons, List.mem_append, List.mem_cons, not_or, hword]
  exact ⟨by decide, hgap hg₁, by decide, hgap hg₂⟩

/-- The scan for a subtitle goes past a title, unless one of them begins before it or ends where its value does. -/
theorem findFirst_past_title (hbefore : ¬ Holds "title" before) (hsub : ¬ "sub".toList <:+ before.map keyLetter)
    (hhead : IsHead "title" head) (htitle : IsValue title)
    (hend : ∀ u, u <:+ title.toList → ¬ IsHead "subtitle" u) (rest : List Char) :
    findFirst (readNamedValue "subtitle") (before ++ (attributeText head title ++ rest)) =
      findFirst (readNamedValue "subtitle") rest := by
  have hbegin (c : Char) (t : List Char) (hc : keyLetter c ≠ 's') : readNamedValue "subtitle" (c :: t) = none := by
    refine Option.eq_none_iff_forall_ne_some.mpr fun found hfound => hc ?_
    have hprefix := isPrefix_of_read subtitle_ascii hfound
    have hsplit : "subtitle".toList = 's' :: "ubtitle".toList := by decide
    rw [hsplit, List.map_cons, List.cons_prefix_cons] at hprefix
    exact hprefix.1.symm
  have houtside (c : Char) (t : List Char) (ht : c :: t <:+ before) :
      readNamedValue "subtitle" (c :: t ++ (attributeText head title ++ rest)) = none := by
    refine Option.eq_none_iff_forall_ne_some.mpr fun found hfound => ?_
    obtain ⟨gap, hgap⟩ := hhead.exists_map
    have hprefix := isPrefix_of_read subtitle_ascii hfound
    rw [attributeText, List.map_append, List.append_assoc, List.map_append, hgap, List.append_assoc] at hprefix
    have hplace : (c :: t).map keyLetter <:+ before.map keyLetter := ht.map keyLetter
    rcases sub_or_holds (by simp) hprefix with heq | hholds
    · exact hsub (heq ▸ hplace)
    · exact hbefore (hholds.trans hplace.isInfix)
  have hwithin (c : Char) (t : List Char) (ht : c :: t <:+ attributeText head title) :
      readNamedValue "subtitle" (c :: t ++ rest) = none := by
    rcases suffix_append_cases ht with hvalue | ⟨d, u, hu, heq⟩
    · rcases List.suffix_cons_iff.mp hvalue with heq | hvalue
      · rw [(List.cons.inj heq).1]
        exact hbegin _ _ (by decide)
      · rcases suffix_append_cases hvalue with hlast | ⟨d, u, hu, heq⟩
        · rw [List.mem_singleton.mp (hlast.subset List.mem_cons_self)]
          exact hbegin _ _ (by decide)
        · -- a place in the value: the quote that ends this one would begin that of the subtitle
          rw [heq, List.append_assoc]
          refine Option.eq_none_iff_forall_ne_some.mpr fun found hfound => hend _ hu ?_
          have hquote : '"' ∉ d :: u := fun hmem => htitle.2 (hu.subset hmem)
          exact isHead_of_read subtitle_ascii (by decide) hquote hfound
    · have hc : c ∈ head := by
        rw [(List.cons.inj heq).1]
        exact hu.subset List.mem_cons_self
      exact hbegin _ _ fun hs => hhead.not_mem_s (List.mem_map.mpr ⟨c, hc, hs⟩)
  rw [findFirst_append houtside, findFirst_append hwithin]

/-- The head of a subtitle ends with that of a title. -/
theorem IsHead.exists_title (h : IsHead "subtitle" head) :
    ∃ front head', front.map keyLetter = "sub".toList ∧ IsHead "title" head' ∧ head = front ++ head' := by
  obtain ⟨word, g₁, g₂, hword, hg₁, hg₂, rfl⟩ := h
  have hsplit : "subtitle".toList = "sub".toList ++ "title".toList := by decide
  rw [hsplit] at hword
  obtain ⟨front, word, rfl, hfront, hword⟩ := List.map_eq_append_iff.mp hword
  exact ⟨front, _, hfront, ⟨word, g₁, g₂, hword, hg₁, hg₂, rfl⟩, List.append_assoc _ _ _⟩

theorem not_holds_append_sub {front : List Char} (hbefore : ¬ Holds "title" before)
    (hfront : front.map keyLetter = "sub".toList) : ¬ Holds "title" (before ++ front) := by
  intro h
  rw [Holds, List.map_append, hfront] at h
  rcases List.infix_append_iff.mp h with h | h | ⟨u, v, huv, hu, hv⟩
  · exact hbefore h
  · exact absurd h.length_le (by decide)
  · cases v with
    | nil =>
      rw [List.append_nil] at huv
      rw [Holds, huv] at hbefore
      exact hbefore hu.isInfix
    | cons c v =>
      have hc : c ∈ "title".toList := huv ▸ List.mem_append_right u List.mem_cons_self
      rw [(List.cons_prefix_cons.mp hv).1] at hc
      exact absurd hc (by decide)

/-- A text without the word title holds no subtitle. -/
theorem not_holds_subtitle (hbefore : ¬ Holds "title" before) : ¬ Holds "subtitle" before := by
  have hwithin : "title".toList <:+: "subtitle".toList := (List.suffix_append "sub".toList "title".toList).isInfix
  exact fun h => hbefore (hwithin.trans h)

theorem titleOf_first (hbefore : ¬ Holds "title" before) (hhead : IsHead "title" head) (htitle : IsValue title)
    (rest : List Char) : titleOf (before ++ (attributeText head title ++ rest)) = some title :=
  findFirst_attributeText title_ascii unbordered_title hbefore hhead htitle rest

/-- A subtitle that comes first is taken for the title as well. -/
theorem titleOf_subtitle_first (hbefore : ¬ Holds "title" before) (hsubhead : IsHead "subtitle" subhead)
    (hsubtitle : IsValue subtitle) (rest : List Char) :
    titleOf (before ++ (attributeText subhead subtitle ++ rest)) = some subtitle := by
  obtain ⟨front, head, hfront, hhead, rfl⟩ := hsubhead.exists_title
  have hplace := titleOf_first (not_holds_append_sub hbefore hfront) hhead hsubtitle rest
  simp only [attributeText, List.append_assoc] at hplace ⊢
  exact hplace

theorem descriptionOf_eq (h : findFirst (readNamedValue "subtitle") s = some value) : descriptionOf s = some value := by
  rw [descriptionOf, h]

theorem exists_titles (hpath : isBlankText filePath = false) (content : List Char) :
    ∃ page, parsePage content filePath = .ok page ∧ page.title = titleOf content ∧
      page.description = descriptionOf content := by
  simp [parsePage, requireName, hpath, bind, Except.bind]

/-- Of a page with a title and a subtitle and no other text about titles before or between them, the title is the value
that is written first, and the description is that of the subtitle. Where the title comes first this takes that no
subtitle begins before it or ends with its value. -/
theorem parsePage_titles (hpath : isBlankText filePath = false) (hbefore : ¬ Holds "title" before)
    (hbetween : ¬ Holds "title" between) (hhead : IsHead "title" head) (hsubhead : IsHead "subtitle" subhead)
    (htitle : IsValue title) (hsubtitle : IsValue subtitle) (after : List Char) :
    (∃ page, parsePage (before ++ (attributeText head title ++ (between ++ (attributeText subhead subtitle ++ after))))
        filePath = .ok page ∧ page.title = some title ∧
      (¬ "sub".toList <:+ before.map keyLetter → (∀ u, u <:+ title.toList → ¬ IsHead "subtitle" u) →
        page.description = some subtitle)) ∧
    ∃ page, parsePage (before ++ (attributeText subhead subtitle ++ (between ++ (attributeText head title ++ after))))
        filePath = .ok page ∧ page.title = some subtitle ∧ page.description = some subtitle := by
  have hsubtitleFirst {front : List Char} (hfront : ¬ Holds "title" front) (rest : List Char) :
      findFirst (readNamedValue "subtitle") (front ++ (attributeText subhead subtitle ++ rest)) = some subtitle :=
    findFirst_attributeText subtitle_ascii unbordered_subtitle (not_holds_subtitle hfront) hsubhead hsubtitle rest
  constructor
  · obtain ⟨page, hpage, htold, hdescribed⟩ := exists_titles hpath
      (before ++ (attributeText head title ++ (between ++ (attributeText subhead subtitle ++ after))))
    refine ⟨page, hpage, htold.trans (titleOf_first hbefore hhead htitle _), fun hsub hend => ?_⟩
    rw [hdescribed]
    apply descriptionOf_eq
    rw [findFirst_past_title hbefore hsub hhead htitle hend]
    exact hsubtitleFirst hbetween after
  · obtain ⟨page, hpage, htold, hdescribed⟩ := exists_titles hpath
      (before ++ (attributeText subhead subtitle ++ (between ++ (attributeText head title ++ after))))
    refine ⟨page, hpage, htold.trans (titleOf_subtitle_first hbefore hsubhead hsubtitle _), hdescribed.trans ?_⟩
    exact descriptionOf_eq (hsubtitleFirst hbefore _)

/-- A page whose title comes first, and whose subtitle has blank characters around its equals sign. -/
theorem parsePage_titles_button :
    ∃ page, parsePage "<PageOutlet Title=\"Button\" SUBTITLE = \"Press me\" />".toList "BitButtonDemo.razor" =
        .ok page ∧ page.title = some "Button" ∧ page.description = some "Press me" := by
  have hhead : IsHead "title" "Title=".toList :=
    ⟨"Title".toList, [], [], by decide, nofun, nofun, by decide⟩
  have hsubhead : IsHead "subtitle" "SUBTITLE = ".toList :=
    ⟨"SUBTITLE".toList, [' '], [' '], by decide, List.all_eq_true.mp (by decide),
      List.all_eq_true.mp (by decide), by decide⟩
  have hvalue : IsValue "Button" := ⟨by decide, by decide⟩
  have hsubvalue : IsValue "Press me" := ⟨by decide, by decide⟩
  have hpath : isBlankText "BitButtonDemo.razor" = false := by decide
  have hbefore : ¬ Holds "title" "<PageOutlet ".toList := by decide
  have hbetween : ¬ Holds "title" [' '] := by decide
  obtain ⟨⟨page, hpage, htitle, hdescription⟩, -⟩ :=
    parsePage_titles hpath hbefore hbetween hhead hsubhead hvalue hsubvalue " />".toList
  refine ⟨page, hpage, htitle, hdescription (by decide) ?_⟩
  rintro u hu ⟨word, g₁, g₂, -, -, -, rfl⟩
  have hequals : '=' ∈ "Button".toList := hu.subset (by simp)
  exact absurd hequals (by decide)

/-- With the subtitle written first, the title of the page is the subtitle. -/
theorem parsePage_subtitleFirst :
    (parsePage "<PageOutlet SubTitle=\"Press me\" Title=\"Button\" />".toList "BitButtonDemo.razor").map
        PageFacts.title = .ok (some "Press me") ∧
      (parsePage "<PageOutlet Title=\"Button\" SubTitle=\"Press me\" />".toList "BitButtonDemo.razor").map
        PageFacts.title = .ok (some "Button") := by
  decide

end Order

end Catalog.Demo
