import Catalog.Text.Scan
import Mathlib.Data.List.Basic

/-! Where a scan finds something: what is read at a place is found there and the scan goes on behind it, and a stretch
of text is passed over if nothing can be read at any place in it. -/
namespace Catalog.Text

variable {α : Type} {read : Reader α} {lead s rest front run : List Char} {p : Char → Bool}

theorem dropLead_eq_some_iff {u : Unit} : dropLead lead s = some (u, rest) ↔ s = lead ++ rest := by
  induction lead generalizing s with
  | nil => simp [dropLead]
  | cons c lead ih =>
    cases s with
    | nil => simp [dropLead]
    | cons d s =>
      rw [dropLead, List.cons_append, List.cons.injEq]
      split_ifs with h
      · rw [ih]
        exact (and_iff_right h.symm).symm
      · simp [Ne.symm h]

theorem dropLead_eq_none (h : ¬ lead <+: s) : dropLead lead s = none := by
  refine Option.eq_none_iff_forall_ne_some.mpr ?_
  rintro ⟨_, rest⟩ hfound
  exact h ⟨rest, (dropLead_eq_some_iff.mp hfound).symm⟩

theorem all_takeWhile {c : Char} (hc : c ∈ s.takeWhile p) : p c :=
  List.all_eq_true.mp List.all_takeWhile c hc

/-- A span ends where its characters do. -/
theorem spanWhile_eq_iff :
    spanWhile p s = (run, rest) ↔
      s = run ++ rest ∧ (∀ c ∈ run, p c) ∧ ∀ c, rest.head? = some c → p c = false := by
  unfold spanWhile
  constructor
  · intro h
    obtain ⟨rfl, rfl⟩ := Prod.mk.inj h
    refine ⟨List.takeWhile_append_dropWhile.symm, fun c hc => all_takeWhile hc, fun c hc => ?_⟩
    have hhead := List.head?_dropWhile_not p s
    rw [hc] at hhead
    simpa using hhead
  · rintro ⟨rfl, hrun, hrest⟩
    rw [List.takeWhile_append_of_pos hrun, List.dropWhile_append_of_pos hrun]
    cases rest with
    | nil => simp
    | cons c rest => simp [hrest c rfl]

theorem findAllAfter_length (read : Reader α) (front rest : List Char) :
    findAllAfter read front.length (front ++ rest) = findAll read rest := by
  induction front with
  | nil => rfl
  | cons c front ih => exact ih

theorem findAll_of_read {a : α} (hfront : front ≠ []) (h : read (front ++ rest) = some (a, rest)) :
    findAll read (front ++ rest) = a :: findAll read rest := by
  cases front with
  | nil => exact absurd rfl hfront
  | cons c front =>
    rw [List.cons_append] at h ⊢
    have hskip : (front ++ rest).length - rest.length = front.length := by simp
    simp only [findAll, findAllAfter, h, hskip]
    exact congrArg (a :: ·) (findAllAfter_length read front rest)

theorem findAll_cons {c : Char} (h : read (c :: s) = none) : findAll read (c :: s) = findAll read s := by
  rw [findAll, findAllAfter, h]
  rfl

/-- Nothing is found where nothing can be read at any place. -/
theorem findAll_append (h : ∀ c t, c :: t <:+ front → read (c :: t ++ rest) = none) :
    findAll read (front ++ rest) = findAll read rest := by
  induction front with
  | nil => rfl
  | cons c front ih =>
    have hc : read (c :: (front ++ rest)) = none := h c front (List.suffix_refl _)
    rw [List.cons_append, findAll_cons hc]
    exact ih fun d t ht => h d t (ht.trans (List.suffix_cons c front))

/-- Nothing is found among characters at which nothing can begin. -/
theorem findAll_append_of_mem (h : ∀ c ∈ front, ∀ s, read (c :: s) = none) :
    findAll read (front ++ rest) = findAll read rest :=
  findAll_append fun c _ ht => h c (ht.subset List.mem_cons_self) _

/-- A place in a text that is put together is in its rest or in its front. -/
theorem suffix_append_cases (h : s <:+ front ++ rest) : s <:+ rest ∨ ∃ c t, c :: t <:+ front ∧ s = c :: t ++ rest := by
  rcases List.suffix_or_suffix_of_suffix h (List.suffix_append front rest) with hrest | ⟨u, rfl⟩
  · exact .inl hrest
  · cases u with
    | nil => exact .inl (List.suffix_refl _)
    | cons c t =>
      obtain ⟨v, hv⟩ := h
      rw [← List.append_assoc] at hv
      exact .inr ⟨c, t, ⟨v, List.append_cancel_right hv⟩, rfl⟩

theorem exists_read_of_mem_findAllAfter {a : α} {skip : ℕ} (h : a ∈ findAllAfter read skip s) :
    ∃ t rest, t <:+ s ∧ read t = some (a, rest) := by
  induction s generalizing skip with
  | nil => cases skip <;> cases h
  | cons c s ih =>
    have hlater {skip : ℕ} (h : a ∈ findAllAfter read skip s) :
        ∃ t rest, t <:+ c :: s ∧ read t = some (a, rest) := by
      obtain ⟨t, rest, ht, hread⟩ := ih h
      exact ⟨t, rest, ht.trans (List.suffix_cons c s), hread⟩
    cases skip with
    | succ skip => exact hlater h
    | zero =>
      rw [findAllAfter] at h
      cases hread : read (c :: s) with
      | none =>
        rw [hread] at h
        exact hlater h
      | some found =>
        rw [hread] at h
        rcases List.mem_cons.mp h with rfl | h
        · exact ⟨c :: s, found.2, List.suffix_refl _, hread⟩
        · exact hlater h

/-- Forms that begin with a character which stands nowhere else in them are found wherever they can be read. -/
theorem mem_findAll_iff {a : α} {opening : Char}
    (hread : ∀ s b rest, read s = some (b, rest) → ∃ front, opening ∉ front ∧ s = opening :: front ++ rest) :
    a ∈ findAll read s ↔ ∃ t rest, t <:+ s ∧ read t = some (a, rest) := by
  refine ⟨exists_read_of_mem_findAllAfter, ?_⟩
  rintro ⟨t, after, ht, ha⟩
  induction hn : s.length using Nat.strongRecOn generalizing s with
  | ind n ih =>
    obtain ⟨_, -, rfl⟩ := hread t a after ha
    cases s with
    | nil => cases List.suffix_nil.mp ht
    | cons c s =>
      rcases List.suffix_cons_iff.mp ht with hwhole | hlater
      · rw [← hwhole, findAll_of_read (List.cons_ne_nil _ _) ha]
        exact List.mem_cons_self
      · cases hfirst : read (c :: s) with
        | none =>
          rw [findAll_cons hfirst]
          exact ih s.length (by rw [← hn, List.length_cons]; omega) hlater rfl
        | some found =>
          obtain ⟨b, rest⟩ := found
          obtain ⟨front, hfront, hs⟩ := hread _ b rest hfirst
          obtain ⟨rfl, rfl⟩ := List.cons.inj hs
          rw [hs, findAll_of_read (List.cons_ne_nil _ _) hfirst]
          have hshorter : rest.length < n := by
            rw [← hn, hs, List.length_append, List.length_cons]
            omega
          refine List.mem_cons_of_mem b (ih rest.length hshorter ?_ rfl)
          -- nothing begins within what was read
          rcases suffix_append_cases hlater with hrest | ⟨d, u, hu, heq⟩
          · exact hrest
          · obtain ⟨rfl, -⟩ := List.cons.inj heq
            exact absurd (hu.subset List.mem_cons_self) hfront

theorem findFirst_of_read {a : α} (hs : s ≠ []) (h : read s = some (a, rest)) : findFirst read s = some a := by
  cases s with
  | nil => exact absurd rfl hs
  | cons c s => rw [findFirst, h]

/-- The first form is not in a stretch where nothing can be read. -/
theorem findFirst_append (h : ∀ c t, c :: t <:+ front → read (c :: t ++ rest) = none) :
    findFirst read (front ++ rest) = findFirst read rest := by
  induction front with
  | nil => rfl
  | cons c front ih =>
    have hc : read (c :: (front ++ rest)) = none := h c front (List.suffix_refl _)
    rw [List.cons_append, findFirst, hc]
    exact ih fun d t ht => h d t (ht.trans (List.suffix_cons c front))

section Replacement

variable {rewrite : Reader (List Char)}

theorem replaceAfter_length (rewrite : Reader (List Char)) (front rest : List Char) :
    replaceAfter rewrite front.length (front ++ rest) = replaceAll rewrite rest := by
  induction front with
  | nil => rfl
  | cons c front ih => exact ih

theorem replaceAll_of_read {new : List Char} (hfront : front ≠ []) (h : rewrite (front ++ rest) = some (new, rest)) :
    replaceAll rewrite (front ++ rest) = new ++ replaceAll rewrite rest := by
  cases front with
  | nil => exact absurd rfl hfront
  | cons c front =>
    rw [List.cons_append] at h ⊢
    have hskip : (front ++ rest).length - rest.length = front.length := by simp
    simp only [replaceAll, replaceAfter, h, hskip]
    exact congrArg (new ++ ·) (replaceAfter_length rewrite front rest)

theorem replaceAll_cons {c : Char} (h : rewrite (c :: s) = none) :
    replaceAll rewrite (c :: s) = c :: replaceAll rewrite s := by
  rw [replaceAll, replaceAfter, h]
  rfl

/-- A stretch where nothing can be read stays as it is. -/
theorem replaceAll_append (h : ∀ c t, c :: t <:+ front → rewrite (c :: t ++ rest) = none) :
    replaceAll rewrite (front ++ rest) = front ++ replaceAll rewrite rest := by
  induction front with
  | nil => rfl
  | cons c front ih =>
    have hc : rewrite (c :: (front ++ rest)) = none := h c front (List.suffix_refl _)
    rw [List.cons_append, List.cons_append, replaceAll_cons hc]
    exact congrArg (c :: ·) (ih fun d t ht => h d t (ht.trans (List.suffix_cons c front)))

theorem eraseAll_of_read {a : α} (hfront : front ≠ []) (h : read (front ++ rest) = some (a, rest)) :
    eraseAll read (front ++ rest) = eraseAll read rest := by
  unfold eraseAll
  rw [replaceAll_of_read hfront (by rw [h]; rfl), List.nil_append]

theorem eraseAll_append (h : ∀ c t, c :: t <:+ front → read (c :: t ++ rest) = none) :
    eraseAll read (front ++ rest) = front ++ eraseAll read rest := by
  refine replaceAll_append fun c t ht => ?_
  rw [h c t ht]
  rfl

end Replacement

section Separator

variable {sep : Char} {word : List Char}

/-- A word without the separator does not go on behind it. -/
theorem isPrefix_of_append_sep (hsep : sep ∉ word) (h : word <+: front ++ sep :: rest) : word <+: front := by
  rcases List.prefix_or_prefix_of_prefix h (List.prefix_append front (sep :: rest)) with hwithin | ⟨v, rfl⟩
  · exact hwithin
  · cases v with
    | nil => exact (List.append_nil front).symm ▸ List.prefix_refl front
    | cons c v =>
      have hc : c :: v <+: sep :: rest := (List.prefix_append_right_inj front).mp h
      rw [(List.cons_prefix_cons.mp hc).1] at hsep
      exact absurd (List.mem_append_right front List.mem_cons_self) hsep

theorem isInfix_append_sep (hsep : sep ∉ word) (h : word <:+: front ++ sep :: rest) :
    word <:+: front ∨ word <:+: rest := by
  obtain ⟨s, hs, hplace⟩ := List.infix_iff_prefix_suffix.mp h
  rcases suffix_append_cases hplace with hlater | ⟨c, t, ht, rfl⟩
  · rcases List.suffix_cons_iff.mp hlater with rfl | hlater
    · rw [← List.nil_append (sep :: rest)] at hs
      exact .inl ((isPrefix_of_append_sep hsep hs).isInfix.trans List.nil_infix)
    · exact .inr (hs.isInfix.trans hlater.isInfix)
  · exact .inl ((isPrefix_of_append_sep hsep hs).isInfix.trans ht.isInfix)

end Separator

/-- A text without the separator is in one piece. -/
theorem splitChars_of_notMem {sep : Char} (h : sep ∉ s) : splitChars sep s = [s] := by
  induction s with
  | nil => rfl
  | cons c s ih =>
    have hc : sep ≠ c := List.ne_of_not_mem_cons h
    have hs : sep ∉ s := List.not_mem_of_not_mem_cons h
    rw [splitChars, if_neg hc.symm, ih hs]

theorem occursIn_iff {needle : List Char} : occursIn needle s = true ↔ needle <:+: s := by
  induction s with
  | nil => simp [occursIn]
  | cons c s ih => rw [occursIn, Bool.or_eq_true, ih, List.isPrefixOf_iff_prefix, List.infix_cons_iff]

/-- A text holds another one where that stands somewhere in it. -/
theorem contains_iff {text needle : String} : contains text needle = true ↔ needle.toList <:+: text.toList :=
  occursIn_iff

end Catalog.Text
