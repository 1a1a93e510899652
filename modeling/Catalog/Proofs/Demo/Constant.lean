import Catalog.Demo.Samples
import Catalog.Proofs.Text.Scan
import Mathlib.Data.List.Infix
import Mathlib.Data.Option.Basic

/-! One constant of a samples file: the words that open it, its text with every quote written twice, and what a scan
finds in it. -/
namespace Catalog.Demo

open Text

section Numeral

theorem digitValue?_of_isDigit {c : Char} (h : c.isDigit) : digitValue? c = some (c.toNat - '0'.toNat) := by
  have hlow : 48 ≤ c.toNat := (Char.isDigit_iff_toNat.mp h).1
  have hhigh : c.toNat ≤ 57 := (Char.isDigit_iff_toNat.mp h).2
  have hmod : (c.toNat - 48) % 10 = c.toNat - 48 := Nat.mod_eq_of_lt (by omega)
  simp [digitValue?, digitRanges, hlow, hhigh, hmod]

theorem isDigit_of_mem_toDigits {n : ℕ} {c : Char} (hc : c ∈ Nat.toDigits 10 n) : isDigit c := by
  rw [isDigit, digitValue?_of_isDigit (Nat.isDigit_of_mem_toDigits (by omega) (by omega) hc)]
  rfl

theorem numberOf_toDigits (n : ℕ) : numberOf (Nat.toDigits 10 n) = n := by
  have hfold (digits : List Char) (hdigits : ∀ c ∈ digits, c.isDigit) (m : ℕ) :
      digits.foldl (fun n c => n * 10 + (digitValue? c).getD 0) m = Nat.ofDigitChars 10 digits m := by
    induction digits generalizing m with
    | nil => simp
    | cons c digits ih =>
      have hc := digitValue?_of_isDigit (hdigits c List.mem_cons_self)
      have hrest := ih fun d hd => hdigits d (List.mem_cons_of_mem c hd)
      rw [List.foldl_cons, hc, hrest, Nat.ofDigitChars_cons, Nat.mul_comm]
      rfl
  have hn := hfold (Nat.toDigits 10 n) (fun c hc => Nat.isDigit_of_mem_toDigits (by omega) (by omega) hc) 0
  exact hn.trans Nat.ofDigitChars_ten_toDigits

end Numeral

section Verbatim

variable {c : Char} {s rest : List Char}

def doubled (s : List Char) : List Char :=
  s.flatMap fun c => if c = '"' then ['"', '"'] else [c]

theorem doubled_quote (s : List Char) : doubled ('"' :: s) = '"' :: '"' :: doubled s := rfl

theorem doubled_cons (hc : c ≠ '"') (s : List Char) : doubled (c :: s) = c :: doubled s := by
  simp [doubled, hc]

theorem unescapeVerbatim_doubled (s : List Char) : unescapeVerbatim (doubled s) = s := by
  unfold unescapeVerbatim replaceAll
  induction s with
  | nil => rfl
  | cons c s ih =>
    by_cases hc : c = '"'
    · subst hc
      rw [doubled_quote]
      simp [replaceAfter, dropLead, ih]
    · rw [doubled_cons hc]
      simp [replaceAfter, dropLead, Ne.symm hc, ih]

theorem cutAt_quote (h : s.head? ≠ some ';') :
    cutAt ['"', ';'] ('"' :: s) = (cutAt ['"', ';'] s).map fun (before, after) => ('"' :: before, after) := by
  cases s with
  | nil => simp [cutAt, dropLead]
  | cons c s =>
    have hc : ';' ≠ c := fun hc => h (by rw [hc]; rfl)
    simp [cutAt, dropLead, hc]

/-- A text in which no quote stands before a semicolon ends at the quote that closes it. -/
theorem cutAt_doubled (h : ¬ ['"', ';'] <:+: s) (rest : List Char) :
    cutAt ['"', ';'] (doubled s ++ '"' :: ';' :: rest) = some (doubled s, rest) := by
  induction s with
  | nil => simp [doubled, cutAt, dropLead]
  | cons c s ih =>
    have hrest := ih fun hs => h (hs.trans (List.suffix_cons c s).isInfix)
    by_cases hc : c = '"'
    · subst hc
      -- the second of the two quotes is not followed by a semicolon either
      have hnext : (doubled s ++ '"' :: ';' :: rest).head? ≠ some ';' := by
        cases s with
        | nil => simp [doubled]
        | cons d s =>
          have hd : d ≠ ';' := by
            rintro rfl
            exact h (List.prefix_append ['"', ';'] s).isInfix
          by_cases hq : d = '"'
          · simp [hq, doubled_quote]
          · simpa [doubled_cons hq] using hd
      rw [doubled_quote, List.cons_append, List.cons_append, cutAt_quote (by simp), cutAt_quote hnext, hrest]
      rfl
    · rw [doubled_cons hc, List.cons_append, cutAt, dropLead, if_neg (Ne.symm hc), hrest]
      rfl

/-- A stretch without quotes that stands before a quote in the doubled text stands there in the text itself. -/
theorem prefix_of_doubled_eq {h r y : List Char} (hh : '"' ∉ h) (heq : doubled s ++ '"' :: y = h ++ '"' :: r) :
    h ++ ['"'] <+: s ++ ['"'] := by
  -- doubling changes nothing before the first quote, and there the stretch has ended
  induction h generalizing s with
  | nil =>
    cases s with
    | nil => exact List.prefix_refl _
    | cons c s =>
      by_cases hc : c = '"'
      · subst hc
        exact List.prefix_append ['"'] _
      · rw [doubled_cons hc] at heq
        exact absurd (List.cons.inj heq).1 hc
  | cons d h ih =>
    have hd : '"' ≠ d := List.ne_of_not_mem_cons hh
    have htail : '"' ∉ h := List.not_mem_of_not_mem_cons hh
    cases s with
    | nil => exact absurd (List.cons.inj heq).1 hd
    | cons c s =>
      by_cases hc : c = '"'
      · subst hc
        exact absurd (List.cons.inj heq).1 hd
      · rw [doubled_cons hc] at heq
        obtain ⟨rfl, hrest⟩ := List.cons.inj heq
        exact (List.prefix_cons_inj c).mpr (ih htail hrest)

end Verbatim

section Opening

variable {kind : SampleKind} {digits gap s h rest : List Char} {word : String}

def IsGap (gap : List Char) : Prop :=
  gap ≠ [] ∧ ∀ c ∈ gap, isBlank c

/-- The words that open a constant of the kind with these digits, up to the quote that opens its text. -/
def Opens (kind : SampleKind) (digits h : List Char) : Prop :=
  ∃ g₁ g₂ g₃ g₄ g₅, IsGap g₁ ∧ IsGap g₂ ∧ IsGap g₃ ∧ (∀ c ∈ g₄, isBlank c) ∧ (∀ c ∈ g₅, isBlank c) ∧
    digits ≠ [] ∧ (∀ c ∈ digits, isDigit c) ∧
    h = "private".toList ++ (g₁ ++ ("readonly".toList ++ (g₂ ++ ("string".toList ++ (g₃ ++ ("example".toList ++
      (digits ++ (kind.suffix.toList ++ (g₄ ++ ('=' :: (g₅ ++ ['@'])))))))))))

def readConstantOpening (kind : SampleKind) : Reader (List Char) := fun s => do
  let (_, rest) ← readWordAndGap "private" s
  let (_, rest) ← readWordAndGap "readonly" rest
  let (_, rest) ← readWordAndGap "string" rest
  let (_, rest) ← dropLead "example".toList rest
  let (digits, rest) := spanWhile isDigit rest
  guard !digits.isEmpty
  let (_, rest) ← dropLead kind.suffix.toList rest
  let (_, rest) ← dropLead ['='] (rest.dropWhile isBlank)
  let (_, rest) ← dropLead ['@', '"'] (rest.dropWhile isBlank)
  some (digits, rest)

theorem readConstant_eq (kind : SampleKind) (s : List Char) :
    readConstant kind s = (readConstantOpening kind s).bind fun (digits, rest) =>
      (cutAt ['"', ';'] rest).map fun (text, rest) => ((digits, String.ofList (unescapeVerbatim text)), rest) := by
  simp only [readConstant, readConstantOpening, Option.bind_eq_bind, Option.bind_assoc, Option.map_eq_bind]
  rfl

theorem readWordAndGap_eq_some_iff {u : Unit} :
    readWordAndGap word s = some (u, rest) ↔
      ∃ gap, IsGap gap ∧ (∀ c, rest.head? = some c → isBlank c = false) ∧ s = word.toList ++ (gap ++ rest) := by
  constructor
  · intro h
    obtain ⟨⟨_, s₁⟩, hword, h⟩ := Option.bind_eq_some_iff.mp h
    obtain ⟨_, hguard, h⟩ := Option.bind_eq_some_iff.mp h
    cases h
    obtain ⟨hs, hgap, hrest⟩ := spanWhile_eq_iff.mp (Eq.refl (spanWhile isBlank s₁))
    refine ⟨s₁.takeWhile isBlank, ⟨?_, hgap⟩, hrest, ?_⟩
    · intro hnil
      simp [hnil] at hguard
    · rw [dropLead_eq_some_iff.mp hword, List.takeWhile_append_dropWhile]
  · rintro ⟨gap, ⟨hne, hgap⟩, hrest, rfl⟩
    have hspan : spanWhile isBlank (gap ++ rest) = (gap, rest) := spanWhile_eq_iff.mpr ⟨rfl, hgap, hrest⟩
    rw [readWordAndGap, dropLead_append]
    simp [hspan, hne]

theorem readWordAndGap_append (word : String) (hgap : IsGap gap) (rest : List Char)
    (hrest : ∀ c, rest.head? = some c → isBlank c = false) :
    readWordAndGap word (word.toList ++ (gap ++ rest)) = some ((), rest) :=
  readWordAndGap_eq_some_iff.mpr ⟨gap, hgap, hrest, rfl⟩

/-- The words before the kind of a constant and its digits are read if anything but a digit follows. -/
theorem readConstantOpening_words {g₁ g₂ g₃ : List Char} (kind : SampleKind) (hg₁ : IsGap g₁) (hg₂ : IsGap g₂)
    (hg₃ : IsGap g₃) (hne : digits ≠ []) (hdigits : ∀ c ∈ digits, isDigit c)
    (hrest : ∀ c, rest.head? = some c → isDigit c = false) :
    readConstantOpening kind ("private".toList ++ (g₁ ++ ("readonly".toList ++ (g₂ ++ ("string".toList ++ (g₃ ++
        ("example".toList ++ (digits ++ rest)))))))) =
      (dropLead kind.suffix.toList rest).bind fun (_, rest) =>
        (dropLead ['='] (rest.dropWhile isBlank)).bind fun (_, rest) =>
          (dropLead ['@', '"'] (rest.dropWhile isBlank)).bind fun (_, rest) => some (digits, rest) := by
  have hprivate := readWordAndGap_append "private" hg₁ ("readonly".toList ++ (g₂ ++ ("string".toList ++ (g₃ ++
    ("example".toList ++ (digits ++ rest)))))) fun c hc => by cases hc; rfl
  have hreadonly := readWordAndGap_append "readonly" hg₂ ("string".toList ++ (g₃ ++
    ("example".toList ++ (digits ++ rest)))) fun c hc => by cases hc; rfl
  have hstring := readWordAndGap_append "string" hg₃ ("example".toList ++ (digits ++ rest))
    fun c hc => by cases hc; rfl
  have hspan : spanWhile isDigit (digits ++ rest) = (digits, rest) := spanWhile_eq_iff.mpr ⟨rfl, hdigits, hrest⟩
  simp only [readConstantOpening, Option.bind_eq_bind, hprivate, hreadonly, hstring, dropLead_append, hspan,
    Option.bind_some]
  simp [hne]

theorem head_suffix (kind : SampleKind) (t : List Char) :
    ∀ c, (kind.suffix.toList ++ t).head? = some c → isDigit c = false := by
  cases kind <;> intro c hc <;> cases hc <;> rfl

theorem Opens.read (h : Opens kind digits s) (rest : List Char) :
    readConstantOpening kind (s ++ '"' :: rest) = some (digits, rest) := by
  obtain ⟨g₁, g₂, g₃, g₄, g₅, hg₁, hg₂, hg₃, hg₄, hg₅, hne, hdigits, rfl⟩ := h
  have hequals : (g₄ ++ '=' :: (g₅ ++ ('@' :: '"' :: rest))).dropWhile isBlank =
      '=' :: (g₅ ++ ('@' :: '"' :: rest)) := by
    rw [List.dropWhile_append_of_pos hg₄]
    rfl
  have hat : (g₅ ++ ('@' :: '"' :: rest)).dropWhile isBlank = '@' :: '"' :: rest := by
    rw [List.dropWhile_append_of_pos hg₅]
    rfl
  simp only [List.append_assoc, List.cons_append, List.nil_append]
  rw [readConstantOpening_words kind hg₁ hg₂ hg₃ hne hdigits (head_suffix kind _), dropLead_append]
  simp [hequals, hat, dropLead]

/-- The words of a constant of one kind open none of another. -/
theorem Opens.read_other {other : SampleKind} (h : Opens kind digits s) (hother : other ≠ kind) (rest : List Char) :
    readConstantOpening other (s ++ rest) = none := by
  obtain ⟨g₁, g₂, g₃, g₄, g₅, hg₁, hg₂, hg₃, -, -, hne, hdigits, rfl⟩ := h
  have hsuffix (t : List Char) : dropLead other.suffix.toList (kind.suffix.toList ++ t) = none := by
    cases other <;> cases kind
    · exact absurd rfl hother
    · rfl
    · rfl
    · exact absurd rfl hother
  simp only [List.append_assoc, List.cons_append, List.nil_append]
  rw [readConstantOpening_words other hg₁ hg₂ hg₃ hne hdigits (head_suffix kind _), hsuffix]
  rfl

theorem readConstantOpening_eq_some_iff :
    readConstantOpening kind s = some (digits, rest) ↔ ∃ h, Opens kind digits h ∧ s = h ++ '"' :: rest := by
  constructor
  · intro hread
    obtain ⟨⟨_, s₁⟩, hprivate, hread⟩ := Option.bind_eq_some_iff.mp hread
    obtain ⟨⟨_, s₂⟩, hreadonly, hread⟩ := Option.bind_eq_some_iff.mp hread
    obtain ⟨⟨_, s₃⟩, hstring, hread⟩ := Option.bind_eq_some_iff.mp hread
    obtain ⟨⟨_, s₄⟩, hexample, hread⟩ := Option.bind_eq_some_iff.mp hread
    obtain ⟨_, hguard, hread⟩ := Option.bind_eq_some_iff.mp hread
    obtain ⟨⟨_, s₅⟩, hsuffix, hread⟩ := Option.bind_eq_some_iff.mp hread
    obtain ⟨⟨_, s₆⟩, hequals, hread⟩ := Option.bind_eq_some_iff.mp hread
    obtain ⟨⟨_, s₇⟩, hat, hread⟩ := Option.bind_eq_some_iff.mp hread
    cases hread
    obtain ⟨g₁, hg₁, -, rfl⟩ := readWordAndGap_eq_some_iff.mp hprivate
    obtain ⟨g₂, hg₂, -, rfl⟩ := readWordAndGap_eq_some_iff.mp hreadonly
    obtain ⟨g₃, hg₃, -, rfl⟩ := readWordAndGap_eq_some_iff.mp hstring
    obtain rfl := dropLead_eq_some_iff.mp hexample
    have hs₄ : s₄ = s₄.takeWhile isDigit ++ (kind.suffix.toList ++ s₅) := by
      rw [← dropLead_eq_some_iff.mp hsuffix]
      exact List.takeWhile_append_dropWhile.symm
    have hs₅ : s₅ = s₅.takeWhile isBlank ++ '=' :: s₆ := by
      rw [← List.singleton_append, ← dropLead_eq_some_iff.mp hequals, List.takeWhile_append_dropWhile]
    have hs₆ : s₆ = s₆.takeWhile isBlank ++ ('@' :: '"' :: rest) := by
      change _ = _ ++ (['@', '"'] ++ rest)
      rw [← dropLead_eq_some_iff.mp hat, List.takeWhile_append_dropWhile]
    refine ⟨_, ⟨g₁, g₂, g₃, s₅.takeWhile isBlank, s₆.takeWhile isBlank, hg₁, hg₂, hg₃, ?_, ?_, ?_, ?_, rfl⟩, ?_⟩
    · exact fun c hc => all_takeWhile hc
    · exact fun c hc => all_takeWhile hc
    · intro hnil
      simp [hnil] at hguard
    · exact fun c hc => all_takeWhile hc
    · simp only [List.append_assoc, List.cons_append, List.nil_append]
      rw [← hs₆, ← hs₅]
      exact congrArg (fun t => "private".toList ++ (g₁ ++ ("readonly".toList ++ (g₂ ++ ("string".toList ++ (g₃ ++
        ("example".toList ++ t))))))) hs₄
  · rintro ⟨h, hopens, rfl⟩
    exact hopens.read rest

theorem Opens.quote_not_mem (h : Opens kind digits s) : '"' ∉ s := by
  obtain ⟨g₁, g₂, g₃, g₄, g₅, hg₁, hg₂, hg₃, hg₄, hg₅, hne, hdigits, rfl⟩ := h
  have hblank (g : List Char) (hg : ∀ c ∈ g, isBlank c) : '"' ∉ g := fun hc => absurd (hg _ hc) (by decide)
  have hdigit : '"' ∉ digits := fun hc => absurd (hdigits _ hc) (by decide)
  have hsuffix : '"' ∉ kind.suffix.toList := by cases kind <;> decide
  simp only [List.mem_append, List.mem_cons, not_or]
  exact ⟨by decide, hblank g₁ hg₁.2, by decide, hblank g₂ hg₂.2, by decide, hblank g₃ hg₃.2, by decide, hdigit,
    hsuffix, hblank g₄ hg₄, by decide, hblank g₅ hg₅, by decide, List.not_mem_nil⟩

theorem Opens.begins (h : Opens kind digits s) : ∃ t, s = 'p' :: 'r' :: t := by
  obtain ⟨g₁, g₂, g₃, g₄, g₅, -, -, -, -, -, -, -, rfl⟩ := h
  exact ⟨_, rfl⟩

theorem readConstant_eq_none (h : readConstantOpening kind s = none) : readConstant kind s = none := by
  rw [readConstant_eq, h]
  rfl

/-- Whether a stretch may be the beginning of a constant, judged by its first two characters. -/
def mayOpen : List Char → Bool
  | 'p' :: 'r' :: _ => true
  | ['p'] => true
  | _ => false

theorem readConstant_of_not_mayOpen {c : Char} {t : List Char} (h : mayOpen (c :: t) = false) (rest : List Char) :
    readConstant kind (c :: t ++ rest) = none := by
  apply readConstant_eq_none
  by_contra hread
  obtain ⟨⟨digits, r⟩, hread⟩ := Option.ne_none_iff_exists'.mp hread
  obtain ⟨_, hopens, heq⟩ := readConstantOpening_eq_some_iff.mp hread
  obtain ⟨_, rfl⟩ := hopens.begins
  obtain ⟨rfl, htail⟩ := List.cons.inj heq
  cases t with
  | nil => cases h
  | cons d t =>
    obtain ⟨rfl, -⟩ := List.cons.inj htail
    cases h

/-- The scan for constants of the kind finds nothing that begins in the stretch. -/
def Skips (kind : SampleKind) (t : List Char) : Prop :=
  ∀ rest, findAll (readConstant kind) (t ++ rest) = findAll (readConstant kind) rest

theorem Skips.append {t u : List Char} (ht : Skips kind t) (hu : Skips kind u) : Skips kind (t ++ u) := by
  intro rest
  rw [List.append_assoc, ht, hu]

/-- If nothing can be read at the first character, it matters only what begins behind it. -/
theorem Skips.of_tail {c : Char} {t u w : List Char} (htail : Skips kind (t ++ u)) (hw : w = c :: t)
    (hfirst : ∀ rest, readConstant kind (w ++ u ++ rest) = none) : Skips kind (w ++ u) := by
  subst hw
  intro rest
  exact (findAll_cons (hfirst rest)).trans (htail rest)

theorem skips_of_not_mayOpen {t : List Char} (h : ∀ u ∈ t.tails, mayOpen u = false) : Skips kind t := by
  refine fun rest => findAll_append fun c u hu => ?_
  have hmem : c :: u ∈ t.tails := (List.mem_tails _ _).mpr hu
  exact readConstant_of_not_mayOpen (h _ hmem) rest

theorem skips_of_ne {t : List Char} (h : ∀ c ∈ t, c ≠ 'p') : Skips kind t := by
  refine fun rest => findAll_append_of_mem fun c hc u => ?_
  have hp : c ≠ 'p' := h c hc
  have hmay : mayOpen [c] = false := by
    unfold mayOpen
    split <;> simp_all
  exact readConstant_of_not_mayOpen hmay u

theorem skips_of_isBlank {t : List Char} (h : ∀ c ∈ t, isBlank c) : Skips kind t := by
  refine skips_of_ne fun c hc hp => ?_
  have hblank := h c hc
  rw [hp] at hblank
  exact absurd hblank (by decide)

theorem skips_of_isDigit {t : List Char} (h : ∀ c ∈ t, isDigit c) : Skips kind t := by
  refine skips_of_ne fun c hc hp => ?_
  have hdigit := h c hc
  rw [hp] at hdigit
  exact absurd hdigit (by decide)

theorem skips_suffix (other : SampleKind) : Skips kind other.suffix.toList := by
  cases other with
  | markup => exact skips_of_not_mayOpen (by decide)
  | code => exact skips_of_not_mayOpen (by decide)

theorem skips_singleton {c : Char} (hc : c ≠ 'p') : Skips kind [c] :=
  skips_of_ne (List.forall_mem_singleton.mpr hc)

/-- The words of a constant of the other kind are passed over. -/
theorem Opens.skips {other : SampleKind} (h : Opens kind digits s) (hother : other ≠ kind) : Skips other s := by
  -- the first word fails at its kind, and at no later place another one begins
  have hfirst (rest : List Char) := readConstant_eq_none (h.read_other hother rest)
  obtain ⟨g₁, g₂, g₃, g₄, g₅, hg₁, hg₂, hg₃, hg₄, hg₅, -, hdigits, rfl⟩ := h
  have hprivate : Skips other "rivate".toList := skips_of_not_mayOpen (by decide)
  have hreadonly : Skips other "readonly".toList := skips_of_not_mayOpen (by decide)
  have hstring : Skips other "string".toList := skips_of_not_mayOpen (by decide)
  have hexample : Skips other "example".toList := skips_of_not_mayOpen (by decide)
  have hequals : Skips other (g₄ ++ (['='] ++ (g₅ ++ ['@']))) :=
    (skips_of_isBlank hg₄).append ((skips_singleton (by decide)).append
      ((skips_of_isBlank hg₅).append (skips_singleton (by decide))))
  have hnumber := hexample.append ((skips_of_isDigit hdigits).append ((skips_suffix kind).append hequals))
  have htail := hprivate.append ((skips_of_isBlank hg₁.2).append (hreadonly.append ((skips_of_isBlank hg₂.2).append
    (hstring.append ((skips_of_isBlank hg₃.2).append hnumber)))))
  have hbegin : "private".toList = 'p' :: "rivate".toList := rfl
  exact htail.of_tail hbegin hfirst

/-- A text that opens no constant of the kind is passed over, with every quote written twice. -/
theorem findAll_doubled {t : List Char} (h : ∀ digits h, Opens kind digits h → ¬ h ++ ['"'] <:+: t ++ ['"'])
    (rest : List Char) :
    findAll (readConstant kind) (doubled t ++ '"' :: rest) = findAll (readConstant kind) ('"' :: rest) := by
  -- the closing quote stays in place, since what opens a constant may reach up to it
  induction t with
  | nil => rfl
  | cons c t ih =>
    have hread : readConstant kind (doubled (c :: t) ++ '"' :: rest) = none := by
      apply readConstant_eq_none
      by_contra hread
      obtain ⟨⟨digits, r⟩, hread⟩ := Option.ne_none_iff_exists'.mp hread
      obtain ⟨front, hopens, heq⟩ := readConstantOpening_eq_some_iff.mp hread
      exact h digits front hopens (prefix_of_doubled_eq hopens.quote_not_mem heq).isInfix
    have hrest := ih fun digits front hopens hwithin =>
      h digits front hopens (hwithin.trans (List.suffix_cons c _).isInfix)
    by_cases hc : c = '"'
    · subst hc
      have hquotes : Skips kind (['"'] ++ ['"']) := (skips_singleton (by decide)).append (skips_singleton (by decide))
      rw [doubled_quote]
      exact (hquotes _).trans hrest
    · have hnone : readConstant kind (c :: (doubled t ++ '"' :: rest)) = none := by
        rw [doubled_cons hc] at hread
        exact hread
      rw [doubled_cons hc, List.cons_append, findAll_cons hnone, hrest]

end Opening

/-- A constant as it stands in a file: the blank characters before it, its number, its kind and its text. -/
structure Sample where
  lead : List Char := []
  number : ℕ
  kind : SampleKind
  text : String
  deriving DecidableEq, Repr

namespace Sample

variable {s : Sample} {kind : SampleKind} {rest : List Char}

/-- The words that open the constant, with one space at each place where blank characters may stand. -/
def opening (s : Sample) : List Char :=
  "private".toList ++ ([' '] ++ ("readonly".toList ++ ([' '] ++ ("string".toList ++ ([' '] ++ ("example".toList ++
    (Nat.toDigits 10 s.number ++ (s.kind.suffix.toList ++ ([' '] ++ ('=' :: ([' '] ++ ['@'])))))))))))

def written (s : Sample) : List Char :=
  s.lead ++ (s.opening ++ '"' :: (doubled s.text.toList ++ ['"', ';']))

/-- A constant that is read as it was written. -/
structure Plain (s : Sample) : Prop where
  lead : ∀ c ∈ s.lead, isBlank c
  short : (Nat.toDigits 10 s.number).length ≤ maxNumeralDigits
  /-- No quote stands before a semicolon. -/
  unbroken : ¬ ['"', ';'] <:+: s.text.toList
  /-- Nothing opens a constant of the other kind, not even with the quote that closes the text. -/
  alone : ∀ kind digits h, kind ≠ s.kind → Opens kind digits h → ¬ h ++ ['"'] <:+: s.text.toList ++ ['"']

theorem isGap_space : IsGap [' '] :=
  ⟨List.cons_ne_nil _ _, List.forall_mem_singleton.mpr rfl⟩

theorem opens_opening (s : Sample) : Opens s.kind (Nat.toDigits 10 s.number) s.opening :=
  ⟨[' '], [' '], [' '], [' '], [' '], isGap_space, isGap_space, isGap_space, isGap_space.2, isGap_space.2,
    Nat.toDigits_ne_nil, fun _ hc => isDigit_of_mem_toDigits hc, rfl⟩

theorem alone_of_not_mem (hp : 'p' ∉ s.text.toList) :
    ∀ kind digits h, kind ≠ s.kind → Opens kind digits h → ¬ h ++ ['"'] <:+: s.text.toList ++ ['"'] := by
  intro kind digits h _ hopens hwithin
  obtain ⟨t, rfl⟩ := hopens.begins
  have hmem : 'p' ∈ s.text.toList ++ ['"'] := hwithin.subset List.mem_cons_self
  rcases List.mem_append.mp hmem with hmem | hmem
  · exact hp hmem
  · exact absurd hmem (by decide)

theorem opening_ne_nil (s : Sample) : s.opening ≠ [] := by
  obtain ⟨t, ht⟩ := s.opens_opening.begins
  rw [ht]
  exact List.cons_ne_nil _ _

theorem written_append (s : Sample) (rest : List Char) :
    s.written ++ rest = s.lead ++ ((s.opening ++ '"' :: (doubled s.text.toList ++ ['"', ';'])) ++ rest) :=
  List.append_assoc _ _ _

/-- A constant is found by the scan for its kind. -/
theorem findAll_written_self (hs : s.Plain) (rest : List Char) :
    findAll (readConstant s.kind) (s.written ++ rest) =
      (Nat.toDigits 10 s.number, s.text) :: findAll (readConstant s.kind) rest := by
  have hread : readConstant s.kind ((s.opening ++ '"' :: (doubled s.text.toList ++ ['"', ';'])) ++ rest) =
      some ((Nat.toDigits 10 s.number, s.text), rest) := by
    simp only [List.append_assoc, List.cons_append, List.nil_append]
    rw [readConstant_eq, s.opens_opening.read, Option.bind_some]
    change Option.map _ (cutAt _ (_ ++ _)) = _
    rw [cutAt_doubled hs.unbroken]
    simp [unescapeVerbatim_doubled]
  rw [written_append, skips_of_isBlank hs.lead, findAll_of_read (by simp [opening_ne_nil]) hread]

/-- A constant is passed over by the scan for the other kind. -/
theorem skips_written (hs : s.Plain) (hkind : kind ≠ s.kind) : Skips kind s.written := by
  intro rest
  have hclose : Skips kind ['"', ';'] := skips_of_not_mayOpen (by decide)
  have hquote : Skips kind ['"'] := skips_singleton (by decide)
  have htext := findAll_doubled (fun digits h => hs.alone kind digits h hkind) (';' :: rest)
  rw [written_append, skips_of_isBlank hs.lead, List.append_assoc, s.opens_opening.skips hkind]
  simp only [List.append_assoc, List.cons_append, List.nil_append]
  exact (hquote _).trans (htext.trans (hclose rest))

end Sample

end Catalog.Demo
