import Catalog.Proofs.Text.Blank
import Catalog.Proofs.Text.Lines
import Catalog.Search

/-! Lists of search fields. A list is read exactly if each part between its commas is blank or names fields, and as the
union of what is named; so neither the order of the parts counts nor how often they come, and blank parts do not. -/
namespace Catalog.SearchFields

open Text

inductive Field where
  | name
  | description
  | parameters
  | examples
  deriving DecidableEq, Repr

def Field.word : Field → String
  | .name => "NAME"
  | .description => "DESCRIPTION"
  | .parameters => "PARAMETERS"
  | .examples => "EXAMPLES"

def words : List String :=
  ["NAME", "DESCRIPTION", "PARAMETERS", "EXAMPLES", "ALL"]

def has (F : SearchFields) : Field → Bool
  | .name => F.name
  | .description => F.description
  | .parameters => F.parameters
  | .examples => F.examples

variable {F G : SearchFields} {field : Field} {word part text : String} {parts more : List String}

theorem eq_of_has (h : ∀ field, F.has field = G.has field) : F = G := by
  obtain ⟨name, description, parameters, examples⟩ := F
  obtain ⟨name', description', parameters', examples'⟩ := G
  obtain rfl : name = name' := h .name
  obtain rfl : description = description' := h .description
  obtain rfl : parameters = parameters' := h .parameters
  obtain rfl : examples = examples' := h .examples
  rfl

@[simp]
theorem has_union : (F.union G).has field = (F.has field || G.has field) := by
  cases field <;> rfl

@[simp]
theorem has_all : all.has field = true := by
  cases field <;> rfl

@[simp]
theorem has_none : none.has field = false := by
  cases field <;> rfl

section Words

/-- Every word of a list stands for its own field, or for all. -/
theorem exists_ofWord?_eq (h : word ∈ words) :
    ∃ F, ofWord? word = some F ∧ ∀ field : Field, F.has field = true ↔ word = field.word ∨ word = "ALL" := by
  simp only [words, List.mem_cons, List.not_mem_nil, or_false] at h
  rcases h with rfl | rfl | rfl | rfl | rfl
  all_goals exact ⟨_, rfl, by rintro ⟨⟩ <;> decide⟩

theorem ofWord?_eq_none (h : word ∉ words) : ofWord? word = .none := by
  simp only [words, List.mem_cons, List.not_mem_nil, or_false, not_or] at h
  obtain ⟨hname, hdescription, hparameters, hexamples, hall⟩ := h
  rw [ofWord?, if_neg hname, if_neg hdescription, if_neg hparameters, if_neg hexamples, if_neg hall]

/-- The word of a part: without white space around it, in upper case. -/
def wordOf (part : String) : String :=
  upper (trim part)

theorem wordOf_eq_empty_iff : wordOf part = "" ↔ isBlankText part = true := by
  rw [wordOf, upper_eq_empty_iff]
  refine ⟨fun h => ?_, trim_of_isBlankText⟩
  rw [← isBlankText_trim, h]
  rfl

theorem wordOf_ne_empty (h : isBlankText part = false) : wordOf part ≠ "" := fun hempty => by
  rw [wordOf_eq_empty_iff.mp hempty] at h
  cases h

def Names (part : String) (field : Field) : Prop :=
  wordOf part = field.word ∨ wordOf part = "ALL"

theorem Names.not_blank (h : Names part field) : isBlankText part = false := by
  by_contra hblank
  rw [Bool.not_eq_false, ← wordOf_eq_empty_iff] at hblank
  rw [Names, hblank] at h
  revert h
  cases field <;> decide

def IsForeign (part : String) : Prop :=
  isBlankText part = false ∧ wordOf part ∉ words

instance : DecidablePred IsForeign :=
  fun part => inferInstanceAs (Decidable (isBlankText part = false ∧ wordOf part ∉ words))

theorem not_isForeign_iff : ¬ IsForeign part ↔ (isBlankText part = false → wordOf part ∈ words) := by
  rw [IsForeign, not_and, not_not]

def IsFilled (parts : List String) : Prop :=
  ∃ part ∈ parts, isBlankText part = false

theorem isFilled_cons : IsFilled (part :: parts) ↔ isBlankText part = false ∨ IsFilled parts :=
  List.exists_mem_cons_iff ..

end Words

section Parts

theorem ofParts_blank (h : isBlankText part = true) : ofParts (part :: parts) = ofParts parts := by
  rw [ofParts]
  exact if_pos (wordOf_eq_empty_iff.mpr h)

theorem ofParts_foreign (h : IsForeign part) : ofParts (part :: parts) = .error (.unknownField (trim part)) := by
  have hword : upper (trim part) ≠ "" := wordOf_ne_empty h.1
  have hnone : ofWord? (upper (trim part)) = .none := ofWord?_eq_none h.2
  simp only [ofParts, if_neg hword, hnone]

theorem ofParts_named (h : ofWord? (wordOf part) = some F) (hblank : isBlankText part = false) :
    ofParts (part :: parts) = (ofParts parts).map fun others => some (F.union (others.getD none)) := by
  have hword : upper (trim part) ≠ "" := wordOf_ne_empty hblank
  rw [wordOf] at h
  simp only [ofParts, if_neg hword, h]
  cases ofParts parts <;> rfl

/-- Parts of which none is foreign are read as the union of the fields that they name. -/
theorem exists_ofParts_eq (h : ∀ part ∈ parts, ¬ IsForeign part) :
    ∃ found, ofParts parts = .ok found ∧ (found = .none ↔ ¬ IsFilled parts) ∧
      ∀ field, (found.getD none).has field = true ↔ ∃ part ∈ parts, Names part field := by
  induction parts with
  | nil => exact ⟨.none, rfl, by simp [IsFilled], by simp⟩
  | cons part parts ih =>
    obtain ⟨hpart, hparts⟩ := List.forall_mem_cons.mp h
    obtain ⟨found, hfound, hnone, hhas⟩ := ih hparts
    cases hblank : isBlankText part with
    | true =>
      -- a blank part is passed over, and it names nothing
      have hnames (field : Field) : ¬ Names part field := fun hnames => by
        rw [hnames.not_blank] at hblank
        cases hblank
      refine ⟨found, (ofParts_blank hblank).trans hfound, ?_, fun field => ?_⟩
      · rw [hnone, isFilled_cons, hblank, or_iff_right Bool.noConfusion]
      · rw [hhas, List.exists_mem_cons_iff, or_iff_right (hnames field)]
    | false =>
      obtain ⟨F, hF, hown⟩ := exists_ofWord?_eq (not_isForeign_iff.mp hpart hblank)
      refine ⟨some (F.union (found.getD none)), ?_, ?_, fun field => ?_⟩
      · rw [ofParts_named hF hblank, hfound]
        rfl
      · exact iff_of_false (Option.some_ne_none _) fun hempty => hempty (isFilled_cons.mpr (.inl hblank))
      · rw [Option.getD_some, has_union, Bool.or_eq_true, hown, hhas, List.exists_mem_cons_iff]
        rfl

/-- Of the foreign parts the first one is told. -/
theorem ofParts_append_foreign {before after : List String} (hbefore : ∀ p ∈ before, ¬ IsForeign p)
    (hpart : IsForeign part) : ofParts (before ++ part :: after) = .error (.unknownField (trim part)) := by
  induction before with
  | nil => exact ofParts_foreign hpart
  | cons p before ih =>
    obtain ⟨hp, hrest⟩ := List.forall_mem_cons.mp hbefore
    rw [List.cons_append]
    cases hblank : isBlankText p with
    | true => rw [ofParts_blank hblank, ih hrest]
    | false =>
      obtain ⟨F, hF, -⟩ := exists_ofWord?_eq (not_isForeign_iff.mp hp hblank)
      rw [ofParts_named hF hblank, ih hrest]
      rfl

theorem exists_first_foreign (h : ∃ part ∈ parts, IsForeign part) :
    ∃ before part after, parts = before ++ part :: after ∧ (∀ p ∈ before, ¬ IsForeign p) ∧ IsForeign part := by
  cases hfound : parts.find? fun part => decide (IsForeign part) with
  | none =>
    obtain ⟨part, hpart, hforeign⟩ := h
    exact absurd hforeign (by simpa using List.find?_eq_none.mp hfound part hpart)
  | some part =>
    obtain ⟨hforeign, before, after, hparts, hbefore⟩ := List.find?_eq_some_iff_append.mp hfound
    exact ⟨before, part, after, hparts, fun p hp => by simpa using hbefore p hp, of_decide_eq_true hforeign⟩

end Parts

section Lists

/-- The fields are those that the parts of a list name, or all if every part is blank. -/
def Lists (parts : List String) (F : SearchFields) : Prop :=
  ∀ field, F.has field = true ↔ ¬ IsFilled parts ∨ ∃ part ∈ parts, Names part field

theorem Lists.unique (hF : Lists parts F) (hG : Lists parts G) : F = G :=
  eq_of_has fun field => Bool.eq_iff_iff.mpr ((hF field).trans (hG field).symm)

theorem Lists.append (hF : Lists parts F) (hG : Lists more G) (hparts : IsFilled parts) (hmore : IsFilled more) :
    Lists (parts ++ more) (F.union G) := by
  have hboth : IsFilled (parts ++ more) := by
    obtain ⟨part, hpart, hblank⟩ := hparts
    exact ⟨part, List.mem_append_left more hpart, hblank⟩
  intro field
  rw [has_union, Bool.or_eq_true, hF, hG, or_iff_right (not_not.mpr hparts), or_iff_right (not_not.mpr hmore),
    or_iff_right (not_not.mpr hboth)]
  simp only [List.mem_append, or_and_right, exists_or]

theorem exists_parse_eq (h : ∀ part ∈ splitOn text ',', ¬ IsForeign part) :
    ∃ F, parse (some text) = .ok F ∧ Lists (splitOn text ',') F := by
  obtain ⟨found, hfound, hnone, hhas⟩ := exists_ofParts_eq h
  refine ⟨found.getD all, by rw [parse, hfound]; rfl, fun field => ?_⟩
  rw [← hhas, ← hnone]
  cases found with
  | none => simp
  | some F => simp

theorem parse_eq_error {before after : List String} (hparts : splitOn text ',' = before ++ part :: after)
    (hbefore : ∀ p ∈ before, ¬ IsForeign p) (hpart : IsForeign part) :
    parse (some text) = .error (.unknownField (trim part)) := by
  rw [parse, hparts, ofParts_append_foreign hbefore hpart]
  rfl

theorem parse_eq_ok_iff :
    parse (some text) = .ok F ↔ (∀ part ∈ splitOn text ',', ¬ IsForeign part) ∧ Lists (splitOn text ',') F := by
  constructor
  · intro h
    have hnone : ∀ part ∈ splitOn text ',', ¬ IsForeign part := by
      intro part hpart hforeign
      obtain ⟨before, first, after, hparts, hbefore, hfirst⟩ := exists_first_foreign ⟨part, hpart, hforeign⟩
      rw [parse_eq_error hparts hbefore hfirst] at h
      cases h
    obtain ⟨G, hG, hlists⟩ := exists_parse_eq hnone
    obtain rfl := Except.ok.inj (hG.symm.trans h)
    exact ⟨hnone, hlists⟩
  · rintro ⟨hnone, hF⟩
    obtain ⟨G, hG, hlists⟩ := exists_parse_eq hnone
    rw [hG, hlists.unique hF]

theorem parse_eq_error_iff {failure : Failure} :
    parse (some text) = .error failure ↔
      ∃ before part after, splitOn text ',' = before ++ part :: after ∧ (∀ p ∈ before, ¬ IsForeign p) ∧
        IsForeign part ∧ failure = .unknownField (trim part) := by
  constructor
  · intro h
    have hforeign : ∃ part ∈ splitOn text ',', IsForeign part := by
      by_contra hnone
      obtain ⟨F, hF, -⟩ := exists_parse_eq fun part hpart hforeign => hnone ⟨part, hpart, hforeign⟩
      rw [hF] at h
      cases h
    obtain ⟨before, part, after, hparts, hbefore, hpart⟩ := exists_first_foreign hforeign
    rw [parse_eq_error hparts hbefore hpart] at h
    exact ⟨before, part, after, hparts, hbefore, hpart, (Except.error.inj h).symm⟩
  · rintro ⟨before, part, after, hparts, hbefore, hpart, rfl⟩
    exact parse_eq_error hparts hbefore hpart

end Lists

/-- A list with its parts in another order, some of them once more, and blank ones put in. -/
inductive Rearranged (parts : List String) : List String → Prop
  | same : Rearranged parts parts
  | permuted {l m : List String} (h : Rearranged parts l) (hperm : l.Perm m) : Rearranged parts m
  | repeated {l : List String} {part : String} (h : Rearranged parts l) (hpart : part ∈ l) :
    Rearranged parts (part :: l)
  | padded {l : List String} {part : String} (h : Rearranged parts l) (hblank : isBlankText part = true) :
    Rearranged parts (part :: l)

namespace Rearranged

variable {l : List String}

/-- The parts that are not blank stay the same. -/
theorem mem_iff (h : Rearranged parts l) (hblank : isBlankText part = false) : part ∈ l ↔ part ∈ parts := by
  induction h with
  | same => rfl
  | permuted _ hperm ih => rw [← hperm.mem_iff, ih]
  | repeated _ hpart ih =>
    rw [List.mem_cons, ih]
    exact or_iff_right_of_imp fun heq => ih.mp (heq ▸ hpart)
  | padded _ hpad ih =>
    rw [List.mem_cons, ih]
    exact or_iff_right fun heq => by
      rw [heq, hpad] at hblank
      cases hblank

theorem exists_iff {P : String → Prop} (h : Rearranged parts l) (hP : ∀ part, P part → isBlankText part = false) :
    (∃ part ∈ l, P part) ↔ ∃ part ∈ parts, P part :=
  exists_congr fun part => and_congr_left fun hpart => h.mem_iff (hP part hpart)

theorem lists_iff (h : Rearranged parts l) : Lists l F ↔ Lists parts F := by
  have hfilled : IsFilled l ↔ IsFilled parts := h.exists_iff fun _ hpart => hpart
  have hnames (field : Field) : (∃ part ∈ l, Names part field) ↔ ∃ part ∈ parts, Names part field :=
    h.exists_iff fun _ hpart => hpart.not_blank
  simp only [Lists, hfilled, hnames]

theorem forall_not_isForeign_iff (h : Rearranged parts l) :
    (∀ part ∈ l, ¬ IsForeign part) ↔ ∀ part ∈ parts, ¬ IsForeign part := by
  have hforeign : (∃ part ∈ l, IsForeign part) ↔ ∃ part ∈ parts, IsForeign part := h.exists_iff fun _ hpart => hpart.1
  simpa using not_congr hforeign

theorem ne_nil (h : Rearranged parts l) (hne : parts ≠ []) : l ≠ [] := by
  induction h with
  | same => exact hne
  | permuted _ hperm ih => exact fun hnil => ih (List.nil_perm.mp (hnil ▸ hperm.symm))
  | repeated => exact List.cons_ne_nil _ _
  | padded => exact List.cons_ne_nil _ _

theorem comma_notMem (h : Rearranged parts l) (hparts : ∀ part ∈ parts, ',' ∉ part.toList) :
    ∀ part ∈ l, ',' ∉ part.toList := by
  intro part hpart
  cases hblank : isBlankText part with
  | true => exact fun hmem => absurd (List.all_eq_true.mp hblank ',' hmem) (by decide)
  | false => exact hparts part ((h.mem_iff hblank).mp hpart)

/-- The parts of a text that are rearranged and joined again are those of the new text. -/
theorem splitOn_join (h : Rearranged (splitOn text ',') l) : splitOn (join "," l) ',' = l :=
  Text.splitOn_join rfl (h.comma_notMem fun _ => sep_notMem_of_mem_splitOn) (h.ne_nil (splitOn_ne_nil text ','))

end Rearranged

structure ParsesList (text : String) : Prop where
  accepted : (∃ F, parse (some text) = .ok F) ↔
    ∀ part ∈ splitOn text ',', isBlankText part = false → wordOf part ∈ words
  refused : ∀ failure, parse (some text) = .error failure ↔
    ∃ before part after, splitOn text ',' = before ++ part :: after ∧ (∀ p ∈ before, ¬ IsForeign p) ∧
      IsForeign part ∧ failure = .unknownField (trim part) ∧
      failure.message = "Unknown search field " ++ quoted (trim part) ++
        ". Use any of: name, description, parameters, examples, all"
  united : ∀ F, parse (some text) = .ok F → ∀ field, F.has field = true ↔
    ¬ IsFilled (splitOn text ',') ∨ ∃ part ∈ splitOn text ',', wordOf part = field.word ∨ wordOf part = "ALL"
  rearranged : ∀ parts, Rearranged (splitOn text ',') parts →
    ∀ F, parse (some (join "," parts)) = .ok F ↔ parse (some text) = .ok F
  joined : ∀ other F G, IsFilled (splitOn text ',') → IsFilled (splitOn other ',') →
    parse (some text) = .ok F → parse (some other) = .ok G → parse (some (text ++ "," ++ other)) = .ok (F.union G)

/-- A text is a list of search fields exactly if its parts are, and then it is the union of what they name, in
whatever order and however often they come. -/
theorem parsesList (text : String) : ParsesList text where
  accepted := by
    simp only [← not_isForeign_iff]
    refine ⟨fun ⟨F, hF⟩ => (parse_eq_ok_iff.mp hF).1, fun hnone => ?_⟩
    obtain ⟨F, hF, -⟩ := exists_parse_eq hnone
    exact ⟨F, hF⟩
  refused failure := by
    rw [parse_eq_error_iff]
    constructor
    · rintro ⟨before, part, after, hparts, hbefore, hpart, rfl⟩
      exact ⟨before, part, after, hparts, hbefore, hpart, rfl, rfl⟩
    · rintro ⟨before, part, after, hparts, hbefore, hpart, hfailure, -⟩
      exact ⟨before, part, after, hparts, hbefore, hpart, hfailure⟩
  united F hF := (parse_eq_ok_iff.mp hF).2
  rearranged parts h F := by
    rw [parse_eq_ok_iff, parse_eq_ok_iff, h.splitOn_join, h.forall_not_isForeign_iff, h.lists_iff]
  joined other F G htext hother hF hG := by
    obtain ⟨hnone, hlists⟩ := parse_eq_ok_iff.mp hF
    obtain ⟨hnone', hlists'⟩ := parse_eq_ok_iff.mp hG
    rw [parse_eq_ok_iff, splitOn_append rfl]
    exact ⟨List.forall_mem_append.mpr ⟨hnone, hnone'⟩, hlists.append hlists' htext hother⟩

example : parse (some "name, ,Parameters") = .ok { name := true, parameters := true } := by decide +kernel

end Catalog.SearchFields
