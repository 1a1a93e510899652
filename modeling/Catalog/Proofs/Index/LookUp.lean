import Catalog.Index.Build
import Catalog.Proofs.Store.History
import Catalog.Proofs.Text.Blank
import Catalog.Tool.Run

/-! Looking up by name: a component is found by its name and by its name without the letters of the library, in any
letter case and with blank characters around, by every question and every tool that takes the name of a component. -/
namespace Catalog

open Text

/-- The text is the target in any letter case, with any blank characters around it. -/
def Spells (target text : String) : Prop :=
  ∃ front name back, text = front ++ name ++ back ∧ isBlankText front = true ∧ isBlankText back = true ∧
    key name = key target

theorem spells_self (name : String) : Spells name name :=
  ⟨"", name, "", by simp, rfl, rfl, rfl⟩

namespace Spells

variable {target text : String}

theorem key_trim (h : Spells target text) : key (trim text) = key (trim target) := by
  obtain ⟨front, name, back, rfl, hfront, hback, hkey⟩ := h
  rw [trim_append hfront hback]
  exact (lower_trim name).trans ((congrArg trim hkey).trans (lower_trim target).symm)

theorem isBlankText_eq (h : Spells target text) : isBlankText text = isBlankText target := by
  rw [← isBlankText_trim text, ← isBlankText_trim target]
  exact isBlankText_congr h.key_trim

theorem not_blank (h : Spells target text) (ht : trim target = target) (hne : target ≠ "") :
    isBlankText text = false :=
  h.isBlankText_eq.trans (isBlankText_of_trim_eq ht hne)

/-- The letters of the library in front keep the target in some letter case, unless a sigma takes its final form on
account of them. -/
theorem key_prefixed (h : Spells target text) (ht : trim target = target) (htarget : 'Σ' ∉ target.toList)
    (htext : 'Σ' ∉ text.toList) : key (namePrefix ++ trim text) = key (namePrefix ++ target) := by
  have htrim : 'Σ' ∉ (trim text).toList := by
    rw [trim, String.toList_ofList]
    exact fun hmem => htext (mem_of_mem_trimChars hmem)
  have hkey := h.key_trim
  rw [ht] at hkey
  exact lower_append_congr (by decide) htrim htarget hkey

end Spells

namespace Index

section Letters

variable {α : Type} {get : String → Option α} {m n target text bare : String}

theorem hasPrefix_congr (h : key m = key n) : hasPrefix m = hasPrefix n := by
  have hlower : lower m = lower n := h
  rw [hasPrefix, hasPrefix, hlower]

theorem hasPrefix_append (bare : String) : hasPrefix (namePrefix ++ bare) = true := by
  have hlower : (lower (namePrefix ++ bare)).toList = 'b' :: 'i' :: 't' :: lowerFrom ['t', 'i', 'B'] bare.toList := by
    rw [lower, String.toList_ofList, String.toList_append, lowerFrom_append (by decide)]
    rfl
  rw [hasPrefix, beginsWith, hlower]
  rfl

/-- A blank text apart, what is found is what is kept under the key of the text, or else, if the text lacks the
letters of the library, what is kept under its key with these. -/
theorem lookUp_eq (hget : ∀ m n, key m = key n → get m = get n) (h : Spells target text) (ht : trim target = target)
    (hne : target ≠ "") :
    lookUp get text = (get target).or (if hasPrefix target then none else get (namePrefix ++ trim text)) := by
  have hkey := h.key_trim
  rw [ht] at hkey
  simp only [lookUp, h.not_blank ht hne, hget _ _ hkey, hasPrefix_congr hkey]
  cases get target <;> rfl

theorem lookUp_prefixed (hget : ∀ m n, key m = key n → get m = get n) (h : Spells target text)
    (ht : trim target = target) (hne : target ≠ "") (hp : hasPrefix target = true) :
    lookUp get text = get target := by
  rw [lookUp_eq hget h ht hne, if_pos hp, Option.or_none]

/-- A name without the letters of the library is looked up with them if it is not kept as it is. -/
theorem lookUp_bare (hget : ∀ m n, key m = key n → get m = get n) (h : Spells bare text) (ht : trim bare = bare)
    (hne : bare ≠ "") (hp : hasPrefix bare = false)
    (hkey : key (namePrefix ++ trim text) = key (namePrefix ++ bare)) :
    lookUp get text = (get bare).or (get (namePrefix ++ bare)) := by
  rw [lookUp_eq hget h ht hne, hp, hget _ _ hkey]
  rfl

theorem trim_prefixed (ht : trim bare = bare) (hne : bare ≠ "") :
    trim (namePrefix ++ bare) = namePrefix ++ bare := by
  obtain ⟨-, hlast⟩ := trim_eq_self_iff.mp ht
  have hbare : bare.toList ≠ [] := mt String.toList_eq_nil_iff.mp hne
  rw [trim_eq_self_iff, String.toList_append]
  refine ⟨rfl, ?_⟩
  rw [List.getLast?_append_of_ne_nil _ hbare]
  exact hlast

end Letters

end Index

/-- The call with the name of a component in the place of the one that it gives. -/
def Call.about (name : String) : Call → Call
  | .componentDetail _ withApi withExamples => .componentDetail name withApi withExamples
  | .componentParameters _ filter => .componentParameters name filter
  | .componentExamples _ limit filter => .componentExamples name limit filter
  | .exampleByName _ wanted => .exampleByName name wanted
  | .relatedComponents _ relationship => .relatedComponents name relationship
  | call => call

namespace Tool

variable {ix : Index} {m n : String} {c : Component}

theorem requireText_of_requireComponent (h : requireComponent ix m = .ok c) (argument : String) :
    requireText m argument = .ok (trim m) := by
  cases hblank : isBlankText m with
  | true =>
    rw [requireComponent, requireText, AnyText.isBlank_whole, hblank] at h
    cases h
  | false => exact requireText_whole hblank argument

/-- Tools see of the name of a component only the component that it means. -/
theorem run_about_congr (hm : requireComponent ix m = .ok c) (hn : requireComponent ix n = .ok c) (call : Call) :
    run ix (call.about m) = run ix (call.about n) := by
  cases call with
  | componentDetail _ withApi withExamples => simp only [Call.about, run, componentDetail, hm, hn]
  | componentParameters _ filter => simp only [Call.about, run, componentParameters, hm, hn]
  | componentExamples _ limit filter =>
    simp only [Call.about, run, componentExamples, requireText_of_requireComponent hm,
      requireText_of_requireComponent hn, hm, hn]
    rfl
  | exampleByName _ wanted => simp only [Call.about, run, exampleByName, hm, hn]
  | relatedComponents _ relationship => simp only [Call.about, run, relatedComponents, hm, hn]
  | _ => rfl

end Tool

namespace Index

variable {ix : Index} {target text bare : String} {c : Component} {r : Option ApiReference}

/-- What the text is taken for: the component by every question and every tool about components, the reference by
those about types. -/
structure Finds (ix : Index) (text : String) (c : Component) (r : Option ApiReference) : Prop where
  component : ix.component? text = .ok (some c)
  examples : ix.examples text = .ok c.examples
  reference : ix.apiReference? text = .ok r
  required : Tool.requireComponent ix text = .ok c
  tools : ∀ call : Call, Tool.run ix (call.about text) = Tool.run ix (call.about c.name)
  page : Tool.run ix (.apiReference text) =
    r.elim (.error (.tool (.unknownType (trim text)))) fun r => .ok (Tool.apiPage r)

theorem requireIndexed_of_isIndexed (h : ix.isIndexed = true) : ix.requireIndexed = .ok () := by
  rw [requireIndexed, if_pos h]

theorem component?_eq (h : ix.isIndexed = true) (name : String) : ix.component? name = .ok (ix.resolve name) := by
  rw [component?, requireIndexed_of_isIndexed h]
  rfl

theorem apiReference?_eq (h : ix.isIndexed = true) (name : String) :
    ix.apiReference? name = .ok (lookUp ix.store.reference? name) := by
  rw [apiReference?, requireIndexed_of_isIndexed h]
  rfl

/-- A tool trims a name before it is looked up, which trims it once more. -/
theorem lookUp_trim {α : Type} (get : String → Option α) (name : String) : lookUp get (trim name) = lookUp get name := by
  simp only [lookUp, isBlankText_trim, trim_trim]

/-- A tool takes a name for the component that it is looked up as. -/
theorem requireComponent_of_lookUp (hix : ix.isIndexed = true) {name : String}
    (hc : lookUp ix.store.get? name = some c) : Tool.requireComponent ix name = .ok c := by
  have hblank : isBlankText name = false := by
    by_contra h
    rw [lookUp, if_pos (by simpa using h)] at hc
    cases hc
  simp only [Tool.requireComponent, Tool.requireText_whole hblank, ask_whole, component?_eq hix, resolve, bind,
    Except.bind, lookUp_trim, hc]

/-- The look-up decides what a text is taken for. -/
theorem finds_of_lookUp (hix : ix.isIndexed = true) (h : Spells target text) (ht : trim target = target)
    (hne : target ≠ "") (hc : lookUp ix.store.get? text = some c) (hr : lookUp ix.store.reference? text = r)
    (hself : Tool.requireComponent ix c.name = .ok c) : Finds ix text c r := by
  have hrequired := requireComponent_of_lookUp hix hc
  refine
    { component := ?_
      examples := ?_
      reference := ?_
      required := hrequired
      tools := Tool.run_about_congr hrequired hself
      page := ?_ }
  · rw [component?_eq hix, resolve, hc]
  · simp only [examples, requireIndexed_of_isIndexed hix, resolve, hc]
    rfl
  · rw [apiReference?_eq hix, hr]
  · simp only [Tool.run, Tool.apiReference, Tool.requireText_whole (h.not_blank ht hne), ask_whole,
      apiReference?_eq hix, bind, Except.bind, lookUp_trim, hr]
    cases r <;> rfl

theorem get?_congr (s : Store) (m n : String) (h : key m = key n) : s.get? m = s.get? n := by
  rw [Store.get?, Store.get?, h]

theorem reference?_congr (s : Store) (m n : String) (h : key m = key n) : s.reference? m = s.reference? n := by
  rw [Store.reference?, Store.reference?, h]

/-- A stored component is looked up by its own name before any other one. -/
theorem lookUp_own (hd : ix.store.Distinct) (hc : c ∈ ix.store.components) (ht : trim c.name = c.name)
    (hne : c.name ≠ "") (h : Spells c.name text) : lookUp ix.store.get? text = some c := by
  rw [lookUp_eq (get?_congr _) h ht hne, (hd.get?_eq_some_iff _ _).mpr ⟨hc, rfl⟩]
  rfl

theorem lookUp_name (hd : ix.store.Distinct) (hc : c ∈ ix.store.components) (ht : trim c.name = c.name)
    (hne : c.name ≠ "") : lookUp ix.store.get? c.name = some c :=
  lookUp_own hd hc ht hne (spells_self _)

theorem requireComponent_name (hix : ix.isIndexed = true) (hd : ix.store.Distinct) (hc : c ∈ ix.store.components)
    (ht : trim c.name = c.name) (hne : c.name ≠ "") : Tool.requireComponent ix c.name = .ok c :=
  requireComponent_of_lookUp hix (lookUp_name hd hc ht hne)

/-- Whatever is asked about a component and its reference can be asked by its name and, unless that has the letters of
the library twice, by its name without these; in the latter case a component or a reference that is kept under the text
itself goes first. Only a capital sigma can make texts differ that are equal ignoring case without these letters. -/
theorem finds_with_and_without_prefix (hix : ix.isIndexed = true) (hd : ix.store.Distinct)
    (hc : c ∈ ix.store.components) (hname : c.name = namePrefix ++ bare) (hne : bare ≠ "") (ht : trim bare = bare) :
    (∀ text, Spells c.name text → Finds ix text c (ix.store.reference? c.name)) ∧
      (hasPrefix bare = false → ∀ text, Spells bare text →
        key (namePrefix ++ trim text) = key c.name ∨ 'Σ' ∉ bare.toList ∧ 'Σ' ∉ text.toList →
        Finds ix text ((ix.store.get? bare).getD c)
          ((ix.store.reference? bare).or (ix.store.reference? c.name))) := by
  have htname : trim c.name = c.name := by rw [hname]; exact trim_prefixed ht hne
  have hprefixed : hasPrefix c.name = true := by rw [hname]; exact hasPrefix_append bare
  have hnename : c.name ≠ "" := by
    intro e
    rw [e] at hprefixed
    cases hprefixed
  have hself : ix.store.get? c.name = some c := (hd.get?_eq_some_iff _ _).mpr ⟨hc, rfl⟩
  constructor
  · intro text htext
    refine finds_of_lookUp hix htext htname hnename ?_ ?_ (requireComponent_name hix hd hc htname hnename)
    · rw [lookUp_prefixed (get?_congr _) htext htname hnename hprefixed, hself]
    · rw [lookUp_prefixed (reference?_congr _) htext htname hnename hprefixed]
  · intro hp text htext hcase
    have hkey : key (namePrefix ++ trim text) = key (namePrefix ++ bare) := by
      rcases hcase with hkey | ⟨hbare, hsigma⟩
      · rw [hkey, hname]
      · exact htext.key_prefixed ht hbare hsigma
    have hget := lookUp_bare (get?_congr ix.store) htext ht hne hp hkey
    have hreference := lookUp_bare (reference?_congr ix.store) htext ht hne hp hkey
    rw [← hname, hself] at hget
    rw [← hname] at hreference
    cases hother : ix.store.get? bare with
    | none =>
      rw [hother] at hget
      exact finds_of_lookUp hix htext ht hne hget hreference (requireComponent_name hix hd hc htname hnename)
    | some d =>
      -- another component is kept under the very key of the text
      obtain ⟨hmem, hdkey⟩ := (hd.get?_eq_some_iff _ _).mp hother
      have hdne : d.name ≠ "" := fun e => hne (lower_eq_lower_empty_iff.mp (e ▸ hdkey.symm))
      rw [hother] at hget
      exact finds_of_lookUp hix htext ht hne hget hreference
        (requireComponent_name hix hd hmem (trim_eq_self_of_lower_eq ht hdkey) hdne)

def namedFolders (names : List String) : Sources where
  folders := names.map fun name => ⟨"", [name]⟩
  mainFile? folder := some folder
  pages := []
  readComponent file _ := .ok (some { className := file.name, filePath := file.text })
  readPage _ _ := .ok none
  findExamples _ _ := .ok []

def lettered : Index :=
  (build {} Watch.unattended () (fun u => (u, .ok true)) (namedFolders ["BitCard", "BitBitButton", "BitΣ"]) ⟨"", []⟩
    "now").1

theorem finds_card :
    ∃ c ∈ lettered.store.components, c.name = namePrefix ++ "Card" ∧
      Finds lettered " bitCARD" c (lettered.store.reference? c.name) ∧
      Finds lettered "cARD\t" c (lettered.store.reference? c.name) := by
  obtain ⟨hindexed, hkeys, hreferenceKeys, hstored, hother, hreference⟩ :
      lettered.isIndexed = true ∧ lettered.store.keys.Nodup ∧ lettered.store.referenceKeys.Nodup ∧
        (∃ c ∈ lettered.store.components, c.name = namePrefix ++ "Card") ∧ lettered.store.get? "Card" = none ∧
        lettered.store.reference? "Card" = none := by decide +kernel
  have hlong : Spells (namePrefix ++ "Card") " bitCARD" :=
    ⟨" ", "bitCARD", "", by decide +kernel, by decide +kernel, by decide +kernel, by decide +kernel⟩
  have hshort : Spells "Card" "cARD\t" :=
    ⟨"", "cARD", "\t", by decide +kernel, by decide +kernel, by decide +kernel, by decide +kernel⟩
  have hprefix : hasPrefix "Card" = false := by decide +kernel
  have hkey : key (namePrefix ++ trim "cARD\t") = key (namePrefix ++ "Card") := by decide +kernel
  generalize lettered = ix at *
  obtain ⟨c, hc, hname⟩ := hstored
  obtain ⟨hfull, hbare⟩ := finds_with_and_without_prefix hindexed ⟨hkeys, hreferenceKeys⟩ hc hname
    (by decide +kernel) (by decide +kernel)
  have hfound := hbare hprefix _ hshort (.inl (hname ▸ hkey))
  rw [hother, hreference] at hfound
  exact ⟨c, hc, hname, hfull _ (hname ▸ hlong), hfound⟩

/-- A name that has the letters of the library twice is not found without the first ones, and a sigma that ends a name
is not found by itself. -/
theorem not_found_without_prefix :
    (∃ c ∈ lettered.store.components, c.name = namePrefix ++ "BitButton") ∧
      lettered.component? "BitButton" = .ok none ∧
      (∃ c ∈ lettered.store.components, c.name = namePrefix ++ "Σ") ∧ key "σ" = key "Σ" ∧
      lettered.component? "σ" = .ok none := by
  decide +kernel

end Index
end Catalog
