import Catalog.Proofs.Demo.Numbering
import Catalog.Proofs.Index.LookUp

/-! Examples asked for by their names: whatever the samples files were, the name of an example, in any letter case and
with blank characters around it, gives that example, and no other one whose name begins like it. -/
namespace Catalog

open Text

namespace Tool

def examplePage (c : Component) (e : Example) : String :=
  page (["# " ++ c.name ++ ": " ++ e.name, "*Source:* " ++ e.sourceFile, ""] ++ exampleBody e)

variable {examples : List Example} {e : Example} {ix : Index} {c : Component}

/-- Of numbered examples the one is found whose name is asked for. Where names begin with a blank character no name is
the text asked for, and the example is the first one that has the text in its name: the others that do have greater
numbers. -/
theorem findExample_own (h : Demo.Numbered examples) (he : e ∈ examples) :
    findExample examples (lower (trim e.name)) = some e := by
  obtain ⟨front, number, hsorted, hnames⟩ := h.exists_number
  have hwanted : (lower (trim e.name)).toList = trimChars (front ++ Nat.toDigits 10 (number e)) := by
    rw [lower_trim, trim, String.toList_ofList, hnames e he]
  have hle {d : Example} (hd : d ∈ examples) (hin : (lower (trim e.name)).toList <:+: (lower d.name).toList) :
      number e ≤ number d := by
    rw [hwanted, hnames d hd] at hin
    exact Demo.le_of_trimChars_isInfix hin
  have hown : (lower (trim e.name)).toList <:+: (lower e.name).toList := by
    rw [lower_trim, trim, String.toList_ofList]
    exact isInfix_trimChars _
  unfold findExample
  cases hexact : examples.find? (fun d => lower d.name = lower (trim e.name)) with
  | some d =>
    have hd : d ∈ examples := List.mem_of_find?_eq_some hexact
    have hsame : lower d.name = lower (trim e.name) := by simpa using List.find?_some hexact
    -- either name stands in the other one, so that their numbers are the same
    have hge : number d ≤ number e := by
      rw [← hsame, hnames d hd, hnames e he] at hown
      exact Demo.le_of_isInfix hown
    have hin : (lower (trim e.name)).toList <:+: (lower d.name).toList := by
      rw [hsame]
    have hnumber : number d = number e := Nat.le_antisymm hge (hle hd hin)
    have hlower : lower d.name = lower e.name := by
      rw [← String.toList_inj, hnames d hd, hnames e he, hnumber]
    exact congrArg some (List.inj_on_of_nodup_map h.nodup hd he hlower)
  | none =>
    refine find?_eq_some_of_pairwise hsorted he (contains_iff.mpr hown) fun d hd hin hlt => ?_
    exact absurd (hle hd (contains_iff.mp hin)) (Nat.not_le_of_lt hlt)

theorem exampleByName_eq (hnumbered : Demo.Numbered c.examples) (he : e ∈ c.examples) {name wanted : String}
    (hc : requireComponent ix name = .ok c) (hwanted : Spells e.name wanted) :
    run ix (.exampleByName name wanted) = .ok (examplePage c e) := by
  have hblank : isBlankText wanted = false := hwanted.isBlankText_eq.trans (hnumbered.isBlankText_name he)
  have hfound : findExample c.examples (lower (trim wanted)) = some e := by
    rw [show lower (trim wanted) = lower (trim e.name) from hwanted.key_trim]
    exact findExample_own hnumbered he
  simp only [run, exampleByName, requireText_whole hblank, hc, bind, Except.bind, AnyText.whole?, Option.bind_some,
    hfound]
  rfl

/-- Of a stored component whose examples are those of a samples file, no two examples have names that are equal ignoring
case, their numbers go up, and each is told under its name. -/
theorem exampleByName_own (hix : ix.isIndexed = true) (hd : ix.store.Distinct) (hc : c ∈ ix.store.components)
    (hne : c.name ≠ "") (ht : trim c.name = c.name) (hsampled : Demo.Sampled c.examples) :
    Demo.Numbered c.examples ∧ (c.examples.map fun e => lower e.name).Nodup ∧
      ∀ e ∈ c.examples, ∀ name wanted, Spells c.name name → Spells e.name wanted →
        run ix (.exampleByName name wanted) = .ok (examplePage c e) := by
  have hnumbered := hsampled.numbered
  refine ⟨hnumbered, hnumbered.nodup, fun e he name wanted hname hwanted => ?_⟩
  have hrequired : requireComponent ix name = .ok c :=
    Index.requireComponent_of_lookUp hix (Index.lookUp_own hd hc ht hne hname)
  exact exampleByName_eq hnumbered he hrequired hwanted

/-- A samples file in which the tenth example comes before the first one, whose number has zeros in front. -/
def tenthFirst : List Char :=
  ("private readonly string example10CsharpCode = @\"int i;\";\n" ++
    "private readonly string example001RazorCode = @\"<BitButton />\";\n").toList

def itemExamples : List Example :=
  [Demo.exampleOf "Item " "_BitButtonItemDemo.razor.samples.cs" 1 (some "<BitButton />") none,
    Demo.exampleOf "Item " "_BitButtonItemDemo.razor.samples.cs" 10 none (some "int i;")]

theorem sampled_itemExamples : Demo.Sampled itemExamples := by
  have hmarkup : Demo.constants .markup tenthFirst = .ok [(1, "<BitButton />")] := by decide +kernel
  have hcode : Demo.constants .code tenthFirst = .ok [(10, "int i;")] := by decide +kernel
  have hlead : Demo.namePrefix ⟨"", ["_BitButtonItemDemo.razor.samples.cs"]⟩ "BitButton" = "Item " := by decide +kernel
  have hnumbers : Demo.numbersOf ([(1, "<BitButton />")] ++ [(10, "int i;")]) = [1, 10] := by
    rw [Demo.numbersOf, List.mergeSort_of_pairwise (by decide)]
    rfl
  refine ⟨⟨"", ["_BitButtonItemDemo.razor.samples.cs"]⟩, "BitButton", tenthFirst, false, ?_⟩
  simp only [Demo.parseSamples, hmarkup, hcode, hlead, hnumbers, bind, Except.bind]
  rfl

def sampledFolder : Sources :=
  { Index.namedFolders ["BitButton"] with findExamples := fun _ _ => .ok itemExamples }

theorem parsesSamples_sampledFolder : sampledFolder.ParsesSamples := by
  rintro name examples ⟨cancelled, hfound⟩
  cases hfound
  exact sampled_itemExamples

theorem exampleByName_own_sampledFolder : ∃ ix : Index, ix.FilledFrom Sources.ParsesSamples {} ∧
    ∃ c ∈ ix.store.components, c.examples.map Example.name = ["Item Example 1", "Item Example 10"] ∧
      ∃ e ∈ c.examples, e.name = "Item Example 1" ∧
        run ix (.exampleByName " bitBUTTON" "\titem EXAMPLE 1 ") = .ok (examplePage c e) := by
  obtain ⟨ix, hfilled, hindexed, c, hc, hname, hexamples⟩ : ∃ ix : Index, ix.FilledFrom Sources.ParsesSamples {} ∧
      ix.isIndexed = true ∧ ∃ c ∈ ix.store.components, c.name = "BitButton" ∧
        c.examples.map Example.name = ["Item Example 1", "Item Example 10"] :=
    ⟨_, Index.FilledFrom.fresh.build parsesSamples_sampledFolder Watch.unattended () (fun u => (u, .ok true)) ⟨"", []⟩
      "now", by decide +kernel⟩
  have hfirst : "Item Example 1" ∈ c.examples.map Example.name := hexamples ▸ List.mem_cons_self
  obtain ⟨e, he, hfirst⟩ := List.mem_map.mp hfirst
  have hcomponent : Spells c.name " bitBUTTON" :=
    ⟨" ", "bitBUTTON", "", by decide +kernel, by decide +kernel, by decide +kernel, by rw [hname]; decide +kernel⟩
  have hwanted : Spells e.name "\titem EXAMPLE 1 " :=
    ⟨"\t", "item EXAMPLE 1", " ", by decide +kernel, by decide +kernel, by decide +kernel,
      by rw [hfirst]; decide +kernel⟩
  obtain ⟨-, -, htold⟩ := exampleByName_own hindexed hfilled.grown.coherent.distinct hc (by rw [hname]; decide)
    (by rw [hname]; decide +kernel) (hfilled.sampled c hc)
  exact ⟨ix, hfilled, c, hc, hexamples, e, he, hfirst, htold e he _ _ hcomponent hwanted⟩

end Tool
end Catalog
