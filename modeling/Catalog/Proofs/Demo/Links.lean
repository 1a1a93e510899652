import Catalog.Demo.Page
import Catalog.Proofs.Failure
import Catalog.Proofs.Index.LookUp
import Catalog.Proofs.Index.Provenance
import Catalog.Proofs.Text.Case

/-! The names that a documentation page relates its component to: each once, in any case, and never its own; first those
it links to, and after them those it only uses as tags. Builds keep stored components free of links to themselves. -/
namespace Catalog

open Text

namespace Demo

variable {content : List Char} {own : Option String} {filePath : String} {page : PageFacts}

def linkedNames (content : List Char) : List String :=
  (findAll readLink content).filterMap fun target => componentNameOf (Path.ofText target)

def taggedNames (content : List Char) : List String :=
  findAll readTagName content

/-- Names related to one that is told by links and tags: all of these but its own, none of them twice. -/
structure CleanLinks (links tags : List String) (own : Option String) (related : List String) : Prop where
  distinct : (related.map lower).Nodup
  told : ∀ k, k ∈ related.map lower ↔ k ∈ (links ++ tags).map lower ∧ own.map lower ≠ some k
  /-- The names of links stand before those that occur as tags only. -/
  grouped : ∃ linked tagged, related = linked ++ tagged ∧ Firsts links linked ∧ Firsts tags tagged ∧
    ∀ name ∈ tagged, lower name ∉ links.map lower

theorem cleanLinks_relatedOf (content : List Char) (own : Option String) :
    CleanLinks (linkedNames content) (taggedNames content) own (relatedOf content own) := by
  have hown (k : String) : k ∉ own.toList.map lower ↔ own.map lower ≠ some k := by
    cases own <;> simp [eq_comm]
  refine ⟨nodup_map_lower_distinct _ _, fun k => mem_map_lower_distinct.trans (and_congr_right' (hown k)), ?_⟩
  refine ⟨_, _, distinctIgnoringCase_append _ _ _, firsts_distinct _ _, firsts_distinct _ _, fun name hname => ?_⟩
  -- what is kept of the tags is none of the names of links
  have hnew := (mem_map_lower_distinct.mp (List.mem_map_of_mem hname)).2
  exact fun hlinked => hnew (List.mem_append_left _ hlinked)

theorem parsePage_blank (hblank : isBlankText filePath = true) (content : List Char) :
    parsePage content filePath = .error (.blankName "file_path") := by
  simp [parsePage, requireName, hblank, bind, Except.bind]

/-- A page at a path that is not blank is parsed, and told to be about the component that its path names. -/
theorem exists_parsePage (hpath : isBlankText filePath = false) (content : List Char) :
    ∃ page, parsePage content filePath = .ok page ∧ page.componentName = componentNameOf (Path.ofText filePath) ∧
      page.related = relatedOf content page.componentName := by
  simp [parsePage, requireName, hpath, bind, Except.bind]

theorem related_of_parsePage (h : parsePage content filePath = .ok page) :
    page.related = relatedOf content page.componentName := by
  cases hpath : isBlankText filePath with
  | true => cases (parsePage_blank hpath content).symm.trans h
  | false =>
    obtain ⟨page', hpage, -, hrelated⟩ := exists_parsePage hpath content
    cases hpage.symm.trans h
    exact hrelated

end Demo

def Component.LinksApart (c : Component) : Prop :=
  (c.related.map Catalog.key).Nodup ∧ c.key ∉ c.related.map Catalog.key

namespace Sources

variable {sources : Sources}

def ParsesPages (sources : Sources) : Prop :=
  ∀ page, sources.GivesPage page → ∃ content filePath, Demo.parsePage content filePath = .ok page

theorem Gives.linksApart {repository : Path} {taxonomy : Taxonomy} {c : Component} {r : ApiReference}
    (h : sources.Gives repository taxonomy c r) : c.LinksApart := by
  obtain ⟨facts, category, path, -, rfl, -⟩ := h.exists_facts
  exact ⟨List.nodup_nil, List.not_mem_nil⟩

/-- A parsed page never relates a component to itself, and the other entries of a component relate it to none. -/
theorem ParsesPages.maintains (h : sources.ParsesPages) (repository : Path) (taxonomy : Taxonomy) :
    sources.Maintains repository taxonomy Component.LinksApart where
  named _ _ hkey hnew := ⟨hnew.1, fun hmem => hnew.2 (hkey ▸ hmem)⟩
  given _ _ hgives := hgives.linksApart
  documented c page hgives hkey _ := by
    obtain ⟨content, filePath, hpage⟩ := h page hgives
    have hclean := Demo.cleanLinks_relatedOf content page.componentName
    rw [← Demo.related_of_parsePage hpage] at hclean
    exact ⟨hclean.distinct, fun hmem => ((hclean.told c.key).mp hmem).2 hkey⟩
  illustrated _ _ _ hc := hc

end Sources

/-- However the builds ended, no component lists itself or another one twice. -/
theorem Index.FilledFrom.linksApart {mapper : Taxonomy} {ix : Index} (h : ix.FilledFrom Sources.ParsesPages mapper) :
    ix.store.Each Component.LinksApart :=
  h.each fun _ repository taxonomy hparses => hparses.maintains repository taxonomy

/-- The pages of a checkout are parsed. -/
theorem Checkout.sources_parsesPages (w : Workspace) (repository : Path) :
    (Checkout.sources w repository).ParsesPages := by
  rintro page ⟨file, cancelled, hread⟩
  obtain ⟨_, -, hread⟩ := except_bind_eq_ok.mp hread
  split_ifs at hread
  · obtain ⟨content, -, hread⟩ := except_bind_eq_ok.mp hread
    obtain ⟨page', hpage, hread⟩ := except_bind_eq_ok.mp hread
    cases hread
    exact ⟨content, file.text, hpage⟩
  · cases hread

namespace Index

/-- What a parsed page relates its component to is clean, and no component of an index ever lists itself or another one
twice, whatever became of the builds that filled the index. -/
theorem related_clean :
    (∀ (content : List Char) (filePath : String),
      if isBlankText filePath then Demo.parsePage content filePath = .error (.blankName "file_path")
      else ∃ page, Demo.parsePage content filePath = .ok page ∧
        page.componentName = Demo.componentNameOf (Path.ofText filePath) ∧
        Demo.CleanLinks (Demo.linkedNames content) (Demo.taggedNames content) page.componentName page.related) ∧
    ∀ (mapper : Taxonomy) (ix : Index), ix.FilledFrom Sources.ParsesPages mapper →
      ∀ c ∈ ix.store.components, c.LinksApart := by
  refine ⟨fun content filePath => ?_, fun mapper ix h => ?_⟩
  · split_ifs with hpath
    · exact Demo.parsePage_blank hpath content
    · obtain ⟨page, hpage, hname, hrelated⟩ := Demo.exists_parsePage (Bool.not_eq_true _ ▸ hpath) content
      exact ⟨page, hpage, hname, hrelated ▸ Demo.cleanLinks_relatedOf content page.componentName⟩
  · exact h.linksApart

/-- A page that links to one component and to its own, and uses these and two others as tags. -/
def linkingPage : List Char :=
  ("<a href=\"/components/BitCardDemo\"/><a href=\"/components/BitButtonDemo\"/>" ++
    "<BitCARD/><BitIcon/><BitButton/><BitIcon/>").toList

/-- Two folders, and that page for the first of them, whose name it spells in another way. -/
def linkedFolders : Sources :=
  { namedFolders ["bitbutton", "BitCard"] with
    pages := [⟨"", ["BitButtonDemo.razor"]⟩]
    readPage := fun file _ => (Demo.parsePage linkingPage file.text).map some }

theorem parsesPages_linkedFolders : linkedFolders.ParsesPages := by
  rintro page ⟨file, cancelled, hread⟩
  obtain ⟨page', hpage, hsome⟩ := except_bind_eq_ok.mp hread
  cases hsome
  exact ⟨linkingPage, file.text, hpage⟩

theorem related_clean_linkedFolders : ∃ ix : Index, ix.FilledFrom Sources.ParsesPages {} ∧ ix.isIndexed = true ∧
    ∃ c ∈ ix.store.components, c.name = "bitbutton" ∧ c.related = ["BitCard", "BitIcon"] ∧ c.LinksApart := by
  obtain ⟨ix, hfilled, hindexed, c, hc, hname, hrelated⟩ : ∃ ix : Index, ix.FilledFrom Sources.ParsesPages {} ∧
      ix.isIndexed = true ∧
      ∃ c ∈ ix.store.components, c.name = "bitbutton" ∧ c.related = ["BitCard", "BitIcon"] :=
    ⟨_, FilledFrom.fresh.build parsesPages_linkedFolders Watch.unattended () (fun u => (u, .ok true)) ⟨"", []⟩ "now", by
      decide +kernel⟩
  exact ⟨ix, hfilled, hindexed, c, hc, hname, hrelated, related_clean.2 {} ix hfilled c hc⟩

end Index

end Catalog
