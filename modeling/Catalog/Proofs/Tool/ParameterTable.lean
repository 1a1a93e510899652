import Catalog.Proofs.Index.LookUp
import Catalog.Proofs.Text.Lines
import Mathlib.Data.List.DropRight

/-! The table of parameters on a detail page: whatever the texts of the parameters hold, it has one row for each of
them, each row has four cells, and the cells give the texts back. -/
namespace Catalog

open Text

namespace Tool

variable {text : List Char} {escaped : Bool}

section Reading

/-- The pieces between the bars that no backslash stands right before; `escaped` tells that one stands before the
first character. -/
def cellsFrom (escaped : Bool) : List Char → List (List Char)
  | [] => [[]]
  | c :: cs =>
    if c = '|' && !escaped then [] :: cellsFrom false cs
    else
      match cellsFrom (c = '\\') cs with
      | [] => [[c]]
      | piece :: pieces => (c :: piece) :: pieces

/-- The cells of a row, with what is left and right of its outer bars. -/
def cells (row : String) : List String :=
  (cellsFrom false row.toList).map String.ofList

def unescaped (text : String) : String :=
  replace text "\\|" "|"

/-- The text with its line feeds turned into spaces, empty if there is none. -/
def oneLine (text : Option String) : String :=
  String.ofList ((textOr text).toList.map fun c => if c = '\n' then ' ' else c)

/-- A row with four cells, one with the name of the parameter and three that give back its other texts. -/
def Tells (p : Parameter) (row : String) : Prop :=
  ∃ type default description : String,
    cells row = ["", " " ++ (p.name ++ parameterFlags p) ++ " ", " `" ++ type ++ "` ", " " ++ default ++ " ",
      " " ++ description ++ " ", ""] ∧
    unescaped type = oneLine (some p.type) ∧ unescaped default = oneLine p.defaultValue ∧
    unescaped description = oneLine p.description

def tableHead : List String :=
  ["## Parameters", "", "| Name | Type | Default | Description |", "|---|---|---|---|"]

def overview (c : Component) : List String :=
  ["# " ++ c.name, "", c.summary, "", "**Namespace:** " ++ c.nameSpace] ++
    whenText c.category (fun text => ["**Category:** " ++ text]) ++
    whenText c.baseType (fun text => ["**Base type:** " ++ text]) ++
    whenText c.documentationUrl (fun text => ["**Documentation:** " ++ text]) ++
    whenText c.sourceUrl (fun text => ["**Source:** " ++ text]) ++ [""] ++
    whenText c.description (fun text => ["## Description", text, ""])

def remainder (c : Component) (members : List Member) (withExamples : Bool) : List String :=
  part ["## Events"] c.events (fun e => [eventLine e]) [""] ++
    part ["## Methods"] c.methods (fun m => [methodLine m]) [""] ++
    part ["## API Reference", "", "| Member | Kind | Type |", "|---|---|---|"] members (fun m => [memberRow m]) [""] ++
    (if withExamples then part ["## Examples", ""] c.examples (fun e => exampleLines e "###") [] else []) ++
    part ["## Related Components"] c.related (fun name => ["- " ++ name]) [""]

/-- A page that has, below the overview of the component, a table with one row for each parameter, in order; the table
ends with an empty line. -/
def Tabulates (c : Component) (answer : String) : Prop :=
  ∃ rows rest : List String,
    splitOn answer '\n' = splitOn (joinLines (overview c)) '\n' ++ tableHead ++ rows ++ "" :: rest ∧
      List.Forall₂ Tells c.parameters rows

end Reading

section Bars

def hidesBars (escaped : Bool) : List Char → Bool
  | [] => true
  | c :: cs => (c ≠ '|' || escaped) && hidesBars (c = '\\') cs

theorem hidesBars_of_notMem (h : '|' ∉ text) (escaped : Bool) : hidesBars escaped text = true := by
  induction text generalizing escaped with
  | nil => rfl
  | cons c text ih =>
    have hc : c ≠ '|' := (List.ne_of_not_mem_cons h).symm
    rw [hidesBars, ih (List.not_mem_of_not_mem_cons h)]
    simp [hc]

theorem hidesBars_cons {c : Char} (hc : c ≠ '|') (h : ∀ escaped, hidesBars escaped text = true) :
    hidesBars escaped (c :: text) = true := by
  rw [hidesBars, h]
  simp [hc]

theorem hidesBars_concat {c : Char} (hc : c ≠ '|') (h : hidesBars escaped text = true) :
    hidesBars escaped (text ++ [c]) = true := by
  induction text generalizing escaped with
  | nil => simp [hidesBars, hc]
  | cons d text ih =>
    rw [hidesBars, Bool.and_eq_true] at h
    rw [List.cons_append, hidesBars, h.1, ih h.2]
    rfl

theorem cellChar_bar : cellChar '|' = ['\\', '|'] := rfl

theorem cellChar_of_ne {c : Char} (hc : c ≠ '|') : cellChar c = [if c = '\n' then ' ' else c] := by
  rw [cellChar, if_neg hc]
  split_ifs <;> rfl

theorem unbarred_of_ne {c : Char} (hc : c ≠ '|') : (if c = '\n' then ' ' else c) ≠ '|' := by
  split_ifs
  · decide
  · exact hc

/-- A text is written so that all of its bars are hidden. -/
theorem hidesBars_escape (text : List Char) (escaped : Bool) : hidesBars escaped (text.flatMap cellChar) = true := by
  induction text generalizing escaped with
  | nil => rfl
  | cons c text ih =>
    rw [List.flatMap_cons]
    by_cases hc : c = '|'
    · subst hc
      rw [cellChar_bar, List.cons_append, List.singleton_append, hidesBars, hidesBars, ih]
      rfl
    · rw [cellChar_of_ne hc, List.singleton_append, hidesBars, ih]
      simp [unbarred_of_ne hc]

theorem cellsFrom_bar (rest : List Char) : cellsFrom false ('|' :: rest) = [] :: cellsFrom false rest := rfl

/-- Hidden bars stay in the cell, which ends at the bar after it. -/
theorem cellsFrom_append (h : hidesBars escaped text = true) (rest : List Char) :
    cellsFrom escaped (text ++ ' ' :: '|' :: rest) = (text ++ [' ']) :: cellsFrom false rest := by
  induction text generalizing escaped with
  | nil => rfl
  | cons c text ih =>
    rw [hidesBars, Bool.and_eq_true] at h
    have hkept : (decide (c = '|') && !escaped) = false := by
      have hc := h.1
      by_cases hbar : c = '|'
      · simp_all
      · simp [hbar]
    rw [List.cons_append, cellsFrom, hkept, ih h.2]
    rfl

/-- No bar comes first in a text that is written. -/
theorem head?_escape (text : List Char) : (text.flatMap cellChar).head? ≠ some '|' := by
  cases text with
  | nil => nofun
  | cons c text =>
    rw [List.flatMap_cons]
    by_cases hc : c = '|'
    · subst hc
      rw [cellChar_bar]
      simp
    · rw [cellChar_of_ne hc, List.singleton_append, List.head?_cons]
      exact fun heq => unbarred_of_ne hc (Option.some.inj heq)

def readBar : Reader (List Char) :=
  fun s => (dropLead ['\\', '|'] s).map fun (_, rest) => (['|'], rest)

theorem replaceAll_escape (text : List Char) :
    replaceAll readBar (text.flatMap cellChar) = text.map fun c => if c = '\n' then ' ' else c := by
  induction text with
  | nil => rfl
  | cons c text ih =>
    rw [List.flatMap_cons, List.map_cons]
    by_cases hc : c = '|'
    · subst hc
      have hread : readBar (['\\', '|'] ++ text.flatMap cellChar) = some (['|'], text.flatMap cellChar) := by
        rw [readBar, dropLead_append]
        rfl
      rw [cellChar_bar, replaceAll_of_read (List.cons_ne_nil _ _) hread, ih]
      rfl
    · rw [cellChar_of_ne hc, List.singleton_append]
      generalize (if c = '\n' then ' ' else c) = d
      -- a backslash of the text itself is not followed by a bar
      have hplain : ¬ ['\\', '|'] <+: d :: text.flatMap cellChar := by
        intro hwithin
        obtain ⟨after, hafter⟩ := (List.cons_prefix_cons.mp hwithin).2
        exact head?_escape text (by rw [← hafter]; rfl)
      have hread : readBar (d :: text.flatMap cellChar) = none := by
        rw [readBar, dropLead_eq_none hplain]
        rfl
      rw [replaceAll_cons hread, ih]

/-- A text that was written is read as it was, but for its line feeds. -/
theorem unescaped_cell (text : Option String) : unescaped (cell text) = oneLine text := by
  have hcell : (cell text).toList = (textOr text).toList.flatMap cellChar := String.toList_ofList
  rw [unescaped, replace, hcell]
  exact congrArg String.ofList (replaceAll_escape (textOr text).toList)

end Bars

section Rows

variable {p : Parameter}

theorem notMem_parameterFlags (p : Parameter) {c : Char} (hc : c = '|' ∨ c = '\n') : c ∉ (parameterFlags p).toList := by
  unfold parameterFlags
  rcases hc with rfl | rfl <;> cases p.isRequired <;> cases p.isCascading <;> decide

theorem toList_parameterRow (p : Parameter) :
    (parameterRow p).toList = '|' :: (' ' :: (p.name ++ parameterFlags p).toList ++ ' ' :: '|' ::
      (' ' :: '`' :: (cell (some p.type)).toList ++ ['`'] ++ ' ' :: '|' ::
        (' ' :: (cell p.defaultValue).toList ++ ' ' :: '|' ::
          (' ' :: (cell p.description).toList ++ ' ' :: '|' :: [])))) := by
  unfold parameterRow
  simp

theorem hidesBars_cell (text : Option String) (escaped : Bool) : hidesBars escaped (cell text).toList = true := by
  rw [cell, String.toList_ofList]
  exact hidesBars_escape _ _

theorem tells_parameterRow (h : '|' ∉ p.name.toList) : Tells p (parameterRow p) := by
  refine ⟨cell (some p.type), cell p.defaultValue, cell p.description, ?_, unescaped_cell _, unescaped_cell _,
    unescaped_cell _⟩
  have hname : hidesBars false (' ' :: (p.name ++ parameterFlags p).toList) = true := by
    refine hidesBars_of_notMem ?_ false
    simp [h, notMem_parameterFlags p]
  have htype : hidesBars false (' ' :: '`' :: (cell (some p.type)).toList ++ ['`']) = true :=
    hidesBars_concat (by decide)
      (hidesBars_cons (by decide) fun _ => hidesBars_cons (by decide) (hidesBars_cell (some p.type)))
  have hspaced (text : Option String) : hidesBars false (' ' :: (cell text).toList) = true :=
    hidesBars_cons (by decide) (hidesBars_cell text)
  have hcells : cellsFrom false (parameterRow p).toList =
      [[], ' ' :: (p.name ++ parameterFlags p).toList ++ [' '],
        ' ' :: '`' :: (cell (some p.type)).toList ++ ['`'] ++ [' '], ' ' :: (cell p.defaultValue).toList ++ [' '],
        ' ' :: (cell p.description).toList ++ [' '], []] := by
    rw [toList_parameterRow, cellsFrom_bar, cellsFrom_append hname, cellsFrom_append htype,
      cellsFrom_append (hspaced p.defaultValue), cellsFrom_append (hspaced p.description), cellsFrom]
  rw [cells, hcells]
  simp only [List.map_cons, List.map_nil, List.cons.injEq, and_true, ← String.toList_inj, String.toList_ofList]
  simp

theorem feed_notMem_cell (text : Option String) : '\n' ∉ (cell text).toList := by
  rw [cell, String.toList_ofList, List.mem_flatMap]
  rintro ⟨c, -, hc⟩
  unfold cellChar at hc
  split_ifs at hc with hbar hfeed
  · exact absurd hc (by decide)
  · exact absurd hc (by decide)
  · exact hfeed (List.mem_singleton.mp hc).symm

/-- A row is one line. -/
theorem feed_notMem_parameterRow (h : '\n' ∉ p.name.toList) : '\n' ∉ (parameterRow p).toList := by
  rw [toList_parameterRow]
  simp [h, notMem_parameterFlags p, feed_notMem_cell]

theorem exists_parameterRow_concat (p : Parameter) : ∃ front, (parameterRow p).toList = front ++ ['|'] := by
  rw [parameterRow, String.toList_append]
  exact ⟨_, (List.append_assoc _ [' '] ['|']).symm⟩

end Rows

section Page

variable {lines : List String}

theorem toList_page (lines : List String) :
    (page lines).toList = (joinLines lines).toList.rdropWhile isBlank ++ ['\n'] := by
  rw [page, String.toList_append, trimEnd, trimEndWhile, String.toList_ofList]
  rfl

theorem toList_joinLines_append {first second : List String} (hfirst : first ≠ []) (hsecond : second ≠ []) :
    (joinLines (first ++ second)).toList = (joinLines first).toList ++ '\n' :: (joinLines second).toList := by
  simp only [joinLines, toList_join_lines, List.map_append]
  exact intercalate_append (by simpa using hfirst) (by simpa using hsecond)

/-- Lines without line feeds that are joined to other ones are found behind those. -/
theorem splitOn_joinLines_append {first second : List String} (hfirst : first ≠ [])
    (hsecond : ∀ line ∈ second, '\n' ∉ line.toList) :
    splitOn (joinLines (first ++ second)) '\n' = splitOn (joinLines first) '\n' ++ second := by
  by_cases hne : second = []
  · simp [hne]
  · have hjoined : splitChars '\n' (joinLines second).toList = second.map String.toList := by
      rw [joinLines, toList_join_lines]
      exact splitChars_intercalate (List.forall_mem_map.mpr hsecond) (by simpa using hne)
    rw [splitOn, toList_joinLines_append hfirst hne, splitChars_append, List.map_append, hjoined, List.map_map]
    refine congrArg (splitOn (joinLines first) '\n' ++ ·) ?_
    exact (List.map_congr_left fun line _ => String.ofList_toList).trans (List.map_id second)

theorem rdropWhile_append {q : Char → Bool} (h : text.rdropWhile q = text) (rest : List Char) :
    (text ++ rest).rdropWhile q = text ++ rest.rdropWhile q := by
  induction rest using List.reverseRecOn with
  | nil => simpa using h
  | append_singleton rest c ih =>
    rw [← List.append_assoc, List.rdropWhile_concat, List.rdropWhile_concat, ih]
    split_ifs
    · rfl
    · rw [List.append_assoc]

/-- Lines that begin with an empty one begin with a line feed, or are nothing. -/
theorem eq_feed_of_head? (tail : List String) {c : Char} (h : (joinLines ("" :: tail)).toList.head? = some c) :
    c = '\n' := by
  cases tail with
  | nil => cases h
  | cons line tail =>
    have hjoined := toList_joinLines_append (List.cons_ne_nil "" []) (List.cons_ne_nil line tail)
    rw [List.singleton_append] at hjoined
    rw [hjoined] at h
    exact (Option.some.inj h).symm

/-- Lines whose text ends with a visible character are found on a page, with an empty line below them. -/
theorem exists_splitOn_page (hlines : lines ≠ [])
    (hlast : (joinLines lines).toList.rdropWhile isBlank = (joinLines lines).toList) (tail : List String) :
    ∃ rest, splitOn (page (lines ++ "" :: tail)) '\n' = splitOn (joinLines lines) '\n' ++ "" :: rest := by
  have hpage : (page (lines ++ "" :: tail)).toList = (joinLines lines).toList ++
      (('\n' :: (joinLines ("" :: tail)).toList).rdropWhile isBlank ++ ['\n']) := by
    rw [toList_page, toList_joinLines_append hlines (List.cons_ne_nil _ _), rdropWhile_append hlast, List.append_assoc]
  have hbelow : ∃ more rest, ('\n' :: (joinLines ("" :: tail)).toList).rdropWhile isBlank ++ ['\n'] = '\n' :: more ∧
      splitChars '\n' more = [] :: rest := by
    have hwithin := List.rdropWhile_prefix isBlank ('\n' :: (joinLines ("" :: tail)).toList)
    have hvisible := List.rdropWhile_last_not isBlank ('\n' :: (joinLines ("" :: tail)).toList)
    generalize ('\n' :: (joinLines ("" :: tail)).toList).rdropWhile isBlank = kept at hwithin hvisible
    cases kept with
    | nil => exact ⟨[], [], rfl, rfl⟩
    | cons c kept =>
      obtain ⟨rfl, hkept⟩ := List.cons_prefix_cons.mp hwithin
      cases kept with
      | nil => exact absurd (show isBlank '\n' = true by decide) (hvisible (List.cons_ne_nil _ _))
      | cons d kept =>
        obtain ⟨after, hafter⟩ := hkept
        obtain rfl : d = '\n' := eq_feed_of_head? tail (by rw [← hafter]; rfl)
        exact ⟨_, _, rfl, splitChars_append '\n' [] (kept ++ ['\n'])⟩
  obtain ⟨more, rest, hmore, hrest⟩ := hbelow
  refine ⟨rest.map String.ofList, ?_⟩
  rw [splitOn, hpage, hmore, splitChars_append, hrest, List.map_append, List.map_cons]
  rfl

theorem componentPage_eq (c : Component) (members : List Member) (withExamples : Bool) :
    componentPage c members withExamples =
      page (overview c ++ part tableHead c.parameters (fun p => [parameterRow p]) [""] ++
        remainder c members withExamples) := by
  unfold componentPage overview remainder tableHead
  simp only [List.append_assoc]

theorem overview_ne_nil (c : Component) : overview c ≠ [] := by
  unfold overview
  simp

theorem tabulates_componentPage {c : Component} (members : List Member) (withExamples : Bool) (hne : c.parameters ≠ [])
    (hnames : ∀ p ∈ c.parameters, '|' ∉ p.name.toList ∧ '\n' ∉ p.name.toList) :
    Tabulates c (componentPage c members withExamples) := by
  have htable : part tableHead c.parameters (fun p => [parameterRow p]) [""] =
      tableHead ++ c.parameters.map parameterRow ++ [""] := by
    rw [part, ← List.map_eq_flatMap]
    simp [hne]
  have hplain : ∀ line ∈ tableHead ++ c.parameters.map parameterRow, '\n' ∉ line.toList := by
    intro line hline
    rcases List.mem_append.mp hline with hhead | hrow
    · exact (by decide : ∀ line ∈ tableHead, '\n' ∉ line.toList) line hhead
    · obtain ⟨p, hp, rfl⟩ := List.mem_map.mp hrow
      exact feed_notMem_parameterRow (hnames p hp).2
  have hlast : (joinLines (overview c ++ (tableHead ++ c.parameters.map parameterRow))).toList.rdropWhile isBlank =
      (joinLines (overview c ++ (tableHead ++ c.parameters.map parameterRow))).toList := by
    obtain ⟨before, p, hp⟩ := (List.eq_nil_or_concat c.parameters).resolve_left hne
    obtain ⟨front, hfront⟩ := exists_parameterRow_concat p
    have hlines : overview c ++ (tableHead ++ c.parameters.map parameterRow) =
        overview c ++ tableHead ++ before.map parameterRow ++ [parameterRow p] := by
      simp [hp]
    rw [hlines, joinLines, toList_join_lines, List.map_append, List.map_singleton, intercalate_concat, hfront,
      ← List.append_assoc]
    exact List.rdropWhile_concat_neg isBlank _ '|' (by decide)
  obtain ⟨rest, hrest⟩ := exists_splitOn_page (by simp [overview_ne_nil]) hlast (remainder c members withExamples)
  refine ⟨c.parameters.map parameterRow, rest, ?_, ?_⟩
  · have hpage : componentPage c members withExamples = page (overview c ++
        (tableHead ++ c.parameters.map parameterRow) ++ "" :: remainder c members withExamples) := by
      rw [componentPage_eq, htable]
      simp only [List.append_assoc, List.singleton_append]
    rw [hpage, hrest, splitOn_joinLines_append (overview_ne_nil c) hplain, List.append_assoc _ tableHead]
  · exact List.forall₂_map_right_iff.mpr (List.forall₂_same.mpr fun p hp => tells_parameterRow (hnames p hp).1)

end Page

variable {ix : Index} {c : Component} {name : String}

theorem isIndexed_of_requireComponent (h : requireComponent ix name = .ok c) : ix.isIndexed = true := by
  by_contra hix
  unfold requireComponent requireText Index.component? Index.requireIndexed at h
  rw [if_neg hix] at h
  split_ifs at h <;> cases h

theorem exists_componentDetail (withApi withExamples : Bool) (h : requireComponent ix name = .ok c) :
    ∃ members, run ix (.componentDetail name withApi withExamples) = .ok (componentPage c members withExamples) := by
  have hix := isIndexed_of_requireComponent h
  cases withApi with
  | false =>
    refine ⟨[], ?_⟩
    simp only [run, componentDetail, h]
    rfl
  | true =>
    refine ⟨(Index.lookUp ix.store.reference? c.name).elim [] ApiReference.members, ?_⟩
    simp only [run, componentDetail, h, Index.apiReference?_eq hix]
    rfl

/-- The detail page of a component whose parameters have names without bars and line feeds has a table that gives their
texts back, whatever these hold; there is none if there are no parameters. -/
theorem componentDetail_tabulates (withApi withExamples : Bool) (hc : requireComponent ix name = .ok c)
    (hnames : ∀ p ∈ c.parameters, '|' ∉ p.name.toList ∧ '\n' ∉ p.name.toList) :
    ∃ answer : String, run ix (.componentDetail name withApi withExamples) = .ok answer ∧
      if c.parameters = [] then ∃ members, answer = page (overview c ++ remainder c members withExamples)
      else Tabulates c answer := by
  obtain ⟨members, hrun⟩ := exists_componentDetail withApi withExamples hc
  refine ⟨_, hrun, ?_⟩
  split_ifs with hnone
  · refine ⟨members, ?_⟩
    rw [componentPage_eq, part, hnone]
    simp
  · exact tabulates_componentPage members withExamples hnone hnames

/-- A component whose texts have bars, some with a backslash before them or at an end, and line feeds. -/
def grid : Component :=
  { name := "BitGrid"
    nameSpace := "Bit.BlazorUI"
    summary := "A grid."
    description := some "First.\n\n## Parameters\n| Name |"
    parameters :=
      [{ name := "Mode", type := "A|B\\", description := some "|one\\|two\nthree|", isRequired := true },
        { name := "Rows\\", type := "List<T>", defaultValue := some "\\", isCascading := true }]
    related := ["BitButton"] }

def gridIndex : Index :=
  { store := { components := [grid] }, isIndexed := true }

theorem componentDetail_tabulates_grid : requireComponent gridIndex " GRID" = .ok grid ∧
    (∀ p ∈ grid.parameters, '|' ∉ p.name.toList ∧ '\n' ∉ p.name.toList) ∧
    ∃ answer : String, run gridIndex (.componentDetail " GRID" true true) = .ok answer ∧ Tabulates grid answer := by
  have hc : requireComponent gridIndex " GRID" = .ok grid := by decide +kernel
  have hnames : ∀ p ∈ grid.parameters, '|' ∉ p.name.toList ∧ '\n' ∉ p.name.toList := by decide
  obtain ⟨answer, hrun, htable⟩ := componentDetail_tabulates true true hc hnames
  rw [if_neg (by decide)] at htable
  exact ⟨hc, hnames, answer, hrun, htable⟩

end Tool
end Catalog
