import Catalog.Proofs.Index.Relatives

/-! What is printed of the components related to one: a line for each of them, in order, which tells every reason why it
is related, and at least one. -/
namespace Catalog

open Text

def Reason.note : Reason → String
  | .link => "linked"
  | .sibling => "same category"
  | .parent => "base type"
  | .child => "derives from it"

/-- The line tells of `d` why it is related to `c`: all reasons that there are, and no others. -/
def Explains (c d : Component) (line : String) : Prop :=
  ∃ reasons : List Reason, reasons ≠ [] ∧ reasons.Sublist Reason.all ∧
    (∀ reason, reason ∈ reasons ↔ reason.Applies .all c d) ∧
    line = "- **" ++ d.name ++ "** (" ++ join ", " (reasons.map Reason.note) ++ ") — " ++ d.summary

/-- A reason that applies to one relationship applies to all of them. -/
theorem Reason.Applies.all {relationship : Relationship} {c d : Component} {reason : Reason}
    (h : reason.Applies relationship c d) : reason.Applies .all c d := by
  cases reason with
  | link => exact h
  | sibling => exact ⟨.inl rfl, h.2⟩
  | parent => exact ⟨.inl rfl, h.2⟩
  | child => exact ⟨.inl rfl, h.2⟩

namespace Tool

variable {c d : Component} {text other : Option String} {k : String}

def tells (c d : Component) : Reason → Bool
  | .link => (c.related.map lower).contains (lower d.name)
  | .sibling => sameText c.category d.category
  | .parent => !(textOr c.baseType).isEmpty && lower (textOr c.baseType) == lower d.name
  | .child => !(textOr d.baseType).isEmpty && lower (textOr d.baseType) == lower c.name

/-- The notes are those of the reasons that are told, in the order in which these count. -/
theorem relationNotes_eq (c d : Component) : relationNotes c d = (Reason.all.filter (tells c d)).map Reason.note := by
  have hone (b : Bool) (reason : Reason) (reasons : List Reason) :
      ((if b then reason :: reasons else reasons).map Reason.note) =
        (if b then [reason.note] else []) ++ reasons.map Reason.note := by
    cases b <;> rfl
  simp only [Reason.all, List.filter_cons, List.filter_nil, hone, List.map_nil, List.append_nil, ← List.append_assoc]
  rfl

theorem textOr_eq_iff (hk : k ≠ lower "") :
    (!(textOr text).isEmpty && lower (textOr text) == k) = true ↔ ∃ t, text = some t ∧ lower t = k := by
  cases text with
  | none => simp [textOr]
  | some t =>
    have hempty : lower t = k → t ≠ "" := by
      rintro rfl rfl
      exact hk rfl
    simpa [textOr] using hempty

theorem sameText_iff :
    sameText text other = true ↔ ∃ t u, text = some t ∧ other = some u ∧ t ≠ "" ∧ lower u = lower t := by
  have hempty {t u : String} (h : lower t = lower u) : t = "" ↔ u = "" := by
    rw [← lower_eq_lower_empty_iff, ← lower_eq_lower_empty_iff, h]
  cases text with
  | none => simp [sameText, textOr]
  | some t =>
    cases other with
    | none => simp [sameText, textOr]
    | some u =>
      simp only [sameText, textOr, Option.getD_some, Option.some.injEq, Bool.and_eq_true, Bool.not_eq_true',
        String.isEmpty_eq_false_iff, beq_iff_eq]
      constructor
      · rintro ⟨⟨ht, -⟩, hlower⟩
        exact ⟨t, u, rfl, rfl, ht, hlower.symm⟩
      · rintro ⟨t, u, rfl, rfl, ht, hlower⟩
        exact ⟨⟨ht, fun hu => ht ((hempty hlower.symm).mpr hu)⟩, hlower.symm⟩

/-- A reason is told exactly if it is one. -/
theorem tells_iff (hc : c.name ≠ "") (hd : d.name ≠ "") (reason : Reason) :
    tells c d reason = true ↔ reason.Applies .all c d := by
  have hkey {name : String} (h : name ≠ "") : lower name ≠ lower "" := fun e => h (lower_eq_lower_empty_iff.mp e)
  cases reason with
  | link =>
    rw [tells, List.contains_iff_mem, List.mem_map]
    rfl
  | sibling =>
    rw [tells, sameText_iff]
    exact ⟨fun h => ⟨.inl rfl, h⟩, And.right⟩
  | parent =>
    rw [tells, textOr_eq_iff (hkey hd)]
    exact ⟨fun h => ⟨.inl rfl, h⟩, And.right⟩
  | child =>
    rw [tells, textOr_eq_iff (hkey hc)]
    exact ⟨fun h => ⟨.inl rfl, h⟩, And.right⟩

/-- Of a component that is related for some reason the line tells all reasons. -/
theorem explains_relatedLine {relationship : Relationship} (hc : c.name ≠ "") (hd : d.name ≠ "")
    (hreason : ∃ reason : Reason, reason.Applies relationship c d) : Explains c d (relatedLine c d) := by
  obtain ⟨reason, happlies⟩ := hreason
  have hmem (reason : Reason) : reason ∈ Reason.all.filter (tells c d) ↔ reason.Applies .all c d := by
    rw [List.mem_filter, and_iff_right reason.mem_all, tells_iff hc hd]
  have hne : Reason.all.filter (tells c d) ≠ [] := List.ne_nil_of_mem ((hmem reason).mpr happlies.all)
  refine ⟨Reason.all.filter (tells c d), hne, List.filter_sublist, hmem, ?_⟩
  have hnotes : (relationNotes c d).isEmpty = false := by
    rw [relationNotes_eq, List.isEmpty_eq_false_iff]
    simpa using hne
  have hopen : "** (" = "**" ++ " (" := by decide
  have hclose : ") — " = ")" ++ " — " := by decide
  rw [relatedLine, hnotes, relationNotes_eq, hopen, hclose]
  simp only [String.append_assoc, Bool.false_eq_true, if_false]

end Tool

namespace Index

variable {ix : Index} {c : Component} {name : String}

/-- What a name is taken for is stored. -/
theorem mem_of_resolve (h : ix.resolve name = some c) : c ∈ ix.store.components := by
  unfold resolve lookUp at h
  split at h
  · cases h
  · dsimp only at h
    split at h
    · next found hfound =>
      cases h
      exact (Keyed.mem_of_find? hfound).1
    · split at h
      · cases h
      · exact (Keyed.mem_of_find? h).1

end Index

namespace Tool

open Index

variable {ix : Index} {c : Component} {name : String} {text : Option String} {relationship : Relationship}

/-- Whatever spelling a component is asked for by, a line is printed for each one related to it, in order, and the line
tells every reason why it is related. -/
theorem relatedComponents_explained (hix : ix.isIndexed = true) (hd : ix.store.Distinct)
    (hnames : ∀ name ∈ ix.store.names, name ≠ "" ∧ trim name = name) (hc : ix.component? name = .ok (some c))
    (hrelationship : Relationship.parse text = .ok relationship) :
    ∃ related lines, ix.relatedTo name relationship = .ok related ∧ List.Forall₂ (Explains c) related lines ∧
      run ix (.relatedComponents name (text.map .whole)) = .ok (
        if related = [] then "No related components found for " ++ c.name ++ " (" ++ relationship.label ++ ")."
        else joinLines (("# Components related to " ++ c.name ++ " (" ++ relationship.label ++ ")") :: "" :: lines) ++
          "\n") := by
  have hresolve : ix.resolve name = some c := by
    rw [component?_eq hix] at hc
    exact Except.ok.inj hc
  have hmem : c ∈ ix.store.components := mem_of_resolve hresolve
  obtain ⟨hne, ht⟩ := hnames c.name (List.mem_map_of_mem hmem)
  have hnonempty : ∀ d ∈ ix.store.components, d.name ≠ "" := fun d hd => (hnames d.name (List.mem_map_of_mem hd)).1
  have hself : ix.resolve c.name = some c := lookUp_name hd hmem ht hne
  have hrelatives := relatives_take hd hnonempty hmem relationship
  have htold := relatedTo_eq hix hd hmem hne ht relationship
  generalize (ix.store.found [c.key] (ix.candidates c relationship)).take maxRelated = related at hrelatives htold
  refine ⟨related, related.map (relatedLine c), ?_, ?_, ?_⟩
  · rw [← htold]
    simp only [relatedTo, hresolve, hself]
  · refine List.forall₂_map_right_iff.mpr (List.forall₂_same.mpr fun d hd => ?_)
    exact explains_relatedLine hne (hnonempty d (hrelatives.stored d hd)) (hrelatives.reasoned d hd)
  · simp only [run, relatedComponents, relationshipOf_whole, hrelationship, Except.mapError,
      requireComponent_of_lookUp hix hresolve, htold, bind, Except.bind, List.isEmpty_iff]
    split_ifs <;> rfl

theorem relatedComponents_explained_family :
    ∃ c related lines, family.component? " card\t" = .ok (some c) ∧ List.Forall₂ (Explains c) related lines ∧
      related.map Component.name = ["BitChip", "BitNav", "BitBase", "BitDeck"] ∧
      run family (.relatedComponents " card\t" (some "ALL")) =
        .ok (joinLines ("# Components related to BitCard (all)" :: "" :: lines) ++ "\n") := by
  have hfound : ∃ c, family.component? " card\t" = .ok (some c) ∧ c.name = "BitCard" ∧
      (family.relatedTo " card\t" .all).map (List.map Component.name) =
        .ok ["BitChip", "BitNav", "BitBase", "BitDeck"] := by
    refine ⟨family.store.components[1], ?_, ?_, ?_⟩ <;> decide +kernel
  obtain ⟨c, hc, hname, hrelated⟩ := hfound
  have hd : family.store.Distinct := ⟨by decide +kernel, by decide +kernel⟩
  have hparse : Relationship.parse (some "ALL") = .ok .all := by decide +kernel
  obtain ⟨related, lines, htold, hlines, hrun⟩ := relatedComponents_explained rfl hd (by decide +kernel) hc hparse
  rw [htold] at hrelated
  have hnames := Except.ok.inj hrelated
  have hne : related ≠ [] := by
    rintro rfl
    cases hnames
  rw [if_neg hne, hname] at hrun
  exact ⟨c, related, lines, hc, hlines, hnames, hrun⟩

end Tool
end Catalog
