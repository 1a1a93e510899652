import Catalog.CSharp.ComponentClass
import Catalog.Proofs.Text.Blank
import Catalog.Proofs.Text.Scan

/-! The types that are event callbacks. -/
namespace Catalog.CSharp

open Text

def IsMark (mark : String) : Prop :=
  mark = "" ∨ mark = "?"

/-- The types of event callbacks with what each hands over: nothing, or the text between the angle brackets without
the blank characters around it, or the last of these if there is nothing else. Blank characters may stand before the
brackets too, and none before the mark. -/
inductive IsCallback : String → Option String → Prop where
  | plain {mark : String} (hmark : IsMark mark) : IsCallback ("EventCallback" ++ mark) none
  | generic {gap front argument back mark : String} (hgap : isBlankText gap = true) (hfront : isBlankText front = true)
      (htrim : trim argument = argument) (hne : argument ≠ "") (hback : isBlankText back = true) (hmark : IsMark mark) :
      IsCallback ("EventCallback" ++ gap ++ "<" ++ (front ++ argument ++ back) ++ ">" ++ mark) (some argument)
  | blank {gap front mark : String} {last : Char} (hgap : isBlankText gap = true) (hfront : isBlankText front = true)
      (hlast : isBlank last = true) (hmark : IsMark mark) :
      IsCallback ("EventCallback" ++ gap ++ "<" ++ (front ++ String.singleton last) ++ ">" ++ mark)
        (some (String.singleton last))

section Parts

variable {s core inside gap : List Char} {mark : String}

theorem dropQuestionMark_append (hcore : core.getLast? ≠ some '?') (hmark : IsMark mark) :
    dropQuestionMark (core ++ mark.toList) = core := by
  unfold dropQuestionMark
  rcases hmark with rfl | rfl
  · rw [show ("" : String).toList = [] from rfl, List.append_nil]
    split
    · next front hfront =>
      rw [List.getLast?_eq_head?_reverse, hfront] at hcore
      exact absurd rfl hcore
    · rfl
  · simp

theorem exists_eq_dropQuestionMark_append (s : List Char) :
    ∃ mark, IsMark mark ∧ s = dropQuestionMark s ++ mark.toList := by
  unfold dropQuestionMark
  split
  · next front hfront => exact ⟨"?", .inr rfl, by rw [List.reverse_eq_iff.mp hfront, List.reverse_cons]; rfl⟩
  · exact ⟨"", .inl rfl, (List.append_nil s).symm⟩

theorem betweenAngles?_append (hgap : ∀ c ∈ gap, isBlank c = true) (hinside : inside ≠ []) :
    betweenAngles? (gap ++ ['<'] ++ inside ++ ['>']) = some inside := by
  have hrest : (gap ++ ['<'] ++ inside ++ ['>']).dropWhile isBlank = ['<'] ++ (inside ++ ['>']) := by
    rw [List.append_assoc, List.append_assoc, List.dropWhile_append_of_pos hgap]
    rfl
  rw [betweenAngles?, hrest, dropLead_append, Option.bind_eq_bind, Option.bind_some]
  simp [hinside]

theorem eq_append_of_betweenAngles? (h : betweenAngles? s = some inside) :
    inside ≠ [] ∧ ∃ gap, (∀ c ∈ gap, isBlank c = true) ∧ s = gap ++ ['<'] ++ inside ++ ['>'] := by
  obtain ⟨⟨_, rest⟩, hrest, h⟩ := Option.bind_eq_some_iff.mp h
  have hs : s = s.takeWhile isBlank ++ ['<'] ++ rest := by
    rw [List.append_assoc, ← dropLead_eq_some_iff.mp hrest, List.takeWhile_append_dropWhile]
  dsimp only at h
  split at h
  · next back hback =>
    obtain ⟨hne, hinside⟩ := Option.ite_none_left_eq_some.mp h
    rw [← Option.some.inj hinside]
    refine ⟨by simpa using hne, s.takeWhile isBlank, fun c => all_takeWhile, ?_⟩
    rw [List.append_assoc, ← List.reverse_cons, ← List.reverse_eq_iff.mp hback]
    exact hs
  · cases h

end Parts

theorem callbackArgument?_append (rest : String) :
    callbackArgument? ("EventCallback" ++ rest) =
      if (dropQuestionMark rest.toList).isEmpty then some none
      else (betweenAngles? (dropQuestionMark rest.toList)).map fun inside =>
        some (String.ofList (trimmedOrLast inside)) := by
  rw [callbackArgument?, String.toList_append, dropLead_append]
  rfl

section Angles

variable {gap inside mark : String}

theorem callbackArgument?_angles (hgap : isBlankText gap = true) (hinside : inside ≠ "") (hmark : IsMark mark) :
    callbackArgument? ("EventCallback" ++ gap ++ "<" ++ inside ++ ">" ++ mark) =
      some (some (String.ofList (trimmedOrLast inside.toList))) := by
  have hcore : dropQuestionMark (gap ++ ("<" ++ (inside ++ (">" ++ mark)))).toList =
      gap.toList ++ ['<'] ++ inside.toList ++ ['>'] := by
    have hlast : (gap.toList ++ ['<'] ++ inside.toList ++ ['>']).getLast? ≠ some '?' := by
      rw [List.getLast?_concat]
      decide
    rw [← dropQuestionMark_append hlast hmark]
    simp
  simp only [String.append_assoc]
  rw [callbackArgument?_append, hcore, betweenAngles?_append (List.all_eq_true.mp hgap) (by simpa using hinside)]
  simp

/-- What stands in angle brackets is handed over as far as it is not blank. -/
theorem isCallback_angles (hgap : isBlankText gap = true) (hinside : inside ≠ "") (hmark : IsMark mark) :
    IsCallback ("EventCallback" ++ gap ++ "<" ++ inside ++ ">" ++ mark)
      (some (String.ofList (trimmedOrLast inside.toList))) := by
  have hne : inside.toList ≠ [] := by simpa using hinside
  obtain ⟨front, back, hfront, hback, hall, htrim, hleft⟩ | ⟨front, last, hfront, hlast, hall, hleft⟩ :=
    trimmedOrLast_cases hne
  · have htext : inside = String.ofList front ++ String.ofList (trimmedOrLast inside.toList) ++ String.ofList back := by
      rw [← String.toList_inj]
      simpa using hall
    have htrimmed : trim (String.ofList (trimmedOrLast inside.toList)) =
        String.ofList (trimmedOrLast inside.toList) := by
      rw [trim, String.toList_ofList, htrim]
    have h := IsCallback.generic hgap (isBlankText_ofList.mpr hfront) htrimmed (by simpa using hleft)
      (isBlankText_ofList.mpr hback) hmark
    rwa [← htext] at h
  · have htext : inside = String.ofList front ++ String.singleton last := by
      rw [← String.toList_inj, hall]
      simp
    have hgiven : String.ofList (trimmedOrLast inside.toList) = String.singleton last := by
      rw [hleft, ← String.toList_singleton, String.ofList_toList]
    rw [hgiven, htext]
    exact .blank hgap (isBlankText_ofList.mpr hfront) hlast hmark

end Angles

theorem callbackArgument?_of_isCallback {type : String} {argument : Option String} (h : IsCallback type argument) :
    callbackArgument? type = some argument := by
  cases h with
  | plain hmark =>
    rw [callbackArgument?_append, ← List.nil_append (String.toList _), dropQuestionMark_append (by simp) hmark]
    rfl
  | @generic gap front argument back mark hgap hfront htrim hne hback hmark =>
    have hinside : front ++ argument ++ back ≠ "" := by simp [hne]
    have h := callbackArgument?_angles hgap hinside hmark
    rw [String.toList_append, String.toList_append, trimmedOrLast_append (List.all_eq_true.mp hfront)
      (List.all_eq_true.mp hback) (trimChars_eq_self_iff.mpr (trim_eq_self_iff.mp htrim)) (by simpa using hne)] at h
    rwa [String.ofList_toList] at h
  | @blank gap front mark last hgap hfront hlast hmark =>
    have hinside : front ++ String.singleton last ≠ "" := by simp
    have h := callbackArgument?_angles hgap hinside hmark
    rw [String.toList_append, String.toList_singleton, trimmedOrLast_concat (List.all_eq_true.mp hfront) hlast,
      ← String.toList_singleton, String.ofList_toList] at h
    exact h

/-- A type is taken for an event callback exactly if it is one, and its argument for what it hands over. -/
theorem callbackArgument?_eq_some_iff {type : String} {argument : Option String} :
    callbackArgument? type = some argument ↔ IsCallback type argument := by
  refine ⟨fun h => ?_, callbackArgument?_of_isCallback⟩
  obtain ⟨⟨_, rest⟩, hrest, h⟩ := Option.bind_eq_some_iff.mp h
  obtain ⟨mark, hmark, hcore⟩ := exists_eq_dropQuestionMark_append rest
  have htype : type = "EventCallback" ++ String.ofList (dropQuestionMark rest) ++ mark := by
    have htail : String.ofList rest = String.ofList (dropQuestionMark rest) ++ mark := by
      rw [← String.toList_inj]
      simpa using hcore
    rw [String.append_assoc, ← htail, ← String.toList_inj, dropLead_eq_some_iff.mp hrest]
    simp
  dsimp only at h
  split_ifs at h with hempty
  · cases h
    rw [htype, List.isEmpty_iff.mp hempty]
    exact .plain hmark
  · obtain ⟨inside, hinside, rfl⟩ := Option.map_eq_some_iff.mp h
    obtain ⟨hne, gap, hgap, hdrop⟩ := eq_append_of_betweenAngles? hinside
    have hangles : String.ofList (dropQuestionMark rest) = String.ofList gap ++ "<" ++ String.ofList inside ++ ">" := by
      rw [hdrop, ← String.toList_inj]
      simp
    have hinside' : String.ofList inside ≠ "" := by simpa using hne
    have h := isCallback_angles (isBlankText_ofList.mpr hgap) hinside' hmark
    rw [String.toList_ofList (l := inside)] at h
    rw [htype, hangles]
    simpa only [String.append_assoc] using h

end Catalog.CSharp
