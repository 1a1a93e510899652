import Catalog.Proofs.Index.Crew
import Catalog.Proofs.Index.Phases

/-! How many workers there are in phase one: they are at no more folders at a time than they are many, and a single
one writes the reference of a component right after it. -/
namespace Catalog

open Build (Tally)
open Store (Change)

variable {σ : Type} {watch : Watch σ} {sources : Sources} {repository : Path}

namespace Crew

variable {crew crew' : Crew σ} {b : Workbench σ} {workers : ℕ} {move : Move}

theorem stepWith_eq_some_iff : crew.stepWith workers watch sources repository move = some crew' ↔
    crew.step watch sources repository move = some crew' ∧ crew'.underWay ≤ workers := by
  rw [stepWith, Option.filter_eq_some_iff, decide_eq_true_iff]

theorem step_of_stepWith (h : crew.stepWith workers watch sources repository move = some crew') :
    Step sources repository crew crew' :=
  step_of_eq_some (stepWith_eq_some_iff.mp h).1

/-- What holds of a crew and is kept by each step holds after all of them. -/
theorem runWith_induction {P : Crew σ → Prop} (hcrew : P crew)
    (hstep : ∀ crew crew' move, P crew → crew.stepWith workers watch sources repository move = some crew' → P crew')
    (moves : List Move) : P (crew.runWith workers watch sources repository moves) := by
  induction moves generalizing crew with
  | nil => exact hcrew
  | cons move moves ih =>
    cases h : crew.stepWith workers watch sources repository move with
    | none => simpa [runWith, h] using ih hcrew
    | some crew' => simpa [runWith, h] using ih (hstep crew crew' move hcrew h)

/-- With any number of workers a crew makes some of the steps that it could make with more of them. -/
theorem exists_run_eq_runWith (workers : ℕ) (watch : Watch σ) (sources : Sources) (repository : Path) (crew : Crew σ)
    (moves : List Move) : ∃ moves', crew.run watch sources repository moves' =
      crew.runWith workers watch sources repository moves := by
  refine runWith_induction (P := fun crew' => ∃ moves', crew.run watch sources repository moves' = crew') ⟨[], rfl⟩ ?_
    moves
  rintro crew₁ crew₂ move ⟨moves', rfl⟩ h
  refine ⟨moves' ++ [move], ?_⟩
  have hstep := (stepWith_eq_some_iff.mp h).1
  rw [run] at hstep ⊢
  rw [List.foldl_append, List.foldl_cons, List.foldl_nil, hstep]
  rfl

/-- At the end of the phase nobody is at a folder or may begin with one. -/
def Closed (crew : Crew σ) : Prop :=
  crew.lead.isEnded = true → ∀ e ∈ crew.errands, e.isOpen = false

theorem Closed.step (hclosed : crew.Closed) (h : Step sources repository crew crew') : crew'.Closed := by
  have hrunning {crew' : Crew σ} (hlead : crew.lead.isEnded = false) (hsame : crew'.lead = crew.lead) :
      crew'.Closed := by
    intro hended
    rw [hsame, hlead] at hended
    cases hended
  cases h with
  | send | hear => exact nofun
  | drop i hlead => exact hrunning hlead rfl
  | pause lead b' hb hlead hlead' hended => exact hended
  | finish hlead hheard =>
    intro _ e he
    rw [hheard e he]
    rfl
  | work i folder e e' b' changes hfolder hi hwork =>
    cases hlead : crew.lead.isEnded with
    | false => exact hrunning hlead rfl
    | true =>
      have hidle := hclosed hlead e (List.mem_of_getElem? hi)
      cases hwork <;> cases hidle

theorem closed_runWith (workers : ℕ) (watch : Watch σ) (sources : Sources) (repository : Path) (b : Workbench σ)
    (moves : List Move) : ((start sources b).runWith workers watch sources repository moves).Closed := by
  have hstart : (start sources b).Closed := nofun
  exact runWith_induction hstart (fun _ _ _ hclosed h => hclosed.step (step_of_stepWith h)) moves

theorem underWay_runWith (workers : ℕ) (watch : Watch σ) (sources : Sources) (repository : Path) (b : Workbench σ)
    (moves : List Move) : ((start sources b).runWith workers watch sources repository moves).underWay ≤ workers := by
  have hstart : (start sources b).underWay ≤ workers := by
    have hnone : (start sources b).errands.countP Errand.isBegun = 0 := by
      rw [List.countP_eq_zero]
      intro e he
      obtain ⟨folder, -, rfl⟩ := List.mem_map.mp he
      exact Bool.false_ne_true
    rw [underWay, hnone]
    exact Nat.zero_le workers
  exact runWith_induction (P := fun crew => crew.underWay ≤ workers) hstart
    (fun _ _ _ _ h => (stepWith_eq_some_iff.mp h).2) moves

/-- A single worker is at one folder. -/
theorem eq_of_countP_le_one {errands : List Errand} (h : errands.countP Errand.isBegun ≤ 1) {i j : ℕ} {e e' : Errand}
    (hi : errands[i]? = some e) (hj : errands[j]? = some e') (he : e.isBegun = true) (he' : e'.isBegun = true) :
    i = j := by
  induction errands generalizing i j with
  | nil => cases hi
  | cons first rest ih =>
    have hrest {n : ℕ} {x : Errand} (hn : rest[n]? = some x) (hx : x.isBegun = true) :
        0 < rest.countP Errand.isBegun :=
      List.countP_pos_iff.mpr ⟨x, List.mem_of_getElem? hn, hx⟩
    rw [List.countP_cons] at h
    cases i with
    | zero =>
      cases j with
      | zero => rfl
      | succ j =>
        cases hi
        have hpos := hrest hj he'
        rw [if_pos he] at h
        omega
    | succ i =>
      cases j with
      | zero =>
        cases hj
        have hpos := hrest hi he
        rw [if_pos he'] at h
        omega
      | succ j => rw [ih (Nat.le_of_add_right_le h) hi hj]

def changesOf (entries : Component × ApiReference) : List Change :=
  [.put entries.1, .putReference entries.2]

/-- The entries of folders were written, and of one more folder, for which its worker has not put the reference yet,
the component. -/
inductive Paired (sources : Sources) (repository : Path) (taxonomy : Taxonomy) (errands : List Errand) :
    List Change → Prop
  | whole (pairs : List (Component × ApiReference)) (hgives : ∀ e ∈ pairs, sources.Gives repository taxonomy e.1 e.2)
      (hnone : ∀ (i : ℕ) (name : String) (r : ApiReference), errands[i]? ≠ some (.completing name r)) :
      Paired sources repository taxonomy errands (pairs.flatMap changesOf)
  | half (pairs : List (Component × ApiReference)) (hgives : ∀ e ∈ pairs, sources.Gives repository taxonomy e.1 e.2)
      (c : Component) (r : ApiReference) (hgive : sources.Gives repository taxonomy c r) (i : ℕ)
      (hi : errands[i]? = some (.completing c.name r)) :
      Paired sources repository taxonomy errands (pairs.flatMap changesOf ++ [.put c])

section Pairs

variable {taxonomy : Taxonomy} {errands : List Errand} {written : List Change} {i : ℕ} {e e' : Errand}

/-- A folder that is not between its component and its reference changes nothing. -/
theorem Paired.set (h : Paired sources repository taxonomy errands written) (hi : errands[i]? = some e)
    (he : ∀ name r, e ≠ .completing name r) (he' : ∀ name r, e' ≠ .completing name r) :
    Paired sources repository taxonomy (errands.set i e') written := by
  cases h with
  | whole pairs hgives hnone =>
    refine .whole pairs hgives fun j name r hj => ?_
    by_cases hij : i = j
    · subst hij
      rw [List.getElem?_set_self (List.getElem?_eq_some_iff.mp hi).1] at hj
      exact he' name r (Option.some.inj hj)
    · rw [List.getElem?_set_ne hij] at hj
      exact hnone j name r hj
  | half pairs hgives c r hgive j hj =>
    have hij : i ≠ j := by
      rintro rfl
      exact he _ _ (Option.some.inj (hi.symm.trans hj))
    exact .half pairs hgives c r hgive j ((List.getElem?_set_ne hij).trans hj)

theorem Paired.write {c : Component} {r : ApiReference} (h : Paired sources repository taxonomy errands written)
    (halone : errands.countP Errand.isBegun ≤ 1) (hi : errands[i]? = some (.writing c r))
    (hgive : sources.Gives repository taxonomy c r) :
    Paired sources repository taxonomy (errands.set i (.completing c.name r)) (written ++ [.put c]) := by
  cases h with
  | whole pairs hgives hnone =>
    exact .half pairs hgives c r hgive i (List.getElem?_set_self (List.getElem?_eq_some_iff.mp hi).1)
  | half pairs hgives d r' hgive' j hj =>
    have hij := eq_of_countP_le_one halone hi hj rfl rfl
    subst hij
    rw [hi] at hj
    cases hj

theorem Paired.complete {name : String} {r : ApiReference} {result : Except Failure (Build.Outcome String)}
    (h : Paired sources repository taxonomy errands written) (halone : errands.countP Errand.isBegun ≤ 1)
    (hi : errands[i]? = some (.completing name r)) :
    Paired sources repository taxonomy (errands.set i (.done result)) (written ++ [.putReference r]) := by
  cases h with
  | whole pairs hgives hnone => exact absurd hi (hnone i name r)
  | half pairs hgives c r' hgive j hj =>
    have hij := eq_of_countP_le_one halone hi hj rfl rfl
    subst hij
    rw [hi] at hj
    cases hj
    have hwritten : pairs.flatMap changesOf ++ [.put c] ++ [.putReference r] =
        (pairs ++ [(c, r)]).flatMap changesOf := by
      simp [changesOf]
    rw [hwritten]
    refine .whole _ (fun e he => ?_) fun k name' r' hk => ?_
    · rcases List.mem_append.mp he with he | he
      · exact hgives e he
      · rw [List.mem_singleton.mp he]
        exact hgive
    · by_cases hik : i = k
      · subst hik
        rw [List.getElem?_set_self (List.getElem?_eq_some_iff.mp hi).1] at hk
        cases hk
      · rw [List.getElem?_set_ne hik] at hk
        exact hik (eq_of_countP_le_one halone hi hk rfl rfl)

end Pairs

/-- What a single worker has written. -/
theorem Paired.step (hs : Sound sources repository b crew) (halone : crew.underWay ≤ 1)
    (hpaired : Paired sources repository b.taxonomy crew.errands crew.written)
    (h : Step sources repository crew crew') :
    Paired sources repository b.taxonomy crew'.errands crew'.written := by
  cases h with
  | send next b' hb hlead hnext => exact hpaired.set hnext nofun nofun
  | drop i hlead hi => exact hpaired.set hi nofun nofun
  | pause => exact hpaired
  | hear i outcome batch b' hb hlead hi => exact hpaired.set hi nofun nofun
  | finish => exact hpaired
  | work i folder e e' b' changes hfolder hi hwork =>
    cases hwork with
    | start | refuse | find | miss =>
      rw [List.append_nil]
      exact hpaired.set hi nofun nofun
    | write c r => exact hpaired.write halone hi (hs.told _ (List.mem_of_getElem? hi))
    | complete name r => exact hpaired.complete halone hi

theorem paired_runWith (watch : Watch σ) (sources : Sources) (repository : Path) (b : Workbench σ)
    (moves : List Move) :
    Paired sources repository b.taxonomy ((start sources b).runWith 1 watch sources repository moves).errands
      ((start sources b).runWith 1 watch sources repository moves).written := by
  have hstart : Paired sources repository b.taxonomy (start sources b).errands (start sources b).written := by
    refine .whole [] (fun e he => absurd he List.not_mem_nil) fun i name r hi => ?_
    obtain ⟨folder, -, hunsent⟩ := List.mem_map.mp (List.mem_of_getElem? hi)
    cases hunsent
  have hall : let crew := (start sources b).runWith 1 watch sources repository moves
      Sound sources repository b crew ∧ crew.underWay ≤ 1 ∧
        Paired sources repository b.taxonomy crew.errands crew.written := by
    refine runWith_induction (P := fun crew => Sound sources repository b crew ∧ crew.underWay ≤ 1 ∧
      Paired sources repository b.taxonomy crew.errands crew.written) ?_ ?_ moves
    · exact ⟨sound_start sources repository b, underWay_runWith 1 watch sources repository b [], hstart⟩
    · rintro crew crew' move ⟨hs, halone, hpaired⟩ h
      have hstep := step_of_stepWith h
      exact ⟨hs.step hstep, (stepWith_eq_some_iff.mp h).2, hpaired.step hs halone hstep⟩
  exact hall.2.2

theorem replay_changesOf (s : Store) (pairs : List (Component × ApiReference)) :
    s.replay (pairs.flatMap changesOf) = pairs.foldl Store.install s := by
  induction pairs generalizing s with
  | nil => rfl
  | cons e pairs ih => exact ih _

/-- Where the phase ends with a single worker, he has written the entries of some folders. -/
theorem exists_pairs_of_ended {moves : List Move} {result : Except Failure Tally}
    (hlead : ((start sources b).runWith 1 watch sources repository moves).lead = .ended result) :
    ∃ pairs : List (Component × ApiReference), (∀ e ∈ pairs, sources.Gives repository b.taxonomy e.1 e.2) ∧
      ((start sources b).runWith 1 watch sources repository moves).written = pairs.flatMap changesOf := by
  have hidle := closed_runWith 1 watch sources repository b moves (by rw [hlead]; rfl)
  have hpaired := paired_runWith watch sources repository b moves
  generalize hwritten : ((start sources b).runWith 1 watch sources repository moves).written = written at hpaired
  cases hpaired with
  | half pairs hgives c r hgive i hi => cases hidle _ (List.mem_of_getElem? hi)
  | whole pairs hgives hnone => exact ⟨pairs, hgives, rfl⟩

end Crew
end Catalog
