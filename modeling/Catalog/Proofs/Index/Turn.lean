import Catalog.Index.Turn
import Mathlib.Tactic.Common

/-! Callers that ask for a build at the same time: what one step does, what a run in any order of steps does, and
that at most one caller has the turn. -/
namespace Catalog

namespace Progression

inductive Advance (ix : Index) : Progression → Move → Index → Progression → Prop
  | read : Advance ix outside .read ix (arriving ix.generation)
  | refuse (g : ℕ) : Advance ix (arriving g) .arrive ix (gone (.error .buildCancelled))
  | arrive (g : ℕ) : Advance ix (arriving g) .arrive ix (waiting g)
  | giveUp (g : ℕ) : Advance ix (waiting g) .giveUp ix (gone (.error .buildCancelled))
  | take (g : ℕ) (hfree : ix.isTaken = false) : Advance ix (waiting g) .take ix.take (deciding g)
  | reuse (g : ℕ) (hg : ix.generation ≠ g) :
      Advance ix (deciding g) .decide ix (leaving (ix.lastSummary.elim (.error .notBuilt) .ok))
  | enter (g : ℕ) (hg : ix.generation = g) : Advance ix (deciding g) .decide ix.enter (building g)
  | succeed (g : ℕ) (store : Store) (taxonomy : Taxonomy) (summary : Summary) :
      Advance ix (building g) (.finish store taxonomy (.ok summary)) (ix.fill store taxonomy) (publishing summary)
  | fail (g : ℕ) (store : Store) (taxonomy : Taxonomy) (failure : Failure) :
      Advance ix (building g) (.finish store taxonomy (.error failure)) (ix.fill store taxonomy)
        (leaving (.error failure))
  | publish (summary : Summary) (now : String) :
      Advance ix (publishing summary) (.publish now) (ix.publish summary now) (leaving (.ok summary))
  | release (answer : Except Failure Summary) : Advance ix (leaving answer) .release ix.release (gone answer)

theorem advance_of_eq_some {ix ix' : Index} {b : Bool} {p p' : Progression} {m : Move}
    (h : p.advance ix b m = some (ix', p')) : Advance ix p m ix' p' := by
  unfold advance at h
  split at h
  · cases h; exact .read
  · cases b with
    | false => cases h; exact .arrive _
    | true => cases h; exact .refuse _
  · split_ifs at h
    cases h; exact .giveUp _
  · split_ifs at h with ht
    cases h; exact .take _ (by simpa using ht)
  · split_ifs at h with hg
    · cases h; exact .reuse _ hg
    · cases h; exact .enter _ (not_not.mp hg)
  · cases h; exact .succeed _ _ _ _
  · cases h; exact .fail _ _ _ _
  · cases h; exact .publish _ _
  · cases h; exact .release _
  · cases h

/-- How far a caller has come, as a number that every step of his raises. -/
def rank : Progression → ℕ
  | outside => 0
  | arriving _ => 1
  | waiting _ => 2
  | deciding _ => 3
  | building _ => 4
  | publishing _ => 5
  | leaving _ => 6
  | gone _ => 7

/-- The generation that a caller has read and not yet used. -/
def observed? : Progression → Option ℕ
  | arriving g => some g
  | waiting g => some g
  | deciding g => some g
  | building g => some g
  | _ => none

variable {ix ix' : Index} {p p' : Progression} {m : Move}

theorem Advance.rank_lt (h : Advance ix p m ix' p') : p.rank < p'.rank := by
  cases h <;> simp [rank]

/-- Only a caller who takes the turn, or has it, changes the index. -/
theorem Advance.index_eq (h : Advance ix p m ix' p') (hp : p.rank < 3) (hm : m ≠ .take) : ix' = ix := by
  cases h <;> first | rfl | exact absurd rfl hm | simp [rank] at hp

/-- A step stays without the turn, takes it where nobody has it, keeps it, or gives it back. -/
theorem Advance.turn_cases (h : Advance ix p m ix' p') :
    (p.hasTurn = false ∧ p'.hasTurn = false ∧ ix' = ix) ∨
      (ix.isTaken = false ∧ p'.hasTurn = true ∧ ix'.isTaken = true) ∨
      (p.hasTurn = true ∧ p'.hasTurn = true ∧ ix'.isTaken = ix.isTaken) ∨
      (p.hasTurn = true ∧ p'.hasTurn = false ∧ ix'.isTaken = false) := by
  cases h with
  | read => exact .inl ⟨rfl, rfl, rfl⟩
  | refuse g => exact .inl ⟨rfl, rfl, rfl⟩
  | arrive g => exact .inl ⟨rfl, rfl, rfl⟩
  | giveUp g => exact .inl ⟨rfl, rfl, rfl⟩
  | take g hfree => exact .inr (.inl ⟨hfree, rfl, rfl⟩)
  | reuse g hg => exact .inr (.inr (.inl ⟨rfl, rfl, rfl⟩))
  | enter g hg => exact .inr (.inr (.inl ⟨rfl, rfl, rfl⟩))
  | succeed g store taxonomy summary => exact .inr (.inr (.inl ⟨rfl, rfl, rfl⟩))
  | fail g store taxonomy failure => exact .inr (.inr (.inl ⟨rfl, rfl, rfl⟩))
  | publish summary now => exact .inr (.inr (.inl ⟨rfl, rfl, rfl⟩))
  | release answer => exact .inr (.inr (.inr ⟨rfl, rfl, rfl⟩))

/-- A step counts a build by publishing its summary, or leaves the count and the summary alone. -/
theorem Advance.generation_cases (h : Advance ix p m ix' p') :
    (∃ s now, m = .publish now ∧ p = publishing s ∧ ix'.generation = ix.generation + 1 ∧ ix'.lastSummary = some s) ∨
      ((∀ now, m ≠ .publish now) ∧ ix'.generation = ix.generation ∧ ix'.lastSummary = ix.lastSummary) := by
  cases h with
  | publish summary now => exact .inl ⟨summary, now, rfl, rfl, rfl, rfl⟩
  | _ => exact .inr ⟨fun _ => Move.noConfusion, rfl, rfl⟩

theorem Advance.isIndexed_cases (h : Advance ix p m ix' p') :
    (∃ summary now, m = .publish now ∧ p = .publishing summary) ∨ ix'.isIndexed = ix.isIndexed := by
  cases h with
  | publish summary now => exact .inl ⟨summary, now, rfl, rfl⟩
  | _ => exact .inr rfl

theorem Advance.observed_cases {g : ℕ} (h : Advance ix p m ix' p') (hg : p'.observed? = some g) :
    (m = .read ∧ ix.generation = g) ∨ p.observed? = some g := by
  cases h <;> simp_all [observed?]

end Progression

namespace Turns

open Progression

def placeOf (t : Turns) (i : ℕ) : Progression :=
  (t.callers[i]?).elim .outside Caller.place

/-- What a step does: it is the caller's own, or somebody sets his cancel flag. -/
theorem step_cases {t t' : Turns} {i : ℕ} {m : Move} (h : t.step i m = some t') :
    (m = .stop ∧ t'.index = t.index ∧ ∀ j, t'.placeOf j = t.placeOf j) ∨
      (Advance t.index (t.placeOf i) m t'.index (t'.placeOf i) ∧ ∀ j, j ≠ i → t'.placeOf j = t.placeOf j) := by
  obtain ⟨c, hc, h⟩ := Option.bind_eq_some_iff.mp h
  obtain ⟨⟨ix, c'⟩, hs, h⟩ := Option.bind_eq_some_iff.mp h
  cases Option.some.inj h
  have hother (j : ℕ) (hj : j ≠ i) : (t.callers.set i c')[j]? = t.callers[j]? := List.getElem?_set_ne hj.symm
  have hlt : i < t.callers.length := (List.getElem?_eq_some_iff.mp hc).1
  have hself : (t.callers.set i c')[i]? = some c' := List.getElem?_set_self hlt
  have hstop : m = .stop ∨ m ≠ .stop := em _
  rcases hstop with rfl | hm
  · left
    obtain ⟨b, -, hb⟩ := Option.map_eq_some_iff.mp hs
    cases hb
    refine ⟨rfl, rfl, fun j => ?_⟩
    by_cases hj : j = i
    · subst hj; simp [placeOf, hself, hc]
    · simp [placeOf, hother j hj]
  · right
    have hs' : (c.place.advance t.index c.isCancelled m).map
        (fun r => (r.1, { c with place := r.2 })) = some (ix, c') := by
      cases m <;> first | exact absurd rfl hm | exact hs
    obtain ⟨⟨ix', p'⟩, ha, hb⟩ := Option.map_eq_some_iff.mp hs'
    cases hb
    refine ⟨?_, fun j hj => by simp [placeOf, hother j hj]⟩
    simpa [placeOf, hself, hc] using advance_of_eq_some ha

/-- A turn that somebody has is taken, and nobody else has it. -/
def Sound (t : Turns) : Prop :=
  ∀ i, (t.placeOf i).hasTurn = true → t.index.isTaken = true ∧ ∀ j, (t.placeOf j).hasTurn = true → j = i

theorem Sound.step {t t' : Turns} {i : ℕ} {m : Move} (hs : t.Sound) (h : t.step i m = some t') : t'.Sound := by
  rcases step_cases h with ⟨-, hix, hp⟩ | ⟨ha, hp⟩
  · intro j hj
    rw [hp] at hj
    exact ⟨hix ▸ (hs j hj).1, fun k hk => (hs j hj).2 k (hp k ▸ hk)⟩
  -- whoever has the turn and is not `i` had it before
  have hbefore (j : ℕ) (hne : j ≠ i) (hj : (t'.placeOf j).hasTurn = true) : (t.placeOf j).hasTurn = true :=
    hp j hne ▸ hj
  intro j hj
  rcases ha.turn_cases with ⟨-, hi, hix⟩ | ⟨hfree, -, htaken⟩ | ⟨hi, -, htaken⟩ | ⟨hi, hi', -⟩
  · have hne (k : ℕ) (hk : (t'.placeOf k).hasTurn = true) : k ≠ i := fun e => by simp [e, hi] at hk
    have hold := hs j (hbefore j (hne j hj) hj)
    exact ⟨hix ▸ hold.1, fun k hk => hold.2 k (hbefore k (hne k hk) hk)⟩
  · have hself (k : ℕ) (hk : (t'.placeOf k).hasTurn = true) : k = i := by
      by_contra hne
      have hold := (hs k (hbefore k hne hk)).1
      simp [hfree] at hold
    exact ⟨htaken, fun k hk => (hself k hk).trans (hself j hj).symm⟩
  · have hself (k : ℕ) (hk : (t'.placeOf k).hasTurn = true) : k = i := by
      by_contra hne
      exact hne ((hs i hi).2 k (hbefore k hne hk))
    exact ⟨htaken.trans (hs i hi).1, fun k hk => (hself k hk).trans (hself j hj).symm⟩
  · have hne : j ≠ i := fun e => by simp [e, hi'] at hj
    exact absurd ((hs i hi).2 j (hbefore j hne hj)) hne

/-- The callers before any step, with their cancel flags, at an index whose turn nobody has. -/
def start (ix : Index) (flags : List (Option Bool)) : Turns :=
  ⟨ix.release, flags.map fun flag => { flag := flag }⟩

/-- The state at each time of a run that tries the step `moves n` at the time `n`; a step that cannot be made is left
out. -/
def after (t : Turns) (moves : ℕ → ℕ × Move) : ℕ → Turns
  | 0 => t
  | n + 1 => ((t.after moves n).step (moves n).1 (moves n).2).getD (t.after moves n)

theorem placeOf_start (ix : Index) (flags : List (Option Bool)) (i : ℕ) :
    (start ix flags).placeOf i = .outside := by
  cases h : flags[i]? <;> simp [start, placeOf, h]

theorem sound_start (ix : Index) (flags : List (Option Bool)) : (start ix flags).Sound := by
  intro i hi
  simp [placeOf_start, hasTurn] at hi

theorem Sound.after {t : Turns} (hs : t.Sound) (moves : ℕ → ℕ × Move) (n : ℕ) : (t.after moves n).Sound := by
  induction n with
  | zero => exact hs
  | succ n ih =>
    cases h : (t.after moves n).step (moves n).1 (moves n).2 with
    | none => simpa [Turns.after, h] using ih
    | some t' => simpa [Turns.after, h] using ih.step h

end Turns
end Catalog
