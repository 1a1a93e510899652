import Catalog.Proofs.Index.Turn
import Mathlib.Order.Monotone.Basic

/-! Callers share builds: in every run one builds at a time, an answer is the caller's own summary or that of the
latest build that succeeded since he came, nobody builds for whom another has built, and everybody else does. -/
namespace Catalog.Turns

open Progression

variable {t : Turns} {moves : ℕ → ℕ × Move} {n r p q i j : ℕ} {m : Move} {s : Summary}

def Makes (t : Turns) (moves : ℕ → ℕ × Move) (n i : ℕ) (m : Move) : Prop :=
  moves n = (i, m) ∧ ((t.after moves n).step i m).isSome = true

def Publishes (t : Turns) (moves : ℕ → ℕ × Move) (n i : ℕ) (s : Summary) : Prop :=
  ∃ now, t.Makes moves n i (.publish now) ∧ (t.after moves n).placeOf i = .publishing s

def generation (t : Turns) (moves : ℕ → ℕ × Move) (n : ℕ) : ℕ :=
  (t.after moves n).index.generation

/-- At a time nothing is done but setting a cancel flag, or one caller makes a step of his own. -/
theorem tick (t : Turns) (moves : ℕ → ℕ × Move) (n : ℕ) :
    ((∀ i m, t.Makes moves n i m → m = .stop) ∧ (t.after moves (n + 1)).index = (t.after moves n).index ∧
        ∀ j, (t.after moves (n + 1)).placeOf j = (t.after moves n).placeOf j) ∨
      ∃ i m, t.Makes moves n i m ∧
        Advance (t.after moves n).index ((t.after moves n).placeOf i) m (t.after moves (n + 1)).index
          ((t.after moves (n + 1)).placeOf i) ∧
        ∀ j, j ≠ i → (t.after moves (n + 1)).placeOf j = (t.after moves n).placeOf j := by
  cases h : (t.after moves n).step (moves n).1 (moves n).2 with
  | none =>
    left
    refine ⟨fun i m hm => ?_, by simp [after, h], by simp [after, h]⟩
    have hs := hm.2
    rw [hm.1] at h
    simp [h] at hs
  | some t' =>
    have ht : t.after moves (n + 1) = t' := by simp [after, h]
    rw [ht]
    rcases step_cases h with ⟨hstop, hix, hp⟩ | ⟨ha, hp⟩
    · left
      refine ⟨fun i m hm => ?_, hix, hp⟩
      rwa [hm.1] at hstop
    · right
      exact ⟨(moves n).1, (moves n).2, ⟨rfl, by simp [h]⟩, ha, hp⟩

/-- At a time a caller stays where he is, or makes a step of his own. -/
theorem tick_place (t : Turns) (moves : ℕ → ℕ × Move) (n i : ℕ) :
    (t.after moves (n + 1)).placeOf i = (t.after moves n).placeOf i ∨
      ∃ m, t.Makes moves n i m ∧
        Advance (t.after moves n).index ((t.after moves n).placeOf i) m (t.after moves (n + 1)).index
          ((t.after moves (n + 1)).placeOf i) := by
  rcases tick t moves n with ⟨-, -, hp⟩ | ⟨i', m, hmake, ha, hp⟩
  · exact .inl (hp i)
  · by_cases hi : i = i'
    · subst hi
      exact .inr ⟨m, hmake, ha⟩
    · exact .inl (hp i hi)

theorem Makes.unique {m' : Move} (h : t.Makes moves n i m) (h' : t.Makes moves n j m') : i = j ∧ m = m' :=
  Prod.mk.inj (h.1.symm.trans h'.1)

theorem Makes.advance (h : t.Makes moves n i m) (hm : m ≠ .stop) :
    Advance (t.after moves n).index ((t.after moves n).placeOf i) m (t.after moves (n + 1)).index
        ((t.after moves (n + 1)).placeOf i) ∧
      ∀ j, j ≠ i → (t.after moves (n + 1)).placeOf j = (t.after moves n).placeOf j := by
  rcases tick t moves n with ⟨hstop, -⟩ | ⟨i', m', hmake, ha, hp⟩
  · exact absurd (hstop i m h) hm
  · obtain ⟨rfl, rfl⟩ := h.unique hmake
    exact ⟨ha, hp⟩

theorem rank_le_succ (t : Turns) (moves : ℕ → ℕ × Move) (n i : ℕ) :
    ((t.after moves n).placeOf i).rank ≤ ((t.after moves (n + 1)).placeOf i).rank := by
  rcases tick_place t moves n i with hp | ⟨m, -, ha⟩
  · exact (congrArg rank hp).ge
  · exact ha.rank_lt.le

theorem rank_mono (t : Turns) (moves : ℕ → ℕ × Move) (i : ℕ) :
    Monotone fun n => ((t.after moves n).placeOf i).rank :=
  monotone_nat_of_le_succ fun n => rank_le_succ t moves n i

/-- A caller makes his steps one after another, further and further. -/
theorem Makes.rank_lt (h : t.Makes moves n i m) (hm : m ≠ .stop) (hq : n < q) :
    ((t.after moves n).placeOf i).rank < ((t.after moves q).placeOf i).rank :=
  (h.advance hm).1.rank_lt.trans_le (rank_mono t moves i hq)

theorem Makes.read (h : t.Makes moves n i .read) :
    (t.after moves n).placeOf i = .outside ∧
      (t.after moves (n + 1)).placeOf i = .arriving (t.generation moves n) := by
  have ha := (h.advance Move.noConfusion).1
  generalize (t.after moves n).placeOf i = p, (t.after moves (n + 1)).placeOf i = p',
    (t.after moves (n + 1)).index = ix' at ha
  cases ha
  exact ⟨rfl, rfl⟩

theorem Makes.read_unique (h : t.Makes moves r i .read) (h' : t.Makes moves q i .read) : r = q := by
  by_contra hne
  rcases Nat.lt_or_gt_of_ne hne with hlt | hlt
  · have hr := h.rank_lt Move.noConfusion hlt
    simp [h.read.1, h'.read.1] at hr
  · have hr := h'.rank_lt Move.noConfusion hlt
    simp [h.read.1, h'.read.1] at hr

/-- The count grows by one where a summary is published, and only there. -/
theorem generation_succ (t : Turns) (moves : ℕ → ℕ × Move) (n : ℕ) :
    (∃ i s, t.Publishes moves n i s ∧ t.generation moves (n + 1) = t.generation moves n + 1 ∧
        (t.after moves (n + 1)).index.lastSummary = some s) ∨
      ((∀ i s, ¬ t.Publishes moves n i s) ∧ t.generation moves (n + 1) = t.generation moves n ∧
        (t.after moves (n + 1)).index.lastSummary = (t.after moves n).index.lastSummary) := by
  rcases tick t moves n with ⟨hstop, hix, -⟩ | ⟨i, m, hmake, ha, -⟩
  · right
    refine ⟨?_, by rw [generation, hix, generation], by rw [hix]⟩
    rintro i s ⟨now, hm, -⟩
    exact Move.noConfusion (hstop i _ hm)
  · rcases ha.generation_cases with ⟨s, now, rfl, hp, hg, hl⟩ | ⟨hno, hg, hl⟩
    · exact .inl ⟨i, s, ⟨now, hmake, hp⟩, hg, hl⟩
    · refine .inr ⟨?_, hg, hl⟩
      rintro j s ⟨now, hm, -⟩
      exact hno now (hmake.unique hm).2

theorem generation_mono (t : Turns) (moves : ℕ → ℕ × Move) : Monotone (t.generation moves) := by
  refine monotone_nat_of_le_succ fun n => ?_
  rcases generation_succ t moves n with ⟨i, s, -, hg, -⟩ | ⟨-, hg, -⟩ <;> omega

theorem Publishes.generation_lt (h : t.Publishes moves p i s) (hpn : p < n) :
    t.generation moves p < t.generation moves n := by
  have hn : t.generation moves (p + 1) ≤ t.generation moves n := generation_mono t moves hpn
  rcases generation_succ t moves p with ⟨j, s', -, hg, -⟩ | ⟨hno, -, -⟩
  · omega
  · exact absurd h (hno i s)

/-- The count stands still while nothing is published. -/
theorem generation_eq (hrn : r ≤ n) (hno : ∀ q, r ≤ q → q < n → ∀ j s, ¬ t.Publishes moves q j s) :
    t.generation moves n = t.generation moves r := by
  induction n, hrn using Nat.le_induction with
  | base => rfl
  | succ n hrn ih =>
    rcases generation_succ t moves n with ⟨j, s, hp, -, -⟩ | ⟨-, hg, -⟩
    · exact absurd hp (hno n hrn n.lt_succ_self j s)
    · exact hg.trans (ih fun q hq hqn => hno q hq (hqn.trans n.lt_succ_self))

/-- Where the count has grown, the index holds the summary that was published last. -/
theorem latest_publication (hrn : r ≤ n) (hg : t.generation moves n ≠ t.generation moves r) :
    ∃ p j s, r ≤ p ∧ p < n ∧ t.Publishes moves p j s ∧ (t.after moves n).index.lastSummary = some s ∧
      ∀ q, p < q → q < n → ∀ j s, ¬ t.Publishes moves q j s := by
  induction n, hrn using Nat.le_induction with
  | base => exact absurd rfl hg
  | succ n hrn ih =>
    rcases generation_succ t moves n with ⟨j, s, hp, -, hl⟩ | ⟨hno, hgn, hl⟩
    · exact ⟨n, j, s, hrn, n.lt_succ_self, hp, hl, fun q hq hqn => absurd hqn (by omega)⟩
    · obtain ⟨p, j, s, hrp, hpn, hp, hs, hlast⟩ := ih (hgn ▸ hg)
      refine ⟨p, j, s, hrp, hpn.trans n.lt_succ_self, hp, hl.trans hs, fun q hq hqn => ?_⟩
      rcases (Nat.lt_succ_iff_lt_or_eq).mp hqn with hlt | rfl
      · exact hlast q hq hlt
      · exact hno

/-- A generation that a caller still holds is the one at which he came. -/
theorem exists_read (h0 : ∀ i, t.placeOf i = .outside) {g : ℕ}
    (hg : ((t.after moves n).placeOf i).observed? = some g) :
    ∃ r, r < n ∧ t.Makes moves r i .read ∧ t.generation moves r = g := by
  induction n with
  | zero => simp [after, h0, observed?] at hg
  | succ n ih =>
    have hold (hg : ((t.after moves n).placeOf i).observed? = some g) :
        ∃ r, r < n + 1 ∧ t.Makes moves r i .read ∧ t.generation moves r = g := by
      obtain ⟨r, hr, hread, hgr⟩ := ih hg
      exact ⟨r, hr.trans n.lt_succ_self, hread, hgr⟩
    rcases tick_place t moves n i with hp | ⟨m, hmake, ha⟩
    · exact hold (hp ▸ hg)
    · rcases ha.observed_cases hg with ⟨rfl, hgn⟩ | hgn
      · exact ⟨n, n.lt_succ_self, hmake, hgn⟩
      · exact hold hgn

/-- Whoever has the turn while something is published publishes it. -/
theorem Publishes.holder (hs : t.Sound) (h : t.Publishes moves n j s)
    (hi : ((t.after moves n).placeOf i).hasTurn = true) : (t.after moves n).placeOf i = .publishing s := by
  obtain ⟨now, -, hj⟩ := h
  have hj' : ((t.after moves n).placeOf j).hasTurn = true := by rw [hj]; rfl
  rw [← ((hs.after moves n) j hj').2 i hi] at hj
  exact hj

/-- A caller who builds has decided so, at the generation that he came at. -/
theorem exists_decide (h0 : ∀ i, t.placeOf i = .outside) {g : ℕ}
    (hn : (t.after moves n).placeOf i = .building g) :
    ∃ d, d < n ∧ (t.after moves d).placeOf i = .deciding g ∧ t.generation moves d = g := by
  induction n with
  | zero => simp [after, h0] at hn
  | succ n ih =>
    have hold (hn : (t.after moves n).placeOf i = .building g) :
        ∃ d, d < n + 1 ∧ (t.after moves d).placeOf i = .deciding g ∧ t.generation moves d = g := by
      obtain ⟨d, hd, hdec, hg⟩ := ih hn
      exact ⟨d, hd.trans n.lt_succ_self, hdec, hg⟩
    rcases tick_place t moves n i with hp | ⟨m, hmake, ha⟩
    · exact hold (hp ▸ hn)
    · rw [hn] at ha
      generalize hb : (t.after moves n).placeOf i = b, (t.after moves (n + 1)).index = ix' at ha
      cases ha with
      | enter _ hg => exact ⟨n, n.lt_succ_self, hb, hg⟩

/-- A caller who is gone has given the turn back with his answer, or never had it. -/
theorem exists_release (h0 : ∀ i, t.placeOf i = .outside) {a : Except Failure Summary}
    (hn : (t.after moves n).placeOf i = .gone a) :
    (∃ e, e < n ∧ t.Makes moves e i .release ∧ (t.after moves e).placeOf i = .leaving a) ∨
      a = .error .buildCancelled := by
  induction n with
  | zero => simp [after, h0] at hn
  | succ n ih =>
    have hold (hn : (t.after moves n).placeOf i = .gone a) :
        (∃ e, e < n + 1 ∧ t.Makes moves e i .release ∧ (t.after moves e).placeOf i = .leaving a) ∨
          a = .error .buildCancelled := by
      refine (ih hn).imp_left ?_
      rintro ⟨e, he, hrel, hleave⟩
      exact ⟨e, he.trans n.lt_succ_self, hrel, hleave⟩
    rcases tick_place t moves n i with hp | ⟨m, hmake, ha⟩
    · exact hold (hp ▸ hn)
    · rw [hn] at ha
      generalize hb : (t.after moves n).placeOf i = b, (t.after moves (n + 1)).index = ix' at ha
      cases ha with
      | refuse g => exact .inr rfl
      | giveUp g => exact .inr rfl
      | release => exact .inl ⟨n, n.lt_succ_self, hmake, hb⟩

/-- A caller who leaves with a summary has published it, or it is the latest that was published, and that after he
came. -/
theorem leaving_ok (hs : t.Sound) (h0 : ∀ i, t.placeOf i = .outside)
    (hn : (t.after moves n).placeOf i = .leaving (.ok s)) :
    (∃ p, p < n ∧ t.Publishes moves p i s) ∨
      ∃ r p, r < p ∧ p < n ∧ t.Makes moves r i .read ∧ (∃ j, t.Publishes moves p j s) ∧
        ∀ q, p < q → q < n → ∀ j s, ¬ t.Publishes moves q j s := by
  induction n with
  | zero => simp [after, h0] at hn
  | succ n ih =>
    -- nothing is published at a time at which the caller has the turn and does not publish himself
    have hquiet {p : ℕ} (hlast : ∀ q, p < q → q < n → ∀ j s, ¬ t.Publishes moves q j s)
        (hturn : ((t.after moves n).placeOf i).hasTurn = true)
        (hno : ∀ s, (t.after moves n).placeOf i ≠ .publishing s) :
        ∀ q, p < q → q < n + 1 → ∀ j s, ¬ t.Publishes moves q j s := by
      intro q hq hqn j s' hpub
      rcases Nat.lt_succ_iff_lt_or_eq.mp hqn with hlt | rfl
      · exact hlast q hq hlt j s' hpub
      · exact hno s' (hpub.holder hs hturn)
    have hold (hn : (t.after moves n).placeOf i = .leaving (.ok s)) :
        (∃ p, p < n + 1 ∧ t.Publishes moves p i s) ∨
          ∃ r p, r < p ∧ p < n + 1 ∧ t.Makes moves r i .read ∧ (∃ j, t.Publishes moves p j s) ∧
            ∀ q, p < q → q < n + 1 → ∀ j s, ¬ t.Publishes moves q j s := by
      rcases ih hn with ⟨p, hp, hpub⟩ | ⟨r, p, hrp, hpn, hread, hpub, hlast⟩
      · exact .inl ⟨p, hp.trans n.lt_succ_self, hpub⟩
      · exact .inr ⟨r, p, hrp, hpn.trans n.lt_succ_self, hread, hpub, hquiet hlast (by rw [hn]; rfl) (by simp [hn])⟩
    rcases tick_place t moves n i with hp | ⟨m, hmake, ha⟩
    · exact hold (hp ▸ hn)
    · rw [hn] at ha
      generalize hb : (t.after moves n).placeOf i = b, (t.after moves (n + 1)).index = ix',
        hl : Progression.leaving (.ok s) = b' at ha
      cases ha with
      | reuse g hg =>
        right
        obtain ⟨r, hr, hread, hgr⟩ := exists_read h0 (by rw [hb]; rfl)
        obtain ⟨p, j, s', hrp, hpn, hpub, hsum, hlast⟩ := latest_publication hr.le (hgr ▸ hg)
        have hs' : s' = s := by simpa [hsum] using hl.symm
        subst hs'
        have hne : r ≠ p := by
          rintro rfl
          obtain ⟨now, hmp, -⟩ := hpub
          exact Move.noConfusion (hread.unique hmp).2
        have hquiet' := hquiet hlast (by rw [hb]; rfl) (by simp [hb])
        exact ⟨r, p, by omega, hpn.trans n.lt_succ_self, hread, ⟨j, hpub⟩, hquiet'⟩
      | publish s' now =>
        left
        cases hl
        exact ⟨n, n.lt_succ_self, now, hmake, hb⟩
      | _ => cases hl

theorem Makes.take (h : t.Makes moves n i .take) :
    ∃ g, (t.after moves n).placeOf i = .waiting g ∧ (t.after moves (n + 1)).placeOf i = .deciding g := by
  have ha := (h.advance Move.noConfusion).1
  generalize (t.after moves n).placeOf i = p, (t.after moves (n + 1)).placeOf i = p',
    (t.after moves (n + 1)).index = ix' at ha
  cases ha with
  | take g hfree => exact ⟨g, rfl, rfl⟩

/-- A caller who decides at the generation that he came at builds. -/
theorem step_decide {g : ℕ} (hp : t.placeOf i = .deciding g) (hg : t.index.generation = g) :
    ∃ t', t.step i .decide = some t' ∧ (t'.placeOf i).isBuilding = true := by
  cases hc : t.callers[i]? with
  | none => simp [placeOf, hc] at hp
  | some c =>
    have hplace : c.place = .deciding g := by simpa [placeOf, hc] using hp
    have hlt : i < t.callers.length := (List.getElem?_eq_some_iff.mp hc).1
    refine ⟨⟨t.index.enter, t.callers.set i { c with place := .building g }⟩, ?_, ?_⟩
    · simp [step, hc, Caller.step, hplace, advance, hg]
    · simp [placeOf, hlt, isBuilding]

/-- A caller who has not taken the turn is on his way to it, or was cancelled. -/
theorem place_without_turn (h0 : ∀ i, t.placeOf i = .outside)
    (hno : ∀ q, q < n → ¬ t.Makes moves q i .take) :
    ((t.after moves n).placeOf i).rank < 3 ∨ (t.after moves n).placeOf i = .gone (.error .buildCancelled) := by
  induction n with
  | zero => simp [after, h0, rank]
  | succ n ih =>
    have hold := ih fun q hq => hno q (hq.trans n.lt_succ_self)
    rcases tick_place t moves n i with hp | ⟨m, hmake, ha⟩
    · rwa [hp]
    · have hm : m ≠ .take := fun e => hno n n.lt_succ_self (e ▸ hmake)
      generalize (t.after moves n).placeOf i = p, (t.after moves (n + 1)).placeOf i = p',
        (t.after moves (n + 1)).index = ix' at ha hold ⊢
      cases ha with
      | read => exact .inl (by simp [rank])
      | arrive g => exact .inl (by simp [rank])
      | refuse g => exact .inr rfl
      | giveUp g => exact .inr rfl
      | take g hfree => exact absurd rfl hm
      | _ => simp [rank] at hold

/-- Whoever has not taken the turn changes neither the index nor another caller. -/
theorem step_without_turn (h0 : ∀ i, t.placeOf i = .outside) (hmake : t.Makes moves n i m)
    (hno : ∀ q, q ≤ n → ¬ t.Makes moves q i .take) :
    (t.after moves (n + 1)).index = (t.after moves n).index ∧
      ∀ j, j ≠ i → (t.after moves (n + 1)).placeOf j = (t.after moves n).placeOf j := by
  rcases tick t moves n with ⟨-, hix, hp⟩ | ⟨i', m', hmake', ha, hp⟩
  · exact ⟨hix, fun j _ => hp j⟩
  · obtain ⟨rfl, rfl⟩ := hmake.unique hmake'
    refine ⟨?_, hp⟩
    have hm : m ≠ .take := fun e => hno n le_rfl (e ▸ hmake)
    rcases place_without_turn h0 fun q hq => hno q hq.le with hr | hgone
    · exact ha.index_eq hr hm
    · rw [hgone] at ha
      cases ha

/-- What callers can rely on in a run. -/
structure Coalesces (t : Turns) (moves : ℕ → ℕ × Move) : Prop where
  /-- At most one caller is inside a build. -/
  exclusive : ∀ n i j, ((t.after moves n).placeOf i).isBuilding = true →
    ((t.after moves n).placeOf j).isBuilding = true → i = j
  /-- A caller with a summary has published it, or it is that of the latest success, which came after him. -/
  answered : ∀ n i s, (t.after moves n).placeOf i = .gone (.ok s) →
    (∃ p, p < n ∧ t.Publishes moves p i s) ∨
      ∃ r p e, r < p ∧ p < e ∧ e < n ∧ t.Makes moves r i .read ∧ (∃ j, t.Publishes moves p j s) ∧
        t.Makes moves e i .release ∧ ∀ q, p < q → q < e → ∀ j s, ¬ t.Publishes moves q j s
  /-- A caller with a success between his coming and his turn never builds. -/
  served : ∀ i r p q j s, t.Makes moves r i .read → t.Publishes moves p j s → t.Makes moves q i .take →
    r < p → p < q → ∀ n, ((t.after moves n).placeOf i).isBuilding = false
  /-- A caller without a success between his coming and his turn decides to build. -/
  unserved : ∀ i r q, t.Makes moves r i .read → t.Makes moves q i .take →
    (∀ p, r < p → p < q → ∀ j s, ¬ t.Publishes moves p j s) →
    (∃ g, (t.after moves (q + 1)).placeOf i = .deciding g) ∧
      ∀ n g, (t.after moves n).placeOf i = .deciding g →
        ∃ t', (t.after moves n).step i .decide = some t' ∧ (t'.placeOf i).isBuilding = true
  /-- A caller who is gone without his turn was cancelled, and has changed neither the index nor another caller. -/
  withdrawn : ∀ n i a, (t.after moves n).placeOf i = .gone a → (∀ q, q < n → ¬ t.Makes moves q i .take) →
    a = .error .buildCancelled ∧ ∀ q m, q < n → t.Makes moves q i m →
      (t.after moves (q + 1)).index = (t.after moves q).index ∧
        ∀ j, j ≠ i → (t.after moves (q + 1)).placeOf j = (t.after moves q).placeOf j

private theorem hasTurn_of_isBuilding {p : Progression} (h : p.isBuilding = true) : p.hasTurn = true := by
  cases p with
  | building g => rfl
  | _ => cases h

private theorem eq_deciding_of_rank {p : Progression} (h : p.rank = 3) : ∃ g, p = .deciding g := by
  cases p with
  | deciding g => exact ⟨g, rfl⟩
  | _ => cases h

/-- A caller decides after he has taken the turn. -/
theorem Makes.take_lt {g : ℕ} (h : t.Makes moves q i .take) (hn : (t.after moves n).placeOf i = .deciding g) :
    q < n := by
  obtain ⟨g', hq, -⟩ := h.take
  by_contra hnq
  have hr : ((t.after moves n).placeOf i).rank ≤ ((t.after moves q).placeOf i).rank :=
    rank_mono t moves i (not_lt.mp hnq)
  simp [hn, hq, rank] at hr

/-- Nobody publishes between the time a caller takes the turn and the time he decides. -/
theorem not_publishes_of_deciding {g : ℕ} (hs : t.Sound) (hq : t.Makes moves q i .take)
    (hn : (t.after moves n).placeOf i = .deciding g) (hqp : q ≤ p) (hpn : p < n) : ¬ t.Publishes moves p j s := by
  intro hpub
  rcases hqp.eq_or_lt with rfl | hlt
  · obtain ⟨now, hmake, -⟩ := hpub
    exact Move.noConfusion (hq.unique hmake).2
  obtain ⟨g', -, hg'⟩ := hq.take
  have hlow : ((t.after moves (q + 1)).placeOf i).rank ≤ ((t.after moves p).placeOf i).rank :=
    rank_mono t moves i hlt
  have hhigh : ((t.after moves p).placeOf i).rank ≤ ((t.after moves n).placeOf i).rank :=
    rank_mono t moves i hpn.le
  rw [hg'] at hlow
  rw [hn] at hhigh
  obtain ⟨g'', hp⟩ := eq_deciding_of_rank (le_antisymm hhigh hlow)
  have hholder := hpub.holder hs (by rw [hp]; rfl)
  rw [hp] at hholder
  cases hholder

/-- A caller who builds came at the generation at which he decided, and decided after he had taken the turn. -/
theorem generation_of_building (h0 : ∀ i, t.placeOf i = .outside) (hr : t.Makes moves r i .read)
    (hq : t.Makes moves q i .take) (hn : ((t.after moves n).placeOf i).isBuilding = true) :
    ∃ d, q < d ∧ t.generation moves d = t.generation moves r := by
  obtain ⟨g, hb⟩ : ∃ g, (t.after moves n).placeOf i = .building g := by
    cases hp : (t.after moves n).placeOf i with
    | building g => exact ⟨g, rfl⟩
    | _ => rw [hp] at hn; cases hn
  obtain ⟨d, -, hd, hgd⟩ := exists_decide h0 hb
  obtain ⟨r', -, hr', hgr⟩ := exists_read h0 (by rw [hd]; rfl)
  cases hr.read_unique hr'
  exact ⟨d, hq.take_lt hd, hgd.trans hgr.symm⟩

/-- However many callers ask for a build, at an index in any state, and in whatever order they make their steps: they
share builds. -/
theorem coalesces_start (ix : Index) (flags : List (Option Bool)) (moves : ℕ → ℕ × Move) :
    (start ix flags).Coalesces moves := by
  have hs := sound_start ix flags
  have h0 := placeOf_start ix flags
  refine ⟨?exclusive, ?answered, ?served, ?unserved, ?withdrawn⟩
  case exclusive =>
    intro n i j hi hj
    exact ((hs.after moves n) j (hasTurn_of_isBuilding hj)).2 i (hasTurn_of_isBuilding hi)
  case answered =>
    intro n i s hn
    rcases exists_release h0 hn with ⟨e, hen, hrel, hleave⟩ | hcancelled
    · rcases leaving_ok hs h0 hleave with ⟨p, hpe, hpub⟩ | ⟨r, p, hrp, hpe, hread, hpub, hlast⟩
      · exact .inl ⟨p, hpe.trans hen, hpub⟩
      · exact .inr ⟨r, p, e, hrp, hpe, hen, hread, hpub, hrel, hlast⟩
    · cases hcancelled
  case served =>
    intro i r p q j s hread hpub htake hrp hpq n
    by_contra hn
    obtain ⟨d, hqd, hg⟩ := generation_of_building h0 hread htake (by simpa using hn)
    have hlt := hpub.generation_lt (hpq.trans hqd)
    have hle := generation_mono (start ix flags) moves hrp.le
    omega
  case unserved =>
    intro i r q hread htake hno
    obtain ⟨g, -, hg⟩ := htake.take
    refine ⟨⟨g, hg⟩, fun n g' hn => step_decide hn ?_⟩
    obtain ⟨r', hr'n, hread', hg'⟩ := exists_read h0 (by rw [hn]; rfl)
    cases hread.read_unique hread'
    refine (generation_eq hr'n.le fun p hrp hpn j s hpub => ?_).trans hg'
    rcases hrp.eq_or_lt with rfl | hlt
    · obtain ⟨now, hmake, -⟩ := hpub
      exact Move.noConfusion (hread.unique hmake).2
    rcases Nat.lt_or_ge p q with hpq | hqp
    · exact hno p hlt hpq j s hpub
    · exact not_publishes_of_deciding hs htake hn hqp hpn hpub
  case withdrawn =>
    intro n i a hn hno
    constructor
    · rcases place_without_turn h0 hno with hr | hgone
      · simp [hn, rank] at hr
      · exact Progression.gone.inj (hn.symm.trans hgone)
    · intro q m hq hmake
      exact step_without_turn h0 hmake fun q' hq' => hno q' (hq'.trans_lt hq)

end Catalog.Turns
