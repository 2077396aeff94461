import FlipSat.Proofs.RandomCalls
import Mathlib

/-
  FlipSat: flips in any order, and flips that cancel each other.
  What a problem shows of its state (`Problem.snapshot`) is decided by its formula and its
  assignment (`Reflects.eq_of_assignment`), in whatever order the list of unsatisfied clauses may
  have come to stand. A sequence of flips inverts each value as often as its proposition occurs
  (`Reflects.truth_flipAll`), so two sequences with the same occurrences modulo 2 lead to the same
  assignment. `flips_cancel` says what follows of all reachable problems.
-/
namespace FlipSat

/-- Assignments over the same propositions are the same if they make the same of them true. -/
theorem Assignment.eq_of_truth {a b : Assignment} (h : Enumerated a.propositions)
    (hp : a.propositions = b.propositions) (ht : ∀ x ∈ a.propositions, a.truth x = b.truth x) :
    a = b := by
  refine eq_of_values hp (List.ext_getElem (by simp [a.size_eq, b.size_eq, hp]) fun i ha hb => ?_)
  have hi : i < a.propositions.size := by simpa [a.size_eq] using ha
  have hindex := h.index_eq i a.propositions[i] (Array.getElem?_eq_getElem hi)
  have htruth := ht a.propositions[i] (Array.getElem_mem hi)
  rw [truth, truth, ← hp, hindex, listPlace?_natCast, if_pos hi] at htruth
  simp only [Array.length_toList] at ha hb
  simpa [ha, hb] using htruth

/-- The values, the counts and the places of the unsatisfied clauses, for comparing states. -/
structure Snapshot where
  values : List Bool
  counts : List Int
  unsatisfied : Finset Nat
deriving DecidableEq

def Problem.snapshot (p : Problem) : Snapshot where
  values := p.assignment.values.toList
  counts := p.tally.counts.toList
  unsatisfied := p.tally.unsatisfied.members.toFinset

/-- The session after a list of flips. -/
def Session.flipAll {σ : Type} [RandomSource σ] (t : Session σ) (xs : List Proposition) :
    Session σ :=
  t.performAll (xs.map .flip)

namespace Problem

variable {σ : Type} [RandomSource σ] {p q : Problem} {f : Formula} {t : Session σ}
  {x : Proposition} {xs ys : List Proposition}

/-- Problems of one formula with one assignment look alike, whatever led to them. -/
theorem Reflects.eq_of_assignment (hp : p.Reflects f) (hq : q.Reflects f)
    (ha : p.assignment = q.assignment) :
    p.snapshot = q.snapshot ∧ p.satisfiedCount = q.satisfiedCount ∧
      ∀ x, p.delta x = q.delta x := by
  have hv : p.valuation = q.valuation := congrArg Assignment.toValuation ha
  have hcounts : p.tally.counts.toList = q.tally.counts.toList := by
    rw [hp.toList_counts, hq.toList_counts, hv]
  refine ⟨?_, ?_, fun x => ?_⟩
  · have hset : p.tally.unsatisfied.members.toFinset = q.tally.unsatisfied.members.toFinset := by
      ext i
      rw [List.mem_toFinset, List.mem_toFinset, hp.consistent.tally.set.mem_members,
        hq.consistent.tally.set.mem_members, hp.consistent.tally.mem_iff,
        hq.consistent.tally.mem_iff, Array.toList_inj.mp hcounts]
    simp only [snapshot, ha, hcounts, hset]
  · rw [hp.satisfiedCount_eq, hq.satisfiedCount_eq, hv]
  · by_cases hx : p.assignment.Knows x
    · rw [hp.delta_eq hx, hq.delta_eq (ha ▸ hx), hv]
    · rw [delta_of_not_knows hx, delta_of_not_knows (ha ▸ hx), ha]

/-! ## Sequences of flips -/

/-- One flip inverts the value of its own proposition, if it is known, and no other. -/
theorem Reflects.truth_flip (h : t.problem.Reflects f) (x : Proposition) :
    (t.perform (.flip x)).problem.assignment.propositions = t.problem.assignment.propositions ∧
      ∀ y ∈ t.problem.assignment.propositions,
        (t.perform (.flip x)).problem.assignment.truth y =
          if y = x then !t.problem.assignment.truth y else t.problem.assignment.truth y := by
  rw [Session.perform]
  rcases h.flip_cases x with ⟨hx, hq⟩ | ⟨-, q, hq, -⟩
  · rw [hq]
    refine ⟨rfl, fun y hy => ?_⟩
    have hyx : y ≠ x := by
      intro he
      exact hx (he ▸ Assignment.knows_of_mem h.consistent.enumerated hy)
    rw [if_neg hyx]
  · obtain ⟨hprops, htruth⟩ := h.truth_of_flip hq
    rw [hq]
    refine ⟨hprops, fun y hy => ?_⟩
    rw [htruth y (Assignment.knows_of_mem h.consistent.enumerated hy)]
    by_cases hyx : y = x
    · rw [if_pos hyx, if_pos hyx, hyx]
    · rw [if_neg hyx, if_neg hyx]

/-- A sequence of flips inverts the values of the propositions that occur an odd number of
    times. -/
theorem Reflects.truth_flipAll (h : t.problem.Reflects f) (xs : List Proposition) :
    (t.flipAll xs).problem.assignment.propositions = t.problem.assignment.propositions ∧
      ∀ y ∈ t.problem.assignment.propositions, (t.flipAll xs).problem.assignment.truth y =
        (t.problem.assignment.truth y ^^ decide (xs.count y % 2 = 1)) := by
  induction xs generalizing t with
  | nil => exact ⟨rfl, by simp [Session.flipAll, Session.performAll]⟩
  | cons x xs ih =>
    obtain ⟨hprops, htruth⟩ := h.truth_flip x
    obtain ⟨hrest, hall⟩ := ih (h.perform (.flip x))
    have hcons : t.flipAll (x :: xs) = (t.perform (.flip x)).flipAll xs := rfl
    rw [hcons]
    refine ⟨hrest.trans hprops, fun y hy => ?_⟩
    rw [hall y (hprops ▸ hy), htruth y hy]
    by_cases hyx : y = x
    · have hparity : ((xs.count x + 1) % 2 = 1) ↔ ¬ xs.count x % 2 = 1 := by omega
      rw [if_pos hyx, hyx, List.count_cons_self]
      simp only [hparity, decide_not]
      cases t.problem.assignment.truth x <;> simp
    · rw [if_neg hyx, List.count_cons_of_ne (Ne.symm hyx)]

/-- Sequences of flips with the same occurrences modulo 2 lead to the same assignment. -/
theorem Reflects.assignment_flipAll (h : t.problem.Reflects f)
    (hpar : ∀ x ∈ t.problem.assignment.propositions, xs.count x % 2 = ys.count x % 2) :
    (t.flipAll xs).problem.assignment = (t.flipAll ys).problem.assignment := by
  obtain ⟨hxprops, hxtruth⟩ := h.truth_flipAll xs
  obtain ⟨hyprops, hytruth⟩ := h.truth_flipAll ys
  refine Assignment.eq_of_truth (hxprops ▸ h.consistent.enumerated)
    (hxprops.trans hyprops.symm) fun x hx => ?_
  rw [hxprops] at hx
  rw [hxtruth x hx, hytruth x hx, hpar x hx]

/-- A flip of a proposition of the assignment succeeds after any flips. -/
theorem Reflects.fault_flipAll (h : t.problem.Reflects f) (xs : List Proposition)
    (hx : x ∈ t.problem.assignment.propositions) :
    ((t.flipAll xs).perform (.flip x)).fault = none := by
  have hafter : (t.flipAll xs).problem.Reflects f := h.performAll _
  have hknown : (t.flipAll xs).problem.assignment.Knows x :=
    (Assignment.knows_congr (h.truth_flipAll xs).1).mpr
      (Assignment.knows_of_mem h.consistent.enumerated hx)
  obtain ⟨q, hq, -⟩ := flip_of_knows hafter.consistent hknown
  rw [Session.perform, hq]

/-! ## Reachable problems -/

/-- Two sequences of flips of a reachable problem, in which each proposition occurs equally often
    modulo 2, lead to problems that look alike. So two flips of one proposition cancel each other,
    and flips can be reordered. -/
theorem flips_cancel (hne : ∀ c ∈ f, c ≠ []) (noise : Percent) (given : Option Valuation)
    (source : σ) :
    ∃ p s, build f (.int noise.val) given source = .ok (p, s) ∧ ∀ os : List Operation,
      let t := Session.performAll ⟨p, s, none⟩ os
      (∀ xs ys : List Proposition,
        (∀ x ∈ t.problem.assignment.propositions, xs.count x % 2 = ys.count x % 2) →
        (t.flipAll xs).problem.snapshot = (t.flipAll ys).problem.snapshot ∧
        (t.flipAll xs).problem.satisfiedCount = (t.flipAll ys).problem.satisfiedCount ∧
        ∀ x ∈ t.problem.assignment.propositions, ∃ d,
          (t.flipAll xs).problem.delta x = .ok d ∧ (t.flipAll ys).problem.delta x = .ok d) ∧
      (∀ x, (t.flipAll [x, x]).problem.snapshot = t.problem.snapshot) ∧
      (∀ xs ys : List Proposition, xs.Perm ys →
        (t.flipAll xs).problem.snapshot = (t.flipAll ys).problem.snapshot) ∧
      ∀ xs, ∀ x ∈ t.problem.assignment.propositions,
        ((t.flipAll xs).perform (.flip x)).fault = none := by
  obtain ⟨p, s, hbuild, hreach⟩ := build_performAll hne noise given source
  refine ⟨p, s, hbuild, fun os => ?_⟩
  intro t
  have ht : t.problem.Reflects f := hreach os
  have hafter : ∀ xs, (t.flipAll xs).problem.Reflects f := fun xs => ht.performAll _
  have halike (xs ys : List Proposition)
      (hpar : ∀ x ∈ t.problem.assignment.propositions, xs.count x % 2 = ys.count x % 2) :=
    (hafter xs).eq_of_assignment (hafter ys) (ht.assignment_flipAll hpar)
  refine ⟨fun xs ys hpar => ?_, fun x => ?_, fun xs ys hperm => ?_, ?_⟩
  · obtain ⟨hsnapshot, hcount, hdelta⟩ := halike xs ys hpar
    refine ⟨hsnapshot, hcount, fun x hx => ?_⟩
    have hknown : (t.flipAll xs).problem.assignment.Knows x :=
      (Assignment.knows_congr (ht.truth_flipAll xs).1).mpr
        (Assignment.knows_of_mem ht.consistent.enumerated hx)
    have hd := (hafter xs).delta_eq hknown
    exact ⟨_, hd, (hdelta x).symm.trans hd⟩
  · have heven : ∀ y ∈ t.problem.assignment.propositions,
        [x, x].count y % 2 = ([] : List Proposition).count y % 2 := by
      intro y _
      by_cases hy : x = y <;> simp [hy]
    exact (halike [x, x] [] heven).1
  · exact (halike xs ys fun x _ => by rw [hperm.count_eq]).1
  · exact fun xs x hx => ht.fault_flipAll xs hx

/-- Two flips of one proposition restore the snapshot, and not the order of the list. -/
theorem flips_cancel_of_two :
    let f : Formula := [[⟨"a", false⟩], [⟨"b", false⟩, ⟨"b", false⟩]]
    let a : Proposition := ⟨"a", 0, 0⟩
    ∃ p s, build f (.int 0) (some [("a", false), ("b", false)]) (Script.mk []) = .ok (p, s) ∧
      (Session.flipAll ⟨p, s, none⟩ [a, a]).problem.snapshot = p.snapshot ∧
      p.tally.unsatisfied.toList = [0, 1] ∧
      (Session.flipAll ⟨p, s, none⟩ [a, a]).problem.tally.unsatisfied.toList = [1, 0] := by
  intro f a
  obtain ⟨p, s, hbuild, hall⟩ := flips_cancel (f := f) (by decide) ⟨0, by decide⟩
    (some [("a", false), ("b", false)]) (Script.mk [])
  replace hbuild : build f (.int 0) _ _ = .ok (p, s) := hbuild
  have hlists : (build f (.int 0) (some [("a", false), ("b", false)]) (Script.mk [])).map
      (fun r => (r.1.tally.unsatisfied.toList,
        (Session.flipAll ⟨r.1, r.2, none⟩ [a, a]).problem.tally.unsatisfied.toList)) =
      .ok ([0, 1], [1, 0]) := by cbv
  rw [hbuild] at hlists
  have hpair := Prod.ext_iff.mp (Except.ok.inj hlists)
  exact ⟨p, s, hbuild, (hall []).2.1 a, hpair.1, hpair.2⟩

end Problem

end FlipSat
