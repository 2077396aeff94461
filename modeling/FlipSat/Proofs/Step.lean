import FlipSat.Proofs.Operation
import Mathlib

/-
  FlipSat: what one step of the search does.
  `Takes` says which clause and which literal a step takes with a source: the clause in the slot
  that is drawn, and of it a literal that is drawn too, or the greedy one. `Repairs` says what the
  step leaves: the clause now holds, one value is inverted, and the others are as they were
  (`Reflects.repairs_of_flip`). A seeded source never walks at random at noise 0 and always does at
  noise 100. `step_exact` says all this of every reachable problem.
-/
namespace FlipSat

/-! ## Seeded sources -/

namespace Seeded

theorem percent_zero (s : Seeded) : (RandomSource.percent s 0).1 = false := by
  simp [RandomSource.percent]

theorem percent_hundred (s : Seeded) : (RandomSource.percent s 100).1 = true := by
  have hlt := (s.twister.below 100 (by decide)).1.isLt
  simp only [RandomSource.percent, decide_eq_true_eq]
  omega

end Seeded

namespace Problem

variable {σ τ : Type} [RandomSource σ] [RandomSource τ] {p q : Problem} {f : Formula} {i : Nat}
  {c : Clause} {l : Literal} {t : τ} {walks : Bool}

/-- With the source `t` a step takes clause `i`, which is `c`, from the slot that is drawn. If it
    walks at random it takes the literal of `c` that is drawn next, and otherwise the greedy one. -/
def Takes (p : Problem) (t : τ) (walks : Bool) (i : Nat) (c : Clause) (l : Literal) : Prop :=
  ∃ hpos : 0 < p.tally.unsatisfied.items.size,
    let slot := RandomSource.choose t p.tally.unsatisfied.items.size hpos
    let walk := RandomSource.percent slot.2 p.noise.val
    p.tally.unsatisfied.toList[slot.1.val]? = some i ∧ p.inst.clauses[i]? = some c ∧
      walk.1 = walks ∧
      if walks then
        c.literals[(RandomSource.choose walk.2 c.size c.size_pos).1.val]? = some l
      else p.greedy c = .ok l

/-- The problem `q` is `p` after the proposition of `l`, a literal of clause `i`, was flipped. -/
structure Repairs (p q : Problem) (f : Formula) (i : Nat) (c : Clause) (l : Literal) : Prop where
  mem : l ∈ c.literals
  mem_propositions : l.proposition ∈ p.assignment.propositions
  propositions_eq : q.assignment.propositions = p.assignment.propositions
  value_eq : ∀ x ∈ p.assignment.propositions, ∃ b, p.assignment.value x = .ok b ∧
    q.assignment.value x = .ok (if x = l.proposition then !b else b)
  flips_eq : q.flips = p.flips + 1
  inst_eq : q.inst = p.inst
  noise_eq : q.noise = p.noise
  holds : ∃ spec, f[i]? = some spec ∧ spec.eraseDups = c.literals.map Literal.spec ∧
    spec.holds p.valuation.valueOf = false ∧ spec.holds q.valuation.valueOf = true
  satisfied : q.satisfied i = true
  not_mem : q.tally.unsatisfied.contains i = false

/-- A clause of the problem holds exactly if it has a true literal. -/
theorem Reflects.holds_eq (h : p.Reflects f) {spec : ClauseSpec} (hc : c ∈ p.inst.clauses)
    (hspec : spec.eraseDups = c.literals.map Literal.spec) :
    spec.holds p.valuation.valueOf = decide (0 < c.literals.countP p.assignment.satisfies) := by
  have hzero := ClauseSpec.countP_eq_zero_iff p.valuation.valueOf spec.eraseDups
  rw [ClauseSpec.holds_eraseDups, hspec, h.countP_spec hc] at hzero
  cases hv : spec.holds p.valuation.valueOf with
  | false => simp [hzero.mpr hv]
  | true =>
    have hne : c.literals.countP p.assignment.satisfies ≠ 0 := fun h0 => by simp [hzero.mp h0] at hv
    simp [Nat.pos_of_ne_zero hne]

/-- Flipping the proposition of a literal of a clause without a true one repairs the clause. -/
theorem Reflects.repairs_of_flip (h : p.Reflects f) (hc : p.inst.clauses[i]? = some c)
    (hcount : c.literals.countP p.assignment.satisfies = 0) (hl : l ∈ c.literals)
    (hq : p.flip l.proposition = (q, none)) : p.Repairs q f i c l := by
  obtain ⟨hx, hqr, hinst, hnoise, hflips, -⟩ := h.of_flip hq
  obtain ⟨hprops, htruth⟩ := h.truth_of_flip hq
  have hqc : q.inst.clauses[i]? = some c := by rw [hinst, hc]
  have hmem : c ∈ p.inst.clauses := Array.mem_of_getElem? hc
  have hqmem : c ∈ q.inst.clauses := Array.mem_of_getElem? hqc
  have htrue : q.assignment.satisfies l = true := by
    have hfalse : p.assignment.satisfies l = false := by
      simpa using List.countP_eq_zero.mp hcount l hl
    rw [Assignment.satisfies, htruth _ hx, if_pos rfl]
    rw [Assignment.satisfies] at hfalse
    cases hp : l.isPositive <;> cases ht : p.assignment.truth l.proposition <;> simp_all
  have hpos : 0 < c.literals.countP q.assignment.satisfies :=
    List.countP_pos_iff.mpr ⟨l, hl, htrue⟩
  obtain ⟨spec, hf, hspec⟩ := Option.map_eq_some_iff.mp
    ((h.getElem?_clauses i).symm.trans (by rw [hc, Option.map_some]))
  have hcounts := hqr.consistent.count hqc
  refine ⟨hl, hx.mem, hprops, fun x hm => ?_, hflips, hinst, hnoise, ⟨spec, hf, hspec, ?_, ?_⟩, ?_,
    ?_⟩
  · have hk := Assignment.knows_of_mem h.consistent.enumerated hm
    have hqk : q.assignment.Knows x := (Assignment.knows_congr hprops).mpr hk
    refine ⟨_, Assignment.value_of_knows hk, ?_⟩
    rw [Assignment.value_of_knows hqk, htruth x hk]
    by_cases hxl : x = l.proposition <;> simp [hxl]
  · rw [h.holds_eq hmem hspec, hcount]
    rfl
  · rw [hqr.holds_eq hqmem hspec, decide_eq_true_iff]
    exact hpos
  · rw [Problem.satisfied, Tally.count_eq hcounts, decide_eq_true_iff]
    omega
  · rw [Bool.eq_false_iff, ne_eq, hqr.consistent.tally.set.contains_iff,
      hqr.consistent.tally.mem_iff, hcounts, Option.some.injEq]
    omega

/-- What a step of an unsolved problem takes, and that it repairs the clause taken. -/
theorem Reflects.step_of_unsolved (h : p.Reflects f) (hs : p.isSolved = false) (t : τ) :
    ∃ walks i c l, p.Takes t walks i c l ∧ (p.step t).flipped = some l ∧
      (p.step t).fault = none ∧ (p.step t).solved = (p.step t).problem.isSolved ∧
      p.Repairs (p.step t).problem f i c l := by
  obtain ⟨hpos, i, c, hchoose, hc, hcount⟩ := h.choose_spec hs t
  have hmem : c ∈ p.inst.clauses := Array.mem_of_getElem? hc
  have hslot : p.tally.unsatisfied.toList[(RandomSource.choose t _ hpos).1.val]? = some i := by
    rw [DenseSet.choose, dif_pos hpos, Except.ok.injEq, Prod.mk.injEq] at hchoose
    rw [DenseSet.toList, Array.getElem?_toList, ← hchoose.1]
    exact Array.getElem?_eq_getElem (RandomSource.choose t _ hpos).1.isLt
  obtain ⟨l, u, hl, hlc⟩ := h.pick_spec hmem (RandomSource.choose t _ hpos).2
  obtain ⟨q, hq, -⟩ := flip_of_knows h.consistent (h.consistent.knows c hmem l hlc)
  have hstep : p.step t =
      { problem := q, source := u, solved := q.isSolved, flipped := some l } := by
    simp only [Problem.step, hchoose, hc, hl, hq]
  refine ⟨_, i, c, l, ⟨hpos, hslot, hc, rfl, ?_⟩, ?_⟩
  · have hpick := congrArg Prod.fst hl
    unfold pick at hpick
    dsimp only at hpick
    split at hpick
    · next hwalk =>
      rw [if_pos hwalk, ← Except.ok.inj hpick]
      simp [Clause.size]
    · next hwalk =>
      rw [if_neg hwalk]
      exact hpick
  · rw [hstep]
    exact ⟨rfl, rfl, rfl, h.repairs_of_flip hc hcount hlc hq⟩

/-- Each clause that does not hold is in exactly one slot. -/
theorem Reflects.existsUnique_slot (h : p.Reflects f) {spec : ClauseSpec} (hf : f[i]? = some spec)
    (hfalse : spec.holds p.valuation.valueOf = false) :
    ∃! k : Nat, p.tally.unsatisfied.toList[k]? = some i := by
  have hzero : p.tally.counts[i]? = some 0 := by
    rw [h.counts_eq, hf, Option.map_some,
      (ClauseSpec.countP_eq_zero_iff _ _).mpr ((ClauseSpec.holds_eraseDups _ _).trans hfalse)]
    rfl
  exact h.consistent.tally.set.existsUnique_slot ((h.consistent.tally.mem_iff i).mpr hzero)

/-- A step of a reachable problem that is not solved takes the clause in the slot drawn, and each
    clause that does not hold is in just one slot. It inverts the value of one proposition of that
    clause, after which the clause holds, and changes no other value. A seeded source makes it take
    the greedy literal at noise 0 and the drawn one at noise 100. A solved problem is left as it
    is. -/
theorem step_exact (hne : ∀ c ∈ f, c ≠ []) (noise : Percent) (given : Option Valuation)
    (source : σ) :
    ∃ p s, build f (.int noise.val) given source = .ok (p, s) ∧ ∀ os : List Operation,
      let q := (Session.performAll ⟨p, s, none⟩ os).problem
      (q.isSolved = true → ∀ {τ : Type} [RandomSource τ] (t : τ),
        q.step t = { problem := q, source := t, solved := true }) ∧
      (q.isSolved = false →
        (∀ (i : Nat) (spec : ClauseSpec), f[i]? = some spec →
          spec.holds q.valuation.valueOf = false →
          ∃! k : Nat, q.tally.unsatisfied.toList[k]? = some i) ∧
        ∀ {τ : Type} [RandomSource τ] (t : τ), ∃ walks i c l, q.Takes t walks i c l ∧
          (q.step t).flipped = some l ∧ (q.step t).fault = none ∧
          (q.step t).solved = (q.step t).problem.isSolved ∧
          q.Repairs (q.step t).problem f i c l) ∧
      ∀ (t : Seeded) walks i c l, q.Takes t walks i c l →
        (q.noise.val = 0 → walks = false) ∧ (q.noise.val = 100 → walks = true) := by
  obtain ⟨p, s, hbuild, hp, -⟩ := build_spec hne (Percent.ofValue_int noise) given source
  refine ⟨p, s, hbuild, fun os => ?_⟩
  intro q
  have hq : q.Reflects f := Reflects.performAll (s := ⟨p, s, none⟩) hp os
  refine ⟨fun hs τ _ t => ?_, fun hs => ⟨?_, fun t => hq.step_of_unsolved hs t⟩, ?_⟩
  · rcases hq.step_cases t with ⟨-, he⟩ | ⟨hf, -⟩
    · exact he
    · rw [← hq.isSolved_eq, hs] at hf
      cases hf
  · exact fun i spec hf hfalse => hq.existsUnique_slot hf hfalse
  · rintro t walks i c l ⟨hpos, -, -, hwalk, -⟩
    constructor
    · intro h0
      rw [← hwalk, h0]
      exact Seeded.percent_zero _
    · intro h100
      rw [← hwalk, h100]
      exact Seeded.percent_hundred _

/-- Two clauses without a true literal: a step repairs one of them. -/
theorem step_exact_of_two :
    let f : Formula := [[⟨"a", false⟩, ⟨"b", true⟩], [⟨"b", true⟩, ⟨"b", true⟩]]
    ∃ p s, build f (.int 30) none (Script.mk [1, 0, 5, 99]) = .ok (p, s) ∧ p.isSolved = false ∧
      ∃ walks i c l, p.Takes s walks i c l ∧ p.Repairs (p.step s).problem f i c l := by
  intro f
  obtain ⟨p, s, hbuild, hall⟩ :=
    step_exact (f := f) (by decide) ⟨30, by decide⟩ none (Script.mk [1, 0, 5, 99])
  replace hbuild : build f (.int 30) _ _ = .ok (p, s) := hbuild
  have hsolved : (build f (.int 30) none (Script.mk [1, 0, 5, 99])).map (fun r => r.1.isSolved) =
      .ok false := by cbv
  rw [hbuild] at hsolved
  obtain ⟨walks, i, c, l, htakes, -, -, -, hrepairs⟩ :=
    ((hall []).2.1 (Except.ok.inj hsolved)).2 s
  exact ⟨p, s, hbuild, Except.ok.inj hsolved, walks, i, c, l, htakes, hrepairs⟩

end Problem

end FlipSat
