import FlipSat.Problem.Step
import FlipSat.Proofs.Delta

/-
  FlipSat: whatever is asked of a problem, in whatever order, its bookkeeping stays exact.
  `Operation` are the things that can be asked of it: flips, also of propositions that are not its
  own, steps, changes of the noise, new names, and the two queries. `Reflects.perform`: each of them
  keeps the invariant; hence so does every sequence of them (`Reflects.performAll`).
  `exact_performAll` and `queries_exact` say of all reachable problems what the invariant says.
-/
namespace FlipSat

variable {σ : Type} [RandomSource σ]

/-- What can be asked of a problem. -/
inductive Operation where
  | flip (x : Proposition)
  | flipLiteral (l : Literal)
  | step
  | setNoise (v : Value)
  | proposition (name : String)
  | delta (x : Proposition)
  | greedy (c : Clause)

/-- A problem with its source, and the fault of the last operation. -/
structure Session (σ : Type) where
  problem : Problem
  source : σ
  fault : Option Fault := none

/-- The fault of an answer. -/
def faultOf {α : Type} : Except Fault α → Option Fault
  | .ok _ => none
  | .error e => some e

namespace Session

/-- The session after an operation. A change of the noise that is refused leaves the problem, and
    queries only look at it. -/
def perform (s : Session σ) : Operation → Session σ
  | .flip x => ⟨(s.problem.flip x).1, s.source, (s.problem.flip x).2⟩
  | .flipLiteral l =>
    ⟨(s.problem.flip l.proposition).1, s.source, (s.problem.flip l.proposition).2⟩
  | .step =>
    let r := s.problem.step s.source
    ⟨r.problem, r.source, r.fault⟩
  | .setNoise v =>
    match s.problem.setNoise v with
    | .ok p => ⟨p, s.source, none⟩
    | .error e => ⟨s.problem, s.source, some e⟩
  | .proposition name => ⟨(s.problem.proposition name).2, s.source, none⟩
  | .delta x => ⟨s.problem, s.source, faultOf (s.problem.delta x)⟩
  | .greedy c => ⟨s.problem, s.source, faultOf (s.problem.greedy c)⟩

/-- The session after a list of operations. -/
def performAll (s : Session σ) (os : List Operation) : Session σ := os.foldl perform s

end Session

namespace Problem

variable {p q : Problem} {f : Formula}

/-- The four structures that a problem keeps, and its answers, as counting afresh gives them. -/
structure Exact (p : Problem) (f : Formula) : Prop where
  counts : p.tally.counts.toList =
    f.map fun c => (c.eraseDups.countP (·.holds p.valuation.valueOf) : Int)
  slots : ∀ i, p.tally.unsatisfied.toList.count i = if p.tally.counts[i]? = some 0 then 1 else 0
  contains_iff : ∀ i, p.tally.unsatisfied.contains i = true ↔ p.tally.counts[i]? = some 0
  satisfiedCount : p.satisfiedCount = f.countHolding p.valuation.valueOf
  isSolved : p.isSolved = f.holds p.valuation.valueOf

theorem Reflects.exact (h : p.Reflects f) : p.Exact f where
  counts := h.toList_counts
  slots := h.count_slots
  contains_iff i := by rw [h.consistent.tally.set.contains_iff, h.consistent.tally.mem_iff]
  satisfiedCount := h.satisfiedCount_eq
  isSolved := h.isSolved_eq

/-! ## Steps -/

/-- The literal to flip is found, and it is one of the clause. -/
theorem Reflects.pick_spec (h : p.Reflects f) {c : Clause} (hc : c ∈ p.inst.clauses) (source : σ) :
    ∃ l s, p.pick c source = (.ok l, s) ∧ l ∈ c.literals := by
  obtain ⟨l, hl, hfirst⟩ := greedy_spec fun l hl =>
    h.delta_eq (h.consistent.knows c hc l hl)
  unfold pick
  split
  split
  · exact ⟨_, _, rfl, List.get_mem _ _⟩
  · exact ⟨l, _, by rw [hl], hfirst.mem⟩

/-- A problem that is not solved has a clause to draw, and each clause drawn has no true literal. -/
theorem Reflects.choose_spec (h : p.Reflects f) (hs : p.isSolved = false) (source : σ) :
    ∃ (hpos : 0 < p.tally.unsatisfied.items.size) (i : Nat) (c : Clause),
      p.tally.unsatisfied.choose source = .ok (i, (RandomSource.choose source _ hpos).2) ∧
      p.inst.clauses[i]? = some c ∧ c.literals.countP p.assignment.satisfies = 0 := by
  have hpos : 0 < p.tally.unsatisfied.items.size := by
    simpa [isSolved, DenseSet.isEmpty, Array.size_pos_iff] using hs
  refine ⟨hpos, p.tally.unsatisfied.items[(RandomSource.choose source _ hpos).1], ?_⟩
  have hzero := (h.consistent.tally.mem_iff _).mp (Array.mem_toList_iff.mpr
    (Array.getElem_mem (RandomSource.choose source _ hpos).1.isLt))
  rw [h.consistent.counts_eq] at hzero
  obtain ⟨c, hc, hcount⟩ := Option.map_eq_some_iff.mp hzero
  refine ⟨c, ?_, hc, Int.natCast_eq_zero.mp hcount⟩
  rw [DenseSet.choose, dif_pos hpos]

/-- A step leaves a solved problem as it is. Otherwise it flips a literal of a clause that does not
    hold. -/
theorem Reflects.step_cases (h : p.Reflects f) (source : σ) :
    (f.holds p.valuation.valueOf = true ∧
      p.step source = { problem := p, source := source, solved := true }) ∨
    (f.holds p.valuation.valueOf = false ∧ ∃ c ∈ f, c.holds p.valuation.valueOf = false ∧
      ∃ l q s, l.spec ∈ c ∧ p.flip l.proposition = (q, none) ∧
        p.step source =
          { problem := q, source := s, solved := q.isSolved, flipped := some l }) := by
  rw [← h.isSolved_eq]
  cases hs : p.isSolved with
  | true =>
    have hpos : ¬ 0 < p.tally.unsatisfied.items.size := by
      simpa [isSolved, DenseSet.isEmpty] using hs
    exact .inl ⟨rfl, by rw [step, DenseSet.choose, dif_neg hpos]⟩
  | false =>
    obtain ⟨hpos, i, c, hchoose, hc, hcount⟩ := h.choose_spec hs source
    have hmem : c ∈ p.inst.clauses := Array.mem_of_getElem? hc
    obtain ⟨spec, hspec, hdups⟩ := h.exists_spec hmem
    obtain ⟨l, t, hl, hlc⟩ := h.pick_spec hmem (RandomSource.choose source _ hpos).2
    obtain ⟨q, hq, -⟩ := flip_of_knows h.consistent (h.consistent.knows c hmem l hlc)
    refine .inr ⟨rfl, spec, hspec, ?_, l, q, t, ?_, hq, ?_⟩
    · rw [← ClauseSpec.holds_eraseDups, hdups, ← ClauseSpec.countP_eq_zero_iff,
        h.countP_spec hmem]
      exact hcount
    · rw [← List.mem_eraseDups, hdups]
      exact List.mem_map_of_mem hlc
    · simp only [step, hchoose, hc, hl, hq]

/-- A step never fails, and answers whether the values that it leaves satisfy the formula. -/
theorem Reflects.step (h : p.Reflects f) (source : σ) :
    (p.step source).problem.Reflects f ∧ (p.step source).fault = none ∧
      (p.step source).solved = f.holds (p.step source).problem.valuation.valueOf := by
  rcases h.step_cases source with ⟨hs, he⟩ | ⟨-, c, -, -, l, q, s, -, hq, he⟩
  · rw [he]
    exact ⟨h, rfl, hs.symm⟩
  · have hqr := (h.of_flip hq).2.1
    rw [he]
    exact ⟨hqr, rfl, hqr.isSolved_eq⟩

/-! ## Operations -/

theorem Reflects.perform {s : Session σ} (h : s.problem.Reflects f) (o : Operation) :
    (s.perform o).problem.Reflects f := by
  cases o with
  | flip x => exact h.flip x
  | flipLiteral l => exact h.flip l.proposition
  | step => exact (h.step s.source).1
  | setNoise v =>
    rw [Session.perform]
    cases hv : s.problem.setNoise v with
    | ok q => exact h.setNoise hv
    | error e => exact h
  | proposition name => exact h.proposition name
  | delta x => exact h
  | greedy c => exact h

theorem Reflects.performAll {s : Session σ} (h : s.problem.Reflects f) (os : List Operation) :
    (s.performAll os).problem.Reflects f := by
  induction os generalizing s with
  | nil => exact h
  | cons o os ih => exact ih (h.perform o)

/-! ## Reachable problems -/

/-- Every formula without empty clauses has a problem, and all that becomes of it reflects the
    formula. -/
theorem build_performAll (hne : ∀ c ∈ f, c ≠ []) (noise : Percent) (given : Option Valuation)
    (source : σ) :
    ∃ p s, build f (.int noise.val) given source = .ok (p, s) ∧
      ∀ os, (Session.performAll ⟨p, s, none⟩ os).problem.Reflects f := by
  obtain ⟨p, s, hbuild, hp, -⟩ := build_spec hne (Percent.ofValue_int noise) given source
  exact ⟨p, s, hbuild, fun os => Reflects.performAll (s := ⟨p, s, none⟩) hp os⟩

/-- After any operations the bookkeeping of a problem is exact. A step then does not fail, answers
    whether the formula holds, and flips a literal of a clause that does not hold, if there is
    one. -/
theorem exact_performAll (hne : ∀ c ∈ f, c ≠ []) (noise : Percent) (given : Option Valuation)
    (source : σ) :
    ∃ p s, build f (.int noise.val) given source = .ok (p, s) ∧ ∀ os : List Operation,
      let q := (Session.performAll ⟨p, s, none⟩ os).problem
      q.Exact f ∧ ∀ t : σ,
        (q.step t).fault = none ∧
        (q.step t).solved = f.holds (q.step t).problem.valuation.valueOf ∧
        (f.holds q.valuation.valueOf = true →
          (q.step t).problem = q ∧ (q.step t).source = t ∧ (q.step t).flipped = none) ∧
        (f.holds q.valuation.valueOf = false → ∃ c ∈ f, c.holds q.valuation.valueOf = false ∧
          ∃ l : Literal, l.spec ∈ c ∧ (q.step t).flipped = some l ∧
            q.flip l.proposition = ((q.step t).problem, none)) := by
  obtain ⟨p, s, hbuild, hp, -⟩ := build_spec hne (Percent.ofValue_int noise) given source
  refine ⟨p, s, hbuild, fun os => ?_⟩
  intro q
  have hq : q.Reflects f := Reflects.performAll (s := ⟨p, s, none⟩) hp os
  refine ⟨hq.exact, fun t => ⟨(hq.step t).2.1, (hq.step t).2.2, ?_⟩⟩
  rcases hq.step_cases t with ⟨hs, he⟩ | ⟨hs, c, hc, hfalse, l, r, u, hl, hflip, he⟩
  · rw [he, hs]
    exact ⟨fun _ => ⟨rfl, rfl, rfl⟩, fun hf => absurd hf (by decide)⟩
  · rw [he, hs]
    exact ⟨fun hf => absurd hf (by decide), fun _ => ⟨c, hc, hfalse, l, hl, rfl, hflip⟩⟩

/-- A formula with a clause that repeats a literal and one that holds always. -/
theorem exact_performAll_of_three :
    ∃ p s, build [[⟨"a", false⟩, ⟨"a", false⟩], [⟨"b", true⟩, ⟨"b", false⟩], [⟨"a", true⟩]]
        (.int 50) none (Script.mk [1, 0, 7]) = .ok (p, s) ∧
      (Session.performAll ⟨p, s, none⟩
        [.step, .flip ⟨"b", 1, 3⟩, .proposition "c", .step]).problem.Exact
        [[⟨"a", false⟩, ⟨"a", false⟩], [⟨"b", true⟩, ⟨"b", false⟩], [⟨"a", true⟩]] := by
  obtain ⟨p, s, hbuild, hall⟩ := exact_performAll (by decide :
    ∀ c ∈ ([[⟨"a", false⟩, ⟨"a", false⟩], [⟨"b", true⟩, ⟨"b", false⟩], [⟨"a", true⟩]] : Formula),
      c ≠ []) ⟨50, by decide⟩ none (Script.mk [1, 0, 7])
  exact ⟨p, s, hbuild, (hall _).1⟩

/-- By how much the number of clauses that hold changes when a proposition is inverted. -/
def change (p : Problem) (f : Formula) (x : Proposition) : Int :=
  (f.countHolding (invertAt p.valuation.valueOf x.name) : Int) -
    f.countHolding p.valuation.valueOf

/-- After any operations the delta of each proposition is the change that an evaluation of the
    formula gives, and the change that a flip makes; the greedy literal of each clause is the first
    one with the largest change. Neither query changes the problem or its source. -/
theorem queries_exact (hne : ∀ c ∈ f, c ≠ []) (noise : Percent) (given : Option Valuation)
    (source : σ) :
    ∃ p s, build f (.int noise.val) given source = .ok (p, s) ∧ ∀ os : List Operation,
      let t := Session.performAll ⟨p, s, none⟩ os
      (∀ x ∈ t.problem.assignment.propositions,
        t.problem.delta x = .ok (t.problem.change f x) ∧
        ∃ q, t.problem.flip x = (q, none) ∧
          (q.satisfiedCount : Int) - t.problem.satisfiedCount = t.problem.change f x) ∧
      (∀ c ∈ t.problem.inst.clauses, ∃ l, t.problem.greedy c = .ok l ∧
        FirstMax (fun l => t.problem.change f l.proposition) c.literals l) ∧
      (∀ x, (t.perform (.delta x)).problem = t.problem ∧
        (t.perform (.delta x)).source = t.source) ∧
      ∀ c, (t.perform (.greedy c)).problem = t.problem ∧
        (t.perform (.greedy c)).source = t.source := by
  obtain ⟨p, s, hbuild, hp, -⟩ := build_spec hne (Percent.ofValue_int noise) given source
  refine ⟨p, s, hbuild, fun os => ?_⟩
  intro t
  have ht : t.problem.Reflects f := Reflects.performAll (s := ⟨p, s, none⟩) hp os
  refine ⟨fun x hx => ?_, fun c hc => ?_, fun x => ⟨rfl, rfl⟩, fun c => ⟨rfl, rfl⟩⟩
  · have hk := Assignment.knows_of_mem ht.consistent.enumerated hx
    obtain ⟨q, hq, -⟩ := flip_of_knows ht.consistent hk
    refine ⟨ht.delta_eq hk, q, hq, ?_⟩
    have hd := (ht.delta_of_flip hq).symm.trans (ht.delta_eq hk)
    exact Except.ok.inj hd
  · exact greedy_spec fun l hl => ht.delta_eq (ht.consistent.knows c hc l hl)

theorem queries_exact_of_two :
    ∃ p s, build [[⟨"a", false⟩, ⟨"b", true⟩], [⟨"b", false⟩, ⟨"b", true⟩]] (.int 0) none
        (Script.mk [1, 1]) = .ok (p, s) ∧
      ∀ x ∈ (Session.performAll ⟨p, s, none⟩ [.flip ⟨"a", 0, 0⟩]).problem.assignment.propositions,
        (Session.performAll ⟨p, s, none⟩ [.flip ⟨"a", 0, 0⟩]).problem.delta x =
          .ok ((Session.performAll ⟨p, s, none⟩ [.flip ⟨"a", 0, 0⟩]).problem.change
            [[⟨"a", false⟩, ⟨"b", true⟩], [⟨"b", false⟩, ⟨"b", true⟩]] x) := by
  obtain ⟨p, s, hbuild, hall⟩ := queries_exact (by decide :
    ∀ c ∈ ([[⟨"a", false⟩, ⟨"b", true⟩], [⟨"b", false⟩, ⟨"b", true⟩]] : Formula), c ≠ [])
    ⟨0, by decide⟩ none (Script.mk [1, 1])
  exact ⟨p, s, hbuild, fun x hx => ((hall _).1 x hx).1⟩

end Problem

end FlipSat
