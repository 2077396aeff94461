import FlipSat.Proofs.FirstMax
import FlipSat.Proofs.Operation
import FlipSat.Search.Try

/-
  FlipSat: the course of a try, from its first problem to its last.
  `course` lists the problems that a try goes through, and `Runs` says how a try comes to its end:
  each flip adds one problem, and there are four ways to stop. By induction on `Runs` the course
  reflects the formula throughout (`Runs.reflects`), it goes on only while the formula does not hold
  (`Runs.solved_iff`, `Runs.unsolved`), and the best record is that of the problems seen
  (`Runs.best`), as is the last problem of a try that has solved it (`Runs.best_of_end`).
-/
namespace FlipSat

variable {σ : Type}

/-! ## The best record -/

namespace Best

/-- The record shows the first of the problems seen that satisfies most clauses. -/
def Of (best : Option Best) (seen : List Problem) : Prop :=
  match best with
  | none => seen = []
  | some b => ∃ p, FirstMax Problem.satisfiedCount seen p ∧ b = .ofProblem p

theorem of_nil : Of none [] := rfl

/-- Seeing one more problem. -/
theorem Of.record {best : Option Best} {seen : List Problem} (h : Of best seen) (q : Problem) :
    Of (Best.record best q) (seen ++ [q]) := by
  cases best with
  | none =>
    obtain rfl : seen = [] := h
    exact ⟨q, .singleton _ q, rfl⟩
  | some b =>
    obtain ⟨p, hp, rfl⟩ := h
    have hq := hp.concat q
    rw [Best.record, ofProblem]
    by_cases hlt : p.satisfiedCount < q.satisfiedCount
    · rw [if_pos hlt] at hq ⊢
      exact ⟨q, hq, rfl⟩
    · rw [if_neg hlt] at hq ⊢
      exact ⟨p, hq, rfl⟩

end Best

/-! ## Flips of a try -/

/-- One problem comes from another by setting the noise and flipping a literal. -/
def Problem.FlipsTo (p q : Problem) : Prop :=
  ∃ (n : Percent) (l : Literal), (p.withNoise n).flip l.proposition = (q, none)

namespace Attempt

variable {a : Attempt} {t u : TryState σ} {f : Formula}

theorem late_problem : (a.late t).2.problem = t.problem := by
  unfold late
  split <;> rfl

theorem late_best : (a.late t).2.best = t.best := by
  unfold late
  split <;> rfl

theorem late_flips : (a.late t).2.flips = t.flips := by
  unfold late
  split <;> rfl

theorem annealed_eq {p : Problem} (h : a.annealed t = .ok p) :
    ∃ n, p = t.problem.withNoise n := by
  unfold annealed at h
  split at h
  · cases hn : a.parameters.noiseAt (.int t.flips) with
    | error e =>
      rw [hn] at h
      cases h
    | ok v =>
      rw [hn] at h
      exact Problem.setNoise_inv h
  · cases h
    exact ⟨t.problem.noise, rfl⟩

theorem report_eq : (a.report t).1.problem = t.problem ∧ (a.report t).1.source = t.source ∧
    (a.report t).1.clock = t.clock ∧ (a.report t).1.best = t.best ∧
    (a.report t).1.flips = t.flips := by
  unfold report
  split
  · exact ⟨rfl, rfl, rfl, rfl, rfl⟩
  · exact ⟨rfl, rfl, rfl, rfl, rfl⟩
  · dsimp only
    split <;> exact ⟨rfl, rfl, rfl, rfl, rfl⟩

variable [RandomSource σ]

/-- What a flip that succeeds has done. -/
theorem flip_inv (h : a.flip t = (u, none)) :
    ∃ p, a.annealed t = .ok p ∧ (p.step t.source).fault = none ∧
      u.problem = (p.step t.source).problem ∧ u.source = (p.step t.source).source ∧
      u.clock = t.clock ∧ u.flips = t.flips + 1 ∧
      u.best = Best.record t.best (p.step t.source).problem := by
  unfold flip at h
  cases hp : a.annealed t with
  | error e => simp [hp] at h
  | ok p =>
    rw [hp] at h
    dsimp only at h
    cases hf : (p.step t.source).fault with
    | some e => simp [hf] at h
    | none =>
      rw [hf] at h
      dsimp only at h
      cases hc : a.checked (p.step t.source).problem with
      | error e => simp [hc] at h
      | ok _ =>
        rw [hc] at h
        dsimp only at h
        have hr := congrArg Prod.fst h
        dsimp only at hr
        rw [← hr]
        obtain ⟨h1, h2, h3, h4, h5⟩ := @report_eq σ a _
        exact ⟨p, rfl, hf, h1, h2, h3, h5, h4⟩

/-- The flips of a try that reflects a formula and is not solved. -/
theorem flipsTo_of_flip (ht : t.problem.Reflects f) (hs : t.problem.isSolved = false)
    (h : a.flip t = (u, none)) : t.problem.FlipsTo u.problem ∧ u.problem.Reflects f := by
  obtain ⟨p, hp, -, hu, -⟩ := flip_inv h
  obtain ⟨n, rfl⟩ := annealed_eq hp
  have hn := ht.withNoise n
  have hfalse : f.holds (t.problem.withNoise n).valuation.valueOf = false := by
    rw [← hn.isSolved_eq]
    exact hs
  rcases hn.step_cases t.source with ⟨hs, -⟩ | ⟨-, c, -, -, l, q, s, -, hq, he⟩
  · rw [hfalse] at hs
    cases hs
  · rw [hu, he]
    exact ⟨⟨n, l, hq⟩, (hn.of_flip hq).2.1⟩

/-! ## Runs -/

/-- The problems of a try, from where it stands, for at most `n` flips. -/
def course (a : Attempt) : Nat → TryState σ → List Problem
  | 0, t => [t.problem]
  | n + 1, t =>
    if t.problem.isSolved || t.source.interrupted || (a.late t).1 then [t.problem]
    else match a.flip (a.late t).2 with
      | (_, some _) => [t.problem]
      | (u, none) => t.problem :: a.course n u

/-- How a try comes to its end with at most `n` flips: the course, the last state and the ending. -/
inductive Runs (a : Attempt) :
    Nat → TryState σ → List Problem → TryState σ → Ending → Prop
  | solved {n : Nat} {t : TryState σ} (hs : t.problem.isSolved = true) :
    Runs a n t [t.problem] t .solved
  | exhausted {t : TryState σ} (hs : t.problem.isSolved = false) :
    Runs a 0 t [t.problem] t .exhausted
  | interrupted {n : Nat} {t : TryState σ} (hs : t.problem.isSolved = false)
    (hi : t.source.interrupted = true) : Runs a (n + 1) t [t.problem] t .interrupted
  | timeout {n : Nat} {t : TryState σ} (hs : t.problem.isSolved = false)
    (hl : (a.late t).1 = true) : Runs a (n + 1) t [t.problem] (a.late t).2 .timeout
  | flip {n : Nat} {t u v : TryState σ} {c : List Problem} {e : Ending}
    (hs : t.problem.isSolved = false) (hf : a.flip (a.late t).2 = (u, none))
    (hr : Runs a n u c v e) : Runs a (n + 1) t (t.problem :: c) v e

theorem runs_of_loop {n : Nat} {e : Ending} (h : a.loop n t = (u, .ok e)) :
    a.Runs n t (a.course n t) u e := by
  induction n generalizing t with
  | zero =>
    cases hs : t.problem.isSolved with
    | true =>
      simp only [loop, hs, if_true, Prod.mk.injEq, Except.ok.injEq] at h
      obtain ⟨rfl, rfl⟩ := h
      exact .solved hs
    | false =>
      simp only [loop, hs, Bool.false_eq_true, if_false, Prod.mk.injEq, Except.ok.injEq] at h
      obtain ⟨rfl, rfl⟩ := h
      exact .exhausted hs
  | succ n ih =>
    rw [loop] at h
    rw [course]
    cases hs : t.problem.isSolved with
    | true =>
      simp only [hs, if_true, Prod.mk.injEq, Except.ok.injEq] at h
      obtain ⟨rfl, rfl⟩ := h
      exact .solved hs
    | false =>
      cases hi : t.source.interrupted with
      | true =>
        simp only [hs, hi, if_true, Bool.false_eq_true, if_false, Prod.mk.injEq,
          Except.ok.injEq] at h
        obtain ⟨rfl, rfl⟩ := h
        exact .interrupted hs hi
      | false =>
        cases hl : (a.late t).1 with
        | true =>
          simp only [hs, hi, hl, if_true, Bool.false_eq_true, if_false, Prod.mk.injEq,
            Except.ok.injEq] at h
          obtain ⟨rfl, rfl⟩ := h
          exact .timeout hs hl
        | false =>
          simp only [hs, hi, hl, Bool.false_eq_true, if_false] at h
          rcases hf : a.flip (a.late t).2 with ⟨v, _ | e'⟩
          · rw [hf] at h
            exact .flip hs hf (ih h)
          · rw [hf] at h
            cases h

namespace Runs

variable {n : Nat} {c : List Problem} {e : Ending}

theorem getLast? (h : a.Runs n t c u e) : c.getLast? = some u.problem := by
  induction h with
  | solved | exhausted | interrupted => rfl
  | timeout => rw [late_problem]; rfl
  | flip _ _ _ ih => rw [List.getLast?_cons, ih]; rfl

theorem head? (h : a.Runs n t c u e) : c.head? = some t.problem := by
  cases h <;> rfl

theorem flips_eq (h : a.Runs n t c u e) : u.flips + 1 = t.flips + c.length := by
  induction h with
  | solved | exhausted | interrupted => rfl
  | timeout => rw [late_flips]; rfl
  | flip _ hf _ ih =>
    obtain ⟨p, -, -, -, -, -, hflips, -⟩ := flip_inv hf
    rw [ih, hflips, late_flips, List.length_cons]
    omega

/-- The course reflects the formula, and each problem but the first comes from the one before it by
    a flip. -/
theorem reflects (h : a.Runs n t c u e) (ht : t.problem.Reflects f) :
    (∀ p ∈ c, p.Reflects f) ∧ c.IsChain Problem.FlipsTo := by
  induction h with
  | solved | exhausted | interrupted | timeout => simpa using ht
  | flip hs hf hr ih =>
    rw [← late_problem] at ht hs
    obtain ⟨hto, hu⟩ := flipsTo_of_flip ht hs hf
    obtain ⟨hall, hchain⟩ := ih hu
    rw [late_problem] at ht hto
    obtain ⟨rest, rfl⟩ := List.head?_eq_some_iff.mp hr.head?
    exact ⟨List.forall_mem_cons.mpr ⟨ht, hall⟩, .cons_cons hto hchain⟩

/-- A try ends as solved exactly if its last problem is solved. -/
theorem solved_iff (h : a.Runs n t c u e) : e = .solved ↔ u.problem.isSolved = true := by
  induction h with
  | solved hs => simp [hs]
  | exhausted hs | interrupted hs => simp [hs]
  | timeout hs => simp [late_problem, hs]
  | flip _ _ _ ih => exact ih

/-- Before its last problem a try is not solved. -/
theorem unsolved (h : a.Runs n t c u e) : ∀ p ∈ c.dropLast, p.isSolved = false := by
  induction h with
  | solved | exhausted | interrupted | timeout => simp
  | flip hs _ hr ih =>
    have hne := List.ne_nil_of_mem (List.mem_of_mem_head? hr.head?)
    rw [List.dropLast_cons_of_ne_nil hne]
    simpa using ⟨hs, ih⟩

theorem concat (h : a.Runs n t c u e) : c = c.dropLast ++ [u.problem] :=
  (List.dropLast_append_getLast? _ h.getLast?).symm

variable {seen : List Problem}

/-- If no problem seen before is solved, all but the last one of the course are not either. -/
theorem unsolved_of_seen (h : a.Runs n t c u e) (hs : ∀ p ∈ seen, p.isSolved = false) :
    ∀ p ∈ seen ++ c.dropLast, p.isSolved = false := by
  intro p hp
  rcases List.mem_append.mp hp with hp | hp
  · exact hs p hp
  · exact h.unsolved p hp

/-- A try ends as solved exactly if a solved problem was seen. -/
theorem solved_iff_exists (h : a.Runs n t c u e) (hs : ∀ p ∈ seen, p.isSolved = false) :
    e = .solved ↔ ∃ p ∈ seen ++ c, p.isSolved = true := by
  rw [h.solved_iff, h.concat, ← List.append_assoc]
  constructor
  · intro hsol
    exact ⟨u.problem, by simp, hsol⟩
  · rintro ⟨p, hp, hsol⟩
    rcases List.mem_append.mp hp with hp | hp
    · rw [h.unsolved_of_seen hs p hp] at hsol
      cases hsol
    · rw [← List.mem_singleton.mp hp]
      exact hsol

/-- The best record is that of the problems seen before and in the course. -/
theorem best (h : a.Runs n t c u e)
    (hb : Best.Of t.best (seen ++ [t.problem])) : Best.Of u.best (seen ++ c) := by
  induction h generalizing seen with
  | solved | exhausted | interrupted => exact hb
  | timeout => rw [late_best]; exact hb
  | flip _ hf _ ih =>
    obtain ⟨p, -, -, hu, -, -, -, hbest⟩ := flip_inv hf
    rw [List.append_cons]
    refine ih ?_
    rw [hbest, hu, late_best]
    exact hb.record _

/-- What a try shows at its end, if it has solved its problem, is the best of all that was seen. -/
theorem best_of_end (h : a.Runs n t c u e) (hb : Best.Of t.best (seen ++ [t.problem]))
    (hr : ∀ p ∈ seen ++ c, p.Reflects f) (hs : ∀ p ∈ seen, p.isSolved = false) :
    Best.Of (if e = .solved then some (.ofProblem u.problem) else u.best) (seen ++ c) := by
  by_cases he : e = .solved
  · -- All problems before the last one satisfy less than all clauses.
    rw [if_pos he]
    rw [h.concat, ← List.append_assoc] at hr ⊢
    refine ⟨u.problem, .last fun p hp => ?_, rfl⟩
    rw [(hr u.problem (by simp)).isSolved_iff.mp (h.solved_iff.mp he)]
    exact (hr p (List.mem_append_left _ hp)).satisfiedCount_lt (h.unsolved_of_seen hs p hp)
  · rw [if_neg he]
    exact h.best hb

end Runs

end Attempt

end FlipSat
