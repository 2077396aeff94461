import FlipSat.Proofs.Return

/-
  FlipSat: the answer of a search is the best of what it has seen.
  `courses` lists the problems of all tries of a search. `Search.Seen` relates a search to them: its
  flips and tries are counted, its problem is the last one, and its best record is the first of
  those that satisfy most clauses. Each try keeps this (`Seen.oneTry`), hence so does the search
  (`Seen.tryUpTo`); `solve_best` says what it means for the result.
-/
namespace FlipSat

variable {σ : Type} [RandomSource σ]

/-- The problems of a try. -/
def Attempt.courseOf (a : Attempt) (t : TryState σ) : List Problem :=
  match a.parameters.maxFlips with
  | .int n => a.course n.toNat t
  | _ => [t.problem]

theorem Attempt.runs_of_run {a : Attempt} {t u : TryState σ} {e : Ending}
    (h : a.run t = (u, .ok e)) : ∃ n, a.Runs n t (a.courseOf t) u e := by
  unfold run at h
  unfold courseOf
  cases hm : a.parameters.maxFlips with
  | int n =>
    rw [hm] at h
    exact ⟨_, runs_of_loop h⟩
  | _ =>
    rw [hm] at h
    cases hs : t.problem.isSolved with
    | true =>
      simp only [hs, if_true, Prod.mk.injEq, Except.ok.injEq] at h
      obtain ⟨rfl, rfl⟩ := h
      exact ⟨0, .solved hs⟩
    | false => simp [hs] at h

namespace Solver

/-- The problems of the tries of a search, for at most `n` tries. -/
def courses (s : Solver σ) (deadline : Option Binary64) : Nat → Search σ → List (List Problem)
  | 0, _ => []
  | n + 1, r =>
    match s.startTry deadline (begun r), s.oneTry deadline r with
    | .ok (t, none), (r', .ok .exhausted) =>
      (s.attempt deadline (begun r).tries).courseOf t :: s.courses deadline n r'
    | .ok (t, none), _ => [(s.attempt deadline (begun r).tries).courseOf t]
    | _, _ => []

/-- The problems that a search goes through, try by try. -/
def visited (s : Solver σ) (timeout : Value) : List (List Problem) :=
  match s.ready timeout with
  | (s, .ok b) => s.courses b.deadline b.tries s.opening
  | (_, .error _) => []

variable {s : Solver σ} {d : Option Binary64} {r r' : Search σ} {e : Ending} {f : Formula}

theorem courses_of_exhausted {n : Nat} {t : TryState σ}
    (ht : s.startTry d (begun r) = .ok (t, none)) (h : s.oneTry d r = (r', .ok .exhausted)) :
    s.courses d (n + 1) r =
      (s.attempt d (begun r).tries).courseOf t :: s.courses d n r' := by
  simp only [courses, ht, h]

theorem courses_of_ended {n : Nat} {t : TryState σ} (ht : s.startTry d (begun r) = .ok (t, none))
    (h : s.oneTry d r = (r', .ok e)) (he : e ≠ .exhausted) :
    s.courses d (n + 1) r = [(s.attempt d (begun r).tries).courseOf t] := by
  cases e with
  | exhausted => exact absurd rfl he
  | solved | timeout | interrupted => simp only [courses, ht, h]

/-- A try that is started has a fresh problem of the formula, which is seen. -/
theorem startTry_inv {t : TryState σ} (hne : ∀ c ∈ s.formula, c ≠ [])
    (h : s.startTry d r = .ok (t, none)) :
    t.problem.Reflects s.formula ∧ t.flips = 0 ∧ t.best = Best.record r.best t.problem ∧
      ∃ v given, Problem.build s.formula v given r.source = .ok (t.problem, t.source) := by
  unfold startTry Attempt.start Attempt.build at h
  cases hn : (s.attempt d r.tries).parameters.noiseAt (.int 0) with
  | error e => simp [hn, bind, Except.bind] at h
  | ok v =>
    cases hv : Percent.ofValue v with
    | error e => simp [hn, hv, bind, Except.bind, Problem.build] at h
    | ok n =>
      obtain ⟨p, w, hb, hp, -⟩ :=
        Problem.build_spec hne hv (if r.tries = 1 then s.given else none) r.source
      cases hg : (s.attempt d r.tries).greeting p with
      | error e => simp [hn, hb, hg, bind, Except.bind, pure, Except.pure] at h
      | ok m =>
        simp only [hn, hb, hg, bind, Except.bind, pure, Except.pure, Except.ok.injEq,
          Prod.mk.injEq, and_true] at h
        rw [← h]
        exact ⟨hp, rfl, rfl, v, _, hb⟩

/-- What a try that ends has done. -/
theorem oneTry_inv (h : s.oneTry d r = (r', .ok e)) :
    ∃ n t u, s.startTry d (begun r) = .ok (t, none) ∧
      (s.attempt d (begun r).tries).Runs n t ((s.attempt d (begun r).tries).courseOf t) u e ∧
      r'.problem = some u.problem ∧ r'.flips = r.flips + u.flips ∧ r'.tries = r.tries + 1 ∧
      r'.best = if e = .solved then some (.ofProblem u.problem) else u.best := by
  unfold oneTry at h
  cases ht : s.startTry d (begun r) with
  | error x => simp [ht] at h
  | ok t =>
    rcases t with ⟨t, _ | x⟩
    · rcases hu : (s.attempt d (begun r).tries).run t with ⟨u, x | e'⟩
      · simp [ht, hu] at h
      · simp only [ht, hu, Prod.mk.injEq, Except.ok.injEq] at h
        obtain ⟨rfl, rfl⟩ := h
        obtain ⟨n, hr⟩ := Attempt.runs_of_run hu
        obtain ⟨hp, hb, hfl⟩ := closing_eq s (begun r).tries r.clock.now u e'
        refine ⟨n, t, u, rfl, hr, ?_, ?_, rfl, ?_⟩
        · rw [after, hp]
        · rw [after, hfl]
          rfl
        · rw [after, hb, hp]
    · simp [ht] at h

end Solver

namespace Search

variable {s : Solver σ} {d : Option Binary64} {r r' : Search σ} {e : Ending} {f : Formula}
  {cs : List (List Problem)}

/-- What a search has made of the problems that it has seen, try by try. -/
structure Seen (r : Search σ) (f : Formula) (cs : List (List Problem)) : Prop where
  reflects : ∀ p ∈ cs.flatten, p.Reflects f
  fresh : ∀ c ∈ cs, ∃ p ∈ c.head?, ∃ v given, ∃ w w' : Watched σ,
    Problem.build f v given w = .ok (p, w')
  chain : ∀ c ∈ cs, c.IsChain Problem.FlipsTo
  best : Best.Of r.best cs.flatten
  flips_eq : r.flips + cs.length = cs.flatten.length
  tries_eq : r.tries = cs.length
  problem_eq : cs ≠ [] → r.problem = cs.flatten.getLast?

/-- One more try of a search that has not seen a solved problem. -/
theorem Seen.oneTry (hne : ∀ c ∈ s.formula, c ≠ []) (h : r.Seen s.formula cs)
    (hs : ∀ p ∈ cs.flatten, p.isSolved = false) (ho : s.oneTry d r = (r', .ok e)) :
    ∃ t, s.startTry d (Solver.begun r) = .ok (t, none) ∧
      r'.Seen s.formula (cs ++ [(s.attempt d (Solver.begun r).tries).courseOf t]) ∧
      (e = .solved ↔
        ∃ p ∈ (cs ++ [(s.attempt d (Solver.begun r).tries).courseOf t]).flatten,
          p.isSolved = true) := by
  obtain ⟨n, t, u, ht, hr, hproblem, hflips, htries, hbest⟩ := Solver.oneTry_inv ho
  obtain ⟨hp, hzero, hfirst, v, given, hbuild⟩ := Solver.startTry_inv hne ht
  obtain ⟨hreflects, hchain⟩ := hr.reflects hp
  refine ⟨t, ht, ?_⟩
  generalize (s.attempt d (Solver.begun r).tries).courseOf t = c at hr hreflects hchain ⊢
  have hflat : (cs ++ [c]).flatten = cs.flatten ++ c := by simp
  have hall : ∀ p ∈ cs.flatten ++ c, p.Reflects s.formula := by
    intro p hm
    rcases List.mem_append.mp hm with hm | hm
    · exact h.reflects p hm
    · exact hreflects p hm
  have hrecord : Best.Of t.best (cs.flatten ++ [t.problem]) := by
    rw [hfirst]
    exact h.best.record t.problem
  have heach : ∀ {q : List Problem → Prop}, (∀ c ∈ cs, q c) → q c → ∀ c' ∈ cs ++ [c], q c' := by
    intro q hcs hc c' hc'
    rcases List.mem_append.mp hc' with hc' | hc'
    · exact hcs c' hc'
    · exact List.mem_singleton.mp hc' ▸ hc
  refine ⟨?_, by rw [hflat]; exact hr.solved_iff_exists hs⟩
  exact {
    reflects := hflat ▸ hall
    fresh := heach h.fresh ⟨t.problem, hr.head?, v, given, _, _, hbuild⟩
    chain := heach h.chain hchain
    best := by
      rw [hflat, hbest]
      exact hr.best_of_end hrecord hall hs
    flips_eq := by
      have hlen := hr.flips_eq
      have hold := h.flips_eq
      rw [hzero] at hlen
      rw [hflat, hflips, List.length_append, List.length_append, List.length_singleton]
      omega
    tries_eq := by rw [htries, h.tries_eq, List.length_append, List.length_singleton]
    problem_eq := fun _ => by
      rw [hflat, hproblem, List.getLast?_append, hr.getLast?]
      rfl }

/-- What the tries of a search have seen, after what was seen before them. -/
theorem Seen.tryUpTo (hne : ∀ c ∈ s.formula, c ≠ []) {n : Nat} (h : r.Seen s.formula cs)
    (hs : ∀ p ∈ cs.flatten, p.isSolved = false) (ho : s.tryUpTo d n r = (r', .ok e)) :
    r'.Seen s.formula (cs ++ s.courses d n r) ∧
      (e = .solved ↔ ∃ p ∈ (cs ++ s.courses d n r).flatten, p.isSolved = true) := by
  induction n generalizing r cs with
  | zero =>
    simp only [Solver.tryUpTo, Prod.mk.injEq, Except.ok.injEq] at ho
    obtain ⟨rfl, rfl⟩ := ho
    rw [Solver.courses, List.append_nil]
    refine ⟨h, by simp, ?_⟩
    rintro ⟨p, hm, hsol⟩
    rw [hs p hm] at hsol
    cases hsol
  | succ n ih =>
    rcases hone : s.oneTry d r with ⟨r1, x | e1⟩
    · simp [Solver.tryUpTo, hone] at ho
    · obtain ⟨t, ht, hseen, hsolved⟩ := h.oneTry hne hs hone
      by_cases he1 : e1 = .exhausted
      · subst he1
        rw [Solver.tryUpTo_of_exhausted hone] at ho
        have hnext : ∀ p ∈ (cs ++ [(s.attempt d (Solver.begun r).tries).courseOf t]).flatten,
            p.isSolved = false := by
          intro p hm
          rw [Bool.eq_false_iff]
          intro hsol
          cases hsolved.mpr ⟨p, hm, hsol⟩
        rw [Solver.courses_of_exhausted ht hone, List.append_cons]
        exact ih hseen hnext ho
      · rw [Solver.tryUpTo_of_ended hone he1, Prod.mk.injEq, Except.ok.injEq] at ho
        obtain ⟨rfl, rfl⟩ := ho
        rw [Solver.courses_of_ended ht hone he1]
        exact ⟨hseen, hsolved⟩

end Search

namespace Solver

variable {s : Solver σ} {timeout : Value}

theorem seen_opening (s : Solver σ) (f : Formula) : s.opening.Seen f [] where
  reflects := by simp
  fresh := by simp
  chain := by simp
  best := Best.of_nil
  flips_eq := rfl
  tries_eq := rfl
  problem_eq h := absurd rfl h

/-- What is known of a search that returned a result. -/
theorem solve_seen (hne : ∀ c ∈ s.formula, c ≠ []) {r : SearchResult}
    (hr : (s.solve timeout).result = .ok r) :
    ∃ (t : Search σ) (e : Ending), t.Seen s.formula (s.visited timeout) ∧
      (e = .solved ↔ ∃ p ∈ (s.visited timeout).flatten, p.isSolved = true) ∧
      r.status = statusOf e ∧ r.assignment = t.best.map (·.assignment) ∧
      r.satisfied = (t.best.map fun b => (b.satisfied : Int)).getD 0 ∧
      r.flips = t.flips ∧ r.tries = t.tries ∧
      (s.solve timeout).solver.problem = t.problem := by
  unfold solve at hr ⊢
  unfold visited
  rcases hready : s.ready timeout with ⟨s', x | b⟩
  · simp [hready] at hr
  · obtain ⟨hf, -⟩ := ready_inv hready
    rw [hready] at hr
    dsimp only at hr ⊢
    rcases htry : s'.tryUpTo b.deadline b.tries s'.opening with ⟨t, x | e⟩
    · simp [htry] at hr
    · rw [htry] at hr
      obtain rfl := Except.ok.inj hr
      obtain ⟨hseen, hsolved⟩ := (seen_opening s' s'.formula).tryUpTo (hf ▸ hne) (by simp) htry
      rw [List.nil_append, hf] at hseen
      rw [List.nil_append] at hsolved
      exact ⟨t, e, hseen, hsolved, rfl, rfl, rfl, rfl, rfl, rfl⟩

theorem courses_ne_nil {d : Option Binary64} {n : Nat} {r r' : Search σ} {e : Ending}
    (h : s.tryUpTo d (n + 1) r = (r', .ok e)) : s.courses d (n + 1) r ≠ [] := by
  rcases hone : s.oneTry d r with ⟨r1, x | e1⟩
  · simp [tryUpTo, hone] at h
  · obtain ⟨-, t, -, ht, -⟩ := oneTry_inv hone
    by_cases he : e1 = .exhausted
    · subst he
      rw [courses_of_exhausted ht hone]
      exact List.cons_ne_nil _ _
    · rw [courses_of_ended ht hone he]
      exact List.cons_ne_nil _ _

/-- A search that returned has made at least one try. -/
theorem visited_ne_nil (hv : s.parameters.Valid) {r : SearchResult}
    (hr : (s.solve timeout).result = .ok r) : s.visited timeout ≠ [] := by
  unfold solve at hr
  unfold visited
  rcases hready : s.ready timeout with ⟨s', x | b⟩
  · simp [hready] at hr
  · obtain ⟨-, -, -, -, htries⟩ := ready_inv hready
    obtain ⟨n, hn, hmax⟩ := hv.maxTries
    rw [hready] at hr
    dsimp only at hr ⊢
    rcases htry : s'.tryUpTo b.deadline b.tries s'.opening with ⟨t, x | e⟩
    · simp [htry] at hr
    · have hb : n = b.tries := by simpa [triesOf, hmax] using htries
      obtain ⟨k, hk⟩ := Nat.exists_eq_add_one.mpr (hb ▸ hn)
      rw [hk] at htry ⊢
      exact courses_ne_nil htry

/-- The answer of a search is the first of the problems visited that satisfies most clauses, and it
    is satisfiable exactly if a problem was visited that satisfies all. -/
theorem solve_best (hne : ∀ c ∈ s.formula, c ≠ []) (hv : s.parameters.Valid) {r : SearchResult}
    (hr : (s.solve timeout).result = .ok r) :
    ∃ p, FirstMax (fun p : Problem => s.formula.countHolding p.valuation.valueOf)
        (s.visited timeout).flatten p ∧
      r.assignment = some p.valuation ∧
      p.valuation.map (·.1) = (s.formula.flatten.map (·.name)).eraseDups ∧
      r.satisfied = s.formula.countHolding p.valuation.valueOf ∧
      (r.status = .satisfiable ↔ r.satisfied = s.formula.length) ∧
      (r.status = .satisfiable ↔ s.formula.holds p.valuation.valueOf = true) ∧
      (r.status = .satisfiable ↔
        ∃ q ∈ (s.visited timeout).flatten, s.formula.holds q.valuation.valueOf = true) ∧
      r.tries = (s.visited timeout).length ∧
      r.flips + r.tries = (s.visited timeout).flatten.length ∧
      (∀ c ∈ s.visited timeout, c.IsChain Problem.FlipsTo ∧ ∃ q ∈ c.head?, ∃ v given,
        ∃ w w' : Watched σ, Problem.build s.formula v given w = .ok (q, w')) ∧
      (s.solve timeout).solver.problem = (s.visited timeout).flatten.getLast? := by
  obtain ⟨t, e, hseen, hsolved, hstatus, hassign, hsat, hflips, htries, hproblem⟩ :=
    solve_seen hne hr
  have htry := visited_ne_nil hv hr
  have hnil : (s.visited timeout).flatten ≠ [] := by
    have hlen := hseen.flips_eq
    have hpos := List.length_pos_iff.mpr htry
    exact List.length_pos_iff.mp (by omega)
  have hbest := hseen.best
  cases hb : t.best with
  | none =>
    rw [hb] at hbest
    exact absurd hbest hnil
  | some b =>
    rw [hb] at hbest
    obtain ⟨p, hp, rfl⟩ := hbest
    have hpr := hseen.reflects p hp.mem
    have hcount : r.satisfied = s.formula.countHolding p.valuation.valueOf := by
      rw [hsat, hb, ← hpr.satisfiedCount_eq]
      rfl
    have hsolves : r.status = .satisfiable ↔
        ∃ q ∈ (s.visited timeout).flatten, s.formula.holds q.valuation.valueOf = true := by
      have he : r.status = .satisfiable ↔ e = .solved := by
        rw [hstatus]
        cases e <;> simp [statusOf]
      rw [he, hsolved]
      refine exists_congr fun q => and_congr_right fun hq => ?_
      rw [(hseen.reflects q hq).isSolved_eq]
    have hholds : r.status = .satisfiable ↔ s.formula.holds p.valuation.valueOf = true := by
      rw [hsolves]
      refine ⟨?_, fun hh => ⟨p, hp.mem, hh⟩⟩
      rintro ⟨q, hq, hh⟩
      have hqr := hseen.reflects q hq
      have hle := hp.le hq
      rw [← hqr.isSolved_eq, hqr.isSolved_iff] at hh
      rw [← hpr.isSolved_eq, hpr.isSolved_iff]
      exact Nat.le_antisymm hpr.satisfiedCount_le (hh ▸ hle)
    refine ⟨p, hp.congr fun q hq => (hseen.reflects q hq).satisfiedCount_eq, ?_, ?_, hcount, ?_,
      hholds, hsolves, ?_, ?_, fun c hc => ⟨hseen.chain c hc, hseen.fresh c hc⟩, ?_⟩
    · rw [hassign, hb]
      rfl
    · rw [Problem.valuation, Assignment.keys_toValuation hpr.consistent.enumerated, hpr.names_eq]
    · rw [hholds, hcount, ← hpr.isSolved_eq, hpr.isSolved_iff, hpr.satisfiedCount_eq,
        Int.natCast_inj]
    · rw [htries, hseen.tries_eq]
    · have := hseen.flips_eq
      have := hseen.tries_eq
      omega
    · rw [hproblem]
      exact hseen.problem_eq htry

/-- The search for a solution of two clauses that contradict each other has no success. -/
theorem solve_best_of_contrary :
    ∃ r, ((ofFormula [[⟨"a", false⟩], [⟨"a", true⟩]] {} none true
        ⟨Script.mk [1, 0], {}, 0, 0, false⟩ (.steady .one)).solve .null).result = .ok r ∧
      r.satisfied = 1 ∧ r.status ≠ .satisfiable := by
  obtain ⟨r, hr⟩ := solve_returns (s := ofFormula [[⟨"a", false⟩], [⟨"a", true⟩]] {} none true
    ⟨Script.mk [1, 0], {}, 0, 0, false⟩ (.steady .one)) (by decide) Parameters.valid_default
    ((Value.isWritable_int 1).mpr (Nat.one_lt_pow (by decide) (by decide))) (ready_of_null rfl rfl)
  obtain ⟨p, -, -, hnames, hcount, hstatus, -⟩ :=
    solve_best (by decide) Parameters.valid_default hr
  have hone : r.satisfied = 1 := by
    have hkeys : p.valuation.map (·.1) = ["a"] := hnames.trans (by decide)
    obtain ⟨⟨x, b⟩, hp, rfl⟩ := List.map_eq_singleton_iff.mp hkeys
    rw [hcount, hp]
    cases b <;> decide
  refine ⟨r, hr, hone, ?_⟩
  rw [Ne, hstatus, hone]
  decide

end Solver

end FlipSat
