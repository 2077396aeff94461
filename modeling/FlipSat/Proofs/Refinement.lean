import FlipSat.Proofs.Plain

/-
  FlipSat: what a solver does in a search without a timeout, also after other searches.
  `solve_refines`: the search goes through the problems of the plain tries, asks its source the same
  questions, and leaves the same source. It does so exactly if its number of tries can be written;
  if not it stops at the start of its first try.
-/
namespace FlipSat.Solver

variable {σ : Type} {s : Solver σ}

/-! ## Getting ready -/

theorem ready_keeps (s : Solver σ) (timeout : Value) :
    (s.ready timeout).1.formula = s.formula ∧ (s.ready timeout).1.parameters = s.parameters ∧
      (s.ready timeout).1.given = s.given := by
  unfold ready
  split
  · exact ⟨rfl, rfl, rfl⟩
  · dsimp only
    split
    · exact ⟨rfl, rfl, rfl⟩
    · split <;> exact ⟨rfl, rfl, rfl⟩

theorem undisturbed_ready (hq : s.source.Quiet s.clock.reads) :
    Undisturbed s.clock.next.reads (s.source.duringReading s.clock.reads).resume
      s.source.source where
  source_eq := rfl
  running := rfl
  quiet := ⟨hq.choice, hq.percent, fun k hk => hq.reading k (Nat.le_of_succ_le hk)⟩

/-! ## Earlier searches -/

variable [RandomSource σ]

/-- The solver after searches with the given timeouts, however they ended. -/
def afterSolves (s : Solver σ) (timeouts : List Value) : Solver σ :=
  timeouts.foldl (fun s timeout => (s.solve timeout).solver) s

/-- A search changes neither the formula nor what directs later searches. -/
theorem solve_keeps (s : Solver σ) (timeout : Value) :
    (s.solve timeout).solver.formula = s.formula ∧
      (s.solve timeout).solver.parameters = s.parameters ∧
      (s.solve timeout).solver.given = s.given := by
  have hready := ready_keeps s timeout
  unfold solve
  rcases hb : s.ready timeout with ⟨s', x | b⟩
  · rw [hb] at hready
    exact hready
  · rw [hb] at hready
    dsimp only
    rcases s'.tryUpTo b.deadline b.tries s'.opening with ⟨r, x | e⟩
    · exact hready
    · exact hready

theorem afterSolves_keeps (s : Solver σ) (timeouts : List Value) :
    (s.afterSolves timeouts).formula = s.formula ∧
      (s.afterSolves timeouts).parameters = s.parameters ∧
      (s.afterSolves timeouts).given = s.given := by
  induction timeouts generalizing s with
  | nil => exact ⟨rfl, rfl, rfl⟩
  | cons timeout timeouts ih =>
    obtain ⟨h1, h2, h3⟩ := ih (s.solve timeout).solver
    obtain ⟨h4, h5, h6⟩ := solve_keeps s timeout
    exact ⟨h1.trans h4, h2.trans h5, h3.trans h6⟩

/-! ## Searches without a timeout -/

/-- A search without a timeout makes the plain tries. -/
theorem solve_plain {k : Percent} {m n : Nat} (hne : ∀ c ∈ s.formula, c ≠ [])
    (hv : s.parameters.Valid) (hw : s.parameters.maxTries.isWritable = true)
    (ht : s.parameters.timeout = .null) (hk : s.parameters.noiseAt (.int 0) = .ok (.int k.val))
    (hm : s.parameters.maxFlips = .int m) (hn : s.parameters.maxTries = .int n)
    (hq : s.source.Quiet s.clock.reads) :
    ∃ cs src r, Plain.tries s.formula s.parameters m n s.given s.source.source = .ok (cs, src) ∧
      s.visited .null = cs.map (List.modifyHead (·.withNoise k)) ∧
      (s.solve .null).solver.source.source = src ∧ (s.solve .null).result = .ok r := by
  have hready := ready_of_null ht hn
  have hund := undisturbed_ready hq
  generalize hs' : ({ s with
      clock := s.clock.next
      source := (s.source.duringReading s.clock.reads).resume } : Solver σ) = s' at hready
  obtain ⟨hf, hp, hg, -⟩ := ready_inv hready
  have hopen : Undisturbed s'.opening.clock.reads s'.opening.source s.source.source := by
    rw [← hs']
    exact hund
  obtain ⟨cs, src, r, e, hcs, hcourses, htry, hr⟩ := tries_of_tryUpTo (s := s') (k := k) (hf ▸ hne)
    (hp ▸ hv) (hp ▸ hw) (hp ▸ hk) (hp ▸ hm) n hopen
  have hsolve := solve_of_tries hready htry
  rw [hf, hp, hg] at hcs
  refine ⟨cs, src, _, hcs, ?_, ?_, by rw [hsolve]; rfl⟩
  · unfold visited
    rw [hready]
    exact hcourses
  · rw [hsolve]
    exact hr.source_eq

theorem length_flatten_modifyHead {α : Type} (f : α → α) (cs : List (List α)) :
    (cs.map (List.modifyHead f)).flatten.length = cs.flatten.length := by
  induction cs with
  | nil => rfl
  | cons c cs ih => simp [ih]

/-- A search without a timeout, of which nobody asks to stop, makes the plain tries of its formula
    if its number of tries can be written, and stops at the start of its first try if not. Checks,
    reports, records and earlier searches do not matter. -/
theorem solve_refines {s : Solver (Recorded σ)} (hne : ∀ c ∈ s.formula, c ≠ [])
    (hv : s.parameters.Valid) (hnull : s.parameters.timeout = .null) {m n : Nat}
    (hm : s.parameters.maxFlips = .int m) (hn : s.parameters.maxTries = .int n)
    (earlier : List Value)
    (hq : (s.afterSolves earlier).source.Quiet (s.afterSolves earlier).clock.reads) :
    let t := s.afterSolves earlier
    ∃ (cs : List (List Problem)) (src : Recorded σ) (noise : Nat → Percent),
      (∀ i : Nat, s.parameters.noiseAt (.int i) = .ok (.int (noise i).val)) ∧
      Plain.tries s.formula s.parameters m n s.given t.source.source = .ok (cs, src) ∧
      src.percents = t.source.source.percents ++
        cs.flatMap (fun c => (List.range (c.length - 1)).map fun i => ((noise i).val : Int)) ∧
      (n < 10 ^ Text.maxDigits →
        t.visited .null = cs.map (List.modifyHead (·.withNoise (noise 0))) ∧
        (t.solve .null).solver.source.source = src ∧
        (t.solve .null).solver.problem = (t.visited .null).flatten.getLast? ∧
        ∃ r, (t.solve .null).result = .ok r ∧ r.tries = cs.length ∧
          r.flips + cs.length = cs.flatten.length) ∧
      (10 ^ Text.maxDigits ≤ n → (t.solve .null).result = .error .tooManyDigits) := by
  intro t
  obtain ⟨hf, hp, hg⟩ := afterSolves_keeps s earlier
  choose noise hnoise using hv.noiseAt
  obtain ⟨cs, src, hcs⟩ := Plain.tries_returns hne hnoise m n s.given t.source.source
  refine ⟨cs, src, noise, hnoise, hcs, Plain.percents_tries hne hnoise hcs, fun hlt => ?_,
    fun hge => ?_⟩
  · have hw : t.parameters.maxTries.isWritable = true := by
      rw [hp, hn]
      exact (Value.isWritable_int n).mpr hlt
    obtain ⟨cs', src', r, hcs', hvisited, hsource, hr⟩ := solve_plain (s := t) (hf ▸ hne)
      (hp ▸ hv) hw (hp ▸ hnull) (hp ▸ hnoise 0) (hp ▸ hm) (hp ▸ hn) hq
    rw [hf, hp, hg, hcs] at hcs'
    cases hcs'
    obtain ⟨r', e, hseen, -, -, -, -, hflips, htries, hproblem⟩ := solve_seen (hf ▸ hne) hr
    have hne' := visited_ne_nil (hp ▸ hv) hr
    have hlen : (t.visited .null).length = cs.length := by rw [hvisited, List.length_map]
    have hflat : (t.visited .null).flatten.length = cs.flatten.length := by
      rw [hvisited, length_flatten_modifyHead]
    have htotal := hseen.flips_eq
    refine ⟨hvisited, hsource, hproblem.trans (hseen.problem_eq hne'), r, hr, ?_, ?_⟩
    · rw [htries, hseen.tries_eq, hlen]
    · rw [hflips]
      omega
  · refine solve_of_unwritable (s := t) (hf ▸ hne) (hp ▸ hv) ?_
      (ready_of_null (hp ▸ hnull) (hp ▸ hn))
    rw [hp, hn, Bool.eq_false_iff, ne_eq, Value.isWritable_int]
    omega

/-- A search with one try at most, after none. -/
theorem solve_refines_of_two :
    ∃ cs src, Plain.tries [[⟨"a", false⟩, ⟨"b", false⟩], [⟨"a", true⟩]] {} 100000 1 none
        (Recorded.mk (Script.mk [1, 1, 0, 7]) []) = .ok (cs, src) ∧
      ((ofFormula [[⟨"a", false⟩, ⟨"b", false⟩], [⟨"a", true⟩]] {} none true
        ⟨⟨Script.mk [1, 1, 0, 7], []⟩, {}, 0, 0, false⟩ (.steady .one)).solve
          .null).solver.source.source = src := by
  obtain ⟨cs, src, noise, -, hcs, -, hsolve, -⟩ := solve_refines
    (s := ofFormula [[⟨"a", false⟩, ⟨"b", false⟩], [⟨"a", true⟩]] {} none true
      ⟨⟨Script.mk [1, 1, 0, 7], []⟩, {}, 0, 0, false⟩ (.steady .one))
    (by decide) Parameters.valid_default rfl (m := 100000) (n := 1) rfl rfl []
    ⟨fun _ _ => rfl, fun _ _ => rfl, fun _ _ => rfl⟩
  exact ⟨cs, src, hcs, (hsolve (Nat.one_lt_pow (by decide) (by decide))).2.1⟩

end FlipSat.Solver
