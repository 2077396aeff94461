import FlipSat.Proofs.Answer
import FlipSat.Proofs.Source

/-
  FlipSat: a search without a timeout does what a plain loop over fresh problems does.
  `Plain.steps` sets the noise of each flip and makes a step until the problem is solved or the
  flips are used up; `Plain.tries` does so with fresh problems until one is solved. Checks, records,
  messages and the best assignment are absent. `steps_of_loop` compares a try with the plain steps,
  `tries_of_tryUpTo` a search with the plain tries: both go through the same problems and leave the
  same source. `percents_tries` lists the probabilities that the plain tries ask for.
-/
namespace FlipSat

variable {σ : Type}

/-- The end of a try does not disturb. -/
theorem Solver.undisturbed_closing {s : Solver σ} {src : σ} {t : TryState σ}
    (h : Undisturbed t.clock.reads t.source src) (index : Nat) (began : Binary64) (e : Ending) :
    Undisturbed (s.closing index began t e).clock.reads (s.closing index began t e).source src := by
  unfold closing
  cases s.traced with
  | true => exact h.duringReading
  | false => exact h

/-- The probabilities that a source was asked for, in order. -/
def Recorded.percents (r : Recorded σ) : List Int :=
  r.calls.reverse.filterMap fun call =>
    match call with
    | .percent k => some k
    | .choose _ => none

theorem Recorded.percents_choose (calls : List RandomCall) (s s' : σ) (n : Nat) :
    (Recorded.mk s (.choose n :: calls)).percents = (Recorded.mk s' calls).percents := by
  simp [Recorded.percents]

variable [RandomSource σ]

/-! ## Plain tries -/

namespace Plain

/-- The problems that a problem goes through in at most `n` steps, with the noise for each flip set
    before it; so many flips were made before. -/
def steps (ps : Parameters) : Nat → Nat → Problem → σ → Except Fault (List Problem × σ)
  | 0, _, p, s => .ok ([p], s)
  | n + 1, flips, p, s =>
    if p.isSolved then .ok ([p], s)
    else do
      let noise ← ps.noiseAt (.int flips)
      let q ← p.setNoise noise
      let r := q.step s
      match r.fault with
      | some e => .error e
      | none =>
        let (c, s) ← steps ps n (flips + 1) r.problem r.source
        pure (p :: c, s)

/-- The problems of at most `n` tries of so many flips, the first one with the given values. -/
def tries (f : Formula) (ps : Parameters) (flips : Nat) :
    Nat → Option Valuation → σ → Except Fault (List (List Problem) × σ)
  | 0, _, s => .ok ([], s)
  | n + 1, given, s => do
    let (p, s) ← Problem.build f (.int Percent.default.val) given s
    let (c, s) ← steps ps flips 0 p s
    if c.getLast?.any Problem.isSolved then pure ([c], s)
    else
      let (cs, s) ← tries f ps flips n none s
      pure (c :: cs, s)

end Plain

theorem Problem.Reflects.noise_step {p : Problem} {f : Formula} (h : p.Reflects f) (source : σ) :
    (p.step source).problem.noise = p.noise := by
  rcases h.step_cases source with ⟨-, he⟩ | ⟨-, c, -, -, l, q, s, -, hq, he⟩
  · rw [he]
  · rw [he]
    exact (h.of_flip hq).2.2.2.1

namespace Plain

variable {ps : Parameters} {noise : Nat → Percent} {f : Formula} {p : Problem}

theorem steps_returns (hnoise : ∀ i : Nat, ps.noiseAt (.int i) = .ok (.int (noise i).val))
    (hp : p.Reflects f) (n k : Nat) (s : σ) : ∃ c s', steps ps n k p s = .ok (c, s') := by
  induction n generalizing k p s with
  | zero => exact ⟨_, _, rfl⟩
  | succ n ih =>
    rw [steps]
    cases p.isSolved with
    | true => exact ⟨_, _, rfl⟩
    | false =>
      obtain ⟨hr, hfault, -⟩ := (hp.withNoise (noise k)).step s
      obtain ⟨c, s', hc⟩ := ih hr (k + 1) ((p.withNoise (noise k)).step s).source
      simp only [Bool.false_eq_true, if_false, hnoise, bind, Except.bind, Problem.setNoise_int,
        hfault, hc]
      exact ⟨_, _, rfl⟩

/-- The plain tries never fail. -/
theorem tries_returns (hne : ∀ c ∈ f, c ≠ [])
    (hnoise : ∀ i : Nat, ps.noiseAt (.int i) = .ok (.int (noise i).val)) (m n : Nat)
    (given : Option Valuation) (s : σ) : ∃ cs s', tries f ps m n given s = .ok (cs, s') := by
  induction n generalizing given s with
  | zero => exact ⟨_, _, rfl⟩
  | succ n ih =>
    obtain ⟨p, b, hbuild, hp, -⟩ := Problem.build_spec hne (Percent.ofValue_int .default) given s
    obtain ⟨c, b', hc⟩ := steps_returns hnoise hp m 0 b
    obtain ⟨cs, b'', hcs⟩ := ih none b'
    simp only [tries, hbuild, bind, Except.bind, hc, hcs]
    split <;> exact ⟨_, _, rfl⟩

end Plain

theorem Percent.eq_of_int_eq {m n : Percent} (h : Value.int m.val = .int n.val) : m = n := by
  obtain ⟨m, hm⟩ := m
  obtain ⟨n, hn⟩ := n
  simpa using h

namespace Attempt

variable {a : Attempt} {t : TryState σ} {f : Formula} {q : Problem} {s : σ} {k : Percent}

/-- A flip of a try makes the step of its problem with the noise for that flip, whether or not the
    noise is set anew. -/
theorem flip_plain (hv : a.parameters.Valid) (hq : t.problem = q.withNoise k)
    (hk : a.parameters.anneals = false → a.parameters.noiseLevel = .int k.val)
    (ht : t.problem.Reflects f) (hs : Undisturbed t.clock.reads t.source s) :
    ∃ u j, a.flip t = (u, none) ∧ a.parameters.noiseAt (.int t.flips) = .ok (.int j.val) ∧
      (a.parameters.anneals = false → a.parameters.noiseLevel = .int j.val) ∧
      ((q.withNoise j).step s).fault = none ∧
      u.problem = ((q.withNoise j).step s).problem ∧ u.problem.noise = j ∧
      u.flips = t.flips + 1 ∧
      Undisturbed u.clock.reads u.source ((q.withNoise j).step s).source := by
  obtain ⟨u, hu⟩ := flip_returns hv ht
  obtain ⟨p, hp, hfault, hproblem, hsource, hclock, hflips, -⟩ := flip_inv hu
  obtain ⟨j, hj, hann⟩ := annealed_of_valid hv (t := t)
  have hkj : a.parameters.anneals = false → k = j := by
    intro han
    rw [hv.noiseAt_of_not_anneals han, hk han] at hj
    exact Percent.eq_of_int_eq (Except.ok.inj hj)
  have hpq : p = q.withNoise j := by
    rw [hp] at hann
    rw [Except.ok.inj hann, hq]
    cases han : a.parameters.anneals with
    | true => rfl
    | false =>
      rw [hkj han]
      rfl
  have hreflects : p.Reflects f := by
    rw [hpq]
    exact (hq ▸ ht).withNoise j
  obtain ⟨h1, h2, h3⟩ := Problem.step_of_asks (p := p) (asks_undisturbed t.clock.reads) hs
  rw [hpq] at h1 h2 h3 hfault hproblem hsource hreflects
  refine ⟨u, j, hu, hj, fun han => hkj han ▸ hk han, h2 ▸ hfault, hproblem.trans h1, ?_, hflips, ?_⟩
  · rw [hproblem, hreflects.noise_step]
    rfl
  · rw [hclock, hsource]
    exact h3

/-- The noise that the first problem of a try was built with does not matter to how the try ends. -/
theorem Runs.isSolved_last {n : Nat} {c : List Problem} {u : TryState σ} {e : Ending}
    (h : a.Runs n t (q.withNoise k :: c) u e) :
    (q :: c).getLast?.any Problem.isSolved = u.problem.isSolved := by
  have hlast := h.getLast?
  cases c with
  | nil =>
    have hu : q.withNoise k = u.problem := by simpa using hlast
    rw [← hu]
    rfl
  | cons p c =>
    rw [List.getLast?_cons_cons] at hlast ⊢
    rw [hlast]
    rfl

/-- A try without a deadline goes through the plain steps of its problem. -/
theorem steps_of_loop (hv : a.parameters.Valid) (hd : a.deadline = none) (n : Nat)
    (hq : t.problem = q.withNoise k)
    (hk : a.parameters.anneals = false → a.parameters.noiseLevel = .int k.val)
    (ht : t.problem.Reflects f) (hs : Undisturbed t.clock.reads t.source s) :
    ∃ c s' u e, Plain.steps a.parameters n t.flips q s = .ok (q :: c, s') ∧
      a.course n t = t.problem :: c ∧ a.loop n t = (u, .ok e) ∧
      Undisturbed u.clock.reads u.source s' ∧ (e = .solved ∨ e = .exhausted) := by
  induction n generalizing t q s k with
  | zero =>
    refine ⟨[], s, t, _, rfl, rfl, rfl, hs, ?_⟩
    cases t.problem.isSolved with
    | true => exact .inl rfl
    | false => exact .inr rfl
  | succ n ih =>
    have hsolved : q.isSolved = t.problem.isSolved := by
      rw [hq]
      rfl
    rw [Plain.steps, course, loop, hsolved]
    cases hsol : t.problem.isSolved with
    | true => exact ⟨[], s, t, _, rfl, rfl, rfl, hs, .inl rfl⟩
    | false =>
      have hlate : a.late t = (false, t) := by
        unfold late
        rw [hd]
      obtain ⟨u, j, hu, hj, hkj, hfault, hproblem, hnoise, hflips, hus⟩ :=
        flip_plain hv hq hk ht hs
      obtain ⟨-, hur⟩ := flipsTo_of_flip ht hsol hu
      obtain ⟨c, s', v, e, hc, hcourse, hloop, hvs, he⟩ :=
        ih (q := u.problem) (k := u.problem.noise) rfl (hnoise ▸ hkj) hur hus
      rw [hflips, hproblem] at hc
      refine ⟨u.problem :: c, s', v, e, ?_, ?_, ?_, hvs, he⟩
      · simp only [Bool.false_eq_true, if_false, hj, bind, Except.bind, Problem.setNoise_int,
          hfault, hc, pure, Except.pure, hproblem]
      · simp [hs.running, hlate, hu, hcourse]
      · simp [hs.running, hlate, hu, hloop]

end Attempt

namespace Solver

variable {s : Solver σ} {src : σ} {k : Percent} {r : Search σ}

/-- A try of a search without a deadline is a plain one, but for the noise that its problem is built
    with. -/
theorem oneTry_plain (hne : ∀ c ∈ s.formula, c ≠ []) (hv : s.parameters.Valid)
    (hw : s.parameters.maxTries.isWritable = true)
    (hk : s.parameters.noiseAt (.int 0) = .ok (.int k.val)) {m : Nat}
    (hm : s.parameters.maxFlips = .int m) (hr : Undisturbed r.clock.reads r.source src) :
    ∃ q c b src' r' t u e,
      Problem.build s.formula (.int Percent.default.val)
        (if r.tries = 0 then s.given else none) src = .ok (q, b) ∧
      Plain.steps s.parameters m 0 q b = .ok (q :: c, src') ∧
      s.startTry none (begun r) = .ok (t, none) ∧
      (s.attempt none (begun r).tries).Runs m t (q.withNoise k :: c) u e ∧
      (s.attempt none (begun r).tries).courseOf t = q.withNoise k :: c ∧
      s.oneTry none r = (r', .ok e) ∧ r'.tries = r.tries + 1 ∧
      Undisturbed r'.clock.reads r'.source src' ∧ (e = .solved ∨ e = .exhausted) := by
  have hbegun : Undisturbed (begun r).clock.reads (begun r).source src := hr.duringReading
  have hgiven : (if (begun r).tries = 1 then s.given else none) =
      if r.tries = 0 then s.given else none := if_congr (by simp [begun]) rfl rfl
  obtain ⟨p, w, b, hwatched, hplain, hp, hwb⟩ :=
    Problem.build_of_chooses (asks_undisturbed (begun r).clock.reads).toChooses hbegun hne
      (Percent.ofValue_int k) (Percent.ofValue_int .default)
      (if r.tries = 0 then s.given else none)
  rw [← hgiven] at hwatched
  obtain ⟨t, ht, hproblem, hsource, hclock, hflips⟩ := startTry_of_build (d := none) hk hwatched
  rw [hw, if_pos rfl] at ht
  have hconst : s.parameters.anneals = false → s.parameters.noiseLevel = .int k.val := by
    intro han
    rw [hv.noiseAt_of_not_anneals han] at hk
    exact Except.ok.inj hk
  have hreflects : t.problem.Reflects s.formula := by
    rw [hproblem]
    exact hp.withNoise k
  rw [← hsource, ← hclock] at hwb
  obtain ⟨c, src', u, e, hsteps, hcourse, hloop, hu, he⟩ :=
    Attempt.steps_of_loop (a := s.attempt none (begun r).tries) hv rfl m
      (q := p.withNoise .default) (by rw [hproblem]; rfl) hconst hreflects hwb
  have hruns := Attempt.runs_of_loop hloop
  rw [hflips] at hsteps
  rw [hproblem] at hcourse
  rw [hcourse] at hruns
  have hrun : (s.attempt none (begun r).tries).run t = (u, .ok e) := by
    unfold Attempt.run attempt
    rw [hm]
    exact hloop
  have hone : s.oneTry none r =
      (after (begun r) (s.closing (begun r).tries r.clock.now u e) e, .ok e) := by
    unfold oneTry
    simp only [ht, hrun]
  refine ⟨_, c, b, src', _, t, u, e, hplain, hsteps, ht, hruns, ?_, hone, rfl,
    undisturbed_closing hu _ _ _, he⟩
  unfold Attempt.courseOf attempt
  rw [hm]
  exact hcourse

/-- A search without a deadline makes the plain tries. -/
theorem tries_of_tryUpTo (hne : ∀ c ∈ s.formula, c ≠ []) (hv : s.parameters.Valid)
    (hw : s.parameters.maxTries.isWritable = true)
    (hk : s.parameters.noiseAt (.int 0) = .ok (.int k.val)) {m : Nat}
    (hm : s.parameters.maxFlips = .int m) (n : Nat)
    (hr : Undisturbed r.clock.reads r.source src) :
    ∃ cs src' r' e,
      Plain.tries s.formula s.parameters m n (if r.tries = 0 then s.given else none) src =
        .ok (cs, src') ∧
      s.courses none n r = cs.map (List.modifyHead (·.withNoise k)) ∧
      s.tryUpTo none n r = (r', .ok e) ∧ Undisturbed r'.clock.reads r'.source src' := by
  induction n generalizing r src with
  | zero => exact ⟨[], src, r, _, rfl, rfl, rfl, hr⟩
  | succ n ih =>
    obtain ⟨q, c, b, src', r', t, u, e, hplain, hsteps, ht, hruns, hcourse, hone, htries, hr',
      he⟩ := oneTry_plain hne hv hw hk hm hr
    have hlast := hruns.isSolved_last
    rcases he with rfl | rfl
    · have hsol := hruns.solved_iff.mp rfl
      refine ⟨[q :: c], src', r', .solved, ?_, ?_, tryUpTo_of_ended hone (by decide), hr'⟩
      · simp only [Plain.tries, hplain, hsteps, bind, Except.bind, hlast, hsol]
        rfl
      · rw [courses_of_ended ht hone (by decide), hcourse]
        rfl
    · have hsol : u.problem.isSolved = false := by
        rw [Bool.eq_false_iff, ne_eq, ← hruns.solved_iff]
        decide
      obtain ⟨cs, src'', r'', e, hcs, hcourses, htry, hr''⟩ := ih hr'
      rw [htries, if_neg (Nat.succ_ne_zero _)] at hcs
      refine ⟨(q :: c) :: cs, src'', r'', e, ?_, ?_, ?_, hr''⟩
      · simp only [Plain.tries, hplain, hsteps, bind, Except.bind, hlast, hsol, hcs]
        rfl
      · rw [courses_of_exhausted ht hone, hcourse, hcourses]
        rfl
      · rw [tryUpTo_of_exhausted hone]
        exact htry

end Solver

/-! ## Probabilities asked for -/

namespace Plain

variable {ps : Parameters} {noise : Nat → Percent} {f : Formula} {p : Problem} {r r' : Recorded σ}

theorem percents_pick (c : Clause) (r : Recorded σ) :
    (p.pick c r).2.percents = r.percents ++ [(p.noise.val : Int)] := by
  unfold Problem.pick
  dsimp only
  split
  · simp [RandomSource.choose, RandomSource.percent, Recorded.percents]
  · simp [RandomSource.percent, Recorded.percents]

/-- A step of a problem that is not solved asks for the noise, once. -/
theorem percents_step (hp : p.Reflects f) (hs : p.isSolved = false) (r : Recorded σ) :
    (p.step r).source.percents = r.percents ++ [(p.noise.val : Int)] := by
  obtain ⟨hpos, i, c, hchoose, hc, -⟩ := hp.choose_spec hs r
  have hpick := percents_pick (p := p) c (RandomSource.choose r _ hpos).2
  have hr : (RandomSource.choose r _ hpos).2.percents = r.percents :=
    Recorded.percents_choose _ _ _ _
  rw [hr] at hpick
  unfold Problem.step
  rw [hchoose]
  dsimp only
  rw [hc]
  dsimp only
  rcases hq : p.pick c (RandomSource.choose r _ hpos).2 with ⟨x | l, t⟩
  · rw [hq] at hpick
    exact hpick
  · rw [hq] at hpick
    exact hpick

theorem percents_steps (hnoise : ∀ i : Nat, ps.noiseAt (.int i) = .ok (.int (noise i).val))
    (hp : p.Reflects f) {n k : Nat} {c : List Problem}
    (h : steps ps n k p r = .ok (c, r')) :
    c ≠ [] ∧ r'.percents =
      r.percents ++ (List.range (c.length - 1)).map fun i => ((noise (k + i)).val : Int) := by
  induction n generalizing k p r c with
  | zero =>
    cases h
    exact ⟨List.cons_ne_nil _ _, by simp⟩
  | succ n ih =>
    rw [steps] at h
    cases hs : p.isSolved with
    | true =>
      rw [hs] at h
      cases h
      exact ⟨List.cons_ne_nil _ _, by simp⟩
    | false =>
      have hq := hp.withNoise (noise k)
      obtain ⟨hr, hfault, -⟩ := hq.step r
      have hasked := percents_step hq (by exact hs) r
      rw [hs] at h
      simp only [Bool.false_eq_true, if_false, hnoise, bind, Except.bind, Problem.setNoise_int,
        hfault] at h
      rcases hc : steps ps n (k + 1) ((p.withNoise (noise k)).step r).problem
        ((p.withNoise (noise k)).step r).source with x | ⟨c', r''⟩
      · rw [hc] at h
        cases h
      · rw [hc] at h
        cases h
        obtain ⟨hne, hrest⟩ := ih hr hc
        obtain ⟨m, hm⟩ := Nat.exists_eq_add_one.mpr (List.length_pos_iff.mpr hne)
        refine ⟨List.cons_ne_nil _ _, ?_⟩
        rw [hrest, hasked, hm, List.length_cons, hm, Nat.add_sub_cancel, Nat.add_sub_cancel,
          List.range_succ_eq_map, List.map_cons, List.map_map, List.append_assoc,
          List.singleton_append]
        congr 2
        refine List.map_congr_left fun i _ => ?_
        rw [Function.comp_apply, Nat.add_right_comm, Nat.add_assoc]

/-- Building a problem asks for choices only. -/
theorem percents_build (hne : ∀ c ∈ f, c ≠ []) {v : Value} {n : Percent}
    (hv : Percent.ofValue v = .ok n) {given : Option Valuation}
    (h : Problem.build f v given r = .ok (p, r')) : r'.percents = r.percents := by
  have hchooses : Chooses fun a b : Recorded σ => a = b ∧ a.percents = r.percents :=
    { choose := by
        rintro a b ⟨rfl, ha⟩ n h
        exact ⟨rfl, rfl, (Recorded.percents_choose _ _ _ _).trans ha⟩ }
  obtain ⟨p', a', b', ha, -, -, -, hr⟩ :=
    Problem.build_of_chooses hchooses ⟨rfl, rfl⟩ hne hv hv given
  rw [h] at ha
  cases ha
  exact hr

theorem percents_tries (hne : ∀ c ∈ f, c ≠ [])
    (hnoise : ∀ i : Nat, ps.noiseAt (.int i) = .ok (.int (noise i).val)) {m n : Nat}
    {given : Option Valuation} {cs : List (List Problem)}
    (h : tries f ps m n given r = .ok (cs, r')) :
    r'.percents = r.percents ++
      cs.flatMap fun c => (List.range (c.length - 1)).map fun i => ((noise i).val : Int) := by
  induction n generalizing given r cs with
  | zero =>
    cases h
    simp
  | succ n ih =>
    obtain ⟨p, b, hbuild, hp, -⟩ := Problem.build_spec hne (Percent.ofValue_int .default) given r
    have hb := percents_build hne (Percent.ofValue_int .default) hbuild
    simp only [tries, hbuild, bind, Except.bind] at h
    rcases hc : steps ps m 0 p b with x | ⟨c, b'⟩
    · rw [hc] at h
      cases h
    · obtain ⟨-, hsteps⟩ := percents_steps hnoise hp hc
      simp only [Nat.zero_add] at hsteps
      rw [hc] at h
      dsimp only at h
      split at h
      · cases h
        rw [hsteps, hb]
        simp
      · rcases hcs : tries f ps m n none b' with x | ⟨cs', b''⟩
        · rw [hcs] at h
          cases h
        · rw [hcs] at h
          cases h
          rw [ih hcs, hsteps, hb]
          simp

end Plain

end FlipSat
