import FlipSat.Proofs.Course
import FlipSat.Proofs.Noise
import FlipSat.Search.Solver

/-
  FlipSat: a search with valid parameters returns, if its number of tries can be written.
  `flip_returns`: a flip of a try has no fault, since the noise is a probability at every flip, a
  step has no fault, and a check finds nothing. `solve_returns` follows for the whole search. The
  number of tries is written at the start of each try; one with too many digits stops the search
  there (`solve_of_unwritable`).
-/
namespace FlipSat

variable {σ : Type} {f : Formula}

theorem Value.isWritable_int (n : Nat) :
    (Value.int n).isWritable = true ↔ n < 10 ^ Text.maxDigits := by
  rw [isWritable, decide_eq_true_iff, Int.natAbs_natCast, Nat.pow_eq]

namespace Attempt

variable {a : Attempt} {t : TryState σ}

theorem annealed_of_valid (hv : a.parameters.Valid) :
    ∃ k : Percent, a.parameters.noiseAt (.int t.flips) = .ok (.int k.val) ∧
      a.annealed t =
        .ok (if a.parameters.anneals then t.problem.withNoise k else t.problem) := by
  obtain ⟨k, hk⟩ := hv.noiseAt t.flips
  refine ⟨k, hk, ?_⟩
  unfold annealed
  cases a.parameters.anneals with
  | true =>
    simp only [if_true, hk, bind, Except.bind, Problem.setNoise_int]
  | false => rfl

theorem report_of_valid (hv : a.parameters.Valid) (t : TryState σ) : (a.report t).2 = none := by
  obtain ⟨n, hn⟩ := hv.progressInterval
  unfold report due
  rw [hn]
  cases hb : (((n : Nat) : Int) != 0 && ((t.flips : Nat) : Int) % n == 0) <;> simp [hb]

variable [RandomSource σ]

/-- A flip of a try has no fault. -/
theorem flip_returns (hv : a.parameters.Valid) (ht : t.problem.Reflects f) :
    ∃ u, a.flip t = (u, none) := by
  obtain ⟨k, -, hp⟩ := annealed_of_valid hv (t := t)
  obtain ⟨n, hn⟩ := annealed_eq hp
  rw [hn] at hp
  obtain ⟨hs, hfault, -⟩ := (ht.withNoise n).step t.source
  have hcheck : a.checked ((t.problem.withNoise n).step t.source).problem = .ok () := by
    unfold checked
    split
    · exact hs.consistent.check
    · rfl
  refine ⟨(a.flip t).1, Prod.ext rfl ?_⟩
  unfold flip
  rw [hp]
  dsimp only
  rw [hfault]
  dsimp only
  rw [hcheck]
  exact report_of_valid hv _

theorem loop_returns (hv : a.parameters.Valid) (ht : t.problem.Reflects f) (n : Nat) :
    ∃ u e, a.loop n t = (u, .ok e) := by
  induction n generalizing t with
  | zero => exact ⟨_, _, rfl⟩
  | succ n ih =>
    rw [loop]
    cases hs : t.problem.isSolved with
    | true => exact ⟨_, _, rfl⟩
    | false =>
      cases t.source.interrupted with
      | true => exact ⟨_, _, rfl⟩
      | false =>
        dsimp only
        cases (a.late t).1 with
        | true => exact ⟨_, _, rfl⟩
        | false =>
          rw [← late_problem (a := a)] at ht hs
          obtain ⟨u, hu⟩ := flip_returns hv ht
          obtain ⟨-, hur⟩ := flipsTo_of_flip ht hs hu
          obtain ⟨v, e, hve⟩ := ih hur
          exact ⟨v, e, by simp [hu, hve]⟩

end Attempt

namespace Solver

variable {s s' : Solver σ} {timeout : Value} {b : Budget} {d : Option Binary64} {r r' : Search σ}
  {e : Ending}

/-! ## Getting ready -/

/-- Getting ready changes neither the formula nor what directs the search. -/
theorem ready_inv (h : s.ready timeout = (s', .ok b)) :
    s'.formula = s.formula ∧ s'.parameters = s.parameters ∧ s'.given = s.given ∧
      s'.traced = s.traced ∧ triesOf s.parameters = .ok b.tries := by
  unfold ready at h
  split at h
  · simp at h
  · dsimp only at h
    split at h
    · simp at h
    · split at h
      · simp at h
      · next n hn =>
        simp only [Prod.mk.injEq, Except.ok.injEq] at h
        obtain ⟨rfl, rfl⟩ := h
        exact ⟨rfl, rfl, rfl, rfl, hn⟩

/-- Getting ready for a search without a timeout. -/
theorem ready_of_null {n : Nat} (ht : s.parameters.timeout = .null)
    (hn : s.parameters.maxTries = .int n) :
    s.ready .null =
      ({ s with clock := s.clock.next, source := (s.source.duringReading s.clock.reads).resume },
        .ok ⟨s.clock.now, .null, none, n⟩) := by
  unfold ready triesOf
  simp only [checkTimeout, Value.isNull, if_true, ht, hn]
  rfl

/-! ## Tries -/

theorem closing_eq (s : Solver σ) (index : Nat) (began : Binary64) (t : TryState σ) (e : Ending) :
    (s.closing index began t e).problem = t.problem ∧
      (s.closing index began t e).best = t.best ∧
      (s.closing index began t e).flips = t.flips := by
  unfold closing
  dsimp only
  split <;> exact ⟨rfl, rfl, rfl⟩

variable [RandomSource σ]

/-- A try that can build its problem starts with it, or is stopped there because the number of tries
    cannot be written. -/
theorem startTry_of_build {k : Percent}
    (hk : s.parameters.noiseAt (.int 0) = .ok (.int k.val)) {p : Problem} {w : Watched σ}
    (hb : Problem.build s.formula (.int k.val) (if r.tries = 1 then s.given else none) r.source =
      .ok (p, w)) :
    ∃ t, s.startTry d r = .ok
        (t, if s.parameters.maxTries.isWritable then none else some .tooManyDigits) ∧
      t.problem = p ∧ t.source = w ∧ t.clock = r.clock ∧ t.flips = 0 := by
  unfold startTry Attempt.start Attempt.build Attempt.greeting attempt
  simp only [bind, Except.bind, hk, hb]
  cases s.parameters.maxTries.isWritable with
  | true => exact ⟨_, rfl, rfl, rfl, rfl, rfl⟩
  | false => exact ⟨_, rfl, rfl, rfl, rfl, rfl⟩

theorem startTry_returns (hne : ∀ c ∈ s.formula, c ≠ []) (hv : s.parameters.Valid) :
    ∃ t, s.startTry d r = .ok
        (t, if s.parameters.maxTries.isWritable then none else some .tooManyDigits) ∧
      t.problem.Reflects s.formula := by
  obtain ⟨k, hk⟩ := hv.noiseAt 0
  obtain ⟨p, w, hb, hp, -⟩ := Problem.build_spec hne (Percent.ofValue_int k)
    (if r.tries = 1 then s.given else none) r.source
  obtain ⟨t, ht, rfl, -⟩ := startTry_of_build hk hb
  exact ⟨t, ht, hp⟩

theorem oneTry_returns (hne : ∀ c ∈ s.formula, c ≠ []) (hv : s.parameters.Valid)
    (hw : s.parameters.maxTries.isWritable = true) : ∃ r' e, s.oneTry d r = (r', .ok e) := by
  obtain ⟨n, -, hn⟩ := hv.maxFlips
  obtain ⟨t, ht, hp⟩ := startTry_returns hne hv (d := d) (r := begun r)
  obtain ⟨u, e, hu⟩ := Attempt.loop_returns (a := s.attempt d (begun r).tries) hv hp n
  have hrun : (s.attempt d (begun r).tries).run t = (u, .ok e) := by
    unfold Attempt.run attempt
    rw [hn]
    exact hu
  rw [hw] at ht
  unfold oneTry
  simp only [ht, if_true, hrun]
  exact ⟨_, _, rfl⟩

/-- A search goes on after a try exactly if the try has used up its flips. -/
theorem tryUpTo_of_exhausted {n : Nat} (h : s.oneTry d r = (r', .ok .exhausted)) :
    s.tryUpTo d (n + 1) r = s.tryUpTo d n r' := by
  rw [tryUpTo, h]

theorem tryUpTo_of_ended {n : Nat} (h : s.oneTry d r = (r', .ok e)) (he : e ≠ .exhausted) :
    s.tryUpTo d (n + 1) r = (r', .ok e) := by
  rw [tryUpTo, h]
  cases e with
  | exhausted => exact absurd rfl he
  | solved | timeout | interrupted => rfl

theorem tryUpTo_returns (hne : ∀ c ∈ s.formula, c ≠ []) (hv : s.parameters.Valid)
    (hw : s.parameters.maxTries.isWritable = true) (n : Nat) :
    ∃ r' e, s.tryUpTo d n r = (r', .ok e) := by
  induction n generalizing r with
  | zero => exact ⟨_, _, rfl⟩
  | succ n ih =>
    obtain ⟨r1, e1, h1⟩ := oneTry_returns hne hv hw (d := d) (r := r)
    by_cases he : e1 = .exhausted
    · rw [tryUpTo_of_exhausted (he ▸ h1)]
      exact ih
    · exact ⟨r1, e1, tryUpTo_of_ended h1 he⟩

/-! ## Searches -/

theorem solve_of_tries (hb : s.ready timeout = (s', .ok b))
    (hr : s'.tryUpTo b.deadline b.tries s'.opening = (r', .ok e)) :
    s.solve timeout = s'.conclude b.started b.timeout r' e := by
  unfold solve
  simp only [hb, hr]

/-- A search that gets ready returns, if its number of tries can be written. -/
theorem solve_returns (hne : ∀ c ∈ s.formula, c ≠ []) (hv : s.parameters.Valid)
    (hw : s.parameters.maxTries.isWritable = true) (hb : s.ready timeout = (s', .ok b)) :
    ∃ r, (s.solve timeout).result = .ok r := by
  obtain ⟨hf, hp, -⟩ := ready_inv hb
  obtain ⟨r', e, hr⟩ := tryUpTo_returns (hf ▸ hne) (hp ▸ hv) (hp ▸ hw) b.tries
    (d := b.deadline) (r := s'.opening)
  rw [solve_of_tries hb hr]
  exact ⟨_, rfl⟩

/-- A search whose number of tries cannot be written stops at the start of its first try. -/
theorem solve_of_unwritable (hne : ∀ c ∈ s.formula, c ≠ []) (hv : s.parameters.Valid)
    (hw : s.parameters.maxTries.isWritable = false) (hb : s.ready timeout = (s', .ok b)) :
    (s.solve timeout).result = .error .tooManyDigits := by
  obtain ⟨hf, hp, -, -, htries⟩ := ready_inv hb
  obtain ⟨n, hn, hm⟩ := hv.maxTries
  obtain ⟨t, ht, -⟩ := startTry_returns (s := s') (hf ▸ hne) (hp ▸ hv) (d := b.deadline)
    (r := begun s'.opening)
  have hk : n = b.tries := by simpa [triesOf, hm] using htries
  obtain ⟨k, hk⟩ := Nat.exists_eq_add_one.mpr (hk ▸ hn)
  rw [hp, hw] at ht
  unfold solve
  rw [hb]
  dsimp only
  rw [hk, tryUpTo]
  unfold oneTry
  simp only [ht, Bool.false_eq_true, if_false]

end Solver

end FlipSat
