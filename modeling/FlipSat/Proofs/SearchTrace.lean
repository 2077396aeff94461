import FlipSat.Proofs.Journal
import FlipSat.Proofs.Noise
import FlipSat.Proofs.Plain

/-
  FlipSat: the records that a search makes for its trace.
  A try samples its problem right after each flip whose number is a multiple of the interval, before
  it looks at how to go on, so the flip that solves the problem or comes before a stop is sampled as
  any other (`Runs.traces_eq`). Each try ends with one record of its own (`traces_closing`).
  `TracedTry` says what the records of one try are, in terms of the problems it goes through, whose
  clauses are evaluated directly; `traced_of_tryUpTo` puts the tries together.
-/
namespace FlipSat

variable {σ : Type} {f : Formula} {p q : Problem}

/-! ## Samples -/

/-- The number of flips from one sample to the next. There are no samples if it is zero. -/
def Parameters.interval (ps : Parameters) : Nat :=
  match ps.progressInterval with
  | .int n => n.natAbs
  | _ => 0

/-- The noise before the flip with the given number; it is asked for afresh only if it changes. -/
def Parameters.noiseBefore (ps : Parameters) (flips : Nat) : Except Fault Value :=
  ps.noiseAt (.int (if ps.anneals then flips else 0))

/-- One problem comes from another by a step with the noise that the flip with this number has. -/
def Parameters.Stepped (σ : Type) [RandomSource σ] (ps : Parameters) (flips : Nat)
    (p q : Problem) : Prop :=
  ∃ (v : Value) (w : Watched σ), ps.noiseBefore flips = .ok v ∧ Percent.ofValue v = .ok q.noise ∧
    ((p.withNoise q.noise).step w).problem = q ∧ ((p.withNoise q.noise).step w).fault = none

/-- The sample of a problem after so many flips of a try, with every clause evaluated. -/
def Problem.sampled (q : Problem) (f : Formula) (index flips : Nat) : TraceRecord :=
  .progress (.int index) (.int flips) (.int (q.failing f)) (.int f.length) (.int q.noise.val)

namespace Problem

/-- The clauses that hold and those that fail are all. -/
theorem countHolding_add_failing (q : Problem) (f : Formula) :
    f.countHolding q.valuation.valueOf + q.failing f = f.length := by
  have hsplit : f.length = _ + _ :=
    List.length_eq_countP_add_countP fun c => ClauseSpec.holds q.valuation.valueOf c
  simp only [Bool.not_eq_true, Bool.decide_eq_false] at hsplit
  exact hsplit.symm

/-- What is written of a sample. -/
theorem fields_sampled (q : Problem) (f : Formula) (index flips : Nat) (now : Binary64) : ∃ ratio,
    (q.sampled f index flips).fields now = .ok [
      { name := "try", value := .int index },
      { name := "flips", value := .int flips },
      { name := "unsatisfied_count", value := .int (q.failing f) },
      { name := "satisfied_count", value := .int (f.countHolding q.valuation.valueOf) },
      { name := "total_count", value := .int f.length },
      { name := "satisfaction_ratio", value := .real ratio },
      { name := "noise_level", value := .int q.noise.val },
      { name := "timestamp", value := .real now }] := by
  have hsum := q.countHolding_add_failing f
  have hsatisfied : (f.length : Int) - q.failing f = f.countHolding q.valuation.valueOf := by
    omega
  obtain ⟨ratio, hratio⟩ : ∃ ratio, TraceRecord.satisfactionRatio
      (.int (f.countHolding q.valuation.valueOf)) (.int f.length) = .ok ratio := by
    by_cases hpos : 0 < f.length
    · obtain ⟨x, hx, -⟩ := Value.quotient_int hpos (Nat.le.intro hsum)
      refine ⟨x, ?_⟩
      simp [TraceRecord.satisfactionRatio, Value.isLess, Value.number?, Value.compareNumbers?,
        bind, Except.bind, hx, compare_lt_iff_lt, hpos]
    · refine ⟨.one, ?_⟩
      simp [TraceRecord.satisfactionRatio, Value.isLess, Value.number?, Value.compareNumbers?,
        bind, Except.bind, pure, Except.pure, compare_lt_iff_lt, hpos]
  refine ⟨ratio, ?_⟩
  simp only [sampled, TraceRecord.fields, Value.minus, Value.combine, Value.number?, bind,
    Except.bind, hsatisfied, hratio]
  rfl

end Problem

namespace Attempt

variable {a : Attempt} {t u : TryState σ} {n : Nat} {c : List Problem} {e : Ending}

theorem due_eq {b : Bool} {flips : Nat} (h : a.due flips = .ok b) :
    b = decide (a.parameters.interval ≠ 0 ∧ a.parameters.interval ∣ flips) := by
  cases hv : a.parameters.progressInterval with
  | int n =>
    have hinterval : a.parameters.interval = n.natAbs := by simp only [Parameters.interval, hv]
    have hdvd : n.natAbs ∣ flips ↔ (flips : Int) % n = 0 := by
      rw [← Int.dvd_iff_emod_eq_zero, ← Int.natAbs_dvd_natAbs, Int.natAbs_natCast]
    simp only [due, hv, Except.ok.injEq] at h
    rw [← h, hinterval, Bool.eq_iff_iff]
    simp [hdvd]
  -- an interval that is not a number is one at which no flip is due
  | _ =>
    have hinterval : a.parameters.interval = 0 := by simp only [Parameters.interval, hv]
    have hfalse : b = false := by
      simp only [due, hv] at h
      split at h <;> cases h
      rfl
    simp [hfalse, hinterval]

/-- A sample is taken, if one is due, of what a try shows. -/
theorem traces_report (h : a.report t = (u, none)) :
    SearchEvent.traces u.events =
      (if a.traced ∧ a.parameters.interval ≠ 0 ∧ a.parameters.interval ∣ u.flips
        then [a.sample u] else []) ++ SearchEvent.traces t.events := by
  unfold report at h
  split at h
  · cases h
  · next hdue =>
    cases h
    have hno := due_eq hdue
    rw [if_neg fun hyes => by simp [hyes.2] at hno]
    rfl
  · next hdue =>
    have hyes := of_decide_eq_true (due_eq hdue).symm
    cases ht : a.traced with
    | true =>
      rw [ht] at h
      dsimp only at h
      rw [if_pos rfl] at h
      cases h
      rw [if_pos ⟨rfl, hyes⟩]
      rfl
    | false =>
      rw [ht] at h
      dsimp only at h
      rw [if_neg Bool.false_ne_true] at h
      cases h
      rw [if_neg (by simp)]
      rfl

theorem traces_late : SearchEvent.traces (a.late t).2.events = SearchEvent.traces t.events := by
  unfold late
  split <;> rfl

theorem sample_eq (h : t.problem.Reflects f) :
    a.sample t = t.problem.sampled f a.index t.flips := by
  rw [sample, h.size_unsatisfied, h.clauseCount_eq]
  rfl

variable [RandomSource σ]

/-- After a flip the problem is sampled if the number of flips is a multiple of the interval. -/
theorem traces_flip (h : a.flip t = (u, none)) :
    SearchEvent.traces u.events =
      (if a.traced ∧ a.parameters.interval ≠ 0 ∧ a.parameters.interval ∣ u.flips
        then [a.sample u] else []) ++ SearchEvent.traces t.events := by
  unfold flip at h
  split at h
  · cases h
  · dsimp only at h
    split at h
    · cases h
    · split at h
      · cases h
      · have hreport := traces_report h
        exact hreport

/-- The samples of problems of which the first comes after so many flips. -/
def samplesFrom (f : Formula) (index every : Nat) (flips : Nat) (c : List Problem) :
    List TraceRecord :=
  ((c.zipIdx flips).filter fun x => every ≠ 0 ∧ every ∣ x.2).map
    fun x => x.1.sampled f index x.2

theorem samplesFrom_cons {index every flips : Nat} :
    samplesFrom f index every flips (p :: c) =
      (if every ≠ 0 ∧ every ∣ flips then [p.sampled f index flips] else []) ++
        samplesFrom f index every (flips + 1) c := by
  unfold samplesFrom
  rw [List.zipIdx_cons, List.filter_cons]
  by_cases hdue : every ≠ 0 ∧ every ∣ flips <;> simp [hdue]

/-- The samples of a try are those of its problems but the first. -/
theorem Runs.traces_eq (h : a.Runs n t c u e) (htraced : a.traced = true)
    (ht : t.problem.Reflects f) :
    (SearchEvent.traces u.events).reverse = (SearchEvent.traces t.events).reverse ++
      samplesFrom f a.index a.parameters.interval (t.flips + 1) c.tail := by
  induction h with
  | solved | exhausted | interrupted => simp [samplesFrom]
  | timeout => simp [samplesFrom, traces_late]
  | @flip n t u v c e hs hf hr ih =>
    have hlate : (a.late t).2.problem.Reflects f := by rwa [late_problem]
    have hu := (flipsTo_of_flip hlate (by rwa [late_problem]) hf).2
    obtain ⟨_, -, -, -, -, -, hflips, -⟩ := flip_inv hf
    rw [late_flips] at hflips
    obtain ⟨rest, rfl⟩ := List.head?_eq_some_iff.mp hr.head?
    have htail : (t.problem :: u.problem :: rest).tail = u.problem :: rest := rfl
    rw [ih hu, traces_flip hf, traces_late, htraced, htail, samplesFrom_cons, ← hflips,
      sample_eq hu, List.reverse_append, List.append_assoc]
    simp only [true_and, List.tail_cons]
    congr 1
    split <;> rfl

/-- The samples after the first problem of a try are those at the multiples of the interval. -/
theorem map_some_samplesFrom (f : Formula) (index every : Nat) (p : Problem) (c : List Problem) :
    (samplesFrom f index every 1 c).map some =
      (List.range (c.length / every)).map fun j =>
        (p :: c)[(j + 1) * every]?.map (·.sampled f index ((j + 1) * every)) := by
  induction c using List.reverseRecOn with
  | nil => simp [samplesFrom]
  | append_singleton c q ih =>
    have hsplit : samplesFrom f index every 1 (c ++ [q]) = samplesFrom f index every 1 c ++
        if every ≠ 0 ∧ every ∣ c.length + 1 then [q.sampled f index (c.length + 1)] else [] := by
      unfold samplesFrom
      rw [List.zipIdx_append, List.filter_append, List.map_append, List.zipIdx_singleton,
        List.filter_singleton, Nat.add_comm 1 c.length]
      by_cases hdue : every ≠ 0 ∧ every ∣ c.length + 1 <;> simp [hdue]
    have hbefore : ∀ j ∈ List.range (c.length / every),
        (p :: (c ++ [q]))[(j + 1) * every]? = (p :: c)[(j + 1) * every]? := by
      intro j hj
      rw [← List.cons_append, List.getElem?_append_left]
      have hle : (j + 1) * every ≤ c.length / every * every :=
        Nat.mul_le_mul_right _ (List.mem_range.mp hj)
      have hlength := Nat.div_mul_le_self c.length every
      rw [List.length_cons]
      omega
    have hrest := List.map_congr_left fun j hj =>
      congrArg (Option.map (·.sampled f index ((j + 1) * every))) (hbefore j hj)
    rw [hsplit, List.map_append, ih, List.length_append, List.length_singleton, Nat.succ_div,
      ← hrest]
    by_cases hdue : every ≠ 0 ∧ every ∣ c.length + 1
    · obtain ⟨hpos, k, hk⟩ := hdue
      have hdiv : c.length / every + 1 = k := by
        have hsucc := Nat.succ_div (a := c.length) (b := every)
        rw [if_pos ⟨k, hk⟩, hk, Nat.mul_div_cancel_left _ (Nat.pos_of_ne_zero hpos)] at hsucc
        exact hsucc.symm
      rw [if_pos ⟨hpos, k, hk⟩, if_pos ⟨k, hk⟩, List.range_succ, List.map_append,
        List.map_singleton, List.map_singleton, hdiv, Nat.mul_comm k, ← hk]
      simp
    · rw [if_neg hdue]
      by_cases hzero : every = 0
      · simp [hzero]
      · rw [if_neg fun hdvd => hdue ⟨hzero, hdvd⟩]
        simp

/-- What is known of the noise of a problem at which a try stands: it is the first one until the
    noise is set. -/
def Settled (a : Attempt) (p : Problem) : Prop :=
  a.parameters.anneals = false →
    ∃ v, a.parameters.noiseAt (.int 0) = .ok v ∧ Percent.ofValue v = .ok p.noise

theorem stepped_of_flip (ht : t.problem.Reflects f) (hnoise : a.Settled t.problem)
    (h : a.flip t = (u, none)) :
    a.parameters.Stepped σ t.flips t.problem u.problem ∧ a.Settled u.problem := by
  obtain ⟨p, hp, hfault, hu, -⟩ := flip_inv h
  unfold annealed at hp
  cases hanneals : a.parameters.anneals with
  | false =>
    rw [hanneals] at hp
    cases hp
    have hsame : u.problem.noise = t.problem.noise := by rw [hu, ht.noise_step]
    obtain ⟨v, hv, hpercent⟩ := hnoise hanneals
    rw [← hsame] at hpercent
    refine ⟨⟨v, t.source, ?_, hpercent, ?_⟩, fun _ => ⟨v, hv, hpercent⟩⟩
    · rw [Parameters.noiseBefore, hanneals]
      exact hv
    · rw [hsame]
      exact ⟨hu.symm, hfault⟩
  | true =>
    rw [hanneals] at hp
    obtain ⟨v, hv, hset⟩ := bind_eq_ok_iff.mp hp
    obtain ⟨n, hn, rfl⟩ : ∃ n, Percent.ofValue v = .ok n ∧ p = t.problem.withNoise n := by
      unfold Problem.setNoise at hset
      obtain ⟨n, hn, hset⟩ := bind_eq_ok_iff.mp hset
      cases hset
      exact ⟨n, hn, rfl⟩
    have hsame : u.problem.noise = n := by rw [hu, (ht.withNoise n).noise_step]; rfl
    refine ⟨⟨v, t.source, ?_, ?_, ?_⟩, fun hno => ?_⟩
    · rw [Parameters.noiseBefore, hanneals]
      exact hv
    · rw [hsame]
      exact hn
    · rw [hsame]
      exact ⟨hu.symm, hfault⟩
    · rw [hanneals] at hno
      cases hno

/-- Each problem of a try comes from the one before it by a step with the noise that is due. -/
theorem Runs.stepped {qs : List Problem} (h : a.Runs n t qs u e) (ht : t.problem.Reflects f)
    (hnoise : a.Settled t.problem) (k : Nat) (hp : qs[k]? = some p) (hq : qs[k + 1]? = some q) :
    a.parameters.Stepped σ (t.flips + k) p q := by
  induction h generalizing k with
  | solved | exhausted | interrupted | timeout => simp at hq
  | @flip n t u v c e hs hf hr ih =>
    rw [← late_problem] at ht hnoise hs
    obtain ⟨hfirst, hsettled⟩ := stepped_of_flip ht hnoise hf
    have hu := (flipsTo_of_flip ht hs hf).2
    obtain ⟨_, -, -, -, -, -, hflips, -⟩ := flip_inv hf
    rw [late_flips] at hflips hfirst
    rw [List.getElem?_cons_succ] at hq
    cases k with
    | zero =>
      rw [late_problem] at hfirst
      rw [← List.head?_eq_getElem?, hr.head?] at hq
      cases hp
      cases hq
      exact hfirst
    | succ k =>
      rw [List.getElem?_cons_succ] at hp
      have hlater := ih hu hsettled k hp hq
      rwa [hflips, Nat.add_assoc, Nat.add_comm 1 k] at hlater

end Attempt

/-! ## Tries -/

/-- The records of the try with the given number that goes through the given problems. -/
structure TracedTry (σ : Type) [RandomSource σ] (f : Formula) (ps : Parameters) (index : Nat)
    (solved : Bool) (course : List Problem) (records : List TraceRecord) : Prop where
  /-- Each problem comes from the one before it by a step with the noise that is due. -/
  stepped : ∀ k p q, course[k]? = some p → course[k + 1]? = some q → ps.Stepped σ k p q
  /-- There is a sample at each multiple of the interval, and at the end a record of the try. -/
  records_eq : ∃ samples last runtime, course.getLast? = some last ∧
    samples.map some = (List.range ((course.length - 1) / ps.interval)).map (fun j =>
      course[(j + 1) * ps.interval]?.map (·.sampled f index ((j + 1) * ps.interval))) ∧
    records = samples ++ [.tryResult (.int index) (.int (course.length - 1 : Nat)) (.bool solved)
      (.int (f.countHolding last.valuation.valueOf)) (.real runtime)]

/-- What a try that starts afresh samples, with the record of its end, is as it should be. -/
theorem Attempt.Runs.tracedTry [RandomSource σ] {a : Attempt} {n : Nat} {t u : TryState σ}
    {c : List Problem} {e : Ending} (h : a.Runs n t c u e) (htraced : a.traced = true)
    (ht : t.problem.Reflects f) (hflips : t.flips = 0) (hnone : SearchEvent.traces t.events = [])
    (hsettled : a.Settled t.problem) (runtime : Binary64) :
    TracedTry σ f a.parameters a.index (e == .solved) c
      ((SearchEvent.traces u.events).reverse ++ [.tryResult (.int a.index) (.int u.flips)
        (.bool (e == .solved)) (.int u.problem.satisfiedCount) (.real runtime)]) where
  stepped k p q hp hq := by
    have hstep := h.stepped ht hsettled k hp hq
    rwa [hflips, Nat.zero_add] at hstep
  records_eq := by
    have hlast := h.getLast?
    have hend := (h.reflects ht).1 _ (List.mem_of_getLast? hlast)
    have hcount := h.flips_eq
    have hsamples := h.traces_eq htraced ht
    obtain ⟨rest, rfl⟩ := List.head?_eq_some_iff.mp h.head?
    rw [hflips, hnone, List.reverse_nil, List.nil_append, List.tail_cons] at hsamples
    rw [hflips, List.length_cons] at hcount
    have hlength : u.flips = rest.length := by omega
    rw [hsamples, hend.satisfiedCount_eq, hlength]
    exact ⟨_, u.problem, runtime, hlast,
      map_some_samplesFrom f a.index a.parameters.interval _ rest, rfl⟩

namespace Solver

variable {s : Solver σ} {d : Option Binary64} {r r' : Search σ} {e : Ending}
  {t : TryState σ} {timeout : Value}

theorem traces_closing (htraced : s.traced = true) (index : Nat) (began : Binary64)
    (t : TryState σ) (e : Ending) : ∃ runtime,
    SearchEvent.traces (s.closing index began t e).events =
      .tryResult (.int index) (.int t.flips) (.bool (e == .solved))
        (.int t.problem.satisfiedCount) (.real runtime) :: SearchEvent.traces t.events := by
  unfold closing
  dsimp only
  rw [if_pos htraced]
  exact ⟨_, rfl⟩

variable [RandomSource σ]

/-- A try starts with no record, and with the first noise. -/
theorem startTry_settled (h : s.startTry d r = .ok (t, none)) :
    SearchEvent.traces t.events = [] ∧ (s.attempt d r.tries).Settled t.problem := by
  unfold startTry Attempt.start Attempt.build at h
  obtain ⟨⟨p, w⟩, hbuild, h⟩ := bind_eq_ok_iff.mp h
  obtain ⟨v, hv, hbuild⟩ := bind_eq_ok_iff.mp hbuild
  have hne := Problem.ne_nil_of_build hbuild
  obtain ⟨n, hn, -⟩ := bind_eq_ok_iff.mp hbuild
  obtain ⟨q, w', hq, -, hnoise, -⟩ :=
    Problem.build_spec hne hn (if r.tries = 1 then s.given else none) r.source
  rw [hq] at hbuild
  cases hbuild
  dsimp only at h
  split at h
  · cases h
  · cases h
    exact ⟨rfl, fun _ => ⟨v, hv, by rw [hn, ← hnoise]; rfl⟩⟩

/-- The records of one try, and what it adds to the flips and tries. -/
theorem traced_of_oneTry (htraced : s.traced = true) (h : s.oneTry d r = (r', .ok e)) :
    ∃ t c records, s.startTry d (begun r) = .ok (t, none) ∧
      (s.attempt d (begun r).tries).courseOf t = c ∧
      TracedTry σ s.formula s.parameters (r.tries + 1) (e == .solved) c records ∧
      (SearchEvent.traces r'.events).reverse = (SearchEvent.traces r.events).reverse ++ records ∧
      r'.tries = r.tries + 1 ∧ r'.flips = r.flips + (c.length - 1) := by
  unfold oneTry at h
  rcases ht : s.startTry d (begun r) with x | ⟨t, _ | x⟩
  · simp [ht] at h
  · rcases hu : (s.attempt d (begun r).tries).run t with ⟨u, x | e'⟩
    · simp [ht, hu] at h
    · simp only [ht, hu, Prod.mk.injEq, Except.ok.injEq] at h
      obtain ⟨rfl, rfl⟩ := h
      obtain ⟨n, hruns⟩ := Attempt.runs_of_run hu
      obtain ⟨-, v, given, hbuild⟩ := startTry_build ht
      obtain ⟨hreflects, hzero, -⟩ := startTry_inv (Problem.ne_nil_of_build hbuild) ht
      obtain ⟨hnone, hsettled⟩ := startTry_settled ht
      obtain ⟨runtime, hclosing⟩ := traces_closing htraced (begun r).tries r.clock.now u e'
      obtain ⟨-, -, hflips⟩ := closing_eq s (begun r).tries r.clock.now u e'
      have hcount := hruns.flips_eq
      refine ⟨t, _, _, rfl, rfl, hruns.tracedTry htraced hreflects hzero hnone hsettled runtime, ?_,
        rfl, ?_⟩
      · unfold after
        dsimp only
        rw [SearchEvent.traces, List.filterMap_append, List.reverse_append]
        congr 1
        exact (congrArg List.reverse hclosing).trans List.reverse_cons
      · unfold after
        dsimp only
        rw [hflips]
        have hbegun : (begun r).flips = r.flips := rfl
        omega
  · simp [ht] at h

theorem ending_of_courses_nil {n : Nat} (h : s.tryUpTo d n r = (r', .ok e))
    (hnil : s.courses d n r = []) : e = .exhausted := by
  cases n with
  | zero =>
    cases h
    rfl
  | succ n => exact absurd hnil (courses_ne_nil h)

/-- The records of all tries of a search. Only the last one can tell of a solution. -/
theorem traced_of_tryUpTo (htraced : s.traced = true) {n : Nat}
    (h : s.tryUpTo d n r = (r', .ok e)) : ∃ parts,
    (SearchEvent.traces r'.events).reverse =
      (SearchEvent.traces r.events).reverse ++ parts.flatten ∧
    List.Forall₂ (fun x records => TracedTry σ s.formula s.parameters (x.2 + 1)
      (decide (x.2 + 1 = r'.tries ∧ e = .solved)) x.1 records)
      ((s.courses d n r).zipIdx r.tries) parts ∧
    r'.tries = r.tries + (s.courses d n r).length ∧
    r'.flips = r.flips + ((s.courses d n r).map (·.length - 1)).sum := by
  induction n generalizing r with
  | zero =>
    cases h
    exact ⟨[], by simp, by simp [courses], rfl, rfl⟩
  | succ n ih =>
    rcases hone : s.oneTry d r with ⟨r₁, x | e₁⟩
    · simp [tryUpTo, hone] at h
    · obtain ⟨t, c, records, ht, rfl, hrecords, hevents, htries, hflips⟩ :=
        traced_of_oneTry htraced hone
      by_cases he : e₁ = .exhausted
      · subst he
        rw [tryUpTo_of_exhausted hone] at h
        obtain ⟨parts, hparts, hall, hlength, hsum⟩ := ih h
        have hlater : ¬(r.tries + 1 = r'.tries ∧ e = .solved) := by
          rintro ⟨hlast, rfl⟩
          have hnil : s.courses d n r₁ = [] := by
            rw [← List.length_eq_zero_iff]
            omega
          cases ending_of_courses_nil h hnil
        rw [courses_of_exhausted ht hone, List.zipIdx_cons, List.length_cons, List.map_cons,
          List.sum_cons]
        refine ⟨records :: parts, ?_, .cons ?_ (htries ▸ hall), by omega, by omega⟩
        · rw [hparts, hevents, List.flatten_cons, List.append_assoc]
        · rw [decide_eq_false hlater]
          exact hrecords
      · rw [tryUpTo_of_ended hone he] at h
        cases h
        rw [courses_of_ended ht hone he]
        refine ⟨[records], by simpa using hevents, .cons ?_ .nil, htries, by simpa using hflips⟩
        have hlast : (e == Ending.solved) = decide (r.tries + 1 = r'.tries ∧ e = .solved) := by
          rw [htries]
          cases e <;> simp
        rw [← hlast]
        exact hrecords

/-- The trace of a search that returns holds, try by try and in order, a sample after each flip
    whose number in the try is a multiple of the interval, with the clauses evaluated in the state
    right after it and the noise that it used, and a record of the end of the try. The last record
    alone tells of a solution, if there is one. What is written of a sample counts all clauses. -/
theorem solve_traced (htraced : s.traced = true) {r : SearchResult}
    (hr : (s.solve timeout).result = .ok r) :
    (∃ parts, SearchEvent.traces (s.solve timeout).events = parts.flatten ∧
      List.Forall₂ (fun x records => TracedTry σ s.formula s.parameters (x.2 + 1)
        (decide ((x.2 : Int) + 1 = r.tries ∧ r.status = .satisfiable)) x.1 records)
        (s.visited timeout).zipIdx parts) ∧
    r.tries = (s.visited timeout).length ∧
    r.flips = (((s.visited timeout).map (·.length - 1)).sum : Nat) ∧
    ∀ (q : Problem) (index flips : Nat) (now : Binary64), ∃ fields,
      (q.sampled s.formula index flips).fields now = .ok fields ∧
      ⟨"satisfied_count", .int (s.formula.countHolding q.valuation.valueOf)⟩ ∈ fields ∧
      s.formula.countHolding q.valuation.valueOf + q.failing s.formula = s.formula.length := by
  have hfields : ∀ (q : Problem) (index flips : Nat) (now : Binary64), ∃ fields,
      (q.sampled s.formula index flips).fields now = .ok fields ∧
      ⟨"satisfied_count", .int (s.formula.countHolding q.valuation.valueOf)⟩ ∈ fields ∧
      s.formula.countHolding q.valuation.valueOf + q.failing s.formula = s.formula.length := by
    intro q index flips now
    obtain ⟨ratio, hratio⟩ := q.fields_sampled s.formula index flips now
    exact ⟨_, hratio, by simp, q.countHolding_add_failing s.formula⟩
  unfold solve at hr ⊢
  unfold visited
  rcases hready : s.ready timeout with ⟨s', x | b⟩
  · simp [hready] at hr
  · obtain ⟨hformula, hparameters, -, htraced', -⟩ := ready_inv hready
    rw [hready] at hr
    dsimp only at hr ⊢
    rcases htry : s'.tryUpTo b.deadline b.tries s'.opening with ⟨t, x | e⟩
    · simp [htry] at hr
    · rw [htry] at hr
      obtain rfl := Except.ok.inj hr
      obtain ⟨parts, hparts, hall, htries, hflips⟩ :=
        traced_of_tryUpTo (htraced'.trans htraced) htry
      have hsolved : ∀ i : Nat, decide ((i : Int) + 1 = t.tries ∧ statusOf e = .satisfiable) =
          decide (i + 1 = t.tries ∧ e = .solved) := by
        intro i
        have hcast : (i : Int) + 1 = t.tries ↔ i + 1 = t.tries := by omega
        cases e <;> simp [statusOf, hcast]
      have hevents : SearchEvent.traces t.events.reverse = parts.flatten := by
        rw [SearchEvent.traces, List.filterMap_reverse]
        exact hparts
      refine ⟨⟨parts, hevents, ?_⟩, ?_, ?_, hfields⟩
      · simp only [hsolved]
        rwa [hformula, hparameters] at hall
      · simpa [conclude, opening] using htries
      · have htotal := hflips.trans (Nat.zero_add _)
        exact congrArg Nat.cast htotal

/-- A search for a solution of two clauses that contradict each other, with a sample after every
    flip. -/
def sampledSearch : Solver Script :=
  ofFormula [[⟨"a", false⟩], [⟨"a", true⟩]] { maxFlips := .int 3, progressInterval := .int 1 } none
    true ⟨Script.mk [1, 0], {}, 0, 0, false⟩ (.steady .one)

theorem solve_traced_of_contrary : ∃ r parts, (sampledSearch.solve .null).result = .ok r ∧
    SearchEvent.traces (sampledSearch.solve .null).events = parts.flatten ∧
    parts ≠ [] ∧ r.tries = parts.length := by
  have hvalid : sampledSearch.parameters.Valid :=
    { Parameters.valid_default with maxFlips := ⟨3, by decide, rfl⟩, progressInterval := ⟨1, rfl⟩ }
  obtain ⟨r, hr⟩ := solve_returns (s := sampledSearch) (by decide) hvalid
    ((Value.isWritable_int 1).mpr (Nat.one_lt_pow (by decide) (by decide))) (ready_of_null rfl rfl)
  obtain ⟨⟨parts, hparts, hall⟩, htries, -⟩ := solve_traced (s := sampledSearch) rfl hr
  have hlength : (sampledSearch.visited .null).length = parts.length := by
    simpa using hall.length_eq
  refine ⟨r, parts, hr, hparts, ?_, by rw [htries, hlength]⟩
  have hvisited := visited_ne_nil hvalid hr
  rintro rfl
  exact hvisited (List.length_eq_zero_iff.mp hlength)

end Solver

end FlipSat
