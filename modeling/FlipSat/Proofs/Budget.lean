import FlipSat.Proofs.Journal

/-
  FlipSat: what bounds a search, and how it ends.
  `Solver.Accounted` says of a search that returned how its flips and tries keep to their budget,
  its flips to the deadline, and its ending to the stops that are asked for. `solve_accounted` gets
  this from the accounts of its tries, for a clock that does not go back and stops that are asked
  for during steps.
-/
namespace FlipSat

variable {σ : Type}

namespace Solver

variable {s s' : Solver σ} {timeout : Value} {b : Budget}

/-! ## Getting ready -/

/-- The timeout of a search: the one that is asked for, or that of the parameters. -/
def timeoutOf (s : Solver σ) (timeout : Value) : Value :=
  if timeout.isNull then s.parameters.timeout else timeout

/-- Getting ready, if it succeeds. -/
theorem ready_eq_ok_iff : s.ready timeout = (s', .ok b) ↔ checkTimeout timeout = .ok () ∧
    b.started = s.clock.now ∧ b.timeout = s.timeoutOf timeout ∧
    deadlineOf s.clock.now (s.timeoutOf timeout) = .ok b.deadline ∧
    triesOf s.parameters = .ok b.tries ∧
    s' = { s with clock := s.clock.next, source := s.source.resume } := by
  unfold ready timeoutOf Clock.read
  obtain ⟨started, t, deadline, tries⟩ := b
  cases checkTimeout timeout with
  | error e => simp
  | ok _ =>
    dsimp only
    cases deadlineOf s.clock.now (if timeout.isNull then s.parameters.timeout else timeout) with
    | error e => simp
    | ok d =>
      dsimp only
      cases triesOf s.parameters with
      | error e => simp
      | ok k =>
        dsimp only
        simp only [Prod.mk.injEq, Except.ok.injEq, Budget.mk.injEq]
        constructor
        · rintro ⟨rfl, rfl, rfl, rfl, rfl⟩
          exact ⟨trivial, rfl, rfl, rfl, rfl, rfl⟩
        · rintro ⟨-, rfl, rfl, rfl, rfl, rfl⟩
          exact ⟨rfl, rfl, rfl, rfl, rfl⟩

/-- A stop that was asked for before is forgotten. -/
theorem ready_interrupt (h : s.ready timeout = (s', .ok b)) :
    s.interrupt.ready timeout = (s', .ok b) := by
  rw [ready_eq_ok_iff] at h ⊢
  exact h

theorem statusOf_inj {e e' : Ending} : statusOf e = statusOf e' ↔ e = e' := by
  cases e <;> cases e' <;> decide

/-! ## The accounts of a search -/

variable [RandomSource σ]

/-- Is a stop asked for during the flip? -/
def stopsAt (s : Solver σ) (f : FlipNote) : Bool := s.source.interrupts.duringPercent f.percent

/-- What is known of a search that returned, if each of its at most `n` tries may make `m` flips. -/
structure Accounted (s : Solver σ) (timeout : Value) (m n : Nat) (deadline : Option Binary64)
    (r : SearchResult) : Prop where
  visited_eq : s.visited timeout = (s.journals timeout).map TryRecord.course
  tries_eq : r.tries = (s.journals timeout).length
  flips_eq : r.flips = ((s.journals timeout).flatMap (·.flips)).length
  percents_eq : ((s.journals timeout).flatMap (·.flips)).map (·.percent) =
    List.range' s.source.percents ((s.journals timeout).flatMap (·.flips)).length
  /-- All tries but the last use up their flips. -/
  full : ∀ y ∈ (s.journals timeout).dropLast, y.flips.length = m
  flips_ge : (r.tries - 1) * m ≤ r.flips
  flips_le : r.flips ≤ r.tries * m
  tries_pos : 1 ≤ r.tries
  tries_le : r.tries ≤ n
  unknown : r.status = .unknown → r.tries = n ∧ r.flips = n * m
  /-- No flip is made after a reading of the clock at which the deadline has passed. -/
  punctual : ∀ f ∈ (s.journals timeout).flatMap (·.flips), ∀ k, s.clock.reads ≤ k → k < f.reads →
    passedAt deadline s.clock k = false
  timeout_iff : r.status = .timeout ↔
    ∃ y ∈ s.journals timeout, ∃ k ∈ y.checks, passedAt deadline s.clock k = true
  /-- No flip is made after one during which a stop is asked for. -/
  stopping : ∀ before f later, (s.journals timeout).flatMap (·.flips) = before ++ f :: later →
    s.stopsAt f = true → later = []
  /-- How a search ends if a stop is asked for during a flip that does not solve the problem. -/
  stopped : ∀ before y later, s.journals timeout = before ++ y :: later → ∀ f ∈ y.flips,
    s.stopsAt f = true → s.formula.holds f.after.valuation.valueOf = false →
    r.status =
      if y.flips.length < m then .interrupted
      else if before.length + 1 = n then .unknown
      else if later.head?.any fun z => s.formula.holds z.first.valuation.valueOf then .satisfiable
      else .interrupted
  interrupted : r.status = .interrupted →
    ∃ f ∈ (s.journals timeout).flatMap (·.flips), s.stopsAt f = true
  /-- A stop that is asked for before the search has no effect. -/
  forgotten : s.interrupt.solve timeout = s.solve timeout

/-- A stop that is asked for during the first flip leaves no other one. -/
theorem Accounted.flips_le_one {m n : Nat} {d : Option Binary64} {r : SearchResult}
    (h : s.Accounted timeout m n d r)
    (hstop : s.source.interrupts.duringPercent s.source.percents = true) : r.flips ≤ 1 := by
  have hpercents := h.percents_eq
  have hstopping := h.stopping []
  rw [h.flips_eq]
  cases hfs : (s.journals timeout).flatMap (·.flips) with
  | nil => simp
  | cons f later =>
    rw [hfs, List.map_cons, List.length_cons, List.range'_succ] at hpercents
    have hfirst : f.percent = s.source.percents := (List.cons.inj hpercents).1
    have hlater : later = [] := hstopping f later hfs (by rw [stopsAt, hfirst]; exact hstop)
    simp [hlater]

theorem ne_nil_of_tryUpTo {d : Option Binary64} {n : Nat} {r r' : Search σ} {e : Ending}
    (h : s.tryUpTo d (n + 1) r = (r', .ok e)) : ∀ c ∈ s.formula, c ≠ [] := by
  rcases hone : s.oneTry d r with ⟨r₁, x | e₁⟩
  · simp [tryUpTo, hone] at h
  · obtain ⟨-, t, -, ht, -⟩ := oneTry_inv hone
    obtain ⟨-, v, given, hbuild⟩ := startTry_build ht
    exact Problem.ne_nil_of_build hbuild

/-- The tries of a search that returned. -/
theorem solve_tries {m n : Nat} {r : SearchResult} (hr : (s.solve timeout).result = .ok r)
    (hm : s.parameters.maxFlips = .int m) (hn : s.parameters.maxTries = .int n) (hpos : 0 < n)
    (hw : s.source.interrupts.Stepwise) :
    ∃ deadline w c e, deadlineOf s.clock.now (s.timeoutOf timeout) = .ok deadline ∧
      Tries m deadline n s.source.resume s.clock.next (s.journals timeout) w c e ∧
      r.status = statusOf e ∧ r.tries = (s.journals timeout).length ∧
      r.flips = ((s.journals timeout).flatMap (·.flips)).length ∧
      (∀ y ∈ s.journals timeout, ∀ p ∈ y.course, p.Reflects s.formula) ∧
      s.interrupt.solve timeout = s.solve timeout := by
  rcases hready : s.ready timeout with ⟨s', x | b⟩
  · simp [solve, hready] at hr
  · obtain ⟨-, -, -, hd, htries, hs'⟩ := ready_eq_ok_iff.mp hready
    obtain ⟨hformula, hparameters, -⟩ := ready_inv hready
    obtain rfl : n = b.tries := by
      rw [triesOf, hn] at htries
      exact Except.ok.inj htries
    have hys : s.journals timeout = s'.records b.deadline b.tries s'.opening := by
      rw [journals, hready]
    rcases htry : s'.tryUpTo b.deadline b.tries s'.opening with ⟨t, x | e⟩
    · simp [solve, hready, htry] at hr
    · have hsolve := solve_of_tries hready htry
      have hinterrupt := solve_of_tries (ready_interrupt hready) htry
      rw [hsolve] at hr
      obtain rfl := Except.ok.inj hr
      have hsource : s'.opening.source = s.source.resume := by rw [hs', opening]
      have hclock : s'.opening.clock = s.clock.next := by rw [hs', opening]
      have htries := accounts_of_tryUpTo (by rw [hsource]; exact hw) (hparameters ▸ hm) htry
      have hne : ∀ c ∈ s.formula, c ≠ [] := by
        obtain ⟨k, hk⟩ := Nat.exists_eq_add_one.mpr hpos
        rw [hk] at htry
        exact hformula ▸ ne_nil_of_tryUpTo htry
      obtain ⟨hseen, -⟩ := (seen_opening s' s'.formula).tryUpTo (hformula ▸ hne) (by simp) htry
      rw [List.nil_append, courses_eq_records, ← hys, hformula] at hseen
      rw [hsource, hclock, ← hys] at htries
      -- Each try shows one problem more than it makes flips.
      have hcount := hseen.flips_eq
      rw [List.length_map, TryRecord.length_courses] at hcount
      have hflips : t.flips = ((s.journals timeout).flatMap (·.flips)).length := by omega
      refine ⟨b.deadline, _, _, e, hd, htries, rfl, ?_, ?_, ?_, hinterrupt.trans hsolve.symm⟩
      · exact Int.natCast_inj.mpr (hseen.tries_eq.trans (List.length_map _))
      · exact Int.natCast_inj.mpr hflips
      · intro y hy p hp
        exact hseen.reflects p (List.mem_flatten.mpr ⟨_, List.mem_map_of_mem hy, hp⟩)

/-- A search that returned keeps to its budget, its deadline and the stops that are asked for. -/
theorem solve_accounted {m n : Nat} {r : SearchResult} (hr : (s.solve timeout).result = .ok r)
    (hm : s.parameters.maxFlips = .int m) (hn : s.parameters.maxTries = .int n) (hpos : 0 < n)
    (hw : s.source.interrupts.Stepwise)
    (hclock : ∀ k, s.clock.reads ≤ k →
      (s.clock.reading k).le (s.clock.reading (k + 1)) = true) :
    ∃ deadline, deadlineOf s.clock.now (s.timeoutOf timeout) = .ok deadline ∧
      s.Accounted timeout m n deadline r := by
  obtain ⟨deadline, w, c, e, hd, htries, hstatus, hr, hf, hreflects, hforgotten⟩ :=
    solve_tries hr hm hn hpos hw
  refine ⟨deadline, hd, ?_⟩
  have hpositive : 0 < (s.journals timeout).length := by
    obtain ⟨k, rfl⟩ := Nat.exists_eq_add_one.mpr hpos
    exact List.length_pos_iff.mpr htries.ne_nil
  have hlen := htries.length_le
  have hge := htries.length_flips_ge
  have hle := htries.length_flips_le
  exact {
    visited_eq := s.visited_eq_journals timeout
    tries_eq := hr
    flips_eq := hf
    percents_eq := htries.hears.2
    full := htries.flips_eq
    flips_ge := by
      rw [hr, hf]
      have hcast : ((s.journals timeout).length : Int) - 1 =
          ((s.journals timeout).length - 1 : Nat) := by omega
      rw [hcast]
      exact_mod_cast hge
    flips_le := by
      rw [hr, hf]
      exact_mod_cast hle
    tries_pos := by omega
    tries_le := by omega
    unknown := fun hu => by
      have he : e = .exhausted := statusOf_inj.mp (hstatus.symm.trans hu)
      obtain ⟨hall, htotal⟩ := htries.of_exhausted he
      rw [hr, hf, hall, htotal]
      exact ⟨rfl, by push_cast; rfl⟩
    punctual := fun f hmem k hk hlt => htries.passedAt_eq_false hclock hmem hk hlt
    timeout_iff := by
      have he : statusOf e = statusOf .timeout ↔ e = .timeout := statusOf_inj
      rw [hstatus]
      exact he.trans htries.timeout_iff
    stopping := fun before f later heq hstop => htries.eq_nil_of_stop heq hstop
    stopped := fun before y later heq f hmem hstop hfalse => by
      have hy : y ∈ s.journals timeout := by simp [heq]
      have hsolved : f.after.isSolved = false := by
        have hafter : f.after ∈ y.course := List.mem_cons_of_mem _ (List.mem_map_of_mem hmem)
        exact (hreflects y hy f.after hafter).isSolved_eq.trans hfalse
      have hnext : later.head?.any (·.first.isSolved) =
          later.head?.any fun z => s.formula.holds z.first.valuation.valueOf := by
        cases later with
        | nil => rfl
        | cons z later =>
          exact (hreflects z (by simp [heq]) z.first List.mem_cons_self).isSolved_eq
      rw [hstatus, htries.ending_of_stop heq hmem hstop hsolved, hnext]
      simp only [apply_ite statusOf]
      rfl
    interrupted := fun hi => by
      have he : e = .interrupted := statusOf_inj.mp (hstatus.symm.trans hi)
      obtain ⟨hhears, hpercents⟩ := htries.hears
      have hstop := hhears.interrupted_eq.symm.trans (htries.interrupted_of_ending he)
      rw [← hpercents, List.any_map] at hstop
      exact List.any_eq_true.mp hstop
    forgotten := hforgotten }

/-- A search that is stopped during its first flip, though a stop was asked for before it, too. -/
theorem solve_accounted_of_contrary :
    ∃ r, ((ofFormula [[⟨"a", false⟩], [⟨"a", true⟩]] { maxFlips := .int 2, maxTries := .int 3 } none
        true ⟨Script.mk [1, 0], { duringPercent := (· == 0) }, 0, 0, true⟩
        ⟨fun k => if k < 3 then .zero false else .one, 0⟩).solve .null).result = .ok r ∧
      r.flips ≤ r.tries * 2 ∧ r.status ≠ .unknown ∧ r.status ≠ .timeout := by
  have hv : Parameters.Valid { maxFlips := .int 2, maxTries := .int 3 } :=
    { Parameters.valid_default with
      maxFlips := ⟨2, by decide, rfl⟩
      maxTries := ⟨3, by decide, rfl⟩ }
  obtain ⟨r, hr⟩ := solve_returns
    (s := ofFormula [[⟨"a", false⟩], [⟨"a", true⟩]] { maxFlips := .int 2, maxTries := .int 3 } none
      true ⟨Script.mk [1, 0], { duringPercent := (· == 0) }, 0, 0, true⟩
      ⟨fun k => if k < 3 then .zero false else .one, 0⟩) (by decide) hv
    ((Value.isWritable_int 3).mpr (lt_of_lt_of_le (by decide : 3 < 10 ^ 1)
      (Nat.pow_le_pow_right (by decide) (by decide)))) (ready_of_null rfl rfl)
  have hclock : ∀ k, Binary64.le (if k < 3 then .zero false else .one)
      (if k + 1 < 3 then .zero false else .one) = true := by
    intro k
    by_cases hk : k < 3
    · rw [if_pos hk]
      split <;> decide +kernel
    · rw [if_neg hk, if_neg (by omega)]
      decide +kernel
  obtain ⟨deadline, hd, h⟩ := solve_accounted (m := 2) (n := 3) hr rfl rfl (by decide)
    ⟨fun _ => rfl, fun _ => rfl⟩ (fun k _ => hclock k)
  obtain rfl : none = deadline := Except.ok.inj hd
  refine ⟨r, hr, h.flips_le, fun hu => ?_, fun ht => ?_⟩
  · have hfew := h.flips_le_one rfl
    rw [(h.unknown hu).2] at hfew
    exact absurd hfew (by decide)
  · obtain ⟨y, -, k, -, hk⟩ := h.timeout_iff.mp ht
    cases hk

end Solver

end FlipSat
