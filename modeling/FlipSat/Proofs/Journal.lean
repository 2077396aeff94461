import FlipSat.Proofs.Accounts
import FlipSat.Proofs.Answer
import FlipSat.Proofs.RandomCalls

/-
  FlipSat: the journal of a search.
  `Attempt.journal` lists the flips of a try and its looks at the deadline, and `Keeps` says how a
  try comes to its end while it is kept. By induction on `Keeps` the journal gives the accounts of
  the try (`Keeps.accounts`), and the records of all tries those of the search
  (`accounts_of_tryUpTo`). Flips are counted by their questions: each step asks once whether to
  walk at random (`Reflects.hears_step`), and nothing else asks this.
-/
namespace FlipSat

variable {σ : Type}

/-! ## Looks at the clock -/

theorem Attempt.late_eq {a : Attempt} {t : TryState σ} (hw : t.source.interrupts.Stepwise) :
    (a.late t).1 = passedAt a.deadline t.clock t.clock.reads ∧
      (a.late t).2.source = t.source ∧ (a.late t).2.clock.reading = t.clock.reading ∧
      (a.late t).2.clock.reads = t.clock.reads + if a.deadline.isSome then 1 else 0 := by
  unfold late passedAt
  cases a.deadline with
  | none => exact ⟨rfl, rfl, rfl, rfl⟩
  | some d => exact ⟨rfl, Watched.duringReading_of_stepwise hw _, rfl, rfl⟩

namespace Solver

theorem begun_eq {r : Search σ} (hw : r.source.interrupts.Stepwise) :
    (begun r).source = r.source ∧ (begun r).clock = r.clock.next :=
  ⟨Watched.duringReading_of_stepwise hw _, rfl⟩

theorem closing_reads {t : TryState σ} (hw : t.source.interrupts.Stepwise) (s : Solver σ)
    (index : Nat) (began : Binary64) (e : Ending) :
    (s.closing index began t e).source = t.source ∧
      (s.closing index began t e).clock.reading = t.clock.reading ∧
      t.clock.reads ≤ (s.closing index began t e).clock.reads := by
  unfold closing
  dsimp only
  split
  · exact ⟨Watched.duringReading_of_stepwise hw _, rfl, Nat.le_succ _⟩
  · exact ⟨rfl, rfl, Nat.le_refl _⟩

end Solver

/-! ## Questions heard -/

/-- Is it the question whether to walk at random? -/
def RandomCall.isPercent : RandomCall → Bool
  | .percent _ => true
  | .choose _ => false

variable [RandomSource σ]

/-- In a dialogue a watched source hears the questions of one sort. -/
theorem Watched.hears_run {w : Watched σ} {α : Type} (h : w.interrupts.Stepwise) (d : Dialogue α) :
    w.Hears ((d.calls w).countP RandomCall.isPercent) (d.run w).2 := by
  induction d generalizing w with
  | done a => exact .refl w
  | choose n hn next ih =>
    have hchoice : w.Hears 0 (RandomSource.choose w n hn).2 :=
      ⟨rfl, rfl, by simp [RandomSource.choose, h.choice]⟩
    have hrest := hchoice.trans (ih (RandomSource.choose w n hn).1 h)
    rw [Nat.zero_add] at hrest
    rw [Dialogue.calls, Dialogue.run, List.countP_cons_of_neg Bool.false_ne_true]
    exact hrest
  | percent k next ih =>
    have hpercent : w.Hears 1 (RandomSource.percent w k).2 :=
      ⟨rfl, rfl, by simp [RandomSource.percent]⟩
    have hrest := hpercent.trans (ih (RandomSource.percent w k).1 h)
    rw [Dialogue.calls, Dialogue.run, List.countP_cons_of_pos rfl, Nat.add_comm]
    exact hrest

namespace Problem

variable {p : Problem} {f : Formula} {w : Watched σ}

/-- A step of a problem that is not solved asks once whether to walk at random. -/
theorem Reflects.hears_step (h : p.Reflects f) (hs : p.isSolved = false)
    (hw : w.interrupts.Stepwise) : w.Hears 1 (p.step w).source := by
  have hpos : 0 < p.failing f := by
    have hsize : p.tally.unsatisfied.items.size = p.failing f := h.size_unsatisfied
    rw [← hsize]
    simpa [isSolved, DenseSet.isEmpty, Array.size_pos_iff] using hs
  have hcount : (p.stepCalls f w).countP RandomCall.isPercent = 1 := by
    unfold stepCalls
    rw [dif_pos hpos, List.countP_append]
    split <;> rfl
  have hrun := Watched.hears_run hw p.stepping
  rw [h.calls_stepping, hcount] at hrun
  rw [step_eq_stepping]
  exact hrun

/-- A problem is built without that question. -/
theorem hears_build (hne : ∀ c ∈ f, c ≠ []) {v : Value} {given : Option Valuation}
    {w' : Watched σ} (hw : w.interrupts.Stepwise) (h : build f v given w = .ok (p, w')) :
    w.Hears 0 w' := by
  cases hv : Percent.ofValue v with
  | error e => simp [build, hv, bind, Except.bind] at h
  | ok n =>
    obtain ⟨inst, hinst, hsound, -⟩ := Instance.ofFormula_spec hne
    rw [build_eq hv hinst hsound, Except.ok.injEq, Prod.mk.injEq] at h
    have hcount : ∀ names,
        (startingCalls (given.getD []) names).countP RandomCall.isPercent = 0 := by
      intro names
      rw [startingCalls, List.countP_map]
      exact List.countP_eq_zero.mpr fun _ _ => Bool.false_ne_true
    have hrun := Watched.hears_run hw
      (Assignment.drawing (given.getD []) inst.vocabulary.propositions.toList)
    rw [Assignment.calls_drawing, hcount] at hrun
    rw [← h.2, (Assignment.starting_eq_drawing _ given w).2]
    exact hrun

end Problem

/-- A formula with an empty clause has no instance. -/
theorem Instance.ne_nil_of_addClauses {inst inst' : Instance} {f : Formula}
    (h : inst.addClauses f = .ok inst') : ∀ c ∈ f, c ≠ [] := by
  induction f generalizing inst with
  | nil => simp
  | cons c f ih =>
    rw [addClauses] at h
    cases hc : inst.addClause c with
    | error e =>
      rw [hc] at h
      cases h
    | ok next =>
      rw [hc] at h
      refine List.forall_mem_cons.mpr ⟨?_, ih h⟩
      rintro rfl
      cases hc

theorem Problem.ne_nil_of_build {p : Problem} {f : Formula} {v : Value} {given : Option Valuation}
    {s s' : σ} (h : build f v given s = .ok (p, s')) : ∀ c ∈ f, c ≠ [] := by
  unfold build at h
  cases hv : Percent.ofValue v with
  | error e => simp [hv, bind, Except.bind] at h
  | ok n =>
    cases hf : Instance.ofFormula f with
    | error e => simp [hv, hf, bind, Except.bind] at h
    | ok inst => exact Instance.ne_nil_of_addClauses hf

/-! ## Journals -/

namespace Attempt

variable {a : Attempt} {t u : TryState σ} {f : Formula} {n : Nat} {j : Journal} {e : Ending}

/-- The journal of a try, from where it stands, for at most `n` flips. -/
def journal (a : Attempt) : Nat → TryState σ → Journal
  | 0, _ => {}
  | n + 1, t =>
    if t.problem.isSolved || t.source.interrupted then {}
    else
      let checks := if a.deadline.isSome then [t.clock.reads] else []
      let (isLate, t) := a.late t
      if isLate then { checks := checks }
      else match a.flip t with
        | (_, some _) => { checks := checks }
        | (u, none) =>
          let rest := a.journal n u
          { flips := ⟨t.source.percents, t.clock.reads, u.problem⟩ :: rest.flips
            checks := checks ++ rest.checks }

theorem course_eq_journal (a : Attempt) (n : Nat) (t : TryState σ) :
    a.course n t = t.problem :: (a.journal n t).flips.map (·.after) := by
  induction n generalizing t with
  | zero => rfl
  | succ n ih =>
    rw [course, journal]
    cases t.problem.isSolved with
    | true => rfl
    | false =>
      cases t.source.interrupted with
      | true => rfl
      | false =>
        rcases hl : a.late t with ⟨_ | _, t'⟩
        · rcases hf : a.flip t' with ⟨u, _ | e⟩
          · simp only [hf, Bool.or_self, Bool.false_eq_true, if_false, ih, List.map_cons]
          · simp only [hf, Bool.or_self, Bool.false_eq_true, if_false, List.map_nil]
        · simp

/-- A try keeps the journal while it comes to its end with at most `n` flips. -/
inductive Keeps (a : Attempt) : Nat → TryState σ → Journal → TryState σ → Ending → Prop
  | solved {n : Nat} {t : TryState σ} (hs : t.problem.isSolved = true) :
    Keeps a n t {} t .solved
  | exhausted {t : TryState σ} (hs : t.problem.isSolved = false) : Keeps a 0 t {} t .exhausted
  | interrupted {n : Nat} {t : TryState σ} (hs : t.problem.isSolved = false)
    (hi : t.source.interrupted = true) : Keeps a (n + 1) t {} t .interrupted
  | timeout {n : Nat} {t : TryState σ} (hs : t.problem.isSolved = false)
    (hi : t.source.interrupted = false) (hl : (a.late t).1 = true) :
    Keeps a (n + 1) t { checks := if a.deadline.isSome then [t.clock.reads] else [] }
      (a.late t).2 .timeout
  | flip {n : Nat} {t u v : TryState σ} {j : Journal} {e : Ending}
    (hs : t.problem.isSolved = false) (hi : t.source.interrupted = false)
    (hl : (a.late t).1 = false) (hf : a.flip (a.late t).2 = (u, none)) (hr : Keeps a n u j v e) :
    Keeps a (n + 1) t
      { flips := ⟨(a.late t).2.source.percents, (a.late t).2.clock.reads, u.problem⟩ :: j.flips
        checks := (if a.deadline.isSome then [t.clock.reads] else []) ++ j.checks } v e

theorem keeps_of_loop (h : a.loop n t = (u, .ok e)) :
    a.Keeps n t (a.journal n t) u e := by
  induction n generalizing t with
  | zero =>
    cases hs : t.problem.isSolved with
    | true =>
      simp only [loop, hs, if_true, Prod.mk.injEq, Except.ok.injEq] at h
      obtain ⟨rfl, rfl⟩ := h
      exact .solved hs
    | false =>
      simp only [loop, hs, Bool.false_eq_true, if_false, Prod.mk.injEq, Except.ok.injEq] at h
      obtain ⟨rfl, rfl⟩ := h
      exact .exhausted hs
  | succ n ih =>
    rw [loop] at h
    rw [journal]
    cases hs : t.problem.isSolved with
    | true =>
      simp only [hs, if_true, Prod.mk.injEq, Except.ok.injEq] at h
      obtain ⟨rfl, rfl⟩ := h
      exact .solved hs
    | false =>
      cases hi : t.source.interrupted with
      | true =>
        simp only [hs, hi, if_true, Bool.false_eq_true, if_false, Prod.mk.injEq,
          Except.ok.injEq] at h
        obtain ⟨rfl, rfl⟩ := h
        exact .interrupted hs hi
      | false =>
        cases hl : (a.late t).1 with
        | true =>
          simp only [hs, hi, hl, if_true, Bool.false_eq_true, if_false, Prod.mk.injEq,
            Except.ok.injEq] at h
          obtain ⟨rfl, rfl⟩ := h
          simp only [hl, Bool.or_self, Bool.false_eq_true, if_false, if_true]
          exact .timeout hs hi hl
        | false =>
          simp only [hs, hi, hl, Bool.false_eq_true, if_false] at h
          rcases hf : a.flip (a.late t).2 with ⟨v, _ | e'⟩
          · rw [hf] at h
            simp only [hl, hf, Bool.or_self, Bool.false_eq_true, if_false]
            exact .flip hs hi hl hf (ih h)
          · rw [hf] at h
            cases h

/-- A flip asks once whether to walk at random, and does not read the clock. -/
theorem hears_flip (ht : t.problem.Reflects f) (hs : t.problem.isSolved = false)
    (hw : t.source.interrupts.Stepwise) (h : a.flip t = (u, none)) :
    t.source.Hears 1 u.source ∧ u.clock = t.clock := by
  obtain ⟨p, hp, -, -, hsource, hclock, -⟩ := flip_inv h
  obtain ⟨k, rfl⟩ := annealed_eq hp
  rw [hsource]
  exact ⟨(ht.withNoise k).hears_step hs hw, hclock⟩

theorem Keeps.accounts (h : a.Keeps n t j u e) (ht : t.problem.Reflects f)
    (hw : t.source.interrupts.Stepwise) :
    Accounts n a.deadline t.source t.clock ⟨j, t.problem⟩ u.source u.clock e := by
  induction h with
  | solved hs =>
    refine ⟨.refl _, rfl, rfl, Nat.le_refl _, Nat.zero_le _, by simp, by simp, by simp, ?_⟩
    rw [TryRecord.last, List.map_nil, List.getLastD_nil, if_pos hs]
  | exhausted hs =>
    refine ⟨.refl _, rfl, rfl, Nat.le_refl _, Nat.zero_le _, by simp, by simp, by simp, ?_⟩
    simp [TryRecord.last, hs]
  | interrupted hs hi =>
    refine ⟨.refl _, rfl, rfl, Nat.le_refl _, Nat.zero_le _, by simp, by simp, by simp, ?_⟩
    simp [TryRecord.last, hs, hi]
  | @timeout n t hs hi hl =>
    obtain ⟨hlate, hsource, hreading, hreads⟩ := late_eq (a := a) hw
    rw [hlate] at hl
    refine ⟨?_, rfl, hreading, by omega, Nat.zero_le _, by simp, by simp, ?_, ?_⟩
    · rw [hsource]
      exact .refl _
    · cases hd : a.deadline with
      | none => simp [passedAt, hd] at hl
      | some d =>
        rw [hd] at hl
        simp [hl]
    · simp [TryRecord.last, hs, hsource, hi]
  | @flip n t u v j e hs hi hl hf hr ih =>
    obtain ⟨hlate, hsource, hreading, hreads⟩ := late_eq (a := a) hw
    rw [hlate] at hl
    have hs' := hs
    rw [← late_problem (a := a)] at ht hs'
    rw [← hsource] at hw
    obtain ⟨hhears, hclock⟩ := hears_flip ht hs' hw hf
    have hur := (flipsTo_of_flip ht hs' hf).2
    rw [hsource] at hhears hw
    have hu := ih hur (by rw [hhears.interrupts_eq]; exact hw)
    refine hu.cons hi hhears (by rw [hsource]) ?_ ?_ (by rw [hclock]) hl
    · rw [hclock, hreading]
    · rw [hclock, hreads]

/-- The journal of a try from its start. -/
def recordOf (a : Attempt) (t : TryState σ) : TryRecord :=
  match a.parameters.maxFlips with
  | .int n => ⟨a.journal n.toNat t, t.problem⟩
  | _ => ⟨{}, t.problem⟩

theorem courseOf_eq (a : Attempt) (t : TryState σ) :
    a.courseOf t = (a.recordOf t).course := by
  unfold courseOf recordOf
  cases a.parameters.maxFlips with
  | int n => exact course_eq_journal a n.toNat t
  | _ => rfl

end Attempt

namespace Solver

variable {s : Solver σ} {d : Option Binary64} {r r' : Search σ} {t : TryState σ} {e : Ending}
  {m n : Nat}

/-- The records of the tries of a search, for at most `n` tries. -/
def records (s : Solver σ) (deadline : Option Binary64) : Nat → Search σ → List TryRecord
  | 0, _ => []
  | n + 1, r =>
    match s.startTry deadline (begun r), s.oneTry deadline r with
    | .ok (t, none), (r', .ok .exhausted) =>
      (s.attempt deadline (begun r).tries).recordOf t :: s.records deadline n r'
    | .ok (t, none), _ => [(s.attempt deadline (begun r).tries).recordOf t]
    | _, _ => []

/-- The records of a search, try by try. -/
def journals (s : Solver σ) (timeout : Value) : List TryRecord :=
  match s.ready timeout with
  | (s, .ok b) => s.records b.deadline b.tries s.opening
  | (_, .error _) => []

theorem courses_eq_records (s : Solver σ) (d : Option Binary64) (n : Nat) (r : Search σ) :
    s.courses d n r = (s.records d n r).map TryRecord.course := by
  induction n generalizing r with
  | zero => rfl
  | succ n ih =>
    rw [courses, records]
    rcases s.startTry d (begun r) with x | ⟨t, _ | x⟩
    · rfl
    · rcases s.oneTry d r with ⟨r', x | e⟩
      · exact congrArg ([·]) (Attempt.courseOf_eq _ t)
      · cases e with
        | exhausted => simp only [Attempt.courseOf_eq, ih, List.map_cons]
        | solved | timeout | interrupted => exact congrArg ([·]) (Attempt.courseOf_eq _ t)
    · rfl

theorem visited_eq_journals (s : Solver σ) (timeout : Value) :
    s.visited timeout = (s.journals timeout).map TryRecord.course := by
  unfold visited journals
  rcases s.ready timeout with ⟨s', x | b⟩
  · rfl
  · exact courses_eq_records s' b.deadline b.tries s'.opening

theorem startTry_build {x : Option Fault} (h : s.startTry d r = .ok (t, x)) :
    t.clock = r.clock ∧ ∃ v given,
      Problem.build s.formula v given r.source = .ok (t.problem, t.source) := by
  unfold startTry Attempt.start Attempt.build at h
  cases hn : (s.attempt d r.tries).parameters.noiseAt (.int 0) with
  | error e => simp [hn, bind, Except.bind] at h
  | ok v =>
    rcases hb : Problem.build s.formula v (if r.tries = 1 then s.given else none) r.source with
      e | ⟨p, w⟩
    · simp [hn, hb, bind, Except.bind] at h
    · cases hg : (s.attempt d r.tries).greeting p with
      | error e =>
        simp only [hn, hb, hg, bind, Except.bind, pure, Except.pure, Except.ok.injEq,
          Prod.mk.injEq] at h
        rw [← h.1]
        exact ⟨rfl, v, _, hb⟩
      | ok message =>
        simp only [hn, hb, hg, bind, Except.bind, pure, Except.pure, Except.ok.injEq,
          Prod.mk.injEq] at h
        rw [← h.1]
        exact ⟨rfl, v, _, hb⟩

/-- The accounts of a try that ends. -/
theorem accounts_of_oneTry (hw : r.source.interrupts.Stepwise)
    (hm : s.parameters.maxFlips = .int m) (h : s.oneTry d r = (r', .ok e)) :
    ∃ t, s.startTry d (begun r) = .ok (t, none) ∧
      Accounts m d r.source r.clock ((s.attempt d (begun r).tries).recordOf t)
        r'.source r'.clock e := by
  unfold oneTry at h
  rcases ht : s.startTry d (begun r) with x | ⟨t, _ | x⟩
  · simp [ht] at h
  · rcases hu : (s.attempt d (begun r).tries).run t with ⟨u, x | e'⟩
    · simp [ht, hu] at h
    · simp only [ht, hu, Prod.mk.injEq, Except.ok.injEq] at h
      obtain ⟨rfl, rfl⟩ := h
      obtain ⟨hclock, v, given, hbuild⟩ := startTry_build ht
      obtain ⟨hsource, hnext⟩ := begun_eq hw
      have hne := Problem.ne_nil_of_build hbuild
      obtain ⟨ht', -⟩ := startTry_inv hne ht
      rw [hsource] at hbuild
      have hstart := Problem.hears_build hne hw hbuild
      have hwt : t.source.interrupts.Stepwise := by
        rw [hstart.interrupts_eq]
        exact hw
      have hrun : (s.attempt d (begun r).tries).loop m t = (u, .ok e') := by
        unfold Attempt.run attempt at hu
        rw [hm] at hu
        exact hu
      have hloop := (Attempt.keeps_of_loop hrun).accounts ht' hwt
      have hrecord : (s.attempt d (begun r).tries).recordOf t =
          ⟨(s.attempt d (begun r).tries).journal m t, t.problem⟩ := by
        unfold Attempt.recordOf attempt
        rw [hm]
        rfl
      have hwu : u.source.interrupts.Stepwise := by
        rw [hloop.hears.interrupts_eq]
        exact hwt
      obtain ⟨hs, hreading, hreads⟩ := closing_reads hwu s (begun r).tries r.clock.now e'
      refine ⟨t, rfl, ?_⟩
      rw [hrecord, after]
      dsimp only
      rw [hs]
      refine hloop.widen hstart ?_ ?_ hreading hreads
      · rw [hclock, hnext]
        rfl
      · rw [hclock, hnext]
        exact Nat.le_succ _
  · simp [ht] at h

theorem records_of_exhausted (ht : s.startTry d (begun r) = .ok (t, none))
    (h : s.oneTry d r = (r', .ok .exhausted)) :
    s.records d (n + 1) r =
      (s.attempt d (begun r).tries).recordOf t :: s.records d n r' := by
  simp only [records, ht, h]

theorem records_of_ended (ht : s.startTry d (begun r) = .ok (t, none))
    (h : s.oneTry d r = (r', .ok e)) (he : e ≠ .exhausted) :
    s.records d (n + 1) r = [(s.attempt d (begun r).tries).recordOf t] := by
  cases e with
  | exhausted => exact absurd rfl he
  | solved | timeout | interrupted => simp only [records, ht, h]

theorem accounts_of_tryUpTo (hw : r.source.interrupts.Stepwise)
    (hm : s.parameters.maxFlips = .int m) (h : s.tryUpTo d n r = (r', .ok e)) :
    Tries m d n r.source r.clock (s.records d n r) r'.source r'.clock e := by
  induction n generalizing r with
  | zero =>
    simp only [tryUpTo, Prod.mk.injEq, Except.ok.injEq] at h
    obtain ⟨rfl, rfl⟩ := h
    exact .none
  | succ n ih =>
    rcases hone : s.oneTry d r with ⟨r₁, x | e₁⟩
    · simp [tryUpTo, hone] at h
    · obtain ⟨t, ht, ha⟩ := accounts_of_oneTry hw hm hone
      by_cases he : e₁ = .exhausted
      · subst he
        rw [tryUpTo_of_exhausted hone] at h
        rw [records_of_exhausted ht hone]
        exact .next ha (ih (by rw [ha.hears.interrupts_eq]; exact hw) h)
      · rw [tryUpTo_of_ended hone he, Prod.mk.injEq, Except.ok.injEq] at h
        obtain ⟨rfl, rfl⟩ := h
        rw [records_of_ended ht hone he]
        exact .last ha he

end Solver

end FlipSat
