import FlipSat.Proofs.Operation
import FlipSat.Proofs.Refinement
import Mathlib

/-
  FlipSat: a formula in which each name has one polarity is solved, whatever is drawn.
  A step makes a literal true that was false. If the formula is pure, no literal of it becomes false
  by that (`Reflects.step_of_pure`), so the clauses that fail become fewer with each step
  (`Reflects.size_step_lt`), and no proposition is flipped by two steps (`Reflects.stepped_nodup`).
  `pure_solved` says this of all reachable problems, and that a search with as many flips as there
  are clauses solves the formula in its first try, if its number of tries can be written.
-/
namespace FlipSat

/-- Fewer elements of a list have a property than another one if it implies the other one, and some
    element has only that. -/
theorem countP_lt_countP {α : Type} {as : List α} {q r : α → Bool}
    (h : ∀ a ∈ as, q a = true → r a = true) {a : α} (ha : a ∈ as) (hq : q a = false)
    (hr : r a = true) : as.countP q < as.countP r := by
  obtain ⟨before, after, rfl⟩ := List.append_of_mem ha
  have hbefore : before.countP q ≤ before.countP r :=
    List.countP_mono_left fun b hb => h b (by simp [hb])
  have hafter : after.countP q ≤ after.countP r :=
    List.countP_mono_left fun b hb => h b (by simp [hb])
  rw [List.countP_append, List.countP_append, List.countP_cons_of_neg (by simp [hq]),
    List.countP_cons_of_pos hr]
  omega

/-- No name occurs both negated and not negated in the formula. -/
def Formula.Pure (f : Formula) : Prop :=
  ∀ l ∈ f.flatten, ∀ m ∈ f.flatten, l.name = m.name → l.negated = m.negated

instance (f : Formula) : Decidable f.Pure :=
  inferInstanceAs (Decidable (∀ l ∈ f.flatten, ∀ m ∈ f.flatten,
    l.name = m.name → l.negated = m.negated))

theorem Formula.Pure.eq_of_name_eq {f : Formula} (h : f.Pure) {l m : LiteralSpec}
    (hl : l ∈ f.flatten) (hm : m ∈ f.flatten) (hn : l.name = m.name) : l = m := by
  have hneg := h l hl m hm hn
  cases l
  cases m
  simp_all

/-- Is the operation a step of the search? -/
def Operation.isStep : Operation → Bool
  | .step => true
  | _ => false

/-- Is the operation a flip that is asked for by itself? -/
def Operation.isFlip : Operation → Bool
  | .flip _ | .flipLiteral _ => true
  | _ => false

/-- The proposition that an operation flips, if it is a step and flips one. -/
def Session.steppedBy {σ : Type} [RandomSource σ] (t : Session σ) (o : Operation) :
    List Proposition :=
  if o.isStep then ((t.problem.step t.source).flipped.map (·.proposition)).toList else []

/-- The propositions that the steps among some operations flip, in order. -/
def Session.stepped {σ : Type} [RandomSource σ] (t : Session σ) : List Operation → List Proposition
  | [] => []
  | o :: os => t.steppedBy o ++ (t.perform o).stepped os

namespace Problem

variable {σ : Type} [RandomSource σ] {p q : Problem} {f : Formula} {t : Session σ} {l : Literal}
  {o : Operation}

/-! ## One step -/

/-- A flip makes the literal of a proposition true that was false. -/
theorem Reflects.holds_of_flip (h : p.Reflects f) (hq : p.flip l.proposition = (q, none))
    (hl : l.spec.holds p.valuation.valueOf = false) :
    l.spec.holds q.valuation.valueOf = true := by
  obtain ⟨hx, hqr, -⟩ := h.of_flip hq
  obtain ⟨hprops, htruth⟩ := h.truth_of_flip hq
  have hqx : q.assignment.Knows l.proposition := (Assignment.knows_congr hprops).mpr hx
  rw [valuation, Assignment.holds_spec h.consistent.enumerated hx, Assignment.satisfies] at hl
  rw [valuation, Assignment.holds_spec hqr.consistent.enumerated hqx, Assignment.satisfies,
    htruth _ hx, if_pos rfl]
  revert hl
  cases l.isPositive <;> cases p.assignment.truth l.proposition <;> simp

/-- In a pure formula no literal becomes false when one that was false becomes true. -/
theorem Reflects.holds_mono (h : p.Reflects f) (hpure : f.Pure)
    (hq : p.flip l.proposition = (q, none)) (hf : l.spec ∈ f.flatten)
    (hl : l.spec.holds p.valuation.valueOf = false) {m : LiteralSpec} (hm : m ∈ f.flatten)
    (hholds : m.holds p.valuation.valueOf = true) : m.holds q.valuation.valueOf = true := by
  obtain ⟨hx, -, -, -, -, ha⟩ := h.of_flip hq
  have hv : q.valuation.valueOf = invertAt p.valuation.valueOf l.proposition.name :=
    Assignment.valueOf_flip h.consistent.enumerated hx ha
  have hne : m.name ≠ l.proposition.name := by
    intro hn
    have hml : m = l.spec := hpure.eq_of_name_eq hm hf hn
    rw [hml, hl] at hholds
    cases hholds
  rw [hv, LiteralSpec.holds, invertAt, if_neg hne]
  exact hholds

/-- A step of a problem that is not solved flips a literal of a clause that fails. In a pure formula
    no literal becomes false by it. -/
theorem Reflects.step_of_pure (h : p.Reflects f) (hpure : f.Pure) (hs : p.isSolved = false)
    (source : σ) : ∃ l : Literal, (p.step source).flipped = some l ∧ l.spec ∈ f.flatten ∧
      l.spec.holds p.valuation.valueOf = false ∧
      l.spec.holds (p.step source).problem.valuation.valueOf = true ∧
      (∃ c ∈ f, l.spec ∈ c ∧ c.holds p.valuation.valueOf = false) ∧
      ∀ m ∈ f.flatten, m.holds p.valuation.valueOf = true →
        m.holds (p.step source).problem.valuation.valueOf = true := by
  rw [h.isSolved_eq] at hs
  rcases h.step_cases source with ⟨hsolved, -⟩ | ⟨-, c, hc, hfalse, l, q, s, hlc, hq, he⟩
  · rw [hs] at hsolved
    cases hsolved
  · have hf : l.spec ∈ f.flatten := List.mem_flatten.mpr ⟨c, hc, hlc⟩
    have hl : l.spec.holds p.valuation.valueOf = false := by
      rw [ClauseSpec.holds, List.any_eq_false] at hfalse
      simpa using hfalse l.spec hlc
    rw [he]
    exact ⟨l, rfl, hf, hl, h.holds_of_flip hq hl, ⟨c, hc, hlc, hfalse⟩,
      fun m hm => h.holds_mono hpure hq hf hl hm⟩

/-- A step of a problem of a pure formula makes its failing clauses fewer, if there are any. -/
theorem Reflects.size_step_lt (h : p.Reflects f) (hpure : f.Pure) (hs : p.isSolved = false)
    (source : σ) :
    (p.step source).problem.tally.unsatisfied.size < p.tally.unsatisfied.size := by
  obtain ⟨l, -, -, -, htrue, ⟨c, hc, hlc, hfalse⟩, hmono⟩ := h.step_of_pure hpure hs source
  obtain ⟨hq, -⟩ := h.step source
  rw [hq.size_unsatisfied, h.size_unsatisfied]
  refine countP_lt_countP (fun d hd hholds => ?_) hc ?_ (by simp [hfalse])
  · -- A clause that holds before has a true literal, which stays true.
    rw [Bool.not_eq_true', ← Bool.not_eq_true] at hholds ⊢
    intro hbefore
    obtain ⟨m, hm, hmtrue⟩ := List.any_eq_true.mp hbefore
    exact hholds (List.any_eq_true.mpr
      ⟨m, hm, hmono m (List.mem_flatten.mpr ⟨d, hd, hm⟩) hmtrue⟩)
  · rw [Bool.not_eq_false']
    exact List.any_eq_true.mpr ⟨l.spec, hlc, htrue⟩

theorem Reflects.step_of_solved (h : p.Reflects f) (hs : p.isSolved = true) (source : σ) :
    p.step source = { problem := p, source := source, solved := true } := by
  rw [h.isSolved_eq] at hs
  rcases h.step_cases source with ⟨-, he⟩ | ⟨hfalse, -⟩
  · exact he
  · rw [hs] at hfalse
    cases hfalse

/-! ## Many operations -/

/-- Operations other than flips and steps leave the values and the failing clauses. -/
theorem perform_of_still (hstep : o.isStep = false) (hflip : o.isFlip = false) (t : Session σ) :
    (t.perform o).problem.valuation = t.problem.valuation ∧
      (t.perform o).problem.tally = t.problem.tally := by
  cases o with
  | flip | flipLiteral => cases hflip
  | step => cases hstep
  | setNoise v =>
    rw [Session.perform]
    cases hv : t.problem.setNoise v with
    | error e => exact ⟨rfl, rfl⟩
    | ok q =>
      obtain ⟨n, rfl⟩ := setNoise_inv hv
      exact ⟨rfl, rfl⟩
  | proposition | delta | greedy => exact ⟨rfl, rfl⟩

theorem eq_step_of_isStep (h : o.isStep = true) : o = .step := by
  cases o with
  | step => rfl
  | _ => cases h

/-- In a pure formula a true literal stays true under all operations but flips. -/
theorem Reflects.holds_perform (h : t.problem.Reflects f) (hpure : f.Pure)
    (hflip : o.isFlip = false) {m : LiteralSpec} (hm : m ∈ f.flatten)
    (hholds : m.holds t.problem.valuation.valueOf = true) :
    m.holds (t.perform o).problem.valuation.valueOf = true := by
  cases hstep : o.isStep with
  | false =>
    rw [(perform_of_still hstep hflip t).1]
    exact hholds
  | true =>
    obtain rfl := eq_step_of_isStep hstep
    cases hs : t.problem.isSolved with
    | true =>
      rw [Session.perform, h.step_of_solved hs]
      exact hholds
    | false =>
      obtain ⟨-, -, -, -, -, -, hmono⟩ := h.step_of_pure hpure hs t.source
      exact hmono m hm hholds

/-- A step flips the proposition of a literal that was false and is true then. -/
theorem Reflects.steppedBy_spec (h : t.problem.Reflects f) (hpure : f.Pure) {x : Proposition}
    (hx : x ∈ t.steppedBy o) : ∃ l : Literal, l.proposition = x ∧ l.spec ∈ f.flatten ∧
      l.spec.holds t.problem.valuation.valueOf = false ∧
      l.spec.holds (t.perform o).problem.valuation.valueOf = true := by
  unfold Session.steppedBy at hx
  cases hstep : o.isStep with
  | false => simp [hstep] at hx
  | true =>
    obtain rfl := eq_step_of_isStep hstep
    rw [if_pos hstep] at hx
    cases hs : t.problem.isSolved with
    | true =>
      rw [h.step_of_solved hs] at hx
      simp at hx
    | false =>
      obtain ⟨l, hl, hf, hfalse, htrue, -⟩ := h.step_of_pure hpure hs t.source
      rw [hl] at hx
      have hlx : l.proposition = x := by simpa [eq_comm] using hx
      exact ⟨l, hlx, hf, hfalse, htrue⟩

/-- Steps flip propositions of literals that are false before the first of them. -/
theorem Reflects.stepped_false (h : t.problem.Reflects f) (hpure : f.Pure) {os : List Operation}
    (hos : ∀ o ∈ os, o.isFlip = false) : ∀ x ∈ t.stepped os, ∃ l : Literal,
      l.proposition = x ∧ l.spec ∈ f.flatten ∧
      l.spec.holds t.problem.valuation.valueOf = false := by
  induction os generalizing t with
  | nil => simp [Session.stepped]
  | cons o os ih =>
    obtain ⟨ho, hrest⟩ := List.forall_mem_cons.mp hos
    intro x hx
    rcases List.mem_append.mp hx with hx | hx
    · obtain ⟨l, hlx, hf, hfalse, -⟩ := h.steppedBy_spec hpure hx
      exact ⟨l, hlx, hf, hfalse⟩
    · obtain ⟨l, hlx, hf, hfalse⟩ := ih (h.perform o) hrest x hx
      refine ⟨l, hlx, hf, Bool.eq_false_iff.mpr fun htrue => ?_⟩
      rw [h.holds_perform hpure ho hf htrue] at hfalse
      cases hfalse

/-- No proposition is flipped by two steps. -/
theorem Reflects.stepped_nodup (h : t.problem.Reflects f) (hpure : f.Pure) {os : List Operation}
    (hos : ∀ o ∈ os, o.isFlip = false) : (t.stepped os).Nodup := by
  induction os generalizing t with
  | nil => exact List.nodup_nil
  | cons o os ih =>
    obtain ⟨-, hrest⟩ := List.forall_mem_cons.mp hos
    have hfirst : (t.steppedBy o).Nodup := by
      unfold Session.steppedBy
      split
      · cases (t.problem.step t.source).flipped <;> simp
      · exact List.nodup_nil
    refine List.nodup_append.mpr ⟨hfirst, ih (h.perform o) hrest, ?_⟩
    intro x hx y hy hxy
    obtain ⟨l, hlx, hl, -, htrue⟩ := h.steppedBy_spec hpure hx
    obtain ⟨m, hmy, hm, hfalse⟩ := (h.perform o).stepped_false hpure hrest y hy
    have hlm : l.spec = m.spec :=
      hpure.eq_of_name_eq hl hm (congrArg Proposition.name (hlx.trans (hxy.trans hmy.symm)))
    rw [hlm, hfalse] at htrue
    cases htrue

theorem isSolved_iff_size : p.isSolved = true ↔ p.tally.unsatisfied.size = 0 := by
  rw [isSolved, DenseSet.isEmpty, DenseSet.size, Array.isEmpty_iff_size_eq_zero]

/-- Each step makes the failing clauses fewer until there are none. -/
theorem Reflects.size_performAll_le (h : t.problem.Reflects f) (hpure : f.Pure)
    {os : List Operation} (hos : ∀ o ∈ os, o.isFlip = false) :
    (t.performAll os).problem.tally.unsatisfied.size ≤
      t.problem.tally.unsatisfied.size - os.countP Operation.isStep := by
  induction os generalizing t with
  | nil => exact Nat.le_refl _
  | cons o os ih =>
    obtain ⟨ho, hrest⟩ := List.forall_mem_cons.mp hos
    have hcons : t.performAll (o :: os) = (t.perform o).performAll os := rfl
    have hle := ih (h.perform o) hrest
    rw [hcons, List.countP_cons]
    cases hstep : o.isStep with
    | false =>
      rw [(perform_of_still hstep ho t).2] at hle
      simpa using hle
    | true =>
      obtain rfl := eq_step_of_isStep hstep
      have hfirst : (t.perform .step).problem.tally.unsatisfied.size ≤
          t.problem.tally.unsatisfied.size - 1 := by
        cases hs : t.problem.isSolved with
        | true =>
          rw [Session.perform, h.step_of_solved hs, isSolved_iff_size.mp hs]
        | false =>
          have hlt := h.size_step_lt hpure hs t.source
          exact Nat.le_sub_one_of_lt hlt
      simp only [if_true]
      omega

/-- A problem of a pure formula is solved after as many steps as it has failing clauses. -/
theorem Reflects.isSolved_performAll (h : t.problem.Reflects f) (hpure : f.Pure)
    {os : List Operation} (hos : ∀ o ∈ os, o.isFlip = false)
    (hlen : t.problem.tally.unsatisfied.size ≤ os.countP Operation.isStep) :
    (t.performAll os).problem.isSolved = true := by
  have hle := h.size_performAll_le hpure hos
  rw [isSolved_iff_size]
  omega

end Problem

/-! ## Searches -/

variable {σ : Type} [RandomSource σ] {f : Formula}

/-- The plain steps of a problem of a pure formula end with a solved one, if as many steps are
    allowed as the problem has failing clauses. -/
theorem Plain.steps_of_pure {ps : Parameters} {noise : Nat → Percent}
    (hnoise : ∀ i : Nat, ps.noiseAt (.int i) = .ok (.int (noise i).val)) (hpure : f.Pure)
    {p : Problem} (hp : p.Reflects f) {n k : Nat} {s s' : σ} {c : List Problem}
    (h : steps ps n k p s = .ok (c, s')) (hn : p.tally.unsatisfied.size ≤ n) :
    ∃ q, c.getLast? = some q ∧ q.isSolved = true := by
  induction n generalizing p k s c with
  | zero =>
    cases h
    exact ⟨p, rfl, Problem.isSolved_iff_size.mpr (Nat.le_zero.mp hn)⟩
  | succ n ih =>
    rw [steps] at h
    cases hs : p.isSolved with
    | true =>
      rw [hs] at h
      cases h
      exact ⟨p, rfl, hs⟩
    | false =>
      have hq := hp.withNoise (noise k)
      obtain ⟨hr, hfault, -⟩ := hq.step s
      have hlt := hq.size_step_lt hpure hs s
      have hsize : (p.withNoise (noise k)).tally.unsatisfied.size = p.tally.unsatisfied.size := rfl
      rw [hs] at h
      simp only [Bool.false_eq_true, if_false, hnoise, bind, Except.bind, Problem.setNoise_int,
        hfault] at h
      rcases hc : steps ps n (k + 1) ((p.withNoise (noise k)).step s).problem
        ((p.withNoise (noise k)).step s).source with x | ⟨c', s''⟩
      · rw [hc] at h
        cases h
      · rw [hc] at h
        cases h
        obtain ⟨q, hlast, hsolved⟩ := ih hr hc (by omega)
        exact ⟨q, by rw [List.getLast?_cons, hlast]; rfl, hsolved⟩

namespace Solver

/-- A search for a solution of a pure formula solves it in the first try, if it has as many flips as
    there are clauses. -/
theorem solve_of_pure {s : Solver σ} (hne : ∀ c ∈ s.formula, c ≠ []) (hpure : s.formula.Pure)
    (hv : s.parameters.Valid) (hnull : s.parameters.timeout = .null) {m n : Nat}
    (hm : s.parameters.maxFlips = .int m) (hlen : s.formula.length ≤ m)
    (hn : s.parameters.maxTries = .int n) (hwritten : n < 10 ^ Text.maxDigits)
    (hq : s.source.Quiet s.clock.reads) :
    ∃ r, (s.solve .null).result = .ok r ∧ r.status = .satisfiable ∧ r.tries = 1 := by
  have hw : s.parameters.maxTries.isWritable = true := by
    rw [hn]
    exact (Value.isWritable_int n).mpr hwritten
  have hready := ready_of_null hnull hn
  have hund := undisturbed_ready hq
  generalize hs' : ({ s with
      clock := s.clock.next
      source := (s.source.duringReading s.clock.reads).resume } : Solver σ) = s' at hready
  obtain ⟨hf, hp, -⟩ := ready_inv hready
  have hopen : Undisturbed s'.opening.clock.reads s'.opening.source s.source.source := by
    rw [← hs']
    exact hund
  rw [← hf] at hne hpure hlen
  rw [← hp] at hv hw hm
  choose noise hnoise using hv.noiseAt
  obtain ⟨q, c, b, src, r, t, u, e, hbuild, hsteps, -, hruns, -, hone, htries, -, -⟩ :=
    oneTry_plain hne hv hw (hnoise 0) hm hopen
  obtain ⟨p, b', hbuild', hreflects, -⟩ := Problem.build_spec hne (Percent.ofValue_int .default)
    (if s'.opening.tries = 0 then s'.given else none) s.source.source
  rw [hbuild] at hbuild'
  cases hbuild'
  have hfailing : q.tally.unsatisfied.size ≤ m := by
    rw [hreflects.size_unsatisfied]
    exact Nat.le_trans List.countP_le_length hlen
  -- The one try ends with a solved problem, so no other one is made.
  obtain ⟨last, hlast, hsolved⟩ := Plain.steps_of_pure hnoise hpure hreflects hsteps hfailing
  have he : e = .solved := by
    rw [hruns.solved_iff, ← hruns.isSolved_last, hlast]
    exact hsolved
  have hpositive : 0 < n := by
    obtain ⟨k, hk, hkn⟩ := hv.maxTries
    rw [hp, hn] at hkn
    cases hkn
    exact hk
  obtain ⟨k, rfl⟩ := Nat.exists_eq_add_one.mpr hpositive
  have htry := tryUpTo_of_ended (n := k) (he ▸ hone) (by decide)
  rw [solve_of_tries hready htry]
  exact ⟨_, rfl, rfl, congrArg Nat.cast htries⟩

/-- Let each name of a formula have one polarity. In every reachable problem a step then makes the
    failing clauses fewer if there are any. As long as no flip is asked for by itself, no proposition
    is flipped by two steps, and the problem is solved after as many steps as clauses failed. A
    search without a timeout, of which nobody asks to stop, solves the formula in its first try if
    it has as many flips as there are clauses, unless its number of tries cannot be written. -/
theorem pure_solved (hne : ∀ c ∈ f, c ≠ []) (hpure : f.Pure) :
    (∀ (noise : Percent) (given : Option Valuation) (source : σ),
      ∃ p s, Problem.build f (.int noise.val) given source = .ok (p, s) ∧ ∀ os : List Operation,
        let t := Session.performAll ⟨p, s, none⟩ os
        (t.problem.isSolved = false → ∀ {τ : Type} [RandomSource τ] (u : τ),
          (t.problem.step u).fault = none ∧
          (t.problem.step u).problem.tally.unsatisfied.size <
            t.problem.tally.unsatisfied.size) ∧
        ∀ more : List Operation, (∀ o ∈ more, o.isFlip = false) →
          (t.stepped more).Nodup ∧
          (t.problem.tally.unsatisfied.size ≤ more.countP Operation.isStep →
            (t.performAll more).problem.isSolved = true)) ∧
    ∀ s : Solver σ, s.formula = f → s.parameters.Valid → s.parameters.timeout = .null →
      ∀ m n : Nat, s.parameters.maxFlips = .int m → f.length ≤ m →
        s.parameters.maxTries = .int n → s.source.Quiet s.clock.reads →
        (n < 10 ^ Text.maxDigits →
          ∃ r, (s.solve .null).result = .ok r ∧ r.status = .satisfiable ∧ r.tries = 1) ∧
        (10 ^ Text.maxDigits ≤ n → (s.solve .null).result = .error .tooManyDigits) := by
  constructor
  · intro noise given source
    obtain ⟨p, s, hbuild, hreach⟩ := Problem.build_performAll hne noise given source
    refine ⟨p, s, hbuild, fun os => ?_⟩
    intro t
    have ht : t.problem.Reflects f := hreach os
    refine ⟨fun hs τ _ u => ⟨(ht.step u).2.1, ht.size_step_lt hpure hs u⟩, fun more hmore => ?_⟩
    exact ⟨ht.stepped_nodup hpure hmore, ht.isSolved_performAll hpure hmore⟩
  · rintro s rfl hv hnull m n hm hlen hn hq
    refine ⟨fun hlt => solve_of_pure hne hpure hv hnull hm hlen hn hlt hq, fun hge => ?_⟩
    have hw : s.parameters.maxTries.isWritable = false := by
      rw [hn, Bool.eq_false_iff, ne_eq, Value.isWritable_int]
      omega
    exact solve_of_unwritable hne hv hw (ready_of_null hnull hn)

/-- Two clauses that fail at first, and a name with the same polarity in both. -/
theorem pure_solved_of_two :
    let f : Formula := [[⟨"a", false⟩, ⟨"b", true⟩], [⟨"b", true⟩, ⟨"c", false⟩]]
    let s : Solver Script := ofFormula f {} (some [("a", false), ("b", true), ("c", false)]) true
      ⟨Script.mk [1, 0, 7], {}, 0, 0, false⟩ (.steady .one)
    (∃ p t, Problem.build f (.int 30) s.given s.source.source = .ok (p, t) ∧
      (Session.performAll ⟨p, t, none⟩ [.step, .setNoise (.int 0), .step]).problem.isSolved) ∧
    ∃ r, (s.solve .null).result = .ok r ∧ r.status = .satisfiable ∧ r.tries = 1 := by
  intro f s
  obtain ⟨hproblem, hsolver⟩ := pure_solved (σ := Script) (f := f) (by decide) (by decide)
  obtain ⟨p, t, hbuild, hall⟩ := hproblem ⟨30, by decide⟩ s.given s.source.source
  replace hbuild : Problem.build f (.int 30) _ _ = .ok (p, t) := hbuild
  have hsize : (Problem.build f (.int 30) s.given s.source.source).map
      (fun r => r.1.tally.unsatisfied.size) = .ok 2 := by cbv
  rw [hbuild] at hsize
  have hsize : p.tally.unsatisfied.size = 2 := Except.ok.inj hsize
  have hsolved := ((hall []).2 [.step, .setNoise (.int 0), .step] (by simp [Operation.isFlip])).2
    (Nat.le_of_eq hsize)
  have hanswer := (hsolver s rfl Parameters.valid_default rfl 100000 1 rfl (by decide) rfl
    ⟨fun _ _ => rfl, fun _ _ => rfl, fun _ _ => rfl⟩).1 (Nat.one_lt_pow (by decide) (by decide))
  exact ⟨⟨p, t, hbuild, hsolved⟩, hanswer⟩

end Solver

end FlipSat
