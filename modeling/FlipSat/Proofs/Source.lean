import FlipSat.Problem.Step
import FlipSat.Proofs.Reflects
import FlipSat.Random.Watched

/-
  FlipSat: a search does with a source what it does with any source that answers alike.
  `Chooses` and `Asks` say of a relation between sources that related sources give the same answers
  and stay related. Building a problem asks for choices only (`build_of_chooses`), a step asks for
  both (`step_of_asks`). `Undisturbed` relates a watched source to the source in it as long as no
  stop is asked for (`asks_undisturbed`).
-/
namespace FlipSat

variable {σ τ : Type}

/-! ## Watched sources -/

/-- No stop is asked for during any question to come, nor during any reading of the clock from the
    one with number `reads` on. -/
structure Watched.Quiet (w : Watched σ) (reads : Nat) : Prop where
  choice : ∀ n, w.choices ≤ n → w.interrupts.duringChoice n = false
  percent : ∀ n, w.percents ≤ n → w.interrupts.duringPercent n = false
  reading : ∀ n, reads ≤ n → w.interrupts.duringReading n = false

/-- A watched source, of which nobody asks to stop, and the source in it. -/
structure Undisturbed (reads : Nat) (w : Watched σ) (s : σ) : Prop where
  source_eq : w.source = s
  running : w.interrupted = false
  quiet : w.Quiet reads

variable {w : Watched σ} {s : σ} {reads : Nat}

theorem Watched.Quiet.duringReading (h : w.Quiet reads) :
    (w.duringReading reads).Quiet (reads + 1) :=
  ⟨h.choice, h.percent, fun n hn => h.reading n (by omega)⟩

/-- A look at the clock does not disturb. -/
theorem Undisturbed.duringReading (h : Undisturbed reads w s) :
    Undisturbed (reads + 1) (w.duringReading reads) s where
  source_eq := h.source_eq
  running := by
    rw [Watched.duringReading]
    simp [h.running, h.quiet.reading reads (Nat.le_refl _)]
  quiet := h.quiet.duringReading

/-! ## Related sources -/

variable [RandomSource σ] [RandomSource τ] {R : σ → τ → Prop} {a : σ} {b : τ}

/-- Related sources choose alike. -/
structure Chooses (R : σ → τ → Prop) : Prop where
  choose : ∀ {a b}, R a b → ∀ (n : Nat) (h : 0 < n),
    (RandomSource.choose a n h).1 = (RandomSource.choose b n h).1 ∧
      R (RandomSource.choose a n h).2 (RandomSource.choose b n h).2

/-- Related sources answer alike. -/
structure Asks (R : σ → τ → Prop) : Prop extends Chooses R where
  percent : ∀ {a b}, R a b → ∀ k : Int,
    (RandomSource.percent a k).1 = (RandomSource.percent b k).1 ∧
      R (RandomSource.percent a k).2 (RandomSource.percent b k).2

/-! ## Building a problem -/

theorem randomBool_of_chooses (h : Chooses R) (hab : R a b) :
    (randomBool a).1 = (randomBool b).1 ∧ R (randomBool a).2 (randomBool b).2 := by
  obtain ⟨h1, h2⟩ := h.choose hab 2 (by decide)
  exact ⟨by simp only [randomBool, h1], h2⟩

namespace Assignment

theorem drawFrom_of_chooses (h : Chooses R) (hab : R a b) (ps : List Proposition) :
    (drawFrom ps a).1 = (drawFrom ps b).1 ∧ R (drawFrom ps a).2 (drawFrom ps b).2 := by
  induction ps generalizing a b with
  | nil => exact ⟨rfl, hab⟩
  | cons p ps ih =>
    obtain ⟨h1, h2⟩ := randomBool_of_chooses h hab
    obtain ⟨h3, h4⟩ := ih h2
    exact ⟨by simp only [drawFrom, h1, h3], h4⟩

theorem fill_of_chooses (h : Chooses R) (hab : R a b) (given : Valuation) (ps : List Proposition) :
    (fill given ps a).1 = (fill given ps b).1 ∧ R (fill given ps a).2 (fill given ps b).2 := by
  induction ps generalizing a b with
  | nil => exact ⟨rfl, hab⟩
  | cons p ps ih =>
    rw [fill, fill]
    cases given.lookup p.name with
    | some v =>
      obtain ⟨h1, h2⟩ := ih hab
      exact ⟨by simp only [h1], h2⟩
    | none =>
      obtain ⟨h1, h2⟩ := randomBool_of_chooses h hab
      obtain ⟨h3, h4⟩ := ih h2
      exact ⟨by simp only [h1, h3], h4⟩

theorem starting_of_chooses (h : Chooses R) (hab : R a b) (xs : Array Proposition)
    (given : Option Valuation) :
    (starting xs given a).1 = (starting xs given b).1 ∧
      R (starting xs given a).2 (starting xs given b).2 := by
  cases given with
  | none =>
    obtain ⟨h1, h2⟩ := drawFrom_of_chooses h hab xs.toList
    exact ⟨by simp only [starting, random, h1], h2⟩
  | some given =>
    obtain ⟨h1, h2⟩ := fill_of_chooses h hab given xs.toList
    exact ⟨by simp only [starting, h1], h2⟩

end Assignment

namespace Problem

variable {f : Formula}

/-- The same problem is built from related sources, but for the noise that it is given. -/
theorem build_of_chooses (h : Chooses R) (hab : R a b) (hne : ∀ c ∈ f, c ≠ []) {v w : Value}
    {n m : Percent} (hv : Percent.ofValue v = .ok n) (hw : Percent.ofValue w = .ok m)
    (given : Option Valuation) :
    ∃ (p : Problem) (a' : σ) (b' : τ), build f v given a = .ok (p.withNoise n, a') ∧
      build f w given b = .ok (p.withNoise m, b') ∧ p.Reflects f ∧ R a' b' := by
  obtain ⟨inst, hinst, hsound, hnames, hspecs⟩ := Instance.ofFormula_spec hne
  obtain ⟨h1, h2⟩ := Assignment.starting_of_chooses h hab inst.vocabulary.propositions given
  refine ⟨ofInstance inst (Assignment.starting inst.vocabulary.propositions given b).1 n, _, _, ?_,
    build_eq hw hinst hsound given b, ?_, h2⟩
  · rw [← h1]
    exact build_eq hv hinst hsound given a
  · exact reflects_ofInstance hsound (Assignment.propositions_starting _ given b) hnames hspecs n

/-! ## Steps -/

variable {p : Problem}

theorem pick_of_asks (h : Asks R) (hab : R a b) (c : Clause) :
    (p.pick c a).1 = (p.pick c b).1 ∧ R (p.pick c a).2 (p.pick c b).2 := by
  obtain ⟨h1, h2⟩ := h.percent hab p.noise.val
  unfold pick
  dsimp only
  rw [h1]
  cases (RandomSource.percent b p.noise.val).1 with
  | true =>
    obtain ⟨h3, h4⟩ := h.choose h2 c.size c.size_pos
    exact ⟨by simp only [if_true, h3], h4⟩
  | false => exact ⟨rfl, h2⟩

/-- A step does the same with related sources. -/
theorem step_of_asks (h : Asks R) (hab : R a b) :
    (p.step a).problem = (p.step b).problem ∧ (p.step a).fault = (p.step b).fault ∧
      R (p.step a).source (p.step b).source := by
  unfold step DenseSet.choose
  by_cases hs : 0 < p.tally.unsatisfied.items.size
  · obtain ⟨h1, h2⟩ := h.choose hab p.tally.unsatisfied.items.size hs
    rw [dif_pos hs, dif_pos hs]
    dsimp only
    rw [h1]
    generalize p.tally.unsatisfied.items[(RandomSource.choose b _ hs).1] = i
    cases p.inst.clauses[i]? with
    | none => exact ⟨rfl, rfl, h2⟩
    | some c =>
      obtain ⟨h3, h4⟩ := pick_of_asks (p := p) h h2 c
      rcases hpa : p.pick c (RandomSource.choose a _ hs).2 with ⟨x, a'⟩
      rcases hpb : p.pick c (RandomSource.choose b _ hs).2 with ⟨y, b'⟩
      rw [hpa, hpb] at h3 h4
      obtain rfl : x = y := h3
      simp only [hpa, hpb]
      cases x with
      | error e => exact ⟨rfl, rfl, h4⟩
      | ok l => exact ⟨rfl, rfl, h4⟩
  · rw [dif_neg hs, dif_neg hs]
    exact ⟨rfl, rfl, hab⟩

end Problem

/-! ## Asking a watched source -/

/-- Questions do not disturb a watched source. -/
theorem asks_undisturbed (reads : Nat) : Asks (Undisturbed (σ := σ) reads) where
  choose := by
    rintro w s ⟨rfl, hr, hq⟩ n h
    refine ⟨rfl, rfl, ?_, fun k hk => hq.choice k ?_, hq.percent, hq.reading⟩
    · exact (congrArg (w.interrupted || ·) (hq.choice _ (Nat.le_refl _))).trans (by rw [hr]; rfl)
    · exact Nat.le_trans (Nat.le_succ _) hk
  percent := by
    rintro w s ⟨rfl, hr, hq⟩ n
    refine ⟨rfl, rfl, ?_, hq.choice, fun k hk => hq.percent k ?_, hq.reading⟩
    · exact (congrArg (w.interrupted || ·) (hq.percent _ (Nat.le_refl _))).trans (by rw [hr]; rfl)
    · exact Nat.le_trans (Nat.le_succ _) hk

end FlipSat
