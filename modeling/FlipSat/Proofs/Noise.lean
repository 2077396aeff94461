import FlipSat.Proofs.Parameters
import FlipSat.Proofs.Rounding

/-
  FlipSat: the noise of a search is a probability at every flip.
  `noiseAt_eq`: the noise is computed from how far the search has come (`progress`), and what lies
  there on the line from the noise at the start to the one at the end (`between`), each operation
  rounded. Both keep the order (`progress_mono`, `between_mono`, `between_antitone`) and are exact at
  the ends, so what is computed is never outside of them (`between_bounds`). Hence valid parameters
  always give a noise that a problem accepts (`Valid.noiseAt`).
-/
namespace FlipSat

open Binary64

namespace Value

theorem least_int (a b : Nat) : (int a).least (int b) = .ok (int (min a b : Nat)) := by
  have hless : (int b).isLess (int a) = .ok (decide (b < a)) := by
    have hcmp : (some (compare (b : Int) a) == some Ordering.lt) = decide (b < a) := by
      rw [Bool.eq_iff_iff]
      simp [Int.compare_eq_lt]
    simp only [isLess, number?, compareNumbers?, hcmp]
  rw [least, hless]
  by_cases h : b < a
  · simp [bind, Except.bind, pure, Except.pure, h, Nat.min_eq_right (Nat.le_of_lt h)]
  · simp [bind, Except.bind, pure, Except.pure, h, Nat.min_eq_left (Nat.le_of_not_lt h)]

theorem quotient_int {a b : Nat} (hb : 0 < b) (h : a ≤ b) :
    ∃ x, (int a).quotient (int b) = .ok x ∧ x.value? = some (Binary64.nearest (a / b)) := by
  obtain ⟨x, hx, hv⟩ := divInt?_eq (a := a) hb (by omega)
  refine ⟨x, ?_, hv⟩
  have hb0 : ¬ (b : Int) = 0 := by omega
  simp only [quotient, number?, if_neg hb0, hx]

/-- An operation on an integer and a number. -/
theorem combine_int_real (operator : String) (exact : Int → Int → Int)
    (rounded : Binary64 → Binary64 → Binary64) {n : Int} (hn : |n| < 2 ^ 53) (y : Binary64) :
    ∃ x, x.value? = some (n : ℚ) ∧
      combine operator exact rounded (int n) (real y) = .ok (real (rounded x y)) := by
  obtain ⟨x, hx, hv⟩ := ofInt?_eq hn
  refine ⟨x, hv, ?_⟩
  simp only [combine, number?, realOfNumber, hx]
  rfl

theorem times_int_real {n : Int} {y : Binary64} {q : ℚ} (hn : |n| < 2 ^ 53)
    (hy : y.value? = some q) (h : |n * q| < 2 ^ 53) :
    ∃ z, (int n).times (real y) = .ok (real z) ∧ z.value? = some (Binary64.nearest (n * q)) := by
  obtain ⟨x, hx, hv⟩ := combine_int_real "*" (· * ·) mul hn y
  exact ⟨mul x y, hv, value?_mul hx hy h⟩

theorem plus_int_real {n : Int} {y : Binary64} {q : ℚ} (hn : |n| < 2 ^ 53)
    (hy : y.value? = some q) (h : |n + q| < 2 ^ 53) :
    ∃ z, (int n).plus (real y) = .ok (real z) ∧ z.value? = some (Binary64.nearest (n + q)) := by
  obtain ⟨x, hx, hv⟩ := combine_int_real "+" (· + ·) add hn y
  exact ⟨add x y, hv, value?_add hx hy h⟩

theorem nearest_real {x : Binary64} {q : ℚ} (hx : x.value? = some q) :
    (real x).nearest = .ok (halfEven q) := by
  simp only [nearest, number?, round?_eq hx]

end Value

namespace Parameters

/-- How far a search has come on a way of `n` flips. -/
def progress (n flips : Nat) : ℚ := nearest ((min flips n : Nat) / n)

/-- What is computed for a point of the line from `a` to `b`. -/
def between (a b : Int) (t : ℚ) : Int := halfEven (nearest (a + nearest (((b - a : Int) : ℚ) * t)))

theorem progress_mono (n : Nat) : Monotone (progress n) := by
  intro i j h
  apply nearest_mono
  gcongr

theorem progress_zero (n : Nat) : progress n 0 = 0 := by
  rw [progress, Nat.zero_min, Nat.cast_zero, zero_div, nearest_zero]

theorem progress_of_le {n i : Nat} (hn : 0 < n) (h : n ≤ i) : progress n i = 1 := by
  have hn' : (n : ℚ) ≠ 0 := by exact_mod_cast hn.ne'
  have hone := nearest_intCast (n := 1) (by decide)
  rw [Int.cast_one] at hone
  rw [progress, Nat.min_eq_right h, div_self hn', hone]

theorem progress_bounds {n : Nat} (hn : 0 < n) (i : Nat) : 0 ≤ progress n i ∧ progress n i ≤ 1 := by
  constructor
  · rw [← progress_zero n]
    exact progress_mono n (Nat.zero_le i)
  · rw [← progress_of_le hn (Nat.le_max_left n i)]
    exact progress_mono n (Nat.le_max_right n i)

variable {a b : Int}

theorem between_mono (h : a ≤ b) {t u : ℚ} (htu : t ≤ u) : between a b t ≤ between a b u := by
  have hspan : (0 : ℚ) ≤ (b - a : Int) := by exact_mod_cast (by omega : 0 ≤ b - a)
  unfold between
  apply halfEven_mono
  apply nearest_mono
  apply add_le_add_right
  apply nearest_mono
  exact mul_le_mul_of_nonneg_left htu hspan

theorem between_antitone (h : b ≤ a) {t u : ℚ} (htu : t ≤ u) : between a b u ≤ between a b t := by
  have hspan : ((b - a : Int) : ℚ) ≤ 0 := by exact_mod_cast (by omega : b - a ≤ 0)
  unfold between
  apply halfEven_mono
  apply nearest_mono
  apply add_le_add_right
  apply nearest_mono
  exact mul_le_mul_of_nonpos_left htu hspan

theorem between_zero (ha : |a| < 2 ^ 53) : between a b 0 = a := by
  unfold between
  rw [mul_zero, nearest_zero, add_zero, nearest_intCast ha, halfEven_intCast]

theorem between_one (hb : |b| < 2 ^ 53) (hab : |b - a| < 2 ^ 53) : between a b 1 = b := by
  have hsum : (a : ℚ) + (b - a : Int) = b := by
    push_cast
    ring
  unfold between
  rw [mul_one, nearest_intCast hab, hsum, nearest_intCast hb, halfEven_intCast]

/-- What is computed lies between the ends. -/
theorem between_bounds (ha : |a| < 2 ^ 53) (hb : |b| < 2 ^ 53) (hab : |b - a| < 2 ^ 53) {t : ℚ}
    (h0 : 0 ≤ t) (h1 : t ≤ 1) : min a b ≤ between a b t ∧ between a b t ≤ max a b := by
  have hzero := between_zero (b := b) ha
  have hone := between_one hb hab
  rcases Int.le_total a b with h | h
  · have hlow := between_mono h h0
    have hup := between_mono h h1
    rw [hzero] at hlow
    rw [hone] at hup
    omega
  · have hlow := between_antitone h h1
    have hup := between_antitone h h0
    rw [hone] at hlow
    rw [hzero] at hup
    omega

variable {p : Parameters}

theorem noiseAt_eq {a b : Percent} {n : Nat} (hs : p.noiseStart = .int a.val)
    (hl : p.noiseLevel = .int b.val) (hn : 0 < n) (ha : p.annealFlips = .int n) (flips : Nat) :
    p.noiseAt (.int flips) = .ok (.int (between a.val b.val (progress n flips))) := by
  have ha100 := a.val_le
  have hb100 := b.val_le
  obtain ⟨h0, h1⟩ := progress_bounds hn flips
  have hspan : |((b.val : Int) - a.val)| ≤ 100 := abs_le.mpr ⟨by omega, by omega⟩
  have hway : |(((b.val : Int) - a.val : Int) : ℚ) * progress n flips| ≤ (100 : Int) := by
    rw [abs_mul, abs_of_nonneg h0]
    calc |(((b.val : Int) - a.val : Int) : ℚ)| * progress n flips
        ≤ |(((b.val : Int) - a.val : Int) : ℚ)| := mul_le_of_le_one_right (abs_nonneg _) h1
      _ ≤ (100 : Int) := by exact_mod_cast hspan
  have hpoint : |((a.val : Int) : ℚ) + nearest ((((b.val : Int) - a.val : Int) : ℚ) *
      progress n flips)| < 2 ^ 53 := by
    have hstart : |((a.val : Int) : ℚ)| ≤ 100 := by
      rw [abs_of_nonneg (by positivity)]
      exact_mod_cast ha100
    have hstep := abs_nearest_le (n := 100) (by decide) hway
    calc _ ≤ _ := abs_add_le _ _
      _ ≤ 100 + ((100 : Int) : ℚ) := add_le_add hstart hstep
      _ < 2 ^ 53 := by norm_num
  obtain ⟨x, hx, hxv⟩ := Value.quotient_int hn (Nat.min_le_right flips n)
  obtain ⟨y, hy, hyv⟩ := Value.times_int_real (lt_of_le_of_lt hspan (by norm_num)) hxv
    (lt_of_le_of_lt hway (by norm_num))
  obtain ⟨z, hz, hzv⟩ := Value.plus_int_real (n := a.val)
    (by rw [abs_of_nonneg] <;> omega) hyv hpoint
  have hn0 : ((n : Int) != 0) = true := by simpa using Nat.ne_of_gt hn
  have hminus : (Value.int b.val).minus (.int a.val) = .ok (.int (b.val - a.val)) := rfl
  simp only [Parameters.noiseAt, hs, hl, ha, Value.isNull, Value.truth, hn0, Value.least_int, hx,
    bind, Except.bind, pure, Except.pure, hminus, hy, hz, Value.nearest_real hzv]
  rfl

/-- The noise is a probability. -/
theorem exists_noiseAt_eq {a b : Percent} {n : Nat} (hs : p.noiseStart = .int a.val)
    (hl : p.noiseLevel = .int b.val) (hn : 0 < n) (ha : p.annealFlips = .int n) (flips : Nat) :
    ∃ k : Percent, p.noiseAt (.int flips) = .ok (.int k.val) ∧
      (k.val : Int) = between a.val b.val (progress n flips) := by
  have ha100 := a.val_le
  have hb100 := b.val_le
  obtain ⟨h0, h1⟩ := progress_bounds hn flips
  obtain ⟨hlow, hup⟩ := between_bounds (a := a.val) (b := b.val) (abs_lt.mpr ⟨by omega, by omega⟩)
    (abs_lt.mpr ⟨by omega, by omega⟩) (abs_lt.mpr ⟨by omega, by omega⟩) h0 h1
  have heq := noiseAt_eq hs hl hn ha flips
  obtain ⟨k, hk⟩ := Int.eq_ofNat_of_zero_le (by omega : 0 ≤ between a.val b.val (progress n flips))
  rw [hk] at heq
  exact ⟨⟨k, by omega⟩, heq, hk.symm⟩

/-- Valid parameters give a probability at every flip. -/
theorem Valid.noiseAt (h : p.Valid) (flips : Nat) :
    ∃ k : Percent, p.noiseAt (.int flips) = .ok (.int k.val) := by
  obtain ⟨b, hb⟩ := h.noiseLevel
  obtain ⟨n, hn⟩ := h.annealFlips
  rcases h.noiseStart with hnull | ⟨a, ha⟩
  · exact ⟨b, by simp [Parameters.noiseAt, hnull, hb, Value.isNull]⟩
  · rcases Nat.eq_zero_or_pos n with rfl | hpos
    · exact ⟨b, by simp [Parameters.noiseAt, hn, hb, Value.truth]⟩
    · obtain ⟨k, hk, -⟩ := exists_noiseAt_eq ha hb hpos hn flips
      exact ⟨k, hk⟩

/-- Without annealing the noise is the same at every flip. -/
theorem Valid.noiseAt_of_not_anneals (h : p.Valid) (ha : p.anneals = false) (v : Value) :
    p.noiseAt v = .ok p.noiseLevel := by
  obtain ⟨n, hn⟩ := h.annealFlips
  rcases h.noiseStart with hs | ⟨k, hs⟩
  · simp [Parameters.noiseAt, hs, Value.isNull]
  · have hzero : n = 0 := by
      simp only [anneals, hs, hn] at ha
      simpa using ha
    subst hzero
    simp [Parameters.noiseAt, hn, Value.truth]

end Parameters

end FlipSat
