import Mathlib.Algebra.Order.Field.Rat
import Mathlib.Data.Int.Log
import Mathlib.Data.Rat.Cast.Order
import Mathlib.Data.Rat.Floor
import Mathlib.Tactic.FieldSimp
import Mathlib.Tactic.Linarith
import Mathlib.Tactic.Ring
import FlipSat.Binary64.Rounding

/-
  FlipSat: the number nearest to a rational one.
  What it is to be the nearest integer, with ties to even, is said by `IsNearest`; it leaves no
  choice and keeps the order (`IsNearest.mono`), and `roundDivInt` computes it
  (`roundDivInt_isNearest`). A number of the format is an integer times a power of two that depends
  on its size: `nearest` rounds there. It keeps the order too (`nearest_mono`), also where the power
  changes, and it leaves the integers below `2^53` alone (`nearest_intCast`).
-/
namespace FlipSat

/-! ## To an integer -/

/-- No integer is nearer to `q`, and of two that are equally near it is the even one. -/
structure IsNearest (q : ℚ) (k : ℤ) : Prop where
  dist_le : |q - k| ≤ 1 / 2
  even_of_tie : |q - k| = 1 / 2 → Even k

namespace IsNearest

variable {q r : ℚ} {k l : ℤ}

theorem mono (h : IsNearest q k) (h' : IsNearest r l) (hle : q ≤ r) : k ≤ l := by
  by_contra hlt
  -- Then `q` and `r` are the tie between `l` and `l + 1`, and both of them are even.
  have hk := abs_le.mp h.dist_le
  have hl := abs_le.mp h'.dist_le
  have hlk : (l : ℚ) + 1 ≤ k := by
    exact_mod_cast (by omega : l + 1 ≤ k)
  have hq : q - k = -(1 / 2) := by linarith
  have hr : r - l = 1 / 2 := by linarith
  have hsucc : k = l + 1 := by
    exact_mod_cast (by linarith : (k : ℚ) = l + 1)
  have hkeven : Even k := h.even_of_tie (by rw [hq, abs_neg]; norm_num)
  have hleven : Even l := h'.even_of_tie (by rw [hr]; norm_num)
  rw [hsucc] at hkeven
  exact Int.even_add_one.mp hkeven hleven

theorem unique (h : IsNearest q k) (h' : IsNearest q l) : k = l :=
  le_antisymm (h.mono h' le_rfl) (h'.mono h le_rfl)

theorem intCast (n : ℤ) : IsNearest n n := by
  refine ⟨by norm_num, fun h => ?_⟩
  rw [sub_self, abs_zero] at h
  norm_num at h

theorem neg (h : IsNearest q k) : IsNearest (-q) (-k) := by
  have hdist : |-q - ((-k : ℤ) : ℚ)| = |q - k| := by
    rw [← abs_neg]
    push_cast
    congr 1
    ring
  refine ⟨hdist ▸ h.dist_le, fun ht => ?_⟩
  exact (h.even_of_tie (hdist ▸ ht)).neg

end IsNearest

/-- Said of the remainder that a quotient leaves. -/
theorem isNearest_div {num k : ℤ} {den : ℕ} (hd : 0 < den) (hle : |2 * (num - k * den)| ≤ den)
    (htie : |2 * (num - k * den)| = den → Even k) : IsNearest (num / den) k := by
  have hd' : (0 : ℚ) < den := by exact_mod_cast hd
  have hdist : 2 * den * |(num : ℚ) / den - k| = (|2 * (num - k * den)| : ℤ) := by
    rw [Int.cast_abs, ← abs_of_pos (by positivity : (0 : ℚ) < 2 * den), ← abs_mul]
    push_cast
    congr 1
    field_simp
  constructor
  · have h : 2 * den * |(num : ℚ) / den - k| ≤ den := by
      rw [hdist]
      exact_mod_cast hle
    nlinarith
  · intro h
    apply htie
    rw [h] at hdist
    have h' : ((|2 * (num - k * den)| : ℤ) : ℚ) = (den : ℤ) := by
      rw [← hdist]
      push_cast
      ring
    exact_mod_cast h'

theorem roundDiv_isNearest (num : ℕ) {den : ℕ} (hd : 0 < den) :
    IsNearest ((num : ℤ) / den) (roundDiv num den) := by
  have hdiv : (num : ℤ) = den * (num / den : ℕ) + (num % den : ℕ) := by
    exact_mod_cast (Nat.div_add_mod num den).symm
  have hmod : num % den < den := Nat.mod_lt num hd
  -- What is left over is the remainder, or what is missing from it to the divisor.
  have hdown : (num : ℤ) - (num / den : ℕ) * den = (num % den : ℕ) := by linarith
  have hup : (num : ℤ) - (num / den + 1 : ℕ) * den = (num % den : ℕ) - den := by
    rw [Nat.cast_succ]
    linarith
  have htie : |2 * ((num % den : ℕ) - den : ℤ)| = 2 * (den - (num % den : ℕ)) := by
    rw [abs_of_nonpos (by omega)]
    ring
  have htie' : |2 * ((num % den : ℕ) : ℤ)| = 2 * (num % den : ℕ) := abs_of_nonneg (by omega)
  unfold roundDiv
  dsimp only
  split_ifs with h1 h2 h3
  · apply isNearest_div hd <;> rw [hdown, htie'] <;> omega
  · apply isNearest_div hd <;> rw [hup, htie] <;> omega
  · apply isNearest_div hd <;> rw [hdown, htie']
    · omega
    · intro _
      exact_mod_cast Nat.even_iff.mpr h3
  · apply isNearest_div hd <;> rw [hup, htie]
    · omega
    · intro _
      exact_mod_cast Nat.even_iff.mpr (by omega)

theorem roundDivInt_isNearest (num : ℤ) {den : ℕ} (hd : 0 < den) :
    IsNearest (num / den) (roundDivInt num den) := by
  cases num with
  | ofNat n => exact roundDiv_isNearest n hd
  | negSucc n =>
    have h := (roundDiv_isNearest (n + 1) hd).neg
    rw [← neg_div] at h
    exact_mod_cast h

/-- The integer nearest to a rational number; a tie goes to the even one. -/
def halfEven (q : ℚ) : ℤ := roundDivInt q.num q.den

theorem halfEven_isNearest (q : ℚ) : IsNearest q (halfEven q) := by
  have h := roundDivInt_isNearest q.num q.den_pos
  rwa [Rat.num_div_den] at h

theorem halfEven_eq {q : ℚ} {k : ℤ} (h : IsNearest q k) : halfEven q = k :=
  (halfEven_isNearest q).unique h

theorem roundDivInt_eq (num : ℤ) {den : ℕ} (hd : 0 < den) :
    roundDivInt num den = halfEven (num / den) :=
  (halfEven_eq (roundDivInt_isNearest num hd)).symm

theorem halfEven_mono {q r : ℚ} (h : q ≤ r) : halfEven q ≤ halfEven r :=
  (halfEven_isNearest q).mono (halfEven_isNearest r) h

theorem halfEven_intCast (n : ℤ) : halfEven n = n := halfEven_eq (.intCast n)

theorem halfEven_neg (q : ℚ) : halfEven (-q) = -halfEven q := halfEven_eq (halfEven_isNearest q).neg

namespace Binary64

/-! ## To the format -/

/-- The exponent of the last bit of the number nearest to `q`. -/
def lastBit (q : ℚ) : ℤ := max (Int.log 2 |q| - 52) (-1074)

/-- The number of the format nearest to `q`, if the format had no greatest one: the last bit is
    rounded to even. -/
def nearest (q : ℚ) : ℚ := halfEven (q / 2 ^ lastBit q) * 2 ^ lastBit q

theorem two_zpow_pos (e : ℤ) : (0 : ℚ) < 2 ^ e := zpow_pos (by norm_num) e

theorem lt_two_zpow_iff {q : ℚ} {e : ℤ} (h : 0 < q) : q < 2 ^ e ↔ Int.log 2 q < e := by
  exact_mod_cast Int.lt_zpow_iff_log_lt (b := 2) (x := e) (by decide) h

theorem two_zpow_le_iff {q : ℚ} {e : ℤ} (h : 0 < q) : 2 ^ e ≤ q ↔ e ≤ Int.log 2 q := by
  exact_mod_cast Int.zpow_le_iff_le_log (b := 2) (x := e) (by decide) h

theorem lastBit_neg (q : ℚ) : lastBit (-q) = lastBit q := by
  rw [lastBit, abs_neg, lastBit]

theorem nearest_neg (q : ℚ) : nearest (-q) = -nearest q := by
  unfold nearest
  rw [lastBit_neg, neg_div, halfEven_neg]
  push_cast
  ring

/-- Rounding does not cross a multiple of the last bit. -/
theorem nearest_le {q : ℚ} {j : ℤ} (h : q ≤ j * 2 ^ lastBit q) :
    nearest q ≤ j * 2 ^ lastBit q := by
  have hpos := two_zpow_pos (lastBit q)
  have hle : halfEven (q / 2 ^ lastBit q) ≤ j := by
    rw [← halfEven_intCast j]
    exact halfEven_mono ((div_le_iff₀ hpos).mpr h)
  exact mul_le_mul_of_nonneg_right (by exact_mod_cast hle) hpos.le

theorem le_nearest {q : ℚ} {j : ℤ} (h : j * 2 ^ lastBit q ≤ q) :
    j * 2 ^ lastBit q ≤ nearest q := by
  have hneg := nearest_le (q := -q) (j := -j) (by rw [lastBit_neg]; push_cast; linarith)
  rw [nearest_neg, lastBit_neg] at hneg
  push_cast at hneg
  linarith

theorem nearest_nonneg {q : ℚ} (h : 0 ≤ q) : 0 ≤ nearest q := by
  simpa using le_nearest (q := q) (j := 0) (by simpa using h)

theorem two_zpow_eq_mul {e k : ℤ} (h : e ≤ k) :
    (2 : ℚ) ^ k = ((2 ^ (k - e).toNat : ℤ) : ℚ) * 2 ^ e := by
  push_cast
  rw [← zpow_natCast, Int.toNat_of_nonneg (by omega), ← zpow_add₀ (by norm_num)]
  congr 1
  omega

theorem nearest_le_of_pos {q r : ℚ} (h0 : 0 < q) (h : q ≤ r) : nearest q ≤ nearest r := by
  have hr0 : 0 < r := lt_of_lt_of_le h0 h
  have hlog : Int.log 2 q ≤ Int.log 2 r := Int.log_mono_right h0 h
  have hq : lastBit q = max (Int.log 2 q - 52) (-1074) := by rw [lastBit, abs_of_pos h0]
  have hr : lastBit r = max (Int.log 2 r - 52) (-1074) := by rw [lastBit, abs_of_pos hr0]
  rcases Int.lt_or_le (lastBit q) (lastBit r) with hlt | hge
  · -- Between the two lies a power of two, which is a multiple of both last bits.
    have h1 : q ≤ 2 ^ Int.log 2 r := ((lt_two_zpow_iff h0).mpr (by omega)).le
    have h2 : 2 ^ Int.log 2 r ≤ r := (two_zpow_le_iff hr0).mpr le_rfl
    have hqk := two_zpow_eq_mul (e := lastBit q) (k := Int.log 2 r) (by omega)
    have hrk := two_zpow_eq_mul (e := lastBit r) (k := Int.log 2 r) (by omega)
    calc nearest q ≤ 2 ^ Int.log 2 r := by
          rw [hqk] at h1 ⊢
          exact nearest_le h1
      _ ≤ nearest r := by
          rw [hrk] at h2 ⊢
          exact le_nearest h2
  · have heq : lastBit r = lastBit q := by omega
    have hpos := two_zpow_pos (lastBit q)
    unfold nearest
    rw [heq]
    apply mul_le_mul_of_nonneg_right _ hpos.le
    exact_mod_cast halfEven_mono (div_le_div_of_nonneg_right h hpos.le)

theorem nearest_zero : nearest 0 = 0 := by
  have h := halfEven_intCast 0
  rw [Int.cast_zero] at h
  rw [nearest, zero_div, h, Int.cast_zero, zero_mul]

/-- Rounding keeps the order. -/
theorem nearest_mono : Monotone nearest := by
  intro q r h
  rcases lt_trichotomy 0 q with hq | rfl | hq
  · exact nearest_le_of_pos hq h
  · rw [nearest_zero]
    exact nearest_nonneg h
  · have hq' : nearest q ≤ 0 := by
      have := nearest_nonneg (q := -q) (by linarith)
      rw [nearest_neg] at this
      linarith
    rcases le_or_gt 0 r with hr | hr
    · exact hq'.trans (nearest_nonneg hr)
    · have hneg := nearest_le_of_pos (q := -r) (r := -q) (by linarith) (by linarith)
      rw [nearest_neg, nearest_neg] at hneg
      linarith

/-- What is less than `2^53` has a last bit that is not above the point. -/
theorem lastBit_nonpos {q : ℚ} (h : |q| < 2 ^ 53) : lastBit q ≤ 0 := by
  unfold lastBit
  rcases eq_or_lt_of_le (abs_nonneg q) with h0 | h0
  · rw [← h0, Int.log_zero_right]
    decide
  · have hlog : Int.log 2 |q| < 53 := (lt_two_zpow_iff h0).mp (by exact_mod_cast h)
    omega

/-- An integer below `2^53` is a number of the format. -/
theorem nearest_intCast {n : ℤ} (h : |n| < 2 ^ 53) : nearest n = n := by
  have he : lastBit n ≤ 0 := lastBit_nonpos (by exact_mod_cast h)
  have hone := two_zpow_eq_mul he
  rw [zpow_zero] at hone
  have hn : (n : ℚ) = ((n * 2 ^ (0 - lastBit n).toNat : ℤ) : ℚ) * 2 ^ lastBit n := by
    rw [Int.cast_mul, mul_assoc, ← hone, mul_one]
  apply le_antisymm
  · exact (nearest_le hn.le).trans hn.ge
  · exact hn.le.trans (le_nearest hn.ge)

theorem abs_nearest_le {q : ℚ} {n : ℤ} (hn : |n| < 2 ^ 53) (h : |q| ≤ n) : |nearest q| ≤ n := by
  obtain ⟨hlow, hup⟩ := abs_le.mp h
  have hneg := nearest_mono hlow
  have hpos := nearest_mono hup
  rw [nearest_neg, nearest_intCast hn] at hneg
  rw [nearest_intCast hn] at hpos
  exact abs_le.mpr ⟨hneg, hpos⟩

end Binary64

end FlipSat
